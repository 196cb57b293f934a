import DocQuery.Proofs.Selects

/-!
# Reading page by page

A page is an offset and a limit behind the stages of a query that has neither, so it is cut out of the rows of
the whole query.  The offset may leave 64 bits and is clamped twice on its way, but only past the last row:

    page n of p rows each  =  the rows from (n - 1) * p on, p of them              (page_eq)
    pages 1 … k            =  the first k * p rows, in order                       (take_append_pageRows)
-/

namespace DocQuery

open Outcome

namespace Pipeline

/-- The rows of a page, counted from 1. -/
def pageRows (rows : List Document) (page perPage : Nat) : List Document :=
  (rows.drop ((page - 1) * perPage)).take perPage

/-- A page comes right behind the ones before it. -/
theorem take_append_pageRows (rows : List Document) (perPage k : Nat) :
    rows.take (k * perPage) ++ pageRows rows (k + 1) perPage = rows.take ((k + 1) * perPage) := by
  rw [Nat.succ_mul, List.take_add]
  rfl

theorem toNat_saturatingProduct (a b : UInt64) :
    (saturatingProduct a b).toNat = min (a.toNat * b.toNat) (2 ^ 64 - 1) := by
  have hsize : UInt64.size = 2 ^ 64 := rfl
  rw [saturatingProduct, UInt64.toNat_ofNat_of_lt' (by omega), hsize]

/-- The offset of a page as a store reads it, exact unless it is past all that a list can hold. -/
theorem clamped_pageOffset {page perPage : UInt64} (hp : page ≠ 0) :
    clamped (pageOffset page perPage) = min ((page.toNat - 1) * perPage.toNat) (2 ^ 63 - 1) := by
  have hone : (1 : UInt64) ≤ page := by
    rw [UInt64.le_iff_toNat_le]
    have : page.toNat ≠ 0 := fun h => hp (UInt64.toNat_inj.1 h)
    show 1 ≤ page.toNat
    omega
  rw [clamped, pageOffset, if_neg hp, toNat_saturatingProduct, UInt64.toNat_sub_of_le page 1 hone]
  show min (min ((page.toNat - 1) * perPage.toNat) _) _ = _
  omega

/-- A page is cut out exactly, whatever its number and its size. -/
theorem page_eq {rows : List Document} (h : rows.length < 2 ^ 63) {page perPage : UInt64} (hp : page ≠ 0)
    (hn : perPage ≠ 0) :
    Pipeline.page (some (pageOffset page perPage)) (some perPage) rows =
      pageRows rows page.toNat perPage.toNat := by
  have hdrop : ∀ k, rows.drop (min k (2 ^ 63 - 1)) = rows.drop k := by
    intro k
    rcases Nat.le_total k (2 ^ 63 - 1) with hk | hk
    · rw [Nat.min_eq_left hk]
    · rw [Nat.min_eq_right hk, List.drop_eq_nil_of_le (by omega), List.drop_eq_nil_of_le (by omega)]
  have htake : ∀ rest : List Document, rest.length < 2 ^ 63 → ∀ k, rest.take (min k (2 ^ 63 - 1)) = rest.take k := by
    intro rest hr k
    rcases Nat.le_total k (2 ^ 63 - 1) with hk | hk
    · rw [Nat.min_eq_left hk]
    · rw [Nat.min_eq_right hk, List.take_of_length_le (by omega), List.take_of_length_le (by omega)]
  rw [Pipeline.page.eq_def]
  show (if perPage = 0 then _ else (rows.drop (clamped (pageOffset page perPage))).take (clamped perPage)) = _
  rw [if_neg hn, clamped_pageOffset hp, hdrop, clamped, htake _ (by rw [List.length_drop]; omega)]
  rfl

end Pipeline

namespace Builder

open Pipeline (pageRows)

/-- The rows of one page. -/
def getPage (b : Builder) (page perPage : UInt64) : Action (List Document) :=
  ((Modifier.forPage page perPage).apply b).get

/-- The rows of the first pages, read one page after the other. -/
def getPages (b : Builder) (perPage : UInt64) : Nat → Action (List Document)
  | 0 => pure []
  | k + 1 => do
    let before ← b.getPages perPage k
    let rows ← b.getPage (UInt64.ofNat (k + 1)) perPage
    pure (before ++ rows)

section Pages

variable {b : Builder} {s : Session} (ho : b.query.offset = none) (hl : b.query.limit = none)
include ho hl

theorem getPage_ok {rows : List Document} (h : b.result s b.query = .ok rows) (hr : rows.length < 2 ^ 63)
    {page perPage : UInt64} (hp : page ≠ 0) (hn : perPage ≠ 0) :
    (b.getPage page perPage).Gives s (.ok (pageRows rows page.toNat perPage.toNat)) := by
  rw [← Pipeline.page_eq hr hp hn, ← (result_page_eq_ok_iff ho hl).2 ⟨rows, h, rfl⟩]
  exact get_gives ((Modifier.forPage page perPage).apply b) s

theorem getPage_error {e : Fault} (h : b.result s b.query = .error e) (page perPage : UInt64) :
    ∃ f, (b.getPage page perPage).Gives s (.error f) := by
  have hg := get_gives ((Modifier.forPage page perPage).apply b) s
  cases hr : ((Modifier.forPage page perPage).apply b).result s
      ((Modifier.forPage page perPage).apply b).query with
  | error f => exact ⟨f, hr ▸ hg⟩
  | ok rows =>
    obtain ⟨whole, hw, -⟩ := (result_page_eq_ok_iff (b := b) ho hl).1 hr
    rw [h] at hw
    cases hw

/-- Reading on from page to page, every page is cut out of the same rows. -/
theorem getPages_ok {rows : List Document} (h : b.result s b.query = .ok rows) (hr : rows.length < 2 ^ 63)
    {perPage : UInt64} (hn : perPage ≠ 0) {k : Nat} (hk : k < 2 ^ 64) :
    (b.getPages perPage k).Gives s (.ok (rows.take (k * perPage.toNat))) := by
  induction k with
  | zero =>
    rw [Nat.zero_mul, List.take_zero]
    exact ⟨s, .refl s, rfl⟩
  | succ k ih =>
    have hk' : (UInt64.ofNat (k + 1)).toNat = k + 1 := UInt64.toNat_ofNat_of_lt' hk
    have hp : UInt64.ofNat (k + 1) ≠ 0 := by
      intro h0
      rw [h0] at hk'
      cases hk'
    refine (ih (by omega)).bind fun t ht => ?_
    have hpage := getPage_ok ho hl (by rw [result_of_sameData ht, h]) hr hp hn (s := t)
    rw [hk'] at hpage
    rw [← Pipeline.take_append_pageRows]
    exact hpage.bind_pure _

end Pages

/-! ## Main result -/

/-- A builder without an offset and a limit, read page by page.  Where the whole read succeeds, every page is cut
exactly out of its rows, whatever the number and the size of the page, and the pages read one after the other are
all of the rows in their order; where the whole read fails, every page does. -/
theorem getPage_spec (b : Builder) (ho : b.query.offset = none) (hl : b.query.limit = none) (s t : Session) :
    (∀ rows, b.get.on s = (.ok rows, t) → rows.length < 2 ^ 63 →
      s.SameData t ∧ ∀ u, s.SameData u → ∀ perPage, perPage ≠ 0 →
        (∀ page, page ≠ 0 → (b.getPage page perPage).Gives u
          (.ok ((rows.drop ((page.toNat - 1) * perPage.toNat)).take perPage.toNat))) ∧
        (∀ k, k < 2 ^ 64 → rows.length ≤ k * perPage.toNat → (b.getPages perPage k).Gives u (.ok rows))) ∧
      (∀ e, b.get.on s = (.error e, t) →
        s.SameData t ∧ ∀ u, s.SameData u → ∀ page perPage, ∃ f, (b.getPage page perPage).Gives u (.error f)) := by
  refine ⟨fun rows h hr => ?_, fun e h => ?_⟩
  · obtain ⟨hb, ht⟩ := (get_gives b s).eq h
    refine ⟨ht, fun u hu perPage hn => ?_⟩
    have hw : b.result u b.query = .ok rows := by rw [result_of_sameData hu, ← hb]
    refine ⟨fun page hp => getPage_ok ho hl hw hr hp hn, fun k hk hlen => ?_⟩
    rw [← List.take_of_length_le hlen]
    exact getPages_ok ho hl hw hr hn hk
  · obtain ⟨hb, ht⟩ := (get_gives b s).eq h
    refine ⟨ht, fun u hu page perPage => ?_⟩
    exact getPage_error ho hl (by rw [result_of_sameData hu, ← hb]) page perPage

/-- Three rows in pages of two: the second page has one row, and two pages are all rows. -/
theorem getPage_spec_three :
    let docs : List Document :=
      [[("_id", .string "a")], [("_id", .string "b")], [("_id", .string "c")]]
    let s : Session := { Session.inMemory "app" with
      deployment := { backends := [.memory { collections := [("t", docs)] }] } }
    let b := Builder.on "t"
    (b.getPage 2 2).Gives s (.ok [[("_id", .string "c")]]) ∧ (b.getPages 2 2).Gives s (.ok docs) := by
  intro docs s b
  have hget : b.get.on s = (.ok docs, (b.get.on s).2) := rfl
  obtain ⟨-, hpages⟩ := (getPage_spec b rfl rfl s _).1 docs hget (by decide)
  obtain ⟨hpage, hall⟩ := hpages s (.refl s) 2 (by decide)
  exact ⟨hpage 2 (by decide), hall 2 (by decide) (by decide)⟩

end Builder

end DocQuery
