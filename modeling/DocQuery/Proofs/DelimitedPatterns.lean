import DocQuery.Statement.Filter
import Mathlib.Data.Char
import Mathlib.Data.Finset.Sort

/-!
# Patterns between delimiters

A text gives a pattern and its flags between two delimiters, of which the second is the last one in the text:

    cutLast? c s = some (front, back)  ↔  s = front ++ c :: back, c ∉ back           (cutLast?_eq_some_iff)
    cutLast? c s = none                ↔  c ∉ s                                      (cutLast?_eq_none_iff)
    letterSet letters = the set of the letters, sorted                               (letterSet_eq_sort)

So reading undoes writing, whatever the delimiter is and also where the pattern holds it, and every text that is read
has been written so (`parseDelimited?_spec`).
-/

namespace DocQuery.FilterDocument

/-! ## Delimited texts -/

/-- A pattern and its flags as a delimited text. -/
def delimited (delimiter : Char) (pattern flags : String) : String :=
  String.singleton delimiter ++ pattern ++ String.singleton delimiter ++ flags

/-- The set of the letters of a text, in their order. -/
def sortedLetters (text : String) : String := String.ofList text.toList.toFinset.sort

theorem toList_delimited (delimiter : Char) (pattern flags : String) :
    (delimited delimiter pattern flags).toList = delimiter :: (pattern.toList ++ delimiter :: flags.toList) := by
  simp [delimited]

/-! ## The last delimiter -/

variable {c : Char} {s front back : List Char}

theorem cutLast?_cons (c d : Char) (rest : List Char) :
    cutLast? c (d :: rest) = match cutLast? c rest with
      | some (front, back) => some (d :: front, back)
      | none => if d = c then some ([], rest) else none := rfl

theorem cutLast?_eq_none_iff : cutLast? c s = none ↔ c ∉ s := by
  induction s with
  | nil => simp [cutLast?]
  | cons d rest ih =>
    rw [cutLast?_cons, List.mem_cons, not_or]
    cases h : cutLast? c rest with
    | some cut =>
      have hmem : ¬ c ∉ rest := fun hn => by rw [ih.2 hn] at h; cases h
      simp [hmem]
    | none => simp [ih.1 h, eq_comm]

theorem cutLast?_of_not_mem (h : c ∉ back) (front : List Char) :
    cutLast? c (front ++ c :: back) = some (front, back) := by
  induction front with
  | nil =>
    rw [List.nil_append, cutLast?_cons, cutLast?_eq_none_iff.2 h]
    exact if_pos rfl
  | cons d front ih => rw [List.cons_append, cutLast?_cons, ih]

theorem eq_append_of_cutLast? (h : cutLast? c s = some (front, back)) : s = front ++ c :: back ∧ c ∉ back := by
  induction s generalizing front with
  | nil => cases h
  | cons d rest ih =>
    rw [cutLast?_cons] at h
    cases hrest : cutLast? c rest with
    | some cut =>
      rw [hrest] at h
      cases h
      obtain ⟨hsplit, hback⟩ := ih hrest
      exact ⟨congrArg (d :: ·) hsplit, hback⟩
    | none =>
      rw [hrest] at h
      -- no later delimiter, so this letter is the last one or there is none
      by_cases hd : d = c
      · simp only [if_pos hd, Option.some.injEq, Prod.mk.injEq] at h
        obtain ⟨rfl, rfl⟩ := h
        exact ⟨by rw [hd, List.nil_append], cutLast?_eq_none_iff.1 hrest⟩
      · simp only [if_neg hd] at h
        cases h

theorem cutLast?_eq_some_iff : cutLast? c s = some (front, back) ↔ s = front ++ c :: back ∧ c ∉ back := by
  refine ⟨eq_append_of_cutLast?, ?_⟩
  rintro ⟨rfl, h⟩
  exact cutLast?_of_not_mem h front

/-! ## Sets of letters -/

/-- Of sorted letters, the done ones below the letter at hand, each is kept once. -/
theorem eraseReps_loop {a : Char} {rest done : List Char} (hdone : (a :: done).Pairwise (· > ·))
    (hrest : (a :: rest).Pairwise (· ≤ ·)) :
    (List.eraseRepsBy.loop (· == ·) a rest done).Pairwise (· < ·) ∧
      ∀ x, x ∈ List.eraseRepsBy.loop (· == ·) a rest done ↔ x ∈ done ∨ x ∈ a :: rest := by
  induction rest generalizing a done with
  | nil =>
    refine ⟨List.pairwise_reverse.2 hdone, fun x => ?_⟩
    rw [List.eraseRepsBy.loop, List.mem_reverse, List.mem_cons, List.mem_singleton, or_comm]
  | cons b rest ih =>
    obtain ⟨hle, htail⟩ := List.pairwise_cons.1 hrest
    by_cases hab : a = b
    · subst hab
      have hloop : List.eraseRepsBy.loop (· == ·) a (a :: rest) done =
          List.eraseRepsBy.loop (· == ·) a rest done := by rw [List.eraseRepsBy.loop, beq_self_eq_true]
      obtain ⟨hsorted, hmem⟩ := ih hdone htail
      rw [hloop]
      exact ⟨hsorted, fun x => by rw [hmem]; simp⟩
    · have hloop : List.eraseRepsBy.loop (· == ·) a (b :: rest) done =
          List.eraseRepsBy.loop (· == ·) b rest (a :: done) := by
        rw [List.eraseRepsBy.loop, beq_eq_false_iff_ne.2 hab]
      have hlt : a < b := lt_of_le_of_ne (hle b List.mem_cons_self) hab
      have hnext : (b :: a :: done).Pairwise (· > ·) := by
        refine List.pairwise_cons.2 ⟨List.forall_mem_cons.2 ⟨hlt, fun x hx => ?_⟩, hdone⟩
        exact lt_trans ((List.pairwise_cons.1 hdone).1 x hx) hlt
      obtain ⟨hsorted, hmem⟩ := ih hnext htail
      rw [hloop]
      refine ⟨hsorted, fun x => ?_⟩
      rw [hmem, List.mem_cons, List.mem_cons (a := x) (b := a), or_assoc, or_left_comm]

theorem letterSet_spec (letters : List Char) :
    (letterSet letters).Pairwise (· < ·) ∧ ∀ x, x ∈ letterSet letters ↔ x ∈ letters := by
  have hperm := List.mergeSort_perm letters fun a b => a.toNat ≤ b.toNat
  have hsorted : (letters.mergeSort fun a b => a.toNat ≤ b.toNat).Pairwise (· ≤ ·) := by
    refine List.Pairwise.imp (fun h => ?_) (List.pairwise_mergeSort ?_ ?_ letters)
    · exact Char.le_def.2 (UInt32.le_iff_toNat_le.2 (of_decide_eq_true h))
    · simpa using fun a b c => le_trans
    · simpa using fun a b => le_total _ _
  rw [letterSet, List.eraseReps]
  simp only [← hperm.mem_iff]
  generalize (letters.mergeSort fun a b => a.toNat ≤ b.toNat) = sorted at hsorted
  cases sorted with
  | nil => exact ⟨.nil, fun x => Iff.rfl⟩
  | cons a rest =>
    obtain ⟨hstrict, hmem⟩ := eraseReps_loop (List.pairwise_singleton _ a) hsorted
    exact ⟨hstrict, fun x => (hmem x).trans (by simp)⟩

/-- The letters are kept as a set, in their order. -/
theorem letterSet_eq_sort (letters : List Char) : letterSet letters = letters.toFinset.sort := by
  obtain ⟨hstrict, hmem⟩ := letterSet_spec letters
  have hset : letters.toFinset = (letterSet letters).toFinset := by
    ext x
    rw [List.mem_toFinset, List.mem_toFinset, hmem]
  rw [hset]
  exact ((List.toFinset_sort _ (hstrict.imp ne_of_lt)).2 (hstrict.imp le_of_lt)).symm

/-! ## Main result -/

theorem parseDelimited?_eq (raw : String) {first : Char} {rest : List Char} (h : raw.toList = first :: rest) :
    parseDelimited? raw = (cutLast? first rest).map fun cut =>
      ⟨String.ofList cut.1, String.ofList cut.2.toFinset.sort⟩ := by
  rw [parseDelimited?, h]
  simp only [letterSet_eq_sort]

theorem parseDelimited?_delimited {delimiter : Char} {flags : String} (h : delimiter ∉ flags.toList) (pattern : String) :
    parseDelimited? (delimited delimiter pattern flags) = some ⟨pattern, sortedLetters flags⟩ := by
  rw [parseDelimited?_eq _ (toList_delimited delimiter pattern flags), cutLast?_of_not_mem h, Option.map_some,
    String.ofList_toList, sortedLetters]

theorem parseDelimited?_eq_none_iff (raw : String) :
    parseDelimited? raw = none ↔ ∀ first rest, raw.toList = first :: rest → first ∉ rest := by
  cases hraw : raw.toList with
  | nil =>
    have hnone : parseDelimited? raw = none := by rw [parseDelimited?, hraw]
    exact iff_of_true hnone nofun
  | cons first rest =>
    rw [parseDelimited?_eq raw hraw, Option.map_eq_none_iff, cutLast?_eq_none_iff]
    constructor
    · rintro h _ _ ⟨⟩
      exact h
    · exact fun h => h first rest rfl

theorem exists_delimited {raw : String} {p : Pattern} (h : parseDelimited? raw = some p) :
    ∃ delimiter flags, delimiter ∉ flags.toList ∧ raw = delimited delimiter p.source flags ∧
      p.options = sortedLetters flags := by
  cases hraw : raw.toList with
  | nil => rw [parseDelimited?, hraw] at h; cases h
  | cons first rest =>
    rw [parseDelimited?_eq raw hraw, Option.map_eq_some_iff] at h
    obtain ⟨⟨front, back⟩, hcut, rfl⟩ := h
    obtain ⟨rfl, hback⟩ := cutLast?_eq_some_iff.1 hcut
    refine ⟨first, String.ofList back, by rwa [String.toList_ofList], ?_, by rw [sortedLetters, String.toList_ofList]⟩
    rw [← String.toList_inj, toList_delimited, hraw, String.toList_ofList, String.toList_ofList]

/-- A pattern and flags without the delimiter are read back from their delimited text, the flags as a sorted set; the
pattern may be empty and may hold the delimiter.  A text is refused exactly where its first letter does not occur a
second time, as in the empty one, and every text that is read is the delimited one of the pattern read and of some flags
with that set. -/
theorem parseDelimited?_spec :
    (∀ (delimiter : Char) (pattern flags : String), delimiter ∉ flags.toList →
      parseDelimited? (delimited delimiter pattern flags) = some ⟨pattern, sortedLetters flags⟩) ∧
      ∀ raw : String,
        (parseDelimited? raw = none ↔ ∀ first rest, raw.toList = first :: rest → first ∉ rest) ∧
        ∀ p, parseDelimited? raw = some p → ∃ delimiter flags, delimiter ∉ flags.toList ∧
          raw = delimited delimiter p.source flags ∧ p.options = sortedLetters flags :=
  ⟨fun _ pattern _ h => parseDelimited?_delimited h pattern,
    fun raw => ⟨parseDelimited?_eq_none_iff raw, fun _ h => exists_delimited h⟩⟩

/-- A delimiter of three bytes, which the pattern holds too, before flags out of order and twice. -/
theorem parseDelimited?_spec_euro :
    '€' ∉ "mim".toList ∧ delimited '€' "a€ß" "mim" = "€a€ß€mim" ∧
      parseDelimited? "€a€ß€mim" = some ⟨"a€ß", "im"⟩ := by
  have hflags : '€' ∉ "mim".toList := by decide
  have htext : delimited '€' "a€ß" "mim" = "€a€ß€mim" := by decide
  have hletters : sortedLetters "mim" = "im" := by
    have hset : "mim".toList.toFinset = ['i', 'm'].toFinset := by decide
    rw [sortedLetters, hset, (List.toFinset_sort _ (by decide)).2 (by decide)]
  have hread := parseDelimited?_spec.1 '€' "a€ß" "mim" hflags
  rw [htext, hletters] at hread
  exact ⟨hflags, htext, hread⟩

end DocQuery.FilterDocument
