import DocQuery.Proofs.Pipelines
import DocQuery.Proofs.Ranking

/-!
# Sorted documents

A sort stage inserts one document after the other behind the last one that it does not come before.  That is sorting
where the order is one on the documents at hand (`Orders`): read the other way round, and transitive.

    insertSorted keeps sorted documents sorted                                        (insertSorted_pairwise)
    insertSorted puts a document in front of those that tie with it                   (filter_insertSorted)

The keys of a stage compare lexicographically, each in its own direction:

    compareBy keys a b = lt ↔ the first key that tells a and b apart has a first      (compareBy_eq_lt_iff)
    compareBy keys a b = eq ↔ no key tells them apart                                 (compareBy_eq_eq_iff)

So the documents of a sort stage are those that went in, in the order of the keys, and documents that tie stand as
they stood (`sort_stable`).
-/

namespace DocQuery

/-- A comparison that is read the other way round and transitive settles every third comparison. -/
theorem Coherent.of_trans {α : Type} {cmp : α → α → Ordering} {S : α → Prop}
    (swap : ∀ x y, cmp y x = (cmp x y).swap)
    (trans : ∀ {x y z}, S x → S y → S z → cmp x y ≠ .gt → cmp y z ≠ .gt → cmp x z ≠ .gt)
    {a b c : α} (ha : S a) (hb : S b) (hc : S c) : Coherent (cmp a b) (cmp b c) (cmp a c) := by
  let _ : Ord { x // S x } := ⟨fun x y => cmp x.1 y.1⟩
  have _ : Std.TransOrd { x // S x } :=
    { eq_swap := fun {x y} => swap y.1 x.1
      isLE_trans := fun {x y z} hxy hyz => by
        rw [← Ordering.ne_gt_iff_isLE] at *
        exact trans x.2 y.2 z.2 hxy hyz }
  exact of_ord (⟨a, ha⟩ : { x // S x }) ⟨b, hb⟩ ⟨c, hc⟩

namespace Pipeline

open Outcome

/-! ## Insertion -/

section

variable {α : Type} {order : α → α → Ordering} {S : α → Prop}

/-- On the elements of a set the comparison is an order: read the other way round, and transitive. -/
structure Orders (order : α → α → Ordering) (S : α → Prop) : Prop where
  swap : ∀ a b, order b a = (order a b).swap
  coherent : ∀ {a b c}, S a → S b → S c → Coherent (order a b) (order b c) (order a c)

theorem Orders.not_lt_trans (h : Orders order S) {a b c : α} (ha : S a) (hb : S b) (hc : S c)
    (hab : order a b ≠ .lt) (hbc : order b c ≠ .lt) : order a c ≠ .lt := by
  rw [h.swap c a, Ne, Ordering.swap_eq_lt]
  refine (h.coherent hc hb ha).isLE ?_ ?_
  · rwa [h.swap b c, Ne, Ordering.swap_eq_gt]
  · rwa [h.swap a b, Ne, Ordering.swap_eq_gt]

theorem mem_insertSorted {a b : α} {as : List α} : b ∈ insertSorted order a as ↔ b = a ∨ b ∈ as := by
  rw [(insertSorted_perm order a as).mem_iff, List.mem_cons]

/-- The last come first, and so they stay. -/
theorem insertSorted_pairwise (h : Orders order S) {a : α} (ha : S a) {as : List α} (has : ∀ b ∈ as, S b)
    (hs : as.Pairwise fun x y => order x y ≠ .lt) :
    (insertSorted order a as).Pairwise fun x y => order x y ≠ .lt := by
  induction as with
  | nil => exact List.pairwise_singleton _ a
  | cons b rest ih =>
    obtain ⟨hb, hrest⟩ := List.forall_mem_cons.1 has
    obtain ⟨hbefore, hsorted⟩ := List.pairwise_cons.1 hs
    rw [insertSorted]
    split
    · rename_i hab
      refine List.pairwise_cons.2 ⟨fun c hc => ?_, ih hrest hsorted⟩
      rcases mem_insertSorted.1 hc with rfl | hc
      · rw [h.swap, hab]
        decide
      · exact hbefore c hc
    · rename_i hab
      refine List.pairwise_cons.2 ⟨fun c hc => ?_, hs⟩
      rcases List.mem_cons.1 hc with rfl | hc
      · exact hab
      · exact h.not_lt_trans ha hb (hrest c hc) hab (hbefore c hc)

/-- Of the elements that tie with one, a new one comes first. -/
theorem filter_insertSorted (h : Orders order S) {d a : α} (hd : S d) (ha : S a) {as : List α}
    (has : ∀ b ∈ as, S b) :
    (insertSorted order a as).filter (order d · = .eq) = (a :: as).filter (order d · = .eq) := by
  induction as with
  | nil => rfl
  | cons b rest ih =>
    obtain ⟨hb, hrest⟩ := List.forall_mem_cons.1 has
    rw [insertSorted]
    split
    · rename_i hab
      have hone : ¬ (order d a = .eq ∧ order d b = .eq) := by
        rintro ⟨hda, hdb⟩
        have had : order a d = .eq := by rw [h.swap, hda]; rfl
        rw [(h.coherent ha hd hb).left had, hdb] at hab
        cases hab
      rw [List.filter_cons, ih hrest]
      by_cases hdb : order d b = .eq
      · have hda : order d a ≠ .eq := fun hda => hone ⟨hda, hdb⟩
        simp [hda, hdb]
      · simp [List.filter_cons, hdb]
    · rfl

/-- Sorted elements stay sorted while others come in. -/
theorem foldl_insertSorted_pairwise (h : Orders order S) {as sorted : List α} (has : ∀ a ∈ as, S a)
    (hsorted : ∀ a ∈ sorted, S a) (hs : sorted.Pairwise fun x y => order x y ≠ .lt) :
    (as.foldl (fun sorted a => insertSorted order a sorted) sorted).Pairwise fun x y => order x y ≠ .lt := by
  induction as generalizing sorted with
  | nil => exact hs
  | cons a rest ih =>
    obtain ⟨ha, hrest⟩ := List.forall_mem_cons.1 has
    refine ih hrest (fun b hb => ?_) (insertSorted_pairwise h ha hsorted hs)
    rcases mem_insertSorted.1 hb with rfl | hb
    · exact ha
    · exact hsorted b hb

theorem filter_foldl_insertSorted (h : Orders order S) {d : α} (hd : S d) {as sorted : List α}
    (has : ∀ a ∈ as, S a) (hsorted : ∀ a ∈ sorted, S a) :
    (as.foldl (fun sorted a => insertSorted order a sorted) sorted).filter (order d · = .eq) =
      (as.reverse ++ sorted).filter (order d · = .eq) := by
  induction as generalizing sorted with
  | nil => rfl
  | cons a rest ih =>
    obtain ⟨ha, hrest⟩ := List.forall_mem_cons.1 has
    have hnext : ∀ b ∈ insertSorted order a sorted, S b := fun b hb => by
      rcases mem_insertSorted.1 hb with rfl | hb
      · exact ha
      · exact hsorted b hb
    rw [List.foldl_cons, ih hrest hnext, List.filter_append, filter_insertSorted h hd ha hsorted,
      ← List.filter_append, List.reverse_cons, List.append_assoc, List.singleton_append]

/-- No element of a sorted list is less than one before it. -/
theorem stableSort_pairwise (h : Orders order S) {as : List α} (has : ∀ a ∈ as, S a) :
    (stableSort order as).Pairwise fun x y => order y x ≠ .lt := by
  rw [stableSort, List.pairwise_reverse]
  exact foldl_insertSorted_pairwise h has (List.forall_mem_nil S) .nil

/-- Elements that tie stand as they stood. -/
theorem filter_stableSort (h : Orders order S) {as : List α} (has : ∀ a ∈ as, S a) {d : α} (hd : S d) :
    (stableSort order as).filter (order d · = .eq) = as.filter (order d · = .eq) := by
  rw [stableSort, List.filter_reverse, filter_foldl_insertSorted h hd has (List.forall_mem_nil S), List.append_nil,
    List.filter_reverse, List.reverse_reverse]

end

/-! ## Keys -/

namespace SortKey

/-- The value that a key looks at; a missing one counts as null. -/
def valueOf (k : SortKey) (d : Document) : Value := (Path.resolve d (Path.parse k.path)).getD .null

theorem compare_eq (k : SortKey) (a b : Document) :
    k.compare a b = if k.descending then Value.compare (k.valueOf b) (k.valueOf a)
      else Value.compare (k.valueOf a) (k.valueOf b) := by
  show (if k.descending then (Value.compare (k.valueOf a) (k.valueOf b)).swap else _) = _
  rw [Value.compare_swap (k.valueOf a) (k.valueOf b)]
  rfl

/-- The key has the first document first: its value there is less, or greater when the key is descending. -/
def Before (k : SortKey) (a b : Document) : Prop :=
  if k.descending then Value.compare (k.valueOf b) (k.valueOf a) = .lt
  else Value.compare (k.valueOf a) (k.valueOf b) = .lt

end SortKey

/-- Two documents tie: no key tells their values apart. -/
def Ties (keys : List SortKey) (a b : Document) : Prop :=
  ∀ k ∈ keys, Value.compare (k.valueOf a) (k.valueOf b) = .eq

instance (keys : List SortKey) (a b : Document) : Decidable (Ties keys a b) :=
  inferInstanceAs (Decidable (∀ k ∈ keys, _))

/-- A document comes before another one: some key has it first, and the keys in front of that one tie. -/
def Precedes (keys : List SortKey) (a b : Document) : Prop :=
  ∃ front k rest, keys = front ++ k :: rest ∧ Ties front a b ∧ k.Before a b

/-- The order of values is transitive on what each key looks at in the documents. -/
def Comparable (keys : List SortKey) (docs : List Document) : Prop :=
  ∀ k ∈ keys, ∀ a ∈ docs, ∀ b ∈ docs, ∀ c ∈ docs,
    Value.compare (k.valueOf a) (k.valueOf b) ≠ .gt → Value.compare (k.valueOf b) (k.valueOf c) ≠ .gt →
      Value.compare (k.valueOf a) (k.valueOf c) ≠ .gt

theorem SortKey.compare_eq_eq_iff (k : SortKey) (a b : Document) :
    k.compare a b = .eq ↔ Value.compare (k.valueOf a) (k.valueOf b) = .eq := by
  rw [compare_eq]
  split
  · rw [Value.compare_swap (k.valueOf a), Ordering.swap_eq_eq]
  · exact Iff.rfl

theorem SortKey.compare_eq_lt_iff (k : SortKey) (a b : Document) : k.compare a b = .lt ↔ k.Before a b := by
  rw [compare_eq, Before]
  split <;> exact Iff.rfl

theorem ties_cons {k : SortKey} {rest : List SortKey} {a b : Document} :
    Ties (k :: rest) a b ↔ Value.compare (k.valueOf a) (k.valueOf b) = .eq ∧ Ties rest a b :=
  List.forall_mem_cons

theorem compareBy_eq_eq_iff {keys : List SortKey} {a b : Document} : compareBy keys a b = .eq ↔ Ties keys a b := by
  induction keys with
  | nil => exact ⟨fun _ => nofun, fun _ => rfl⟩
  | cons k rest ih => rw [compareBy, Ordering.then_eq_eq, k.compare_eq_eq_iff, ih, ties_cons]

theorem compareBy_eq_lt_iff {keys : List SortKey} {a b : Document} :
    compareBy keys a b = .lt ↔ Precedes keys a b := by
  induction keys with
  | nil => exact ⟨nofun, fun ⟨front, k, rest, h, _⟩ => absurd h (by simp)⟩
  | cons k rest ih =>
    rw [compareBy, Ordering.then_eq_lt, ih, k.compare_eq_eq_iff, k.compare_eq_lt_iff]
    constructor
    · rintro (h | ⟨h, front, j, later, rfl, ht, hj⟩)
      · exact ⟨[], k, rest, rfl, nofun, h⟩
      · exact ⟨k :: front, j, later, rfl, ties_cons.2 ⟨h, ht⟩, hj⟩
    · rintro ⟨front, j, later, he, ht, hj⟩
      cases front with
      | nil =>
        cases he
        exact .inl hj
      | cons first front =>
        cases he
        obtain ⟨h, ht⟩ := ties_cons.1 ht
        exact .inr ⟨h, front, j, later, rfl, ht, hj⟩

/-! ## The order of documents -/

theorem SortKey.compare_swap (k : SortKey) (a b : Document) : k.compare b a = (k.compare a b).swap := by
  rw [compare_eq, compare_eq]
  split <;> exact Value.compare_swap _ _

theorem compareBy_swap (keys : List SortKey) (a b : Document) : compareBy keys b a = (compareBy keys a b).swap := by
  induction keys with
  | nil => rfl
  | cons k rest ih => rw [compareBy, compareBy, ih, k.compare_swap a b, Ordering.swap_then]

/-- Where the order of values is transitive, what one key says of two pairs settles the third. -/
theorem Comparable.coherent {keys : List SortKey} {docs : List Document} (h : Comparable keys docs) {k : SortKey}
    (hk : k ∈ keys) {a b c : Document} (ha : a ∈ docs) (hb : b ∈ docs) (hc : c ∈ docs) :
    Coherent (k.compare a b) (k.compare b c) (k.compare a c) := by
  refine Coherent.of_trans (S := (· ∈ docs)) k.compare_swap (fun {x y z} hx hy hz => ?_) ha hb hc
  rw [k.compare_eq, k.compare_eq, k.compare_eq]
  split
  · exact fun hxy hyz => h k hk z hz y hy x hx hyz hxy
  · exact h k hk x hx y hy z hz

theorem Comparable.orders {keys : List SortKey} {docs : List Document} (h : Comparable keys docs) :
    Orders (compareBy keys) (· ∈ docs) where
  swap := compareBy_swap keys
  coherent := by
    intro a b c ha hb hc
    induction keys with
    | nil => exact .eq
    | cons k rest ih =>
      have hrest : Comparable rest docs := fun j hj => h j (List.mem_cons_of_mem k hj)
      exact (h.coherent List.mem_cons_self ha hb hc).then fun _ _ => ih hrest

/-- Ordered values are transitively ordered. -/
theorem comparable_of_ordered {keys : List SortKey} {docs : List Document}
    (h : ∀ k ∈ keys, ∀ d ∈ docs, (k.valueOf d).Ordered) : Comparable keys docs :=
  fun k hk a ha b hb c hc => (Value.compare_coherent (h k hk a ha) (h k hk b hb) (h k hk c hc)).isLE

/-! ## Sort stages -/

/-- The fields of a sort stage: each names a path and gives the direction as 1 or -1. -/
def Directed (spec : Document) : Prop := ∀ f ∈ spec, f.2.toInt64? = some 1 ∨ f.2.toInt64? = some (-1)

/-- The keys of the fields, in their order. -/
def keysOf (spec : Document) : List SortKey := spec.map fun f => ⟨f.1, f.2.toInt64? = some (-1)⟩

theorem traverse_of_directed {spec : Document} (h : Directed spec) :
    Outcome.traverse SortKey.of spec = .ok (keysOf spec) := by
  refine traverse_eq_map fun f hf => ?_
  obtain ⟨name, direction⟩ := f
  rcases h _ hf with hd | hd <;> simp [SortKey.of, hd]

/-- Where no key is the store's own order, all of them count. -/
theorem sortBy_of_paths {keys : List SortKey} (h : ∀ k ∈ keys, k.path ≠ natural) (docs : List Document) :
    sortBy keys docs = stableSort (compareBy keys) docs := by
  have hall : keys.filter (fun k => k.path != natural) = keys :=
    List.filter_eq_self.2 fun k hk => bne_iff_ne.2 (h k hk)
  rw [sortBy.eq_def]
  split
  · rw [if_neg (h _ List.mem_cons_self)]
  · rw [hall]

/-- A sort stage by paths sorts by its keys. -/
theorem runStage_sort {spec : Document} (hd : Directed spec) (hn : ∀ f ∈ spec, f.1 ≠ natural) (docs : List Document) :
    runStage "$sort" (.document spec) docs = .ok (stableSort (compareBy (keysOf spec)) docs) := by
  have hpaths : ∀ k ∈ keysOf spec, k.path ≠ natural := by
    intro k hk
    obtain ⟨f, hf, rfl⟩ := List.mem_map.1 hk
    exact hn f hf
  show (Outcome.traverse SortKey.of spec >>= fun keys => pure (sortBy keys docs)) = _
  rw [traverse_of_directed hd, ← sortBy_of_paths hpaths]
  rfl

/-- A sort stage by paths gives the documents in the order of its keys: none comes before one that stands in front of
it, and those that tie stand as they stood. -/
theorem sort_stable {spec : Document} (hd : Directed spec) (hn : ∀ f ∈ spec, f.1 ≠ natural) {docs : List Document}
    (hc : Comparable (keysOf spec) docs) :
    ∃ sorted, runStage "$sort" (.document spec) docs = .ok sorted ∧ sorted.Perm docs ∧
      sorted.Pairwise (fun a b => ¬ Precedes (keysOf spec) b a) ∧
      ∀ d ∈ docs, sorted.filter (Ties (keysOf spec) d) = docs.filter (Ties (keysOf spec) d) := by
  refine ⟨_, runStage_sort hd hn docs, stableSort_perm _ docs, ?_, fun d hdoc => ?_⟩
  · refine (stableSort_pairwise hc.orders fun _ h => h).imp fun h => ?_
    rwa [← compareBy_eq_lt_iff]
  · have hfilter := filter_stableSort hc.orders (fun _ h => h) hdoc
    simpa only [compareBy_eq_eq_iff] using hfilter

/-- Down by a path, then up by another: a missing value counts as null, and of the two that tie on both the one that
came first stays first. -/
theorem sort_stable_mixed :
    let docs : List Document := [[("_id", .int32 1), ("a", .document [("b", .string "x")])], [("_id", .int32 2)],
      [("_id", .int32 3), ("a", .document [("b", .string "x")]), ("n", .null)],
      [("_id", .int32 4), ("a", .document [("b", .string "x")]), ("n", .int32 (-1))],
      [("_id", .int32 5), ("a", .document [("b", .string "y")])]]
    let spec : Document := [("a.b", .int64 (-1)), ("n", .int32 1)]
    Directed spec ∧ (∀ f ∈ spec, f.1 ≠ natural) ∧ Comparable (keysOf spec) docs ∧
      ∃ sorted, runStage "$sort" (.document spec) docs = .ok sorted ∧ sorted.Perm docs ∧
        sorted.Pairwise (fun a b => ¬ Precedes (keysOf spec) b a) ∧
        ∀ d ∈ docs, sorted.filter (Ties (keysOf spec) d) = docs.filter (Ties (keysOf spec) d) := by
  intro docs spec
  have hd : Directed spec := by simp [Directed, spec, Value.toInt64?]
  have hn : ∀ f ∈ spec, f.1 ≠ natural := by decide
  have hc : Comparable (keysOf spec) docs := by
    have hfirst : docs.map (SortKey.valueOf ⟨"a.b", true⟩) =
        [.string "x", .null, .string "x", .string "x", .string "y"] := rfl
    have hsecond : docs.map (SortKey.valueOf ⟨"n", false⟩) = [.null, .null, .null, .int32 (-1), .null] := rfl
    have hvalues : ∀ k ∈ keysOf spec, (Value.array (docs.map k.valueOf)).Ordered := by
      show ∀ k ∈ [(⟨"a.b", true⟩ : SortKey), ⟨"n", false⟩], _
      rw [List.forall_mem_cons, List.forall_mem_singleton, hfirst, hsecond]
      have all : ∀ {v : Value}, v.Ordered → (Value.array [.null, .null, .null, v, .null]).Ordered :=
        fun h => ⟨trivial, trivial, trivial, h, trivial, trivial⟩
      exact ⟨⟨trivial, trivial, trivial, trivial, trivial, trivial⟩, all trivial⟩
    exact comparable_of_ordered fun k hk d hd =>
      (Value.ordered_array _).1 (hvalues k hk) _ (List.mem_map_of_mem hd)
  exact ⟨hd, hn, hc, sort_stable hd hn hc⟩

end Pipeline

end DocQuery
