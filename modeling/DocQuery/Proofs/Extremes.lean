import DocQuery.Proofs.Expressions
import DocQuery.Proofs.Sorting

/-!
# The first of the sorted and the greatest

A sort looks at all documents before it gives the first; an accumulator walks once and keeps the better of two.  Both
find the same element, the one that comes before all in front of it and that none behind it comes before:

    stableSort order as = a :: rest → Foremost order as a                             (foremost_of_stableSort)
    as.foldl (better order) none = some a → Foremost order as a                       (foremost_of_foldl)
    Foremost order as a → Foremost order as b → a = b                                 (Foremost.unique)

An accumulator passes over null.  That takes nothing from the greatest value, where it is greater than null, and from
the least one it takes what a sort would put first; so the greatest value of a column is that of the first document of
a sort down, and the least one that of the first document of a sort up, of the documents with a value there
(`extremes_of_sort`).
-/

namespace DocQuery.Pipeline

open Outcome

/-! ## The foremost element -/

section

variable {α : Type} {order : α → α → Ordering} {S : α → Prop} {as : List α} {a b : α}

/-- An element that comes before all in front of it, and that none behind it comes before. -/
def Foremost (order : α → α → Ordering) (as : List α) (a : α) : Prop :=
  ∃ before after, as = before ++ a :: after ∧ (∀ b ∈ before, order a b = .lt) ∧ ∀ b ∈ after, order b a ≠ .lt

/-- The better of two elements: the first, unless the second comes before it. -/
def better (order : α → α → Ordering) (best : Option α) (a : α) : Option α :=
  match best with
  | some b => if order a b = .lt then some a else some b
  | none => some a

theorem Foremost.mem (h : Foremost order as a) : a ∈ as := by
  obtain ⟨before, after, rfl, -, -⟩ := h
  exact List.mem_append_right before List.mem_cons_self

theorem Orders.self (h : Orders order S) (a : α) : order a a = .eq := by
  have hswap := h.swap a a
  cases hself : order a a with
  | eq => rfl
  | lt =>
    rw [hself] at hswap
    cases hswap
  | gt =>
    rw [hself] at hswap
    cases hswap

theorem Orders.lt_iff (h : Orders order S) (a b : α) : order a b = .lt ↔ order b a = .gt := by
  rw [h.swap b a, Ordering.swap_eq_lt]

theorem Orders.lt_trans (h : Orders order S) {a b c : α} (ha : S a) (hb : S b) (hc : S c) (hab : order a b = .lt)
    (hcb : order c b ≠ .lt) : order a c = .lt := by
  have hcoherent := h.coherent ha hb hc
  cases hbc : order b c with
  | lt => exact (hcoherent.same (hab.trans hbc.symm)).trans hab
  | eq => exact (hcoherent.right hbc).trans hab
  | gt => exact absurd ((h.lt_iff c b).2 hbc) hcb

theorem Foremost.not_lt (h : Orders order S) (ha : Foremost order as a) : ∀ b ∈ as, order b a ≠ .lt := by
  obtain ⟨before, after, rfl, hbefore, hafter⟩ := ha
  intro b hb hlt
  rcases List.mem_append.1 hb with hb | hb
  · have hgt := (h.lt_iff b a).1 hlt
    rw [hbefore b hb] at hgt
    cases hgt
  · rcases List.mem_cons.1 hb with rfl | hb
    · rw [h.self] at hlt
      cases hlt
    · exact hafter b hb hlt

/-- There is no second one: of two, the one behind would have to come before the other. -/
theorem Foremost.unique (h : Orders order S) (ha : Foremost order as a) (hb : Foremost order as b) : a = b := by
  obtain ⟨before, after, hsplit, hbefore, -⟩ := id ha
  obtain ⟨before', after', hsplit', hbefore', -⟩ := id hb
  rw [hsplit] at hsplit'
  rcases List.append_eq_append_iff.1 hsplit' with ⟨between, hb', hrest⟩ | ⟨between, ha', hrest⟩
  · cases between with
    | nil => exact (List.cons.inj hrest).1
    | cons c between =>
      obtain ⟨rfl, -⟩ := List.cons.inj hrest
      have hlt : order b a = .lt := hbefore' a (by rw [hb']; simp)
      exact absurd hlt (ha.not_lt h b hb.mem)
  · cases between with
    | nil => exact (List.cons.inj hrest).1.symm
    | cons c between =>
      obtain ⟨rfl, -⟩ := List.cons.inj hrest
      have hlt : order a b = .lt := hbefore b (by rw [ha']; simp)
      exact absurd hlt (hb.not_lt h a ha.mem)

/-- Leaving others out keeps it the foremost. -/
theorem Foremost.filter (ha : Foremost order as a) {p : α → Bool} (hp : p a = true) :
    Foremost order (as.filter p) a := by
  obtain ⟨before, after, rfl, hbefore, hafter⟩ := ha
  refine ⟨before.filter p, after.filter p, ?_, ?_, ?_⟩
  · rw [List.filter_append, List.filter_cons_of_pos hp]
  · intro b hb
    exact hbefore b (List.mem_filter.1 hb).1
  · intro b hb
    exact hafter b (List.mem_filter.1 hb).1

/-! ## Finding it -/

/-- What a stable sort puts first is, of those that tie with it, the one that stood first. -/
theorem foremost_of_stableSort (h : Orders order S) (has : ∀ a ∈ as, S a) {rest : List α}
    (hs : stableSort order as = a :: rest) : Foremost order as a := by
  have hmem : ∀ b, b ∈ as ↔ b ∈ a :: rest := fun b => by rw [← hs, (stableSort_perm order as).mem_iff]
  have ha : S a := has a ((hmem a).2 List.mem_cons_self)
  have hleast : ∀ b ∈ as, order b a ≠ .lt := by
    intro b hb
    have hsorted := stableSort_pairwise h has
    rw [hs] at hsorted
    rcases List.mem_cons.1 ((hmem b).1 hb) with rfl | hb
    · rw [h.self]
      decide
    · exact List.rel_of_pairwise_cons hsorted hb
  have hties := filter_stableSort h has ha
  have hself : decide (order a a = .eq) = true := decide_eq_true (h.self a)
  rw [hs, List.filter_cons, if_pos hself] at hties
  obtain ⟨before, after, hsplit, hbefore, -, -⟩ := List.filter_eq_cons_iff.1 hties.symm
  refine ⟨before, after, hsplit, ?_, ?_⟩
  · intro b hb
    have htie : order a b ≠ .eq := fun he => hbefore b hb (decide_eq_true he)
    have hnot : order a b ≠ .gt := by
      rw [Ne, ← h.lt_iff]
      exact hleast b (by rw [hsplit]; exact List.mem_append_left _ hb)
    cases hab : order a b with
    | lt => rfl
    | eq => exact absurd hab htie
    | gt => exact absurd hab hnot
  · intro b hb
    exact hleast b (by rw [hsplit]; simp [hb])

theorem exists_foldl_better (h : as ≠ []) : ∃ a, as.foldl (better order) none = some a := by
  obtain ⟨a, as, rfl⟩ := List.exists_cons_of_ne_nil h
  have hsome : ∀ (rest : List α) (b : α), ∃ c, rest.foldl (better order) (some b) = some c := by
    intro rest
    induction rest with
    | nil => exact fun b => ⟨b, rfl⟩
    | cons c rest ih =>
      intro b
      rw [List.foldl_cons, better]
      split
      · exact ih c
      · exact ih b
  exact hsome as a

/-- The walk keeps the foremost of the elements that it has seen. -/
theorem foremost_of_foldl (h : Orders order S) (has : ∀ a ∈ as, S a) (hf : as.foldl (better order) none = some a) :
    Foremost order as a := by
  -- The walk meets the last element last, so the induction takes the elements from the end.
  induction as using List.reverseRecOn generalizing a with
  | nil => cases hf
  | append_singleton as x ih =>
    obtain ⟨has, hx⟩ := List.forall_mem_append.1 has
    replace hx : S x := hx x (List.mem_singleton_self x)
    rw [List.foldl_append, List.foldl_cons, List.foldl_nil] at hf
    cases hbest : as.foldl (better order) none with
    | none =>
      rw [hbest] at hf
      cases hf
      have hnil : as = [] := by
        by_contra hne
        obtain ⟨b, hb⟩ : ∃ b, as.foldl (better order) none = some b := exists_foldl_better hne
        rw [hbest] at hb
        cases hb
      subst hnil
      exact ⟨[], [], rfl, by simp, by simp⟩
    | some b =>
      obtain ⟨before, after, hsplit, hbefore, hafter⟩ := ih has hbest
      have hb : S b := has b (by rw [hsplit]; simp)
      rw [hbest, better] at hf
      split at hf
      · rename_i hxb
        cases hf
        refine ⟨as, [], rfl, ?_, by simp⟩
        intro c hc
        exact h.lt_trans hx hb (has c hc) hxb ((ih has hbest).not_lt h c hc)
      · rename_i hxb
        cases hf
        refine ⟨before, after ++ [x], ?_, hbefore, ?_⟩
        · rw [hsplit, List.append_assoc, List.cons_append]
        · intro c hc
          rcases List.mem_append.1 hc with hc | hc
          · exact hafter c hc
          · rw [List.mem_singleton.1 hc]
            exact hxb

end

/-! ## The values of a column -/

/-- The value of a column in a document; a missing one counts as null. -/
def valueAt (column : String) (d : Document) : Value := (Path.resolve d (Path.parse column)).getD .null

/-- A document with a value in a column: one that is there, and neither null nor undefined. -/
def given (column : String) (d : Document) : Bool := !(valueAt column d).isNothing

theorem valueAt_of_given {column : String} {d : Document} (h : given column d = true) :
    Path.resolve d (Path.parse column) = some (valueAt column d) := by
  rw [given, valueAt] at h
  rw [valueAt]
  cases hr : Path.resolve d (Path.parse column) with
  | some v => rfl
  | none =>
    rw [hr] at h
    cases h

/-- The key that puts the least, or the greatest, value of a column first. -/
def keyOf (column : String) (wanted : Ordering) : SortKey := ⟨column, wanted = .gt⟩

theorem compareBy_keyOf {wanted : Ordering} (hw : wanted = .gt ∨ wanted = .lt) (column : String) (a b : Document) :
    compareBy [keyOf column wanted] a b = .lt ↔ Value.compare (valueAt column a) (valueAt column b) = wanted := by
  have hkey : compareBy [keyOf column wanted] a b = (keyOf column wanted).compare a b := Ordering.then_eq
  rw [hkey, SortKey.compare_eq_lt_iff, SortKey.Before, keyOf]
  rcases hw with rfl | rfl
  · show Value.compare (valueAt column b) (valueAt column a) = .lt ↔ _
    rw [Value.compare_swap, Ordering.swap_eq_lt]
  · exact Iff.rfl

/-- An extreme value of a column is that of the document that the walk keeps. -/
theorem extreme_valueAt {wanted : Ordering} (hw : wanted = .gt ∨ wanted = .lt) (column : String)
    (docs : List Document) :
    Arithmetic.extreme wanted (docs.map (valueAt column)) =
      (((docs.filter (given column)).foldl (better (compareBy [keyOf column wanted])) none).map
        (valueAt column)).getD .null := by
  have hfilter : (docs.map (valueAt column)).filter (fun v => !v.isNothing) =
      (docs.filter (given column)).map (valueAt column) := List.filter_map
  rw [Arithmetic.extreme, hfilter, List.foldl_map]
  refine congrArg (Option.getD · Value.null) ?_
  show List.foldl _ (Option.map (valueAt column) none) _ = _
  refine List.foldl_hom (Option.map (valueAt column)) fun best d => ?_
  cases best with
  | none => rfl
  | some b =>
    simp only [Option.map_some, better, compareBy_keyOf hw, beq_iff_eq]
    split <;> rfl

theorem accumulate_column {column : String} (hc : Expression.isOperatorName column = false) {name : String}
    (hn : name ≠ "$count") (docs : List Document) :
    accumulate name (.string ("$" ++ column)) docs = combine name (docs.map (valueAt column)) := by
  have hvalues : Outcome.traverse (Expression.evaluate (.string ("$" ++ column))) docs =
      .ok (docs.map (valueAt column)) := traverse_eq_map fun d _ => Expression.evaluate_columnPath hc d
  rw [accumulate, if_neg hn, hvalues]
  rfl

/-- The documents without a value in a column do not count. -/
theorem extreme_given (wanted : Ordering) (column : String) (docs : List Document) :
    Arithmetic.extreme wanted ((docs.filter (given column)).map (valueAt column)) =
      Arithmetic.extreme wanted (docs.map (valueAt column)) := by
  have hfilter : ∀ docs : List Document, (docs.map (valueAt column)).filter (fun v => !v.isNothing) =
      (docs.filter (given column)).map (valueAt column) := fun _ => List.filter_map
  rw [Arithmetic.extreme, Arithmetic.extreme, hfilter, hfilter, List.filter_filter]
  simp only [Bool.and_self]

/-! ## The first document of a sort -/

/-- A sort by one column, down for the greatest value and up for the least. -/
theorem runStage_sort_column {column : String} (hc : Expression.isOperatorName column = false) {wanted : Ordering}
    (hw : wanted = .gt ∨ wanted = .lt) (docs : List Document) :
    runStage "$sort" (.document [(column, .int32 (if wanted = .gt then -1 else 1))]) docs =
      .ok (stableSort (compareBy [keyOf column wanted]) docs) := by
  have hnatural : column ≠ natural := by
    rintro rfl
    exact absurd hc (by decide)
  rcases hw with rfl | rfl
  · exact runStage_sort (List.forall_mem_singleton.2 (.inr rfl)) (List.forall_mem_singleton.2 hnatural) docs
  · exact runStage_sort (List.forall_mem_singleton.2 (.inl rfl)) (List.forall_mem_singleton.2 hnatural) docs

theorem exists_first {docs : List Document} {d : Document} (hd : d ∈ docs) (order : Document → Document → Ordering) :
    ∃ top rest, stableSort order docs = top :: rest := by
  refine List.exists_cons_of_ne_nil fun hnil => ?_
  rw [← (stableSort_perm order docs).mem_iff, hnil] at hd
  cases hd

theorem comparable_keyOf {column : String} {docs : List Document} (h : Comparable [⟨column, false⟩] docs)
    (wanted : Ordering) : Comparable [keyOf column wanted] docs := by
  intro k hk
  rw [List.mem_singleton.1 hk]
  exact h ⟨column, false⟩ List.mem_cons_self

/-- Where the document that a sort by a column puts first has a value there, it is the one that the walk keeps. -/
theorem extreme_of_stableSort {column : String} {wanted : Ordering} (hw : wanted = .gt ∨ wanted = .lt)
    {docs : List Document} (ht : Comparable [⟨column, false⟩] docs) {top : Document} {rest : List Document}
    (hs : stableSort (compareBy [keyOf column wanted]) docs = top :: rest) (hgiven : given column top = true) :
    Arithmetic.extreme wanted (docs.map (valueAt column)) = valueAt column top := by
  have horders := (comparable_keyOf ht wanted).orders
  have htop : Foremost (compareBy [keyOf column wanted]) (docs.filter (given column)) top :=
    (foremost_of_stableSort horders (fun _ hd => hd) hs).filter hgiven
  obtain ⟨best, hbest⟩ : ∃ best, (docs.filter (given column)).foldl (better (compareBy [keyOf column wanted])) none =
      some best := exists_foldl_better (List.ne_nil_of_mem htop.mem)
  have hforemost := foremost_of_foldl horders (fun d hd => (List.mem_filter.1 hd).1) hbest
  rw [extreme_valueAt hw, hbest, hforemost.unique horders htop]
  rfl

/-! ## Values greater than null -/

/-- Null and undefined stand at one place in the order. -/
theorem compare_nothing {v : Value} (h : v.isNothing = true) (w : Value) :
    Value.compare w v = Value.compare w .null := by
  cases v with
  | null => rfl
  | undefined => cases w <;> rfl
  | _ => cases h

/-- A document is not in front of one without a value where it has a greater value than null. -/
theorem given_of_not_lt {column : String} {d top : Document}
    (hd : Value.compare (valueAt column d) .null = .gt) (h : compareBy [keyOf column .gt] d top ≠ .lt) :
    given column top = true := by
  rw [Ne, compareBy_keyOf (.inl rfl)] at h
  rw [given, Bool.not_eq_true']
  cases hnothing : (valueAt column top).isNothing with
  | false => rfl
  | true => exact absurd ((compare_nothing hnothing _).trans hd) h

/-! ## Main result -/

/-- Documents whose values of a column compare transitively, a missing one as null, and of which one has a value
there that is greater than null.  The greatest of these values is that of the first document of a sort down by the
column; the least one is that of the first document of a sort up, of the documents that have a value there. -/
theorem extremes_of_sort {column : String} (hc : Expression.isOperatorName column = false) {docs : List Document}
    (ht : Comparable [⟨column, false⟩] docs) (hg : ∃ d ∈ docs, Value.compare (valueAt column d) .null = .gt) :
    (∃ top rest v, runStage "$sort" (.document [(column, .int32 (-1))]) docs = .ok (top :: rest) ∧
      Path.resolve top (Path.parse column) = some v ∧
      accumulate "$max" (.string ("$" ++ column)) docs = .ok v) ∧
    ∃ top rest v, runStage "$sort" (.document [(column, .int32 1)]) (docs.filter (given column)) =
        .ok (top :: rest) ∧
      Path.resolve top (Path.parse column) = some v ∧
      accumulate "$min" (.string ("$" ++ column)) docs = .ok v := by
  obtain ⟨d, hd, hgreater⟩ := hg
  constructor
  · obtain ⟨top, rest, hs⟩ := exists_first hd (compareBy [keyOf column .gt])
    have horders := (comparable_keyOf ht .gt).orders
    have htop := foremost_of_stableSort horders (fun _ hd => hd) hs
    have hgiven := given_of_not_lt hgreater (htop.not_lt horders d hd)
    refine ⟨top, rest, valueAt column top, ?_, valueAt_of_given hgiven, ?_⟩
    · exact (runStage_sort_column hc (.inl rfl) docs).trans (congrArg Except.ok hs)
    · rw [accumulate_column hc (by decide)]
      exact congrArg Except.ok (extreme_of_stableSort (.inl rfl) ht hs hgiven)
  · have hdgiven : given column d = true := by
      refine given_of_not_lt hgreater ?_
      rw [(comparable_keyOf ht .gt).orders.self]
      decide
    obtain ⟨top, rest, hs⟩ := exists_first (List.mem_filter.2 ⟨hd, hdgiven⟩) (compareBy [keyOf column .lt])
    have hfiltered : Comparable [⟨column, false⟩] (docs.filter (given column)) := by
      intro k hk a ha b hb c hc
      exact ht k hk a (List.mem_filter.1 ha).1 b (List.mem_filter.1 hb).1 c (List.mem_filter.1 hc).1
    have htop := foremost_of_stableSort (comparable_keyOf hfiltered .lt).orders (fun _ hd => hd) hs
    have hgiven : given column top = true := (List.mem_filter.1 htop.mem).2
    refine ⟨top, rest, valueAt column top, ?_, valueAt_of_given hgiven, ?_⟩
    · exact (runStage_sort_column hc (.inr rfl) _).trans (congrArg Except.ok hs)
    · rw [accumulate_column hc (by decide)]
      refine congrArg Except.ok ?_
      exact (extreme_given .lt column docs).symm.trans (extreme_of_stableSort (.inr rfl) hfiltered hs hgiven)

/-- A path, with null, a missing value and one that is less than null.  The greatest value stands there in two kinds,
and the first of them is taken. -/
theorem extremes_of_sort_kinds :
    let docs : List Document := [[("_id", .int32 1), ("a", .document [("n", .null)])],
      [("_id", .int32 2), ("a", .document [("n", .int64 7)])], [("_id", .int32 3), ("a", .document [("n", .int32 7)])],
      [("_id", .int32 4)], [("_id", .int32 5), ("a", .document [("n", .minKey)])]]
    Comparable [⟨"a.n", false⟩] docs ∧ (∃ d ∈ docs, Value.compare (valueAt "a.n" d) .null = .gt) ∧
      (∃ top rest, runStage "$sort" (.document [("a.n", .int32 (-1))]) docs = .ok (top :: rest) ∧
        Path.resolve top (Path.parse "a.n") = some (.int64 7)) ∧
      ∃ top rest, runStage "$sort" (.document [("a.n", .int32 1)]) (docs.filter (given "a.n")) = .ok (top :: rest) ∧
        Path.resolve top (Path.parse "a.n") = some .minKey := by
  intro docs
  have hvalues : docs.map (valueAt "a.n") = [.null, .int64 7, .int32 7, .null, .minKey] := rfl
  have hordered : (Value.array (docs.map (valueAt "a.n"))).Ordered := by
    rw [hvalues]
    exact ⟨trivial, trivial, trivial, trivial, trivial, trivial⟩
  have ht : Comparable [⟨"a.n", false⟩] docs := by
    refine comparable_of_ordered fun k hk d hd => ?_
    rw [List.mem_singleton.1 hk]
    exact (Value.ordered_array _).1 hordered _ (List.mem_map_of_mem hd)
  have hg : ∃ d ∈ docs, Value.compare (valueAt "a.n" d) .null = .gt :=
    ⟨_, List.mem_cons_of_mem _ List.mem_cons_self, rfl⟩
  have hmax : accumulate "$max" (.string "$a.n") docs = .ok (.int64 7) := rfl
  have hmin : accumulate "$min" (.string "$a.n") docs = .ok .minKey := rfl
  obtain ⟨⟨top, rest, v, hsort, hv, hgreatest⟩, low, others, w, hup, hw, hleast⟩ :=
    extremes_of_sort (by decide) ht hg
  cases hmax.symm.trans hgreatest
  cases hmin.symm.trans hleast
  exact ⟨ht, hg, ⟨top, rest, hsort, hv⟩, low, others, hup, hw⟩

end DocQuery.Pipeline
