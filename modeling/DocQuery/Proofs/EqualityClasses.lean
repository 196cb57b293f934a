import DocQuery.Proofs.Bounds
import DocQuery.Proofs.Equality
import DocQuery.Proofs.Grouping
import DocQuery.Proofs.Pushes

/-!
# What equality keeps together

Where equality is symmetric and transitive, a value stands for all that are equal to it.  How often it occurs among
others, as one that is equal to it, is what the parts of the store that compare values agree on:

    occurrences v (appendNew items vs) = max (occurrences v items) (min 1 (occurrences v vs))   (occurrences_appendNew)
    distinct vs                        = appendNew [] vs                                        (distinct_eq_appendNew)

A group has the documents whose keys are equal to its key, and no other group has one of them (`Partition.part_of_key`).
All this needs a value that is equal to itself; there are others, and those occur nowhere, not even where they stand
(`Value.equal_classes`).
-/

namespace DocQuery

open Outcome

/-! ## Sets -/

namespace Value

/-- How many of the elements are equal to a value. -/
def occurrences (v : Value) (items : List Value) : Nat := items.countP fun w => equal w v

variable {u v : Value} {items values : List Value}

theorem any_equal_iff (v : Value) (items : List Value) :
    (items.any fun w => equal w v) = true ↔ 0 < occurrences v items := by
  rw [occurrences, List.countP_pos_iff, List.any_eq_true]

/-- Values that are equal have the same ones equal to them. -/
theorem occurrences_congr (hu : u.WellFormed) (hv : v.WellFormed) (h : equal u v = true) (items : List Value) :
    occurrences u items = occurrences v items := by
  refine List.countP_congr fun w _ => ?_
  constructor
  · exact fun hw => equal_trans hw h
  · exact fun hw => equal_trans hw (by rw [equal_comm hv hu]; exact h)

theorem occurrences_concat (v : Value) (items : List Value) (u : Value) :
    occurrences v (items ++ [u]) = occurrences v items + occurrences v [u] := List.countP_append

theorem occurrences_cons (v u : Value) (items : List Value) :
    occurrences v (u :: items) = occurrences v items + occurrences v [u] := by
  rw [occurrences, occurrences, occurrences, List.countP_cons, List.countP_singleton]

/-- What is appended where it is new occurs once, unless it has been there more often. -/
theorem occurrences_appendNew (hv : v.WellFormed) (hvalues : ∀ u ∈ values, u.WellFormed) :
    occurrences v (Update.appendNew items values) = max (occurrences v items) (min 1 (occurrences v values)) := by
  induction values generalizing items with
  | nil => simp [Update.appendNew, occurrences]
  | cons u rest ih =>
    obtain ⟨hu, hrest⟩ := List.forall_mem_cons.1 hvalues
    have hany := any_equal_iff u items
    rw [Update.appendNew, occurrences_cons]
    by_cases huv : equal u v = true
    · have hone : occurrences v [u] = 1 := by simp [occurrences, huv]
      rw [occurrences_congr hu hv huv] at hany
      split
      · have hpos := hany.1 ‹_›
        rw [ih hrest]
        omega
      · have hnone := mt hany.2 ‹_›
        rw [ih hrest, occurrences_concat]
        omega
    · have hnone : occurrences v [u] = 0 := by simp [occurrences, huv]
      split
      · rw [ih hrest, hnone, Nat.add_zero]
      · rw [ih hrest, occurrences_concat, hnone, Nat.add_zero, Nat.add_zero]

theorem occurrences_pos (hself : equal v v = true) (h : v ∈ values) : 0 < occurrences v values :=
  (any_equal_iff v values).1 (List.any_eq_true.2 ⟨v, h, hself⟩)

theorem distinct_eq_appendNew (values : List Value) : Arithmetic.distinct values = Update.appendNew [] values := by
  have hfold : ∀ kept : List Value, (values.foldl
      (fun kept v => if kept.any (fun w => equal w v) then kept else v :: kept) kept).reverse =
        Update.appendNew kept.reverse values := by
    induction values with
    | nil => exact fun kept => rfl
    | cons u rest ih =>
      intro kept
      rw [List.foldl_cons, ih, Update.appendNew, List.any_reverse]
      split
      · rfl
      · rw [List.reverse_cons]
  exact hfold []

/-- A set has a value once that is equal to itself and among those that it is made of. -/
theorem occurrences_distinct (hv : v.WellFormed) (hself : equal v v = true) (hvalues : ∀ u ∈ values, u.WellFormed)
    (hmem : v ∈ values) : occurrences v (Arithmetic.distinct values) = 1 := by
  have hpos := occurrences_pos hself hmem
  rw [distinct_eq_appendNew, occurrences_appendNew hv hvalues]
  show max 0 _ = 1
  omega

end Value

namespace Update

variable {d : Document} {column : String} {items values : List Value} {v : Value}

/-- A value that is added by itself and the elements of a list that are added one by one are appended alike. -/
theorem changed?_addToSet {argument : Value} (h : appended argument = .ok values) (d : Document) (column : String) :
    changed? d [("$addToSet", .document [(column, argument)])] = changed? d (Query.pushUpdate column values true) := by
  have hpush : push true d column argument = push true d column (.document [("$each", .array values)]) := by
    rw [push, h]
    rfl
  have hfield : applyField "$addToSet" d (column, argument) =
      applyField "$addToSet" d (column, .document [("$each", .array values)]) := by
    rw [applyField, applyField]
    split
    · rfl
    · exact hpush
  show _ = changed? d [("$addToSet", .document [(column, .document [("$each", .array values)])])]
  rw [changed?_field, changed?_field, hfield]

end Update

/-- A set has the value once where it is among the values that the set is made of, or that are added to it at a column;
more often only where it has been there more often. -/
def Value.IsKeptOnce (v : Value) : Prop :=
  ∀ values, (∀ u ∈ values, u.WellFormed) → v ∈ values →
    (∃ kept, Pipeline.combine "$addToSet" values = .ok (.array kept) ∧ occurrences v kept = 1) ∧
    ∀ d column argument items, Update.appended argument = .ok values → (Path.parse column).head ≠ "_id" →
      Path.HoldsItems d (Path.parse column) items →
      ∃ r after, Update.changed? d [("$addToSet", .document [(column, argument)])] = .ok r ∧
        Path.Leads (r.getD d) (Path.parse column) (.array after) ∧ occurrences v after = max 1 (occurrences v items)

theorem Value.isKeptOnce_of_equal_self {v : Value} (hv : v.WellFormed) (hself : equal v v = true) : v.IsKeptOnce := by
  refine fun values hvalues hmem => ⟨⟨_, rfl, occurrences_distinct hv hself hvalues hmem⟩, ?_⟩
  intro d column argument items hargument hid hitems
  obtain ⟨r, hr, hleads⟩ := Update.changed?_push hid hitems values true
  refine ⟨r, _, (Update.changed?_addToSet hargument d column).trans hr, hleads, ?_⟩
  have hpos := occurrences_pos hself hmem
  show occurrences v (Update.appendNew items values) = _
  rw [occurrences_appendNew hv hvalues]
  omega

/-! ## Groups -/

namespace Pipeline

namespace Partition

variable {key v : Value} {docs : List Document} {parts : List Part} {p q : Part} {d : Document} {i : Nat}

theorem exists_part (h : Partition key docs parts) (hd : docs[i]? = some d) : ∃ p ∈ parts, i ∈ p.places :=
  List.mem_flatMap.1 (h.once.mem_iff.2 (List.mem_range.2 (List.getElem?_eq_some_iff.1 hd).1))

/-- A document is in a part whose key is its own or equals it. -/
theorem key_of_mem (h : Partition key docs parts) (hp : p ∈ parts) (hi : i ∈ p.places) (hd : docs[i]? = some d)
    (hv : Expression.evaluate key d = .ok v) : p.key = v ∨ Value.equal p.key v = true := by
  rcases List.mem_cons.1 hi with rfl | hi
  · obtain ⟨e, he, hk⟩ := (h.keyed p hp).first
    cases hd.symm.trans he
    exact .inl (Except.ok.inj (hk.symm.trans hv))
  · obtain ⟨e, w, he, hk, hequal⟩ := (h.keyed p hp).later i hi
    cases hd.symm.trans he
    cases hv.symm.trans hk
    exact .inr hequal

theorem eq_of_equal_keys (h : Partition key docs parts) (hkey : key.WellFormed)
    (hdocs : ∀ d ∈ docs, (Value.document d).WellFormed) (hp : p ∈ parts) (hq : q ∈ parts)
    (he : Value.equal p.key q.key = true) : p = q := by
  have hapart : parts.Pairwise fun p q => Value.equal p.key q.key = false ∧ Value.equal q.key p.key = false :=
    (List.pairwise_map.1 h.apart).and (List.pairwise_map.1 (h.apart_both hkey hdocs))
  have : Std.Symm fun p q : Part => Value.equal p.key q.key = false ∧ Value.equal q.key p.key = false :=
    ⟨fun _ _ hpq => ⟨hpq.2, hpq.1⟩⟩
  by_contra hne
  exact absurd he (ne_true_of_eq_false (hapart.forall hp hq hne).1)

/-- A document whose key is equal to itself is in one part, and that is the one whose key equals its own. -/
theorem part_of_key (h : Partition key docs parts) (hkey : key.WellFormed)
    (hdocs : ∀ d ∈ docs, (Value.document d).WellFormed) (hd : docs[i]? = some d)
    (hv : Expression.evaluate key d = .ok v) (hself : Value.equal v v = true) :
    ∃ p ∈ parts, d ∈ p.members docs ∧
      ∀ q ∈ parts, (i ∈ q.places ↔ q = p) ∧ (Value.equal q.key v = true ↔ q = p) := by
  have hwell : v.WellFormed := Expression.wellFormed_of_evaluate hkey (hdocs d (List.mem_of_getElem? hd)) hv
  have hequal : ∀ q ∈ parts, i ∈ q.places → Value.equal q.key v = true := by
    intro q hq hi
    rcases h.key_of_mem hq hi hd hv with hk | hk
    · rw [hk]
      exact hself
    · exact hk
  obtain ⟨p, hp, hi⟩ := h.exists_part hd
  have hback : Value.equal v p.key = true := by
    rw [Value.equal_comm hwell (h.wellFormed_key hkey hdocs hp)]
    exact hequal p hp hi
  have hunique : ∀ q ∈ parts, Value.equal q.key v = true → q = p := fun q hq hk =>
    h.eq_of_equal_keys hkey hdocs hq hp (Value.equal_trans hk hback)
  refine ⟨p, hp, List.mem_filterMap.2 ⟨i, hi, hd⟩, fun q hq => ⟨⟨?_, ?_⟩, hunique q hq, ?_⟩⟩
  · exact fun hiq => hunique q hq (hequal q hq hiq)
  · rintro rfl
    exact hi
  · rintro rfl
    exact hequal q hq hi

end Partition

end Pipeline

/-- A group stage puts each document with the value for its key into one group, and that is the one whose key equals the
value. -/
def Value.IsGrouped (v : Value) : Prop :=
  ∀ key docs field, key.WellFormed → (∀ d ∈ docs, (document d).WellFormed) →
    (∀ d ∈ docs, ∃ w, Expression.evaluate key d = .ok w) → field ≠ "_id" →
    ∃ parts : List Pipeline.Part, Pipeline.Partition key docs parts ∧
      Pipeline.run [[("$group", document [("_id", key), (field, document [("$push", string "$$ROOT")])])]] docs =
        .ok (parts.map fun p => [("_id", p.key), (field, array ((p.members docs).map document))]) ∧
      ∀ i d, docs[i]? = some d → Expression.evaluate key d = .ok v →
        ∃ p ∈ parts, d ∈ p.members docs ∧ ∀ q ∈ parts, (i ∈ q.places ↔ q = p) ∧ (equal q.key v = true ↔ q = p)

theorem Value.isGrouped_of_equal_self {v : Value} (hself : equal v v = true) : v.IsGrouped := by
  intro key docs field hkey hdocs hall hfield
  obtain ⟨parts, hgroups, hparts⟩ := Pipeline.groupBy_partition hall
  refine ⟨parts, hparts, ?_, fun i d hd hv => hparts.part_of_key hkey hdocs hd hv hself⟩
  rw [Pipeline.run_group hfield (.refl _) hgroups (fun g => array (g.2.map document)) fun g _ =>
    Pipeline.accumulate_push_root g.2, List.map_map]
  rfl

/-! ## Filters -/

/-- A clause that compares a column to the value holds of the documents with the value there.  Patterns and documents
that begin with an operator need the operator that takes every value as it stands. -/
def Value.IsFound (v : Value) : Prop :=
  ∀ d column k, Expression.isOperatorName column = false → Path.resolve d (Path.parse column) = some v →
    Clause.test d ⟨k, .basic column "eq" v⟩ = .ok true ∧
    (Filter.isLiteral v = true → Clause.test d ⟨k, .basic column "=" v⟩ = .ok true)

theorem Value.isFound_of_equal_self {v : Value} (hself : equal v v = true) : v.IsFound := by
  intro d column k hc hv
  have hequals : Filter.equals (some v) v = true := by
    cases v with
    | array items => exact Bool.or_eq_true_iff.2 (.inl hself)
    | _ => exact hself
  constructor
  · have hop : Operator.parse? "eq" = some (.native "eq") := by decide
    have hp := FilterDocument.ofPredicate_native hop column v
    rw [Clause.test_of_field (c := ⟨k, .basic column "eq" v⟩) hc hp, Filter.meets_operator, hv,
      Filter.passesOperator.eq_def, ← hequals]
    rfl
  · intro hliteral
    rw [Clause.test_of_field (c := ⟨k, .basic column "=" v⟩) hc (Builder.ofPredicate_eq column v),
      Filter.meets_literal hliteral, hv, hequals]

/-! ## Main result -/

/-- Equality by value, for a well-formed value without a NaN.  It is symmetric and transitive, and the value is equal to
itself exactly where, scopes of codes apart, there is no decimal in it.  Then documents with the value for their key are
in one group, sets have it once, and clauses with it find it. -/
theorem Value.equal_classes {v : Value} (hv : v.WellFormed) (hnan : v.NaNFree) :
    (equal v v = true ↔ v.DecimalFree) ∧
    (∀ w, w.WellFormed → equal v w = equal w v) ∧
    (∀ w x, equal v w = true → equal w x = true → equal v x = true) ∧
    (v.DecimalFree → v.IsGrouped ∧ v.IsKeptOnce ∧ v.IsFound) := by
  have hself : equal v v = true ↔ v.DecimalFree := by rw [equal_self_iff hv, and_iff_right hnan]
  refine ⟨hself, fun w hw => equal_comm hv hw, fun w x => equal_trans, fun hdecimal => ?_⟩
  have hequal := hself.2 hdecimal
  exact ⟨isGrouped_of_equal_self hequal, isKeptOnce_of_equal_self hv hequal, isFound_of_equal_self hequal⟩

/-- A document with a number, and a decimal in the scope of a code. -/
theorem Value.equal_classes_nested :
    let v : Value := .document [("n", .int32 1), ("f", .scopedCode "f" [("k", .decimal ⟨5⟩)])]
    let w : Value := .document [("n", .int64 1), ("f", .scopedCode "f" [("k", .decimal ⟨5⟩)])]
    let d : Document := [("_id", .int32 1), ("a", .document [("b", v), ("all", .array [w])])]
    v.WellFormed ∧ v.NaNFree ∧ v.DecimalFree ∧ equal v v = true ∧ equal v w = equal w v ∧
      (∃ kept, Pipeline.combine "$addToSet" [v, .null, w] = .ok (.array kept) ∧ occurrences v kept = 1) ∧
      (∃ r after, Update.changed? d [("$addToSet", .document [("a.all", v)])] = .ok r ∧
        Path.Leads (r.getD d) (Path.parse "a.all") (.array after) ∧
        occurrences v after = max 1 (occurrences v [w])) ∧
      Clause.test d ⟨.and, .basic "a.b" "=" v⟩ = .ok true := by
  intro v w d
  have hwell : v.WellFormed ∧ w.WellFormed := by
    simp [v, w, WellFormed, WellFormedFields, Document.Distinct]
  have hnan : v.NaNFree := by simp [v, NaNFree, NaNFreeFields]
  have hdecimal : v.DecimalFree := by simp [v, DecimalFree, DecimalFreeFields]
  obtain ⟨hself, hcomm, -, hclasses⟩ := equal_classes hwell.1 hnan
  obtain ⟨-, hsets, hfilter⟩ := hclasses hdecimal
  have hvalues : ∀ u ∈ [v, .null, w], u.WellFormed := by
    simp only [List.forall_mem_cons]
    exact ⟨hwell.1, trivial, hwell.2, by simp⟩
  obtain ⟨hkept, -⟩ := hsets [v, .null, w] hvalues List.mem_cons_self
  obtain ⟨-, hadded⟩ := hsets [v] (List.forall_mem_singleton.2 hwell.1) List.mem_cons_self
  exact ⟨hwell.1, hnan, hdecimal, hself.2 hdecimal, hcomm w hwell.2, hkept,
    hadded d "a.all" v [w] rfl (by decide +kernel) (.array (.within rfl (.field rfl))),
    (hfilter d "a.b" .and (by decide) rfl).2 (by decide)⟩

/-- A decimal is not equal to itself: a set has it as often as it is added, each document with it for its key is a group
of its own, and a filter with it does not find the document that holds it. -/
theorem Value.equal_misses_decimals :
    let five : Value := .decimal ⟨0x30400000000000000000000000000005⟩
    let d : Document := [("n", five)]
    five.WellFormed ∧ five.NaNFree ∧ equal five five = false ∧
      Pipeline.combine "$addToSet" [five, five] = .ok (.array [five, five]) ∧
      Pipeline.run [[("$group", .document [("_id", .string "$n")])]] [d, d] = .ok [[("_id", five)], [("_id", five)]] ∧
      Clause.test d ⟨.and, .basic "n" "=" five⟩ = .ok false := by
  refine ⟨trivial, trivial, rfl, rfl, rfl, ?_⟩
  rw [Clause.test_of_field (c := ⟨.and, .basic "n" "=" _⟩) (by decide) rfl, Filter.meets_literal rfl]
  rfl

end DocQuery
