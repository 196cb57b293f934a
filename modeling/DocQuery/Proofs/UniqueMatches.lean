import DocQuery.Proofs.BulkWrites
import DocQuery.Proofs.EqualValues

/-!
# How many documents an identifier finds

A store keeps identifiers apart by strict equality, and a filter looks them up by the equality of numbers across
kinds and of arrays by their elements.  `Ambiguous` is where these two part: two identifiers that are not the same,
with a scalar that both of them meet.

    same x y = false → ((∃ scalar v, x and y both meet v) ↔ x.Ambiguous y)              (both_meet_iff)

So in every reachable store a scalar finds at most one document of a collection exactly when no two of the
collection's identifiers are ambiguous (`Reachable.unique_lookups_iff`), and then a lookup, an update and a delete by
identifier reach at most one.
-/

namespace DocQuery

open Outcome

namespace Value

/-! ## Scalars that two identifiers meet -/

/-- What a scalar is compared with: the elements of an array, and any other value itself. -/
def candidates : Value → List Value
  | array items => items
  | v => [v]

/-- Identifiers that one scalar finds both, although they may not be the same. -/
inductive Ambiguous : Value → Value → Prop where
  /-- Numbers of two kinds, equal as doubles. -/
  | kinds {x y : Value} (hx : x.isNumeric = true) (hy : y.isNumeric = true) (hk : x.typeCode? ≠ y.typeCode?)
      (he : equal x y = true) : Ambiguous x y
  /-- Integers of 64 bits that round to one double. -/
  | rounded {m n : Int64} (hn : m ≠ n) (he : equal (int64 m) (int64 n) = true) : Ambiguous (int64 m) (int64 n)
  /-- An array, and what equals one of its scalars. -/
  | listed {x y p q : Value} (ha : x.isArray = true ∨ y.isArray = true) (hp : p ∈ x.candidates)
      (hq : q ∈ y.candidates) (hs : q.IsScalar) (he : equal p q = true) : Ambiguous x y

theorem isScalar_of_isNumeric {v : Value} (h : v.isNumeric = true) : v.IsScalar := by
  cases v <;> first | exact trivial | cases h

theorem isNumeric_of_equal {a b : Value} (hb : b.isNumeric = true) (h : equal a b = true) : a.isNumeric = true :=
  isNumeric_of_rank hb (rank_eq_of_equal h).symm

theorem IsScalar.wellFormed {v : Value} (h : v.IsScalar) : v.WellFormed := by
  cases v <;> first | exact trivial | cases h

/-- What equals a scalar that is no number is that scalar. -/
theorem eq_of_equal {a b : Value} (hs : b.IsScalar) (hb : b.isNumeric = false) (h : equal a b = true) : a = b := by
  cases b <;> cases hb <;> first | exact hs.elim | skip
  all_goals cases a <;> first | cases h | skip
  all_goals first | rfl | exact congrArg _ (eq_of_beq h)

theorem isScalar_of_equal {a v : Value} (hs : v.IsScalar) (h : equal a v = true) : a.IsScalar := by
  cases hv : v.isNumeric with
  | true => exact isScalar_of_isNumeric (isNumeric_of_equal hv h)
  | false =>
    rw [eq_of_equal hs hv h]
    exact hs

theorem equal_symm {a v : Value} (hs : v.IsScalar) (h : equal a v = true) : equal v a = true := by
  rw [equal_comm hs.wellFormed (isScalar_of_equal hs h).wellFormed]
  exact h

/-- Both equal to one scalar, and so to each other. -/
theorem equal_of_equal {a b v : Value} (hs : v.IsScalar) (ha : equal a v = true) (hb : equal b v = true) :
    equal a b = true := equal_trans ha (equal_symm hs hb)

theorem equal_self {a v : Value} (hs : v.IsScalar) (h : equal a v = true) : equal v v = true :=
  equal_trans (equal_symm hs h) h

/-- A value meets a scalar where one of its candidates equals it. -/
theorem equals_scalar_iff {v : Value} (hs : v.IsScalar) (x : Value) :
    Filter.equals (some x) v = true ↔ ∃ p ∈ x.candidates, equal p v = true := by
  cases x with
  | array items =>
    have hwhole : equal (array items) v = false := by
      cases v <;> first | exact hs.elim | rfl
    simp [Filter.equals, candidates, hwhole]
  | _ => simp [Filter.equals, candidates]

/-- Equal numbers that are not the same differ in kind or have been rounded. -/
theorem ambiguous_of_numbers {x y : Value} (hx : x.isNumeric = true) (hy : y.isNumeric = true)
    (hsame : same x y = false) (he : equal x y = true) : x.Ambiguous y := by
  by_cases hk : x.typeCode? = y.typeCode?
  · cases x <;> cases hx <;> cases y <;> cases hy <;> cases hk
    · exact absurd (he.symm.trans hsame) (by decide)
    · rename_i m n
      have hmn := (equal_integers_iff (a := int32 m) (b := int32 n) rfl rfl).1 he
      have hm := m.le_toInt
      have hm' := m.toInt_lt
      have hn := n.le_toInt
      have hn' := n.toInt_lt
      have hint := Double.ofInt_inj (m := m.toInt) (n := n.toInt) (by omega) (by omega) hmn
      rw [Int32.toInt_inj.1 hint] at hsame
      exact absurd hsame (by simp [same])
    · rename_i m n
      refine .rounded ?_ he
      rintro rfl
      exact absurd hsame (by simp [same])
    · cases he
  · exact .kinds hx hy hk he

theorem candidates_of_not_isArray {x : Value} (h : x.isArray = false) : x.candidates = [x] := by
  cases x <;> first | rfl | cases h

theorem ambiguous_of_meet {x y v : Value} (hs : v.IsScalar) (hsame : same x y = false)
    (hx : Filter.equals (some x) v = true) (hy : Filter.equals (some y) v = true) : x.Ambiguous y := by
  obtain ⟨p, hp, hpv⟩ := (equals_scalar_iff hs x).1 hx
  obtain ⟨q, hq, hqv⟩ := (equals_scalar_iff hs y).1 hy
  have hpq := equal_of_equal hs hpv hqv
  by_cases ha : x.isArray = true ∨ y.isArray = true
  · exact .listed ha hp hq (isScalar_of_equal hs hqv) hpq
  · obtain ⟨hax, hay⟩ := not_or.1 ha
    rw [candidates_of_not_isArray (Bool.eq_false_iff.2 hax), List.mem_singleton] at hp
    rw [candidates_of_not_isArray (Bool.eq_false_iff.2 hay), List.mem_singleton] at hq
    subst hp hq
    cases hv : v.isNumeric with
    | true =>
      exact ambiguous_of_numbers (isNumeric_of_equal hv hpv) (isNumeric_of_equal hv hqv) hsame hpq
    | false =>
      -- both are the scalar itself, and equality of scalars that are no numbers is the strict one
      rw [eq_of_equal hs hv hpv, eq_of_equal hs hv hqv] at hsame
      rw [eq_of_equal hs hv hpv] at hpv
      cases v <;> cases hv <;> first | exact hs.elim | exact absurd (hpv.symm.trans hsame) (by decide)

/-- What one scalar of an ambiguous pair finds. -/
theorem Ambiguous.meet {x y : Value} (h : x.Ambiguous y) :
    ∃ v : Value, v.IsScalar ∧ Filter.equals (some x) v = true ∧ Filter.equals (some y) v = true := by
  have hfinds : ∀ {x y p q : Value}, p ∈ x.candidates → q ∈ y.candidates → q.IsScalar → equal p q = true →
      ∃ v : Value, v.IsScalar ∧ Filter.equals (some x) v = true ∧ Filter.equals (some y) v = true := by
    intro x y p q hp hq hs he
    exact ⟨q, hs, (equals_scalar_iff hs x).2 ⟨p, hp, he⟩, (equals_scalar_iff hs y).2 ⟨q, hq, equal_self hs he⟩⟩
  cases h with
  | kinds hx hy hk he =>
    have hself : ∀ {v : Value}, v.isNumeric = true → v ∈ v.candidates := by
      intro v hv
      cases v <;> cases hv <;> exact List.mem_singleton.2 rfl
    exact hfinds (hself hx) (hself hy) (isScalar_of_isNumeric hy) he
  | rounded hn he => exact hfinds (List.mem_singleton.2 rfl) (List.mem_singleton.2 rfl) trivial he
  | listed ha hp hq hs he => exact hfinds hp hq hs he

/-- Of two identifiers that are not the same, some scalar finds both exactly when they are ambiguous. -/
theorem both_meet_iff {x y : Value} (hsame : same x y = false) :
    (∃ v : Value, v.IsScalar ∧ Filter.equals (some x) v = true ∧ Filter.equals (some y) v = true) ↔
      x.Ambiguous y := by
  constructor
  · rintro ⟨v, hs, hx, hy⟩
    exact ambiguous_of_meet hs hsame hx hy
  · exact Ambiguous.meet

/-- Identifiers that are no arrays, and not both numbers, are told apart by every scalar. -/
theorem not_ambiguous_of_plain {x y : Value} (hx : x.isArray = false) (hy : y.isArray = false)
    (hn : x.isNumeric = false ∨ y.isNumeric = false) : ¬ x.Ambiguous y := by
  rintro (⟨hnx, hny, -, -⟩ | ⟨-, -⟩ | ⟨ha, -, -, -, -⟩)
  · rcases hn with hn | hn
    · exact absurd (hn.symm.trans hnx) (by decide)
    · exact absurd (hn.symm.trans hny) (by decide)
  · rcases hn with hn | hn <;> cases hn
  · rcases ha with ha | ha
    · exact absurd (hx.symm.trans ha) (by decide)
    · exact absurd (hy.symm.trans ha) (by decide)

end Value

/-! ## Documents with an identifier -/

namespace Store

/-- The condition of a lookup by identifier. -/
def idFilter (v : Value) : Document := [("_id", v)]

/-- The documents that a lookup by identifier finds. -/
def withId (v : Value) (docs : List Document) : List Document :=
  docs.filter fun d => Filter.accepts (idFilter v) d = .ok true

/-- No two identifiers of the documents are ambiguous. -/
def Unambiguous (docs : List Document) : Prop :=
  (ids docs).Pairwise fun x y => ∀ v ∈ x, ∀ w ∈ y, ¬ v.Ambiguous w

theorem accepts_idFilter {v : Value} (hs : v.IsScalar) (d : Document) :
    Filter.accepts (idFilter v) d = .ok (Filter.equals (d.get? "_id") v) := by
  unfold idFilter
  rw [Filter.accepts_column (by decide), Filter.meets_of_isScalar hs,
    Path.resolve_of_tail_nil d (p := Path.parse "_id") rfl]
  rfl

/-- A filter keeps at most one element where no two pass. -/
theorem length_filter_le_one_iff {α : Type} (p : α → Bool) (as : List α) :
    (as.filter p).length ≤ 1 ↔ as.Pairwise fun a b => p a = true → p b = false := by
  induction as with
  | nil => simp
  | cons a rest ih =>
    rw [List.pairwise_cons]
    cases hp : p a with
    | false =>
      rw [List.filter_cons_of_neg (by rw [hp]; decide), ih]
      simp
    | true =>
      rw [List.filter_cons_of_pos hp, List.length_cons]
      have hnone : (rest.filter p).length + 1 ≤ 1 ↔ ∀ b ∈ rest, p b = false := by
        rw [← Nat.lt_iff_add_one_le, Nat.lt_one_iff, List.length_eq_zero_iff, List.filter_eq_nil_iff]
        simp
      rw [hnone]
      constructor
      · intro h
        refine ⟨fun b hb _ => h b hb, ?_⟩
        exact List.pairwise_of_forall_mem_list fun b hb c hc _ => h c hc
      · exact fun h b hb => h.1 b hb rfl

theorem length_withId_le_one_iff {v : Value} (hs : v.IsScalar) (docs : List Document) :
    (withId v docs).length ≤ 1 ↔ docs.Pairwise fun d e =>
      Filter.equals (d.get? "_id") v = true → Filter.equals (e.get? "_id") v = false := by
  rw [withId, length_filter_le_one_iff]
  simp only [accepts_idFilter hs, decide_eq_true_eq, decide_eq_false_iff_not, Except.ok.injEq, Bool.not_eq_true]

/-- Every scalar finds at most one of some identified documents exactly when no two of their identifiers are
ambiguous. -/
theorem KeyedList.unambiguous_iff {docs : List Document} (h : KeyedList docs) :
    Unambiguous docs ↔ ∀ v : Value, v.IsScalar → (withId v docs).length ≤ 1 := by
  have hid : ∀ d ∈ docs, ∃ x, d.get? "_id" = some x := by
    intro d hd
    obtain ⟨x, hx, -⟩ := h.identified _ (List.mem_map_of_mem hd)
    exact ⟨x, hx⟩
  have hsame := List.pairwise_map.1 h.apart
  constructor
  · intro hu v hs
    rw [length_withId_le_one_iff hs]
    refine ((List.pairwise_map.1 hu).and hsame).imp_of_mem ?_
    rintro d e hd he ⟨hamb, hsame⟩ hdv
    obtain ⟨x, hx⟩ := hid d hd
    obtain ⟨y, hy⟩ := hid e he
    rw [hx] at hdv hamb hsame
    rw [hy] at hamb hsame ⊢
    rw [Bool.eq_false_iff]
    intro hev
    exact hamb x rfl y rfl ((Value.both_meet_iff (hsame x rfl y rfl)).1 ⟨v, hs, hdv, hev⟩)
  · intro hall
    refine List.pairwise_map.2 (List.pairwise_iff_getElem.2 ?_)
    intro i j hi hj hij x hx y hy hamb
    obtain ⟨v, hs, hxv, hyv⟩ := hamb.meet
    have hpair := List.pairwise_iff_getElem.1 ((length_withId_le_one_iff hs docs).1 (hall v hs)) i j hi hj hij
    rw [Option.mem_def.1 hx, Option.mem_def.1 hy] at hpair
    exact absurd (hyv.symm.trans (hpair hxv)) (by decide)

/-! ## Calls by identifier -/

/-- In every store that calls arrive at, each scalar finds at most one document of a collection exactly when no two
of its identifiers are ambiguous.  A lookup gives the documents found, a delete counts them, and so does an update
that succeeds. -/
theorem Reachable.unique_lookups_iff {s : Store} (h : s.Reachable) (name : String) :
    (Unambiguous (s.documents name) ↔
      ∀ v : Value, v.IsScalar → (withId v (s.documents name)).length ≤ 1) ∧
    ∀ v : Value, v.IsScalar →
      (s.poisoned = false →
        s.aggregate name [(Stage.filter (idFilter v)).toDocument] = .ok (withId v (s.documents name)) ∧
        ∃ t, s.deleteMany name (idFilter v) = .ok (t, (withId v (s.documents name)).length)) ∧
      ∀ update t count, s.updateMany name (idFilter v) update = .ok (t, count) →
        count.matched = (withId v (s.documents name)).length := by
  refine ⟨(h.keyed.documents name).unambiguous_iff, ?_⟩
  intro v hs
  have hdecides : ∀ d ∈ s.documents name, (Filter.accepts (idFilter v) d).Decides := by
    intro d _
    exact ⟨_, accepts_idFilter hs d⟩
  refine ⟨?_, ?_⟩
  · intro hp
    refine ⟨?_, deleteMany_of_decided hp hdecides⟩
    rw [aggregate, s.checkOpen_eq_ok_iff.2 hp]
    show Pipeline.run [(Stage.filter (idFilter v)).toDocument] (s.documents name) = _
    rw [Pipeline.run_singleton]
    exact keep_of_decided hdecides
  · intro update t count hu
    exact matched_of_updateMany hu

/-- A number and the text that writes it are told apart: a delete by either takes one document. -/
theorem Reachable.unique_lookups_iff_two :
    let s := (perform {} {} (.insertMany "users" [[("_id", .int32 1)], [("_id", .string "1")]])).2.1
    s.Reachable ∧ Unambiguous (s.documents "users") ∧ (withId (.int64 1) (s.documents "users")).length ≤ 1 := by
  intro s
  have hr : s.Reachable := by
    refine .call {} _ .empty ?_
    simp [StoreCall.WellFormed, Value.WellFormed, Value.WellFormedFields, Document.Distinct]
  have hu : Unambiguous (s.documents "users") := by
    show [some (Value.int32 1), some (Value.string "1")].Pairwise _
    simpa using Value.not_ambiguous_of_plain rfl rfl (.inr rfl)
  exact ⟨hr, hu, ((Reachable.unique_lookups_iff hr "users").1.1 hu) (.int64 1) trivial⟩

/-- The integer 1 of 32 bits and the one of 64 bits are two identifiers, and a delete by either takes both
documents; an array is an identifier beside its element, and a delete by that takes both. -/
theorem ambiguous_ids_stored :
    let s := (perform {} {} (.insertMany "users" [[("_id", .int32 1)], [("_id", .int64 1)]])).2.1
    let t := (perform {} {} (.insertMany "users" [[("_id", .int32 1)], [("_id", .array [.int32 1])]])).2.1
    s.Reachable ∧ (s.perform {} (.deleteMany "users" (idFilter (.int32 1)))).1 = .ok (.deleted 2) ∧
      t.Reachable ∧ (t.perform {} (.deleteMany "users" (idFilter (.int32 1)))).1 = .ok (.deleted 2) := by
  refine ⟨.call {} _ .empty ?_, by rfl, .call {} _ .empty ?_, by rfl⟩
  · simp [StoreCall.WellFormed, Value.WellFormed, Value.WellFormedFields, Document.Distinct]
  · simp [StoreCall.WellFormed, Value.WellFormed, Value.WellFormedFields, Value.WellFormedItems, Document.Distinct]

end Store

end DocQuery
