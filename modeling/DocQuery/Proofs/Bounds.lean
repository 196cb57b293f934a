import DocQuery.Proofs.EqualValues
import DocQuery.Proofs.Memberships

/-!
# Bounds and equality

A column is at least a bound where it is above the bound or ties with it, and ties are not always equalities: some
kinds have no order of their own, and all their values tie with every value of their bracket (`isUnordered`).

    within? v b = some eq  ↔  equal v b or TiesApart v b                               (within?_eq_iff)
    equal v b              →  not TiesApart v b                                        (not_tiesApart_of_equal)

So for a value that is no array and a bound that is no document, at least is above or equal, and at most is below or
equal, exactly where the two do not tie apart (`Clause.bounds_spec`).
-/

namespace DocQuery

open Outcome

namespace Value

/-! ## Ties -/

/-- A kind without an order of its own. -/
def isUnordered : Value → Bool
  | binary _ _ => true
  | undefined => true
  | null => true
  | regex _ => true
  | code _ => true
  | symbol _ => true
  | scopedCode _ _ => true
  | minKey => true
  | maxKey => true
  | _ => false

/-- Two different values of one bracket, one of them of a kind without an order of its own. -/
def TiesApart (v b : Value) : Prop :=
  v.rank = b.rank ∧ (v.isUnordered || b.isUnordered) = true ∧ same v b = false

instance (v b : Value) : Decidable (TiesApart v b) := inferInstanceAs (Decidable (_ ∧ _ ∧ _))

variable {v b : Value}

theorem within?_of_flat (ha : v.isArray = false) (hb : b.isDocument = false) :
    within? v b = if v.rank = b.rank then scalarOrder? v b else none := by
  cases v with
  | array items => cases ha
  | document d =>
    cases b with
    | document e => cases hb
    | _ => rfl
  | _ => rfl

/-- Numbers tie where they are equal. -/
theorem numberOrder?_eq_iff (hv : v.isNumeric = true) (hb : b.isNumeric = true) :
    numberOrder? v b = some .eq ↔ equal v b = true := by
  have hdouble : ∀ x y : Float, Double.compare? x y = some .eq ↔ Double.equal x y = true := by
    intro x y
    rw [Double.compare?, Double.equal]
    cases Double.position? x <;> cases Double.position? y <;> simp
  rw [numberOrder?]
  cases v <;> cases hv <;> cases b <;> cases hb <;> first | exact hdouble .. | simp [equal, toFloat?, isNumeric]

/-- Where one of the two has no order of its own, they tie. -/
theorem scalarOrder?_of_isUnordered (h : (v.isUnordered || b.isUnordered) = true) : scalarOrder? v b = some .eq := by
  cases v <;> cases b <;> first | rfl | cases h

/-- Kinds with an order of their own, numbers apart, tie where they are the same. -/
theorem scalarOrder?_eq_iff (ha : v.isArray = false) (hd : v.isDocument = false) (hn : v.isNumeric = false)
    (h : v.rank = b.rank) (hu : (v.isUnordered || b.isUnordered) = false) :
    scalarOrder? v b = some .eq ↔ same v b = true := by
  cases v with
  | string s =>
    cases b with
    | string t => simp [scalarOrder?, same]
    | symbol t => cases hu
    | _ => cases h
  | boolean x =>
    cases b with
    | boolean y => simp [scalarOrder?, same]
    | _ => cases h
  | dateTime x =>
    cases b with
    | dateTime y => simp [scalarOrder?, same, Int64.toInt_inj]
    | _ => cases h
  | objectId x =>
    cases b with
    | objectId y =>
      obtain ⟨x⟩ := x
      obtain ⟨y⟩ := y
      simp [scalarOrder?, same, BitVec.toNat_inj]
    | _ => cases h
  | timestamp t i =>
    cases b with
    | timestamp u j => simp [scalarOrder?, same, Ordering.then_eq_eq, UInt32.toNat_inj]
    | _ => cases h
  | array items => cases ha
  | document d => cases hd
  | double x => cases hn
  | int32 n => cases hn
  | int64 n => cases hn
  | decimal n => cases hn
  | _ => cases hu

theorem not_document_of_rank (hb : b.isDocument = false) (h : v.rank = b.rank) : v.isDocument = false := by
  cases v with
  | document d =>
    obtain ⟨e, rfl⟩ := eq_document_of_rank h
    cases hb
  | _ => rfl

/-- Numbers have an order of their own, and nothing else is in their bracket. -/
theorem not_tiesApart_of_numeric (hn : v.isNumeric = true) : ¬ TiesApart v b := by
  have hordered : ∀ {w : Value}, w.isNumeric = true → w.isUnordered = false := by
    intro w hw
    cases w <;> first | rfl | cases hw
  rintro ⟨hrank, hu, -⟩
  rw [hordered hn, hordered (isNumeric_of_rank hn hrank)] at hu
  cases hu

/-- A value ties with a bound where it is equal to it, and where the two tie apart. -/
theorem within?_eq_iff (ha : v.isArray = false) (hb : b.isDocument = false) :
    within? v b = some .eq ↔ equal v b = true ∨ TiesApart v b := by
  rw [within?_of_flat ha hb]
  by_cases h : v.rank = b.rank
  · rw [if_pos h]
    by_cases hn : v.isNumeric = true
    · have hnb := isNumeric_of_rank hn h
      rw [scalarOrder?_of_numeric hn hnb, numberOrder?_eq_iff hn hnb, or_iff_left (not_tiesApart_of_numeric hn)]
    · have hn : v.isNumeric = false := Bool.eq_false_iff.2 hn
      have hd := not_document_of_rank hb h
      rw [equal_of_not_numeric ha hd hn]
      cases hu : v.isUnordered || b.isUnordered with
      | true => simp [scalarOrder?_of_isUnordered hu, TiesApart, h, hu]
      | false => simp [scalarOrder?_eq_iff ha hd hn h hu, TiesApart, hu]
  · have hequal : ¬ equal v b = true := fun he => h (rank_eq_of_equal he)
    have hties : ¬ TiesApart v b := fun ht => h ht.1
    simp [h, hequal, hties]

theorem not_tiesApart_of_equal (ha : v.isArray = false) (hb : b.isDocument = false) (h : equal v b = true) :
    ¬ TiesApart v b := by
  by_cases hn : v.isNumeric = true
  · exact not_tiesApart_of_numeric hn
  · rintro ⟨hrank, -, hs⟩
    rw [equal_of_not_numeric ha (not_document_of_rank hb hrank) (Bool.eq_false_iff.2 hn), hs] at h
    cases h

end Value

/-! ## Conditions -/

namespace Filter

variable {v b : Value} {strict weak : Ordering → Bool}

theorem isOrdered_of_within {o : Ordering} (h : Value.within? v b = some o) (wanted : Ordering → Bool) :
    isOrdered wanted b v = wanted o := by
  rw [isOrdered, h]

/-- The weak comparison adds the ties to the strict one. -/
theorem isOrdered_weak (hweak : ∀ o, weak o = (strict o || o.isEq)) :
    isOrdered weak b v = (isOrdered strict b v || decide (Value.within? v b = some .eq)) := by
  rw [isOrdered, isOrdered]
  cases Value.within? v b with
  | none => rfl
  | some o => cases o <;> simp [hweak]

/-- The weak comparison is the strict one or equality, unless the value and the bound tie apart. -/
theorem isOrdered_weak_iff (hweak : ∀ o, weak o = (strict o || o.isEq)) (hstrict : strict .eq = false)
    (ha : v.isArray = false) (hb : b.isDocument = false) :
    isOrdered weak b v = (isOrdered strict b v || Value.equal v b) ↔ ¬ Value.TiesApart v b := by
  have htie := Value.within?_eq_iff ha hb
  by_cases hapart : Value.TiesApart v b
  · have hequal : Value.equal v b = false :=
      Bool.eq_false_iff.2 fun he => Value.not_tiesApart_of_equal ha hb he hapart
    have hwithin := htie.2 (.inr hapart)
    have hweak : weak .eq = true := by rw [hweak, hstrict]; rfl
    rw [isOrdered_of_within hwithin, isOrdered_of_within hwithin, hweak, hstrict, hequal]
    simp [hapart]
  · have hdecide : decide (Value.within? v b = some .eq) = Value.equal v b := by
      rw [Bool.eq_iff_iff, decide_eq_true_iff, htie, or_iff_left hapart]
    rw [isOrdered_weak hweak, hdecide]
    simp [hapart]

theorem compares_of_not_array (ha : v.isArray = false) (wanted : Ordering → Bool) (b : Value) :
    compares wanted b (some v) = isOrdered wanted b v := by
  cases v with
  | array items => cases ha
  | _ => rfl

theorem equals_of_not_array (ha : v.isArray = false) (b : Value) : equals (some v) b = Value.equal v b := by
  cases v with
  | array items => cases ha
  | _ => rfl

end Filter

/-! ## Main result -/

theorem FilterDocument.ofPredicate_native {op name : String} (hop : Operator.parse? op = some (.native name))
    (column : String) (v : Value) : ofPredicate (.basic column op v) = .ok (field column (operator name v)) := by
  rw [ofPredicate, FilterDocument.basic, hop]

namespace Clause

variable {column : String} {d : Document} {b : Value}

theorem test_comparison {op name : String} {wanted : Ordering → Bool} (hc : Expression.isOperatorName column = false)
    (hop : Operator.parse? op = some (.native name))
    (hname : Filter.operator? ("$" ++ name) = some (.comparison wanted)) (d : Document) (k : Connective) (b : Value) :
    test d ⟨k, .basic column op b⟩ = .ok (Filter.compares wanted b (Path.resolve d (Path.parse column))) := by
  have hp := FilterDocument.ofPredicate_native hop column b
  rw [test_of_field (c := ⟨k, .basic column op b⟩) hc hp, Filter.meets_operator, Filter.passesOperator.eq_def, hname]

theorem test_equality (hc : Expression.isOperatorName column = false) (d : Document) (k : Connective)
    (hr : ∀ p, b ≠ .regex p) (hb : b.isDocument = false) :
    test d ⟨k, .basic column "=" b⟩ = .ok (Filter.equals (Path.resolve d (Path.parse column)) b) := by
  rw [test_of_field (c := ⟨k, .basic column "=" b⟩) hc (Builder.ofPredicate_eq column b), Filter.meets_of_plain hr]
  rintro e rfl
  cases hb

/-- A column that holds a value, which is no array, and a bound that is no pattern and no document: clauses that compare
the column to the bound always have answers.  At least is above or equal, and at most is below or equal, exactly where
the value and the bound do not tie apart. -/
theorem bounds_spec (hc : Expression.isOperatorName column = false) {v : Value}
    (hv : Path.resolve d (Path.parse column) = some v) (ha : v.isArray = false) (hr : ∀ p, b ≠ .regex p)
    (hb : b.isDocument = false) (k : Connective) :
    ∃ atLeast above atMost below equal : Bool,
      test d ⟨k, .basic column ">=" b⟩ = .ok atLeast ∧ test d ⟨k, .basic column ">" b⟩ = .ok above ∧
      test d ⟨k, .basic column "<=" b⟩ = .ok atMost ∧ test d ⟨k, .basic column "<" b⟩ = .ok below ∧
      test d ⟨k, .basic column "=" b⟩ = .ok equal ∧
      (atLeast = (above || equal) ↔ ¬ Value.TiesApart v b) ∧ (atMost = (below || equal) ↔ ¬ Value.TiesApart v b) := by
  have htest : ∀ op name wanted, Operator.parse? op = some (.native name) →
      Filter.operator? ("$" ++ name) = some (.comparison wanted) →
        test d ⟨k, .basic column op b⟩ = .ok (Filter.isOrdered wanted b v) := by
    intro op name wanted hop hname
    rw [test_comparison hc hop hname, hv, Filter.compares_of_not_array ha]
  have hequal : test d ⟨k, .basic column "=" b⟩ = .ok (Value.equal v b) := by
    rw [test_equality hc d k hr hb, hv, Filter.equals_of_not_array ha]
  exact ⟨_, _, _, _, _, htest ">=" "gte" _ (by decide) rfl, htest ">" "gt" _ (by decide) rfl,
    htest "<=" "lte" _ (by decide) rfl, htest "<" "lt" _ (by decide) rfl, hequal,
    Filter.isOrdered_weak_iff (by decide) rfl ha hb, Filter.isOrdered_weak_iff (by decide) rfl ha hb⟩

/-- A number below a field, and the same number of another kind as the bound. -/
theorem bounds_spec_number :
    let d : Document := [("a", .document [("b", .int32 5)])]
    let bound : Value := .int64 5
    Path.resolve d (Path.parse "a.b") = some (.int32 5) ∧ ¬ Value.TiesApart (.int32 5) bound ∧
    ∃ atLeast above atMost below equal : Bool,
      test d ⟨.and, .basic "a.b" ">=" bound⟩ = .ok atLeast ∧ test d ⟨.and, .basic "a.b" ">" bound⟩ = .ok above ∧
      test d ⟨.and, .basic "a.b" "<=" bound⟩ = .ok atMost ∧ test d ⟨.and, .basic "a.b" "<" bound⟩ = .ok below ∧
      test d ⟨.and, .basic "a.b" "=" bound⟩ = .ok equal ∧ atLeast = (above || equal) ∧ atMost = (below || equal) := by
  intro d bound
  have hv : Path.resolve d (Path.parse "a.b") = some (.int32 5) := rfl
  have hties : ¬ Value.TiesApart (.int32 5) bound := by decide
  obtain ⟨atLeast, above, atMost, below, equal, hge, hgt, hle, hlt, he, hleast, hmost⟩ :=
    bounds_spec (b := bound) (by decide) hv rfl (by simp [bound]) rfl .and
  exact ⟨hv, hties, atLeast, above, atMost, below, equal, hge, hgt, hle, hlt, he, hleast.2 hties, hmost.2 hties⟩

/-- Two different binaries tie, and a symbol ties with a string: the field is at least the bound, and neither above it
nor equal to it. -/
theorem bounds_miss_ties :
    (let d : Document := [("x", .binary 0 [1])]
      let bound : Value := .binary 0 [2]
      test d ⟨.and, .basic "x" ">=" bound⟩ = .ok true ∧ test d ⟨.and, .basic "x" ">" bound⟩ = .ok false ∧
      test d ⟨.and, .basic "x" "<=" bound⟩ = .ok true ∧ test d ⟨.and, .basic "x" "<" bound⟩ = .ok false ∧
      test d ⟨.and, .basic "x" "=" bound⟩ = .ok false) ∧
    let d : Document := [("x", .symbol "a")]
    let bound : Value := .string "b"
    test d ⟨.and, .basic "x" ">=" bound⟩ = .ok true ∧ test d ⟨.and, .basic "x" ">" bound⟩ = .ok false ∧
    test d ⟨.and, .basic "x" "=" bound⟩ = .ok false := by
  have hc : Expression.isOperatorName "x" = false := by decide
  have hge : Operator.parse? ">=" = some (.native "gte") := by decide
  have hgt : Operator.parse? ">" = some (.native "gt") := by decide
  have hle : Operator.parse? "<=" = some (.native "lte") := by decide
  have hlt : Operator.parse? "<" = some (.native "lt") := by decide
  refine ⟨⟨?_, ?_, ?_, ?_, ?_⟩, ?_, ?_, ?_⟩
  · rw [test_comparison hc hge rfl]
    decide
  · rw [test_comparison hc hgt rfl]
    decide
  · rw [test_comparison hc hle rfl]
    decide
  · rw [test_comparison hc hlt rfl]
    decide
  · rw [test_equality hc _ _ (by rintro _ ⟨⟩) rfl]
    decide
  · rw [test_comparison hc hge rfl]
    decide
  · rw [test_comparison hc hgt rfl]
    decide
  · rw [test_equality hc _ _ (by rintro _ ⟨⟩) rfl]
    decide

end Clause

end DocQuery
