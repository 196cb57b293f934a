import DocQuery.Proofs.ClauseLists

/-!
# What a column is equal to

A filter reads a bare value by its shape.  A literal is compared, a pattern is searched for and a document that
begins with an operator is taken apart:

    meets v x = ok answer, answer = true ↔ Equals x v         for a literal v                (meets_literal)
    meets (regex p) x = ok answer, answer = true ↔ Found r x  where p compiles to r          (meets_regex)
    meets (document ops) x = all operators, from the left     where ops begins with one      (meets_eq_all)

A predicate `column = v` compiles to the bare value, so these are its meanings (`equality_spec`).  By the name `eq`
every value is a literal.
-/

namespace DocQuery

open Outcome

namespace Filter

/-! ## Literals -/

/-- Equality as it is wanted of a column: of the whole value, of an element of an array, or of null where there is
no value. -/
inductive Equals : Option Value → Value → Prop where
  | whole {v w : Value} : Value.equal v w = true → Equals (some v) w
  | element {items : List Value} {item w : Value} :
      item ∈ items → Value.equal item w = true → Equals (some (.array items)) w
  | missing : Equals none .null

theorem equals_iff (v : Option Value) (w : Value) : equals v w = true ↔ Equals v w := by
  constructor
  · intro h
    cases v with
    | none =>
      cases w with
      | null => exact .missing
      | _ => cases h
    | some v =>
      cases v with
      | array items =>
        rcases Bool.or_eq_true_iff.1 h with h | h
        · exact .whole h
        · obtain ⟨item, hi, he⟩ := List.any_eq_true.1 h
          exact .element hi he
      | _ => exact .whole h
  · intro h
    cases h with
    | missing => rfl
    | @element items item w hi he =>
      exact Bool.or_eq_true_iff.2 (.inr (List.any_eq_true.2 ⟨item, hi, he⟩))
    | @whole v w he =>
      cases v with
      | array items => exact Bool.or_eq_true_iff.2 (.inl he)
      | _ => exact he

/-- A value that is taken as it stands: no pattern, and no document that begins with an operator. -/
def isLiteral : Value → Bool
  | .regex _ => false
  | .document d => !isOperatorDocument d
  | _ => true

theorem meets_literal {v : Value} (h : isLiteral v = true) (x : Option Value) :
    meets v x = .ok (equals x v) := by
  cases v with
  | document d =>
    have hd : isOperatorDocument d = false := by simpa [isLiteral] using h
    rw [meets.eq_1, hd]
    rfl
  | regex p => cases h
  | _ => rfl

/-! ## Patterns -/

/-- A text in which the expression is found, or an array with such a text. -/
inductive Found (r : Regex) : Option Value → Prop where
  | text {s : String} : r.isMatch s.toList = true → Found r (some (.string s))
  | element {items : List Value} {s : String} :
      .string s ∈ items → r.isMatch s.toList = true → Found r (some (.array items))

theorem isMatchingText_iff (r : Regex) (v : Value) :
    isMatchingText r v = true ↔ ∃ s, v = .string s ∧ r.isMatch s.toList = true := by
  cases v <;> simp [isMatchingText]

theorem meets_pattern (p : Pattern) (x : Option Value) : meets (.regex p) x = matchesPattern p x := rfl

theorem meets_regex {p : Pattern} {r : Regex} (h : p.compile? = some r) (x : Option Value) :
    ∃ answer, meets (.regex p) x = .ok answer ∧ (answer = true ↔ Found r x) := by
  rw [meets_pattern, matchesPattern, h]
  cases x with
  | none => exact ⟨false, rfl, by simp, by rintro ⟨⟩⟩
  | some v =>
    cases v with
    | array items =>
      refine ⟨_, rfl, ?_⟩
      simp only [List.any_eq_true, isMatchingText_iff]
      constructor
      · rintro ⟨item, hi, s, rfl, hs⟩
        exact .element hi hs
      · rintro (_ | ⟨hi, hs⟩)
        exact ⟨_, hi, _, rfl, hs⟩
    | string s => exact ⟨_, rfl, .text, by rintro ⟨h⟩; exact h⟩
    | _ => exact ⟨false, rfl, by simp, by rintro ⟨⟩⟩

theorem meets_bad_regex {p : Pattern} (h : p.compile? = none) (x : Option Value) :
    meets (.regex p) x = invalid ("bad regex /" ++ p.source ++ "/") := by
  rw [meets_pattern, matchesPattern, h]

/-! ## Operators -/

theorem passes_eq_all (whole : Document) (operators : List (String × Value)) (x : Option Value) :
    passes whole operators x = all (fun o => passesOperator whole o.1 o.2 x) operators := by
  induction operators with
  | nil => rfl
  | cons o rest ih =>
    obtain ⟨name, argument⟩ := o
    rw [passes_cons, ih, all_cons]

theorem meets_eq_all {operators : Document} (h : isOperatorDocument operators = true) (x : Option Value) :
    meets (.document operators) x = all (fun o => passesOperator operators o.1 o.2 x) operators := by
  rw [meets_operators h, passes_eq_all]

end Filter

/-! ## Main result -/

open DocQuery.Filter in
/-- A predicate `column = v` compiles to the bare value.  A literal holds of exactly the documents whose value at
the path equals it; a pattern is found in a text there, and is an error when it is none; operators are tested from
the left.  The operator `eq` takes every value as a literal. -/
theorem Clause.equality_spec {column op : String} (hc : Expression.isOperatorName column = false)
    (ho : Operator.parse? op = some .equals) (k : Connective) (v : Value) (d : Document) :
    let c : Clause := ⟨k, .basic column op v⟩
    let value := Path.resolve d (Path.parse column)
    FilterDocument.ofPredicate c.predicate = .ok [(column, v)] ∧
      (isLiteral v = true → ∃ answer, Clause.test d c = .ok answer ∧ (answer = true ↔ Equals value v)) ∧
      (∀ p, v = .regex p →
        (∀ r, p.compile? = some r → ∃ answer, Clause.test d c = .ok answer ∧ (answer = true ↔ Found r value)) ∧
        (p.compile? = none → Clause.test d c = invalid ("bad regex /" ++ p.source ++ "/"))) ∧
      (∀ operators, v = .document operators → isOperatorDocument operators = true →
        Clause.test d c = all (fun o => passesOperator operators o.1 o.2 value) operators) ∧
      ∃ answer, Clause.test d ⟨k, .basic column "eq" v⟩ = .ok answer ∧ (answer = true ↔ Equals value v) := by
  intro c value
  have hf : FilterDocument.ofPredicate c.predicate = .ok [(column, v)] := by
    show FilterDocument.basic column op v = _
    rw [FilterDocument.basic, ho]
    rfl
  have htest : Clause.test d c = meets v value := by
    rw [Clause.test_of_compiles hf, accepts_column hc]
  have heq : Clause.test d ⟨k, .basic column "eq" v⟩ = .ok (equals value v) := by
    have hname : Operator.parse? "eq" = some (.native "eq") := by decide
    have hfilter : FilterDocument.ofPredicate (.basic column "eq" v) =
        .ok [(column, .document [("$eq", v)])] := by
      show FilterDocument.basic column "eq" v = _
      rw [FilterDocument.basic, hname]
      rfl
    rw [Clause.test_of_compiles hfilter, accepts_column hc, meets_eq_all rfl, all_singleton, passesOperator.eq_def]
    rfl
  refine ⟨hf, ?_, ?_, ?_, ⟨_, heq, equals_iff _ _⟩⟩
  · intro hv
    exact ⟨_, by rw [htest, meets_literal hv], equals_iff _ _⟩
  · rintro p rfl
    rw [htest]
    exact ⟨fun r hr => meets_regex hr value, fun hr => meets_bad_regex hr value⟩
  · rintro operators rfl hop
    rw [htest, meets_eq_all hop]

/-- A path that goes through an array gathers values, and one of them is equal. -/
theorem Clause.equality_spec_gathered :
    let d : Document := [("items", .array [.document [("name", .string "a")], .document [("name", .string "b")]])]
    Expression.isOperatorName "items.name" = false ∧ Operator.parse? "=" = some .equals ∧
      ∃ answer, Clause.test d ⟨.and, .basic "items.name" "=" (.string "b")⟩ = .ok answer ∧
        (answer = true ↔ Filter.Equals (some (.array [.string "a", .string "b"])) (.string "b")) :=
  ⟨by decide, by decide, (equality_spec (by decide) (by decide) .and (.string "b") _).2.1 rfl⟩

/-- Not every value is compared: operators and patterns hold of a document whose value does not equal them. -/
theorem Clause.equality_takes_operators :
    let d : Document := [("age", .int32 30), ("name", .string "ann")]
    let above : Value := .document [("$gt", .int32 18)]
    let pattern : Value := .regex ⟨"an", ""⟩
    Clause.test d ⟨.and, .basic "age" "=" above⟩ = .ok true ∧
      ¬ Filter.Equals (Path.resolve d (Path.parse "age")) above ∧
      Clause.test d ⟨.and, .basic "name" "=" pattern⟩ = .ok true ∧
      ¬ Filter.Equals (Path.resolve d (Path.parse "name")) pattern := by
  intro d above pattern
  refine ⟨rfl, ?_, rfl, ?_⟩
  · rw [← Filter.equals_iff]
    decide
  · rw [← Filter.equals_iff]
    decide

end DocQuery
