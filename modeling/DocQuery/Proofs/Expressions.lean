import DocQuery.Proofs.Outcomes
import DocQuery.Store.Expression
import Mathlib.Tactic.SplitIfs

/-!
# Expressions, operator by operator

A document with one field whose name starts with `$` applies an operator, any other document is evaluated field by
field.  So evaluation is told by one equation for each kind of operator, over the parts that it evaluates:

    evaluate { $op: argument }   = applied "$op" argument, told without recursion    (evaluate_applied)
    evaluate { $op: argument }   = op on the operands of the argument               (evaluate_operator)
    evaluate { $part: argument } = the calendar field of the argument's date        (evaluate_dateField)
    evaluate [e, …]              = the values of the elements, from the left        (evaluate_array)
    evaluate { k: e, … }         = the document of the values of the fields         (evaluate_fields)
-/

namespace DocQuery.Expression

open Outcome

/-! ## Parts -/

/-- The operands of an argument: the elements of an array, or the one that it is. -/
def operands (argument : Value) (root : Document) : Outcome (List Value) :=
  match argument with
  | .array items => Outcome.traverse (fun e => evaluate e root) items
  | e => (evaluate e root).map fun v => [v]

/-- The expression of a date operand: a document may hold it in its field `date`, and an array of one element
stands for it. -/
def dateSource : Value → Value
  | .document d => (Document.get? d "date").getD (.document d)
  | .array [e] => e
  | e => e

theorem dateSource_string (s : String) : dateSource (.string s) = .string s := rfl

/-- A field with the value of its expression. -/
def evaluateField (root : Document) (f : String × Value) : Outcome (String × Value) :=
  (evaluate f.2 root).map fun v => (f.1, v)

theorem evaluateItems_eq (items : List Value) (root : Document) :
    evaluateItems items root = Outcome.traverse (fun e => evaluate e root) items := by
  induction items with
  | nil => rfl
  | cons e rest ih => rw [evaluateItems, Outcome.traverse, ih]

theorem evaluateFields_eq (fields : List (String × Value)) (root : Document) :
    evaluateFields fields root = Outcome.traverse (evaluateField root) fields := by
  induction fields with
  | nil => rfl
  | cons f rest ih =>
    obtain ⟨k, e⟩ := f
    rw [evaluateFields, Outcome.traverse, ih, evaluateField]
    cases evaluate e root <;> rfl

theorem evaluateAt_eq (name : String) (fields : List (String × Value)) (root : Document) :
    evaluateAt name fields root = (Document.get? fields name).map fun e => evaluate e root := by
  induction fields with
  | nil => rfl
  | cons f rest ih =>
    obtain ⟨k, e⟩ := f
    rw [evaluateAt, ih, Document.get?_cons]
    by_cases hk : k = name
    · rw [if_pos hk, if_pos hk]
      rfl
    · rw [if_neg hk, if_neg hk]

theorem dateOperandAt_eq (name : String) (fields : List (String × Value)) (root : Document) :
    dateOperandAt name fields root = (Document.get? fields name).map fun e => evaluate (dateSource e) root := by
  induction fields with
  | nil => rfl
  | cons f rest ih =>
    obtain ⟨k, e⟩ := f
    rw [dateOperandAt.eq_def, Document.get?_cons]
    by_cases hk : k = name
    · simp only [if_pos hk, Option.map_some]
      cases e with
      | document d =>
        simp only [evaluateAt_eq, dateSource]
        cases Document.get? d "date" <;> rfl
      | array items =>
        rcases items with _ | ⟨v, _ | ⟨w, later⟩⟩ <;> rfl
      | _ => rfl
    · simp only [if_neg hk]
      exact ih

/-! ## Equations -/

/-- A text that does not start with `$` stands for itself. -/
theorem evaluate_plainText {s : String} (h : isOperatorName s = false) (root : Document) :
    evaluate (.string s) root = .ok (.string s) := by
  show reference s root = _
  have hfirst : ∀ rest, s.toList ≠ '$' :: rest := by
    intro rest hs
    rw [isOperatorName, hs] at h
    cases h
  unfold reference
  rw [if_neg]
  · split
    · exact absurd (by assumption) (hfirst _)
    · exact absurd (by assumption) (hfirst _)
    · rfl
  · rintro (rfl | rfl)
    · exact hfirst _ rfl
    · exact hfirst _ rfl

/-- A column behind one `$` is the value at its path, or null. -/
theorem evaluate_columnPath {column : String} (h : isOperatorName column = false) (root : Document) :
    evaluate (.string ("$" ++ column)) root = .ok ((Path.resolve root (Path.parse column)).getD .null) := by
  show reference ("$" ++ column) root = _
  have htext : ("$" ++ column).toList = '$' :: column.toList := String.toList_append
  have hfirst : ∀ rest, column.toList ≠ '$' :: rest := by
    intro rest hs
    rw [isOperatorName, hs] at h
    cases h
  have hwhole : ∀ name : String, ("$" ++ column).toList ≠ '$' :: '$' :: name.toList := by
    intro name hs
    rw [htext] at hs
    exact hfirst _ (List.cons.inj hs).2
  unfold reference
  rw [if_neg, htext]
  · split
    · rename_i hs
      exact absurd (List.cons.inj hs).2 (hfirst _)
    · rename_i hs
      rw [← (List.cons.inj hs).2, String.ofList_toList]
    · rename_i hs
      exact absurd rfl (hs _)
  · rintro (hs | hs)
    · exact hwhole "ROOT" (congrArg String.toList hs)
    · exact hwhole "CURRENT" (congrArg String.toList hs)

theorem evaluate_array (items : List Value) (root : Document) :
    evaluate (.array items) root = (Outcome.traverse (fun e => evaluate e root) items).map .array := by
  rw [← evaluateItems_eq]
  rfl

/-- A document that applies no operator is evaluated field by field. -/
theorem evaluate_fields {d : Document} (h : ∀ name argument, d = [(name, argument)] → isOperatorName name = false)
    (root : Document) :
    evaluate (.document d) root = (Outcome.traverse (evaluateField root) d).map .document := by
  match d with
  | [] => rfl
  | [(name, argument)] =>
    rw [evaluate.eq_def, Outcome.traverse, evaluateField]
    simp only [h name argument rfl]
    cases evaluate argument root <;> rfl
  | f :: g :: rest =>
    rw [← evaluateFields_eq]
    rfl

/-! ## Operators -/

/-- The branch that a condition takes. -/
def choose (c t e : Value) (root : Document) : Outcome Value := do
  if (← evaluate c root).truthy then evaluate t root else evaluate e root

/-- The value of a conditional: an array of its three parts, or a document of them. -/
def conditional (argument : Value) (root : Document) : Outcome Value :=
  match argument with
  | .array [c, t, e] => choose c t e root
  | .document d =>
    match Document.get? d "if", Document.get? d "then", Document.get? d "else" with
    | some c, some t, some e => choose c t e root
    | _, _, _ => Outcome.invalid "$cond needs if, then and else"
  | _ => Outcome.invalid "$cond needs three arguments"

/-- A date written by its format. -/
def renderedDate (argument : Value) (root : Document) : Outcome Value :=
  match argument with
  | .document spec => do
    let format ← formatOf spec
    match Document.get? spec "date" with
    | some date => do
      let v ← evaluate (dateSource date) root
      dateText format ((Document.get? spec "onNull").getD .null) v
    | none => Outcome.invalid "$dateToString needs a date"
  | _ => Outcome.invalid "$dateToString needs a document"

/-- The value of an operator on its argument. -/
def applied (name : String) (argument : Value) (root : Document) : Outcome Value :=
  if name = "$literal" then .ok argument
  else if name = "$cond" then conditional argument root
  else if name = "$dateToString" then renderedDate argument root
  else
    match DateFormat.field? name with
    | some field => evaluate (dateSource argument) root >>= dateField name field
    | none =>
      match operator? name with
      | some op => operands argument root >>= op.apply name
      | none => Outcome.unsupported name

theorem evaluate_applied {name : String} (h : isOperatorName name = true) (argument : Value) (root : Document) :
    evaluate (.document [(name, argument)]) root = applied name argument root := by
  rw [evaluate.eq_def, applied]
  simp only [h, if_true]
  split_ifs with hliteral hcond htext
  · rfl
  · cases argument with
    | document d =>
      simp only [conditional, choose, evaluateAt_eq]
      cases Document.get? d "if" <;> cases Document.get? d "then" <;> cases Document.get? d "else" <;> rfl
    | array items =>
      rcases items with _ | ⟨c, _ | ⟨t, _ | ⟨e, _ | ⟨more, later⟩⟩⟩⟩ <;> rfl
    | _ => rfl
  · cases argument with
    | document spec =>
      simp only [renderedDate, dateOperandAt_eq]
      cases Document.get? spec "date" <;> rfl
    | _ => rfl
  · cases DateFormat.field? name with
    | some field =>
      cases argument with
      | document d =>
        simp only [evaluateAt_eq, dateSource]
        cases Document.get? d "date" <;> rfl
      | array items =>
        rcases items with _ | ⟨v, _ | ⟨w, later⟩⟩ <;> rfl
      | _ => rfl
    | none =>
      cases operator? name with
      | some op =>
        cases argument with
        | array items => simp only [operands, evaluateItems_eq]
        | _ => rfl
      | none => rfl

/-- An operator that evaluates all its operands. -/
theorem evaluate_operator {name : String} {op : Operator} (h : operator? name = some op) (argument : Value)
    (root : Document) : evaluate (.document [(name, argument)]) root = operands argument root >>= op.apply name := by
  have hname : isOperatorName name = true ∧ name ≠ "$literal" ∧ name ≠ "$cond" ∧ name ≠ "$dateToString" ∧
      DateFormat.field? name = none := by
    rw [operator?.eq_def] at h
    split at h <;> first | exact ⟨rfl, by decide, by decide, by decide, rfl⟩ | cases h
  obtain ⟨hop, hliteral, hcond, htext, hfield⟩ := hname
  rw [evaluate_applied hop, applied, if_neg hliteral, if_neg hcond, if_neg htext, hfield, h]

/-- An operator that takes a field of a date. -/
theorem evaluate_dateField {name : String} {field : Int → Int} (h : DateFormat.field? name = some field)
    (argument : Value) (root : Document) :
    evaluate (.document [(name, argument)]) root = evaluate (dateSource argument) root >>= dateField name field := by
  have hname : isOperatorName name = true ∧ name ≠ "$literal" ∧ name ≠ "$cond" ∧ name ≠ "$dateToString" := by
    rw [DateFormat.field?.eq_def] at h
    split at h <;> first | exact ⟨rfl, by decide, by decide, by decide⟩ | cases h
  obtain ⟨hop, hliteral, hcond, htext⟩ := hname
  rw [evaluate_applied hop, applied, if_neg hliteral, if_neg hcond, if_neg htext, h]

/-- A date written by a format. -/
theorem evaluate_dateToString {spec : Document} {format : String} (hf : formatOf spec = .ok format) {date : Value}
    (hd : Document.get? spec "date" = some date) (root : Document) :
    evaluate (.document [("$dateToString", .document spec)]) root =
      evaluate (dateSource date) root >>= dateText format ((Document.get? spec "onNull").getD .null) := by
  rw [evaluate_applied rfl, applied, if_neg (by decide), if_neg (by decide), if_pos rfl]
  simp only [renderedDate, hf, hd]
  rfl

end DocQuery.Expression
