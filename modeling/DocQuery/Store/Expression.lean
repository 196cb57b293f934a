import DocQuery.Path
import DocQuery.Store.Arithmetic
import DocQuery.Store.DateFormat

/-!
# Expressions

An expression is a value that stands for another one, given a document:

    "$a.b"              the value at the path, or null
    { $op: argument }   the operator applied to its operands
    [e, …]  { k: e, … } the array or document of the values of its parts
    anything else       itself

An operator takes its operands from an array, or the one operand that its argument is.
-/

namespace DocQuery.Expression

/-! ## Operators on evaluated operands -/

/-- Operators that evaluate all their operands first. -/
inductive Operator where
  | add
  | subtract
  | multiply
  | divide
  | modulo
  | maximum
  | minimum
  | comparison (holds : Ordering → Value)
  | conjunction
  | disjunction
  | negation
  | concatenation
  | lowerCase
  | upperCase
  | firstGiven
  | size

def test (p : Ordering → Bool) (o : Ordering) : Value := .boolean (p o)

def signOf : Ordering → Value
  | .lt => .int32 (-1)
  | .eq => .int32 0
  | .gt => .int32 1

def operator? (name : String) : Option Operator :=
  match name with
  | "$add" => some .add
  | "$subtract" => some .subtract
  | "$multiply" => some .multiply
  | "$divide" => some .divide
  | "$mod" => some .modulo
  | "$max" => some .maximum
  | "$min" => some .minimum
  | "$cmp" => some (.comparison signOf)
  | "$eq" => some (.comparison (test Ordering.isEq))
  | "$ne" => some (.comparison (test Ordering.isNe))
  | "$gt" => some (.comparison (test Ordering.isGT))
  | "$gte" => some (.comparison (test Ordering.isGE))
  | "$lt" => some (.comparison (test Ordering.isLT))
  | "$lte" => some (.comparison (test Ordering.isLE))
  | "$and" => some .conjunction
  | "$or" => some .disjunction
  | "$not" => some .negation
  | "$concat" => some .concatenation
  | "$toLower" => some .lowerCase
  | "$toUpper" => some .upperCase
  | "$ifNull" => some .firstGiven
  | "$size" => some .size
  | _ => none

/-- Too many or too few operands. -/
def wrongCount (name : String) (wanted : Nat) (operands : List Value) : Outcome Value :=
  Outcome.invalid (name ++ " takes " ++ Numeral.ofNat wanted ++ " arguments, got "
    ++ Numeral.ofNat operands.length)

def unary (name : String) (f : Value → Outcome Value) : List Value → Outcome Value
  | [a] => f a
  | operands => wrongCount name 1 operands

def binary (name : String) (f : Value → Value → Outcome Value) : List Value → Outcome Value
  | [a, b] => f a b
  | operands => wrongCount name 2 operands

/-- A single array as the operand stands for its elements. -/
def spread : List Value → List Value
  | [.array items] => items
  | operands => operands

/-- The first operand that is given; the last one when none is. -/
def firstGivenOf (operands : List Value) : Value :=
  match operands.find? fun v => !v.isNothing with
  | some v => v
  | none => operands.getLast?.getD .null

def sizeOf : Value → Outcome Value
  | .array items => .ok (.ofCount items.length)
  | v => Outcome.mismatch ("$size needs an array, got " ++ v.shortName)

/-- The value of an operator, named `name`, on its operands. -/
def Operator.apply (name : String) : Operator → List Value → Outcome Value
  | .add => Arithmetic.add
  | .subtract => binary name Arithmetic.subtract
  | .multiply => Arithmetic.multiply
  | .divide => binary name Arithmetic.divide
  | .modulo => binary name Arithmetic.modulo
  | .maximum => fun vs => .ok (Arithmetic.extreme .gt (spread vs))
  | .minimum => fun vs => .ok (Arithmetic.extreme .lt (spread vs))
  | .comparison holds => binary name fun a b => .ok (holds (Value.compare a b))
  | .conjunction => fun vs => .ok (.boolean (vs.all Value.truthy))
  | .disjunction => fun vs => .ok (.boolean (vs.any Value.truthy))
  | .negation => unary name fun v => .ok (.boolean !v.truthy)
  | .concatenation => Arithmetic.concatOrNull
  | .lowerCase => unary name (Arithmetic.changeCase name Case.lower)
  | .upperCase => unary name (Arithmetic.changeCase name Case.upper)
  | .firstGiven => fun vs => .ok (firstGivenOf vs)
  | .size => unary name sizeOf

/-! ## Field references -/

/-- The value of a text: a field of the document behind one `$`, the whole document for `$$ROOT` and
`$$CURRENT`, and the text itself otherwise. -/
def reference (s : String) (root : Document) : Outcome Value :=
  if s = "$$ROOT" ∨ s = "$$CURRENT" then .ok (.document root)
  else
    match s.toList with
    | '$' :: '$' :: _ => Outcome.unsupported s
    | '$' :: path => .ok ((Path.resolve root (Path.parse (String.ofList path))).getD .null)
    | _ => .ok (.string s)

def isOperatorName (name : String) : Bool := name.toList.head? == some '$'

/-! ## Dates -/

/-- The calendar field of a value's instant; null where there is none. -/
def dateField (op : String) (field : Int → Int) (v : Value) : Outcome Value := do
  match ← DateFormat.instant? op v with
  | some t => pure (.ofInt64 (Int64.ofInt (field t)))
  | none => pure .null

/-- The text of a value's instant; `otherwise` where there is none. -/
def dateText (format : String) (otherwise v : Value) : Outcome Value := do
  match ← DateFormat.instant? "$dateToString" v with
  | some t => (DateFormat.format t format.toList).map .string
  | none => pure otherwise

/-- The format that a rendering gives. -/
def formatOf (spec : Document) : Outcome String :=
  match spec.get? "format" with
  | some (.string f) => .ok f
  | none => .ok DateFormat.defaultFormat
  | some _ => Outcome.invalid "$dateToString format must be a string"

/-! ## Evaluation -/

mutual

/-- The value of an expression on a document. -/
def evaluate : Value → Document → Outcome Value
  | .string s, root => reference s root
  | .array items, root => (evaluateItems items root).map .array
  | .document [(name, argument)], root =>
    let whole := fun (_ : Unit) => evaluate argument root
    if isOperatorName name then
      if name = "$literal" then .ok argument
      else if name = "$cond" then
        match argument with
        | .array [c, t, e] => do
          if (← evaluate c root).truthy then evaluate t root else evaluate e root
        | .document d =>
          match evaluateAt "if" d root, evaluateAt "then" d root, evaluateAt "else" d root with
          | some c, some t, some e => do if (← c).truthy then t else e
          | _, _, _ => Outcome.invalid "$cond needs if, then and else"
        | _ => Outcome.invalid "$cond needs three arguments"
      else if name = "$dateToString" then
        match argument with
        | .document spec => do
          let format ← formatOf spec
          match dateOperandAt "date" spec root with
          | some date => dateText format ((Document.get? spec "onNull").getD .null) (← date)
          | none => Outcome.invalid "$dateToString needs a date"
        | _ => Outcome.invalid "$dateToString needs a document"
      else
        match DateFormat.field? name with
        | some field => do
          let date ← match argument with
            | .document d =>
              match evaluateAt "date" d root with
              | some date => date
              | none => whole ()
            | .array [v] => evaluate v root
            | _ => whole ()
          dateField name field date
        | none =>
          match operator? name with
          | some op => do
            let operands ← match argument with
              | .array items => evaluateItems items root
              | _ => (whole ()).map fun v => [v]
            op.apply name operands
          | none => Outcome.unsupported name
    else do
      let v ← whole ()
      pure (.document [(name, v)])
  | .document fields, root => (evaluateFields fields root).map .document
  | literal, _ => .ok literal
termination_by structural e => e

def evaluateItems : List Value → Document → Outcome (List Value)
  | [], _ => .ok []
  | e :: rest, root => do
    let v ← evaluate e root
    let vs ← evaluateItems rest root
    pure (v :: vs)
termination_by structural es => es

def evaluateFields : List (String × Value) → Document → Outcome (List (String × Value))
  | [], _ => .ok []
  | (k, e) :: rest, root => do
    let v ← evaluate e root
    let vs ← evaluateFields rest root
    pure ((k, v) :: vs)
termination_by structural fs => fs

/-- The value of the field of that name, when there is one. -/
def evaluateAt (name : String) : List (String × Value) → Document → Option (Outcome Value)
  | [], _ => none
  | (k, e) :: rest, root => if k = name then some (evaluate e root) else evaluateAt name rest root
termination_by structural fs => fs

/-- The value of the field of that name as the operand of a date operator: a document may hold the date in its
field `date`, and an array of one element stands for it. -/
def dateOperandAt (name : String) : List (String × Value) → Document → Option (Outcome Value)
  | [], _ => none
  | (k, e) :: rest, root =>
    let whole := fun (_ : Unit) => evaluate e root
    if k = name then
      some (match e with
        | .document d =>
          match evaluateAt "date" d root with
          | some date => date
          | none => whole ()
        | .array [v] => evaluate v root
        | _ => whole ())
    else dateOperandAt name rest root
termination_by structural fs => fs

end

end DocQuery.Expression
