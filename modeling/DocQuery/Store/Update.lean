import DocQuery.Store.Filter

/-!
# Updates

An update is a document of operators, each with the fields it changes:

    { $set: { a: 1 }, $inc: { n: 2 }, $push: { tags: "x" } }

The changes are made one after the other, from the left, on a copy; a failure leaves nothing behind, and an
update that ends where it began counts as none.
-/

namespace DocQuery.Update

/-! ## Operators -/

inductive Operator where
  | set
  | unset
  | increment
  | push (unique : Bool)
  | pull
  | pullAll
  deriving DecidableEq, Repr

def operator? (name : String) : Option Operator :=
  match name with
  | "$set" => some .set
  | "$unset" => some .unset
  | "$inc" => some .increment
  | "$push" => some (.push false)
  | "$addToSet" => some (.push true)
  | "$pull" => some .pull
  | "$pullAll" => some .pullAll
  | _ => none

/-- The sum of a number and an amount: an integer where both are and 64 bits hold it, else a double. -/
def incremented (current amount : Value) : Value :=
  let real := Value.double (current.toFloat?.getD 0 + amount.toFloat?.getD 0)
  if current.isDouble || amount.isDouble then real
  else
    match current.toInt64?, amount.toInt64? with
    | some a, some b =>
      match Arithmetic.fit? (a.toInt + b.toInt) with
      | some n => .ofInt64 n
      | none => real
    | _, _ => real

/-- Adds an amount to the number at a path; a missing number counts as none yet. -/
def increment (d : Document) (path : String) (amount : Value) : Outcome Document := do
  if !amount.isNumeric then Outcome.mismatch ("$inc on '" ++ path ++ "' needs a numeric amount")
  let next ← match Path.resolve d (Path.parse path) with
    | none => pure amount
    | some .null => pure amount
    | some current =>
      if current.isNumeric then pure (incremented current amount)
      else Outcome.mismatch ("cannot $inc non-numeric field '" ++ path ++ "'")
  Outcome.lift (Path.set d (Path.parse path) next)

/-- The elements at a path; a missing array has none. -/
def elementsAt (d : Document) (path : String) : Outcome (List Value) :=
  match Path.resolve d (Path.parse path) with
  | none => .ok []
  | some .null => .ok []
  | some (.array items) => .ok items
  | some _ => Outcome.mismatch ("field '" ++ path ++ "' is not an array")

/-- The values to append: those of `$each`, or the one that the argument is. -/
def appended (argument : Value) : Outcome (List Value) :=
  match argument with
  | .document spec =>
    match Document.get? spec "$each" with
    | some (.array items) => .ok items
    | some _ => Outcome.invalid "$each needs an array"
    | none => .ok [argument]
  | _ => .ok [argument]

/-- Appends the values that are equal to none before them. -/
def appendNew (items : List Value) : List Value → List Value
  | [] => items
  | v :: rest =>
    if items.any fun w => Value.equal w v then appendNew items rest else appendNew (items ++ [v]) rest

def push (unique : Bool) (d : Document) (path : String) (argument : Value) : Outcome Document := do
  let values ← appended argument
  let items ← elementsAt d path
  Outcome.lift (Path.set d (Path.parse path)
    (.array (if unique then appendNew items values else items ++ values)))

/-- Whether an element is to go: a document without operators is a filter on embedded documents, one with
operators a condition, and any other value one to be equal to. -/
def isPulled (argument item : Value) : Outcome Bool :=
  match argument with
  | .document condition =>
    if Filter.isOperatorDocument condition then Filter.meets argument (some item)
    else
      match item with
      | .document embedded => Filter.accepts condition embedded
      | _ => .ok false
  | target => .ok (Filter.equals (some item) target)

def pull (d : Document) (path : String) (argument : Value) : Outcome Document :=
  if (Path.resolve d (Path.parse path)).isNone then .ok d
  else do
    let items ← elementsAt d path
    let kept ← Outcome.keep (fun item => (isPulled argument item).map (!·)) items
    Outcome.lift (Path.set d (Path.parse path) (.array kept))

def pullAll (d : Document) (path : String) (argument : Value) : Outcome Document :=
  match argument with
  | .array values =>
    if (Path.resolve d (Path.parse path)).isNone then .ok d
    else do
      let items ← elementsAt d path
      let kept := items.filter fun item => !values.any fun v => Value.equal item v
      Outcome.lift (Path.set d (Path.parse path) (.array kept))
  | _ => Outcome.invalid "$pullAll needs an array"

def Operator.apply (op : Operator) (d : Document) (path : String) (argument : Value) : Outcome Document :=
  match op with
  | set => Outcome.lift (Path.set d (Path.parse path) argument)
  | unset => .ok ((Path.unset? d (Path.parse path)).getD d)
  | increment => Update.increment d path argument
  | push unique => Update.push unique d path argument
  | pull => Update.pull d path argument
  | pullAll => Update.pullAll d path argument

/-! ## Whole updates -/

/-- Changes one field; the identifier never changes. -/
def applyField (name : String) (d : Document) : String × Value → Outcome Document
  | (path, argument) =>
    if (Path.parse path).head = "_id" then Outcome.invalid "the _id field is immutable"
    else
      match operator? name with
      | some op => op.apply d path argument
      | none =>
        if Expression.isOperatorName name then Outcome.unsupported name
        else Outcome.invalid "update documents may only contain operators"

/-- Changes the fields of one operator. -/
def applyOperator (d : Document) : String × Value → Outcome Document
  | (name, .document fields) => fields.foldlM (applyField name) d
  | (name, _) => Outcome.invalid (name ++ " needs a document")

/-- The changed document; none when it is the same as before. -/
def changed? (d update : Document) : Outcome (Option Document) :=
  if update.isEmpty then Outcome.invalid "update document is empty"
  else do
    let out ← update.foldlM applyOperator d
    pure (if Value.sameDocument out d then none else some out)

end DocQuery.Update
