import DocQuery.Store.Error
import DocQuery.Text.Case
import DocQuery.Value.Display
import DocQuery.Value.Kind
import DocQuery.Value.Order

/-!
# Arithmetic on values

Integers stay integers as long as the exact result fits into 64 bits and no double takes part; otherwise the
result is the double of the same operation on doubles:

    add [2, 3] = 5      add [2, 0.5] = 2.5      add [2^63 - 1, 1] = 9.223372036854775808e18

Null and undefined operands of a sum or a product make it null.  Adding a number to a date, or taking it off,
moves the date by that many milliseconds.
-/

namespace DocQuery.Arithmetic

open Value

/-! ## Algorithm -/

/-- Refuses a value that is no number. -/
def requireNumber (op : String) (v : Value) : Outcome Unit :=
  if v.isNumeric then .ok ()
  else Outcome.mismatch (op ++ " only supports numeric types, got " ++ v.shortName)

/-- An integer, when 64 bits hold it. -/
def fit? (n : Int) : Option Int64 :=
  if Int64.minValue.toInt ≤ n ∧ n ≤ Int64.maxValue.toInt then some (Int64.ofInt n) else none

/-- The operation from the left over the integer views, as long as every step fits. -/
def foldInt? (f : Int → Int → Int) (start : Int64) : List Value → Option Int64
  | [] => some start
  | v :: rest =>
    match v.toInt64? with
    | some n =>
      match fit? (f start.toInt n.toInt) with
      | some next => foldInt? f next rest
      | none => none
    | none => none

/-- The integer result where there is one and no operand is a double, else the double. -/
def numericResult (operands : List Value) (whole : Option Int64) (real : Float) : Value :=
  match whole with
  | some n => if operands.any isDouble then .double real else .ofInt64 n
  | none => .double real

/-- The numbers of a sum and its date, when it has one. -/
def splitDate (date : Option Int64) : List Value → Outcome (Option Int64 × List Value)
  | [] => .ok (date, [])
  | .dateTime millis :: rest =>
    match date with
    | none => splitDate (some millis) rest
    | some _ => Outcome.mismatch "$add allows only one date"
  | v :: rest => do
    requireNumber "$add" v
    let (date, numbers) ← splitDate date rest
    pure (date, v :: numbers)

def add (operands : List Value) : Outcome Value :=
  if operands.any isNothing then .ok .null
  else do
    let (date, numbers) ← splitDate none operands
    let real := Double.sum (numbers.filterMap toFloat?)
    match date with
    | some millis => (Outcome.checked (millis.toInt + (Double.toInt64 real).toInt)).map .dateTime
    | none => pure (numericResult numbers (foldInt? (· + ·) 0 numbers) real)

def subtract (a b : Value) : Outcome Value :=
  match a, b with
  | .null, _ => .ok .null
  | _, .null => .ok .null
  | .dateTime x, .dateTime y => (Outcome.checked (x.toInt - y.toInt)).map .int64
  | a, b => do
    match a, b.isNumeric with
    | .dateTime x, true =>
      (Outcome.checked (x.toInt - (Double.toInt64 (b.toFloat?.getD 0)).toInt)).map .dateTime
    | _, _ =>
      requireNumber "$subtract" a
      requireNumber "$subtract" b
      let whole := match a.toInt64?, b.toInt64? with
        | some x, some y => fit? (x.toInt - y.toInt)
        | _, _ => none
      pure (numericResult [a, b] whole (a.toFloat?.getD 0 - b.toFloat?.getD 0))

def multiply (operands : List Value) : Outcome Value :=
  if operands.any isNothing then .ok .null
  else do
    let _ ← Outcome.traverse (requireNumber "$multiply") operands
    pure (numericResult operands (foldInt? (· * ·) 1 operands) (Double.product (operands.filterMap toFloat?)))

def divide (a b : Value) : Outcome Value :=
  if a.isNull || b.isNull then .ok .null
  else do
    requireNumber "$divide" a
    requireNumber "$divide" b
    let divisor := b.toFloat?.getD 0
    if Double.equal divisor 0 then Outcome.invalid "can't $divide by zero"
    else pure (.double (a.toFloat?.getD 0 / divisor))

/-- The remainder with the sign of the dividend; it leaves 64 bits only where the quotient does. -/
def integerRemainder (a b : Int64) : Outcome Int64 :=
  if a = Int64.minValue ∧ b = -1 then .error .overflow else .ok (Int64.ofInt (a.toInt.tmod b.toInt))

def modulo (a b : Value) : Outcome Value :=
  if a.isNull || b.isNull then .ok .null
  else do
    requireNumber "$mod" a
    requireNumber "$mod" b
    let real := Value.double (Double.remainder (a.toFloat?.getD 0) (b.toFloat?.getD 1))
    match a.toInt64?, b.toInt64? with
    | _, some 0 => Outcome.invalid "can't $mod by zero"
    | some x, some y =>
      if a.isDouble || b.isDouble then pure real else (integerRemainder x y).map .ofInt64
    | _, _ => pure real

/-- The first value that no later one exceeds in the wanted direction; null and undefined do not count. -/
def extreme (wanted : Ordering) (values : List Value) : Value :=
  ((values.filter fun v => !v.isNothing).foldl
    (fun best v => match best with
      | some b => if Value.compare v b == wanted then some v else some b
      | none => some v) none).getD .null

/-- The sum of the numbers among the values, in the narrowest kind that holds it. -/
def total (values : List Value) : Value :=
  let numbers := values.filter isNumeric
  numericResult numbers (foldInt? (· + ·) 0 numbers) (Double.sum (numbers.filterMap toFloat?))

/-- The mean of the numbers that have a double, or null. -/
def mean (values : List Value) : Value :=
  match values.filterMap toFloat? with
  | [] => .null
  | numbers => .double (Double.sum numbers / Float.ofNat numbers.length)

/-- The values in order, each that equals an earlier one left out. -/
def distinct (values : List Value) : List Value :=
  (values.foldl (fun kept v => if kept.any (fun w => equal w v) then kept else v :: kept) []).reverse

/-! ## Texts -/

def concat : List Value → Outcome String
  | [] => .ok ""
  | .string s :: rest => (concat rest).map (s ++ ·)
  | v :: _ => Outcome.mismatch ("$concat only supports strings, got " ++ v.shortName)

/-- The texts one after the other; null where null or undefined comes before anything that is no text. -/
def concatOrNull (values : List Value) : Outcome Value :=
  match values.find? fun v => match v with
    | .string _ => false
    | _ => true with
  | some v => if v.isNothing then .ok .null else (concat values).map .string
  | none => (concat values).map .string

/-- A text in upper or lower case; numbers as messages write them. -/
def changeCase (op : String) (change : List Char → List Char) (v : Value) : Outcome Value :=
  let changed (s : String) : Value := .string (String.ofList (change s.toList))
  match v with
  | .null => .ok (changed "")
  | .undefined => .ok (changed "")
  | .string s => .ok (changed s)
  | v =>
    if v.isNumeric then .ok (changed v.display)
    else Outcome.mismatch (op ++ " needs a string, got " ++ v.shortName)

end DocQuery.Arithmetic
