import DocQuery.Number.Double
import DocQuery.Value

/-!
# Values as numbers

Four kinds are numeric: 32-bit and 64-bit integers, doubles and decimals.  Decimals are carried but not
computed with, so they have neither a double nor an integer view.
-/

namespace DocQuery.Value

/-! ## Algorithm -/

def isNumeric : Value → Bool
  | int32 _ => true
  | int64 _ => true
  | double _ => true
  | decimal _ => true
  | _ => false

/-- A number as the nearest double. -/
def toFloat? : Value → Option Float
  | int32 n => some (Float.ofInt n.toInt)
  | int64 n => some (Double.ofInt64 n)
  | double x => some x
  | _ => none

/-- A number as a 64-bit integer; a finite double loses its fraction. -/
def toInt64? : Value → Option Int64
  | int32 n => some (Int64.ofInt n.toInt)
  | int64 n => some n
  | double x => if Double.isFinite x then some (Double.toInt64 x) else none
  | _ => none

/-- An integer in its narrowest kind. -/
def ofInt64 (n : Int64) : Value :=
  if Int32.minValue.toInt ≤ n.toInt ∧ n.toInt ≤ Int32.maxValue.toInt then int32 (Int32.ofInt n.toInt)
  else int64 n

/-- A count in its narrowest kind. -/
def ofCount (n : Nat) : Value := ofInt64 (Int64.ofInt n)

/-- What counts as true in conditions: all but null, undefined, false and the zeros. -/
def truthy : Value → Bool
  | null => false
  | undefined => false
  | boolean b => b
  | int32 n => n != 0
  | int64 n => n != 0
  | double x => !Double.equal x 0
  | _ => true

end DocQuery.Value
