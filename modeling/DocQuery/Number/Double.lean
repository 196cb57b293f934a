/-!
# Doubles as exact numbers

A double is read off its 64 bits: a sign, an exponent and a significand, so that

    value = (-1)^sign * significand * 2^scale        (finite doubles)

Everything here is integer arithmetic on that reading.  `position?` maps the ordered doubles onto the
integers and keeps their order (`-0.0` and `0.0` share the position 0, a NaN has none), so equality and
order of doubles are equality and order of integers.
-/

namespace DocQuery.Double

/-! ## Algorithm -/

/-- The 63 bits below the sign: exponent and fraction. -/
def magnitude (x : Float) : Nat := x.toBits.toNat % Nat.pow 2 63

/-- The magnitude of the infinities; every larger one is a NaN. -/
def infinityMagnitude : Nat := 2047 * Nat.pow 2 52

def isNegative (x : Float) : Bool := Nat.pow 2 63 ≤ x.toBits.toNat

def isNaN (x : Float) : Bool := infinityMagnitude < magnitude x

def isFinite (x : Float) : Bool := magnitude x < infinityMagnitude

/-- The place of a double on the number line, counted in representable values from zero. -/
def position? (x : Float) : Option Int :=
  if isNaN x then none
  else if isNegative x then some (-(magnitude x : Int)) else some (magnitude x)

/-- The order of two doubles; none when one of them is a NaN. -/
def compare? (x y : Float) : Option Ordering :=
  match position? x, position? y with
  | some a, some b => some (compare a b)
  | _, _ => none

/-- Numeric equality: the two zeros are equal and a NaN equals nothing. -/
def equal (x y : Float) : Bool :=
  match position? x, position? y with
  | some a, some b => a == b
  | _, _ => false

/-- The significand of a finite double, with the leading bit of a normal one. -/
def significand (x : Float) : Nat :=
  if magnitude x < Nat.pow 2 52 then magnitude x else Nat.pow 2 52 + magnitude x % Nat.pow 2 52

/-- The power of two that the significand is multiplied by. -/
def scale (x : Float) : Int :=
  if magnitude x < Nat.pow 2 52 then -1074 else (magnitude x / Nat.pow 2 52 : Nat) - 1075

/-- The integer part of the absolute value of a finite double. -/
def absIntegerPart (x : Float) : Nat :=
  match scale x with
  | .ofNat e => significand x * Nat.pow 2 e
  | .negSucc e => significand x / Nat.pow 2 (e + 1)

/-- A finite double without its fraction. -/
def integerPart (x : Float) : Int :=
  if isNegative x then -(absIntegerPart x : Int) else absIntegerPart x

/-- Finite and without a fraction. -/
def isIntegral (x : Float) : Bool :=
  isFinite x && match scale x with
    | .ofNat _ => true
    | .negSucc e => significand x % Nat.pow 2 (e + 1) == 0

/-- The nearest integer that 64 bits hold. -/
def saturate (n : Int) : Int64 :=
  if n < Int64.minValue.toInt then Int64.minValue
  else if Int64.maxValue.toInt < n then Int64.maxValue
  else Int64.ofInt n

/-- The integer part within 64 bits: values beyond the range go to its ends, a NaN to 0. -/
def toInt64 (x : Float) : Int64 :=
  if isNaN x then 0
  else if isFinite x then saturate (integerPart x)
  else if isNegative x then Int64.minValue else Int64.maxValue

/-- The double nearest to an integer. -/
def ofInt64 (n : Int64) : Float := Float.ofInt n.toInt

/-- Bit patterns of the doubles no number stands for. -/
def nan : Float := Float.ofBits 0x7ff8000000000000

def negativeZero : Float := Float.ofBits 0x8000000000000000

/-- The double `(-1)^negative * m * 2^e` for a product that is exactly a double: `m < 2^53`, `-1074 ≤ e`. -/
def ofParts (negative : Bool) (m : Nat) (e : Int) : Float :=
  let shift := min (53 - (if m = 0 then 0 else Nat.log2 m + 1)) (e + 1074).toNat
  let full := m * Nat.pow 2 shift
  let exponent := (e + 1075 - shift).toNat
  let body := if full < Nat.pow 2 52 then full else exponent * Nat.pow 2 52 + (full - Nat.pow 2 52)
  Float.ofBits (body + (if negative then Nat.pow 2 63 else 0)).toUInt64

/-- The remainder of the division that rounds toward zero: exact, with the sign of the dividend. -/
def remainder (x y : Float) : Float :=
  if isNaN x || isNaN y || !isFinite x || magnitude y == 0 then nan
  else if !isFinite y then x
  else
    let e := min (scale x) (scale y)
    let a := significand x * Nat.pow 2 (scale x - e).toNat
    let b := significand y * Nat.pow 2 (scale y - e).toNat
    ofParts (isNegative x) (a % b) e

/-- The sum of a list of doubles, from the left; nothing adds up to `-0.0`, the unit of addition. -/
def sum (xs : List Float) : Float := xs.foldl (· + ·) negativeZero

/-- The product of a list of doubles, from the left. -/
def product (xs : List Float) : Float := xs.foldl (· * ·) 1.0

/-! ## Lemmas -/

/-- Two doubles are equal exactly when both have one and the same position. -/
theorem equal_iff (x y : Float) :
    equal x y = true ↔ ∃ p, position? x = some p ∧ position? y = some p := by
  unfold equal
  cases position? x <;> cases position? y <;> simp
  exact eq_comm

theorem equal_comm (x y : Float) : equal x y = equal y x := by
  unfold equal
  cases position? x <;> cases position? y <;> simp [BEq.comm]

end DocQuery.Double
