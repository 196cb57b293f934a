import DocQuery.Number.Numeral
import DocQuery.Value

/-!
# Text of a 128-bit decimal

The encoding holds a sign, an exponent biased by 6176 and a coefficient of up to 34 digits:

    bit 127 sign, then the combination: 11111 NaN, 11110 infinity,
    11… the wide exponent (its coefficient is out of range and counts as 0), else 14 bits of exponent

The text is positional for an exponent of at most zero and a value of at least `1E-6`, otherwise one digit,
point, other digits and a signed exponent.
-/

namespace DocQuery.Decimal

/-! ## Algorithm -/

inductive Reading where
  | nan
  | infinity (negative : Bool)
  | finite (negative : Bool) (coefficient : Nat) (exponent : Int)
  deriving DecidableEq, Repr

def maxCoefficient : Nat := Nat.pow 10 34 - 1

def exponentBias : Int := 6176

/-- What an encoding stands for. -/
def read (d : Decimal) : Reading :=
  let n := d.bits.toNat
  let negative := n / Nat.pow 2 127 == 1
  let combination := n / Nat.pow 2 122 % 32
  if combination = 31 then .nan
  else if combination = 30 then .infinity negative
  else if combination / 8 = 3 then .finite negative 0 ((n / Nat.pow 2 111 % Nat.pow 2 14 : Nat) - exponentBias)
  else
    let c := n % Nat.pow 2 113
    .finite negative (if maxCoefficient < c then 0 else c) ((n / Nat.pow 2 113 % Nat.pow 2 14 : Nat) - exponentBias)

/-- The text of a coefficient with an exponent. -/
def finiteText (coefficient : Nat) (exponent : Int) : List Char :=
  let ds := Numeral.digits coefficient
  let lead := exponent + ds.length - 1
  if exponent ≤ 0 ∧ -6 ≤ lead then
    let places := exponent.natAbs
    if places = 0 then ds
    else if ds.length ≤ places then '0' :: '.' :: (List.replicate (places - ds.length) '0' ++ ds)
    else ds.take (ds.length - places) ++ '.' :: ds.drop (ds.length - places)
  else
    let mantissa := match ds with
      | first :: second :: rest => first :: '.' :: second :: rest
      | _ => ds
    mantissa ++ 'E' :: (if 0 < lead then ['+'] else if lead < 0 then ['-'] else []) ++
      Numeral.digits lead.natAbs

/-- The text of a decimal; a NaN is written without its sign. -/
def write (d : Decimal) : String :=
  match read d with
  | .nan => "NaN"
  | .infinity negative => if negative then "-Infinity" else "Infinity"
  | .finite negative c e => (if negative then "-" else "") ++ String.ofList (finiteText c e)

/-! ## Bytes -/

/-- The decimal of sixteen bytes, the lowest first. -/
def ofBytes (bytes : List UInt8) : Decimal :=
  ⟨BitVec.ofNat 128 (bytes.foldr (fun b n => n * 256 + b.toNat) 0)⟩

/-- The sixteen bytes, the lowest first. -/
def toBytes (d : Decimal) : List UInt8 := (List.range 16).map fun i => UInt8.ofNat (d.bits.toNat / Nat.pow 256 i)

end DocQuery.Decimal
