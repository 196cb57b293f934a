/-!
# Decimal numerals

Reading of whole numbers as texts write them: a sign where the type has one, then digits only.

    natural? cs   = some n    exactly when cs is one or more digits; n is their value
    unsigned? b s = some n    for an optional plus and digits of a value below b
    signed64? s   = some n    for an optional sign and digits of a value within 64 bits
-/

namespace DocQuery.Numeral

def isDigit (c : Char) : Bool := '0' ≤ c && c ≤ '9'

def digitValue (c : Char) : Nat := c.toNat - '0'.toNat

/-- The value of a run of digits, read after a number already read. -/
def digitsFrom (acc : Nat) : List Char → Option Nat
  | [] => some acc
  | c :: rest => if isDigit c then digitsFrom (acc * 10 + digitValue c) rest else none

def natural? : List Char → Option Nat
  | [] => none
  | cs => digitsFrom 0 cs

/-- A numeral below the bound; a plus may stand before it. -/
def unsigned? (bound : Nat) (s : List Char) : Option Nat :=
  let digits := match s with
    | '+' :: rest => rest
    | _ => s
  match natural? digits with
  | some n => if n < bound then some n else none
  | none => none

/-- A numeral within 64 bits; a plus or a minus may stand before it. -/
def signed64? (s : List Char) : Option Int64 :=
  let value : Option Int := match s with
    | '-' :: rest => (natural? rest).map fun n => -(n : Int)
    | '+' :: rest => (natural? rest).map fun n => (n : Int)
    | _ => (natural? s).map fun n => (n : Int)
  match value with
  | some n =>
    if Int64.minValue.toInt ≤ n ∧ n ≤ Int64.maxValue.toInt then some (Int64.ofInt n) else none
  | none => none

/-- The digits of a natural number, most significant first. -/
def digits (n : Nat) : List Char := Nat.toDigits 10 n

/-- The digits with zeros in front up to a width. -/
def padded (width n : Nat) : List Char :=
  let ds := digits n
  List.replicate (width - ds.length) '0' ++ ds

/-- An integer with a minus when it is negative. -/
def ofInt (n : Int) : String :=
  if n < 0 then String.ofList ('-' :: digits n.natAbs) else String.ofList (digits n.natAbs)

def ofNat (n : Nat) : String := String.ofList (digits n)

end DocQuery.Numeral
