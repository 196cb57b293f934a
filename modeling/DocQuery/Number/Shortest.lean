import DocQuery.Number.Double
import DocQuery.Number.Numeral

/-!
# Shortest decimal text of a double

The decimal text of a double has the fewest digits that read back as that double, and of those the ones
nearest to it.  A grid of `n` digits around the value `v` holds two neighbours, `⌊v / 10^q⌋` and the next; the
first grid with a neighbour inside the interval of reals that round to `v` gives the digits:

    digits x = coefficient * 10^exponent        for the least n ≤ 17 with a hit

How the digits are laid out is a `Layout`: where positional notation ends, whether a whole number keeps its
point, which of two equally near neighbours is taken.
-/

namespace DocQuery.Shortest

/-! ## Algorithm -/

/-- Digits and the power of ten they are multiplied by. -/
structure Digits where
  coefficient : Nat
  exponent : Int
  deriving DecidableEq, Repr

/-- Which of two equally near neighbours is taken. -/
inductive Tie where
  | toEven
  | up
  deriving DecidableEq, Repr

/-- A positive double and the reals that round to it, as numerators over one denominator. -/
structure Interval where
  value : Nat
  low : Nat
  high : Nat
  denominator : Nat
  closed : Bool

/-- The rounding interval of a finite double other than zero.  Below a power of two the gap is half as wide. -/
def interval (x : Float) : Interval :=
  let m := Double.significand x
  let e := Double.scale x
  let up := Nat.pow 2 e.toNat
  let gap := if m = Nat.pow 2 52 ∧ -1074 < e then 1 else 2
  { value := 4 * m * up
    low := (4 * m - gap) * up
    high := (4 * m + 2) * up
    denominator := 4 * Nat.pow 2 (-e).toNat
    closed := m % 2 == 0 }

/-- The exponent of the first digit of a positive fraction. -/
def leadingExponent (num den : Nat) : Int :=
  if den ≤ num then ((Numeral.digits (num / den)).length : Int) - 1
  else -((Numeral.digits ((den + num - 1) / num - 1)).length : Int)

/-- The neighbour to take on the grid of step `10^q`, when one lies in the interval. -/
def onGrid? (tie : Tie) (i : Interval) (q : Int) : Option Nat :=
  let up := Nat.pow 10 (-q).toNat
  let den := i.denominator * Nat.pow 10 q.toNat
  let value := i.value * up
  let below := value / den
  let inside (bound point : Nat) : Bool := if i.closed then bound ≤ point else bound < point
  let lowHit := inside (i.low * up) (below * den)
  let highHit := inside ((below + 1) * den) (i.high * up)
  if lowHit && highHit then
    let under := value - below * den
    let above := (below + 1) * den - value
    if under < above then some below
    else if above < under then some (below + 1)
    else match tie with
      | .up => some (below + 1)
      | .toEven => some (if below % 2 = 0 then below else below + 1)
  else if lowHit then some below
  else if highHit then some (below + 1)
  else none

/-- Takes trailing zeros off a coefficient into its exponent. -/
def strip : Nat → Nat → Int → Digits
  | 0, c, e => ⟨c, e⟩
  | fuel + 1, c, e => if c ≠ 0 ∧ c % 10 = 0 then strip fuel (c / 10) (e + 1) else ⟨c, e⟩

/-- The first grid of at least `n` digits with a hit; the grid of 17 digits always has one. -/
def search (tie : Tie) (i : Interval) (lead : Int) : Nat → Nat → Digits
  | 0, n => ⟨i.value * Nat.pow 10 (n - lead).toNat / (i.denominator * Nat.pow 10 (lead - n).toNat), lead - n⟩
  | fuel + 1, n =>
    let q := lead - n + 1
    match onGrid? tie i q with
    | some c => strip 20 c q
    | none => search tie i lead fuel (n + 1)

/-- The shortest digits of the absolute value of a finite double other than zero. -/
def digits (tie : Tie) (x : Float) : Digits :=
  let i := interval x
  search tie i (leadingExponent i.value i.denominator) 17 1

/-! ## Layout -/

/-- How the digits of a double are written. -/
structure Layout where
  /-- The exponents of the first digit that are written without an exponent; none means all. -/
  positional : Option (Int × Int)
  /-- Whether a whole number ends in `.0`. -/
  keepsPoint : Bool
  tie : Tie
  nan : String
  infinity : String

/-- Digits with the point after the first `whole` of them; zeros fill up on either side. -/
def positionalText (keepsPoint : Bool) (ds : List Char) (whole : Int) : List Char :=
  if whole ≤ 0 then '0' :: '.' :: (List.replicate (-whole).toNat '0' ++ ds)
  else if ds.length ≤ whole.toNat then
    ds ++ List.replicate (whole.toNat - ds.length) '0' ++ (if keepsPoint then ['.', '0'] else [])
  else ds.take whole.toNat ++ '.' :: ds.drop whole.toNat

/-- First digit, point, other digits and the exponent with its sign. -/
def scientificText (ds : List Char) (lead : Int) : List Char :=
  let mantissa := match ds with
    | first :: second :: rest => first :: '.' :: second :: rest
    | _ => ds
  mantissa ++ 'e' :: (if lead < 0 then '-' else '+') :: Numeral.digits lead.natAbs

/-- The text of a positive number given by its digits. -/
def layOut (l : Layout) (d : Digits) : List Char :=
  let ds := Numeral.digits d.coefficient
  let lead := d.exponent + ds.length - 1
  match l.positional with
  | none => positionalText l.keepsPoint ds (lead + 1)
  | some (first, last) =>
    if first ≤ lead ∧ lead ≤ last then positionalText l.keepsPoint ds (lead + 1)
    else scientificText ds lead

/-- The text of a double. -/
def write (l : Layout) (x : Float) : String :=
  if Double.isNaN x then l.nan
  else
    let sign := if Double.isNegative x then "-" else ""
    if !Double.isFinite x then sign ++ l.infinity
    else if Double.magnitude x = 0 then sign ++ (if l.keepsPoint then "0.0" else "0")
    else sign ++ String.ofList (layOut l (digits l.tie x))

end DocQuery.Shortest
