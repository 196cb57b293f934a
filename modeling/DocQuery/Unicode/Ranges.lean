/-!
# Sets of code points as ranges

A set of code points is a list of ranges.  Tables write it as text, in hexadecimal:

    "41-5A 61-7A AA"        the code points 41 to 5A, 61 to 7A, and AA

In normal form the ranges ascend and no two of them touch.  The code points D800 to DFFF are no characters, so
D7FF and E000 are neighbours.
-/

namespace DocQuery.Unicode

/-- Ranges of code points, both ends included. -/
abbrev Ranges := List (Nat × Nat)

namespace Ranges

/-! ## Algorithm -/

def contains (rs : Ranges) (c : Char) : Bool := rs.any fun r => r.1 ≤ c.toNat && c.toNat ≤ r.2

def hexDigit (c : Char) : Nat :=
  if 'A' ≤ c then c.toNat - 'A'.toNat + 10 else c.toNat - '0'.toNat

/-- Closes the range that is being read, when one is. -/
def close (rs : Ranges) : Option Nat → Option Nat → Ranges
  | some first, some last => (first, last) :: rs
  | none, some last => (last, last) :: rs
  | _, none => rs

/-- Reads a table; `first` is the start of a range whose end is being read, `number` the number so far. -/
def readFrom (rs : Ranges) (first number : Option Nat) : List Char → Ranges
  | [] => (close rs first number).reverse
  | ' ' :: rest => readFrom (close rs first number) none none rest
  | '\n' :: rest => readFrom (close rs first number) none none rest
  | '-' :: rest => readFrom rs number none rest
  | c :: rest => readFrom rs first (some (number.getD 0 * 16 + hexDigit c)) rest

/-- The ranges that a table writes. -/
def ofTable (table : String) : Ranges := readFrom [] none none table.toList

/-! ## Normal form -/

def lastPoint : Nat := 0x10FFFF

/-- The next code point of a character. -/
def next (n : Nat) : Nat := if n = 0xD7FF then 0xE000 else n + 1

/-- The code point of a character before. -/
def previous (n : Nat) : Nat := if n = 0xE000 then 0xD7FF else n - 1

/-- Joins ranges that touch, in ascending ranges with `r` before them. -/
def joinFrom (r : Nat × Nat) : Ranges → Ranges
  | [] => [r]
  | s :: rest => if s.1 ≤ next r.2 then joinFrom (r.1, max r.2 s.2) rest else r :: joinFrom s rest

def joinTouching : Ranges → Ranges
  | [] => []
  | r :: rest => joinFrom r rest

/-- The normal form of any ranges. -/
def normal (rs : Ranges) : Ranges := joinTouching (rs.mergeSort fun r s => r.1 ≤ s.1)

/-- The union of ranges in normal form. -/
def union (rs ss : Ranges) : Ranges := joinTouching (List.merge rs ss fun r s => r.1 ≤ s.1)

/-- The code points from `start` on that ascending ranges leave out. -/
def gapsFrom (start : Nat) : Ranges → Ranges
  | [] => if start ≤ lastPoint then [(start, lastPoint)] else []
  | r :: rest =>
    if start < r.1 then (start, previous r.1) :: gapsFrom (next r.2) rest else gapsFrom (next r.2) rest

def compl (rs : Ranges) : Ranges := gapsFrom 0 rs

def inter (rs ss : Ranges) : Ranges := compl (union (compl rs) (compl ss))

def minus (rs ss : Ranges) : Ranges := inter rs (compl ss)

def xor (rs ss : Ranges) : Ranges := union (minus rs ss) (minus ss rs)

/-! ## Lemmas -/

example : ofTable "41-5A AA" = [(0x41, 0x5A), (0xAA, 0xAA)] := by decide +kernel

example : compl [(0x0, 0x40), (0xE000, 0x10FFFF)] = [(0x41, 0xD7FF)] := by decide +kernel

end Ranges

end DocQuery.Unicode
