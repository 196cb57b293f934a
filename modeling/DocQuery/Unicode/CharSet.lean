import DocQuery.Unicode.CaseMapping
import DocQuery.Unicode.Ranges

/-!
# Sets of characters

A set of characters is built from ranges and tables by the operations of sets, and can be closed under case.
`contains` decides membership; `ranges` lists the same set in normal form.
-/

namespace DocQuery.Unicode

inductive CharSet where
  | none
  | range (first last : Nat)
  | table (ranges : Ranges)
  | union (a b : CharSet)
  | inter (a b : CharSet)
  | minus (a b : CharSet)
  | xor (a b : CharSet)
  | compl (a : CharSet)
  /-- With every character that differs in case only. -/
  | folded (a : CharSet)
  /-- The same for the Latin letters of ASCII only. -/
  | foldedLatin (a : CharSet)

namespace CharSet

/-! ## Algorithm -/

/-- The other case of a Latin letter. -/
def otherLatinCase (c : Char) : Char :=
  if 'a' ≤ c ∧ c ≤ 'z' then Char.ofNat (c.toNat - 32)
  else if 'A' ≤ c ∧ c ≤ 'Z' then Char.ofNat (c.toNat + 32)
  else c

def contains : CharSet → Char → Bool
  | none, _ => false
  | range first last, c => first ≤ c.toNat && c.toNat ≤ last
  | table ranges, c => ranges.contains c
  | union a b, c => contains a c || contains b c
  | inter a b, c => contains a c && contains b c
  | minus a b, c => contains a c && !contains b c
  | xor a b, c => contains a c != contains b c
  | compl a, c => !contains a c
  | folded a, c => (foldClass c).any fun d => contains a d
  | foldedLatin a, c => contains a c || contains a (otherLatinCase c)

/-- The set that a table writes. -/
def ofTable (text : String) : CharSet := table (.ofTable text)

def single (c : Char) : CharSet := range c.toNat c.toNat

def all : CharSet := compl none

def unionOf : List CharSet → CharSet
  | [] => none
  | [a] => a
  | a :: rest => union a (unionOf rest)

/-- Complement when the flag is set. -/
def negateIf (negated : Bool) (s : CharSet) : CharSet := if negated then compl s else s

/-! ## Ranges of a set -/

/-- The pairs whose first code point is in the ranges; pairs and ranges ascend. -/
def pairsIn : List (Nat × Nat) → Ranges → List (Nat × Nat)
  | [], _ => []
  | _, [] => []
  | p :: ps, r :: rs =>
    if p.1 < r.1 then pairsIn ps (r :: rs)
    else if p.1 ≤ r.2 then p :: pairsIn ps (r :: rs)
    else pairsIn (p :: ps) rs
termination_by ps rs => ps.length + rs.length

/-- The pairs in both directions, in ascending order. -/
def bothWays (pairs : List (Nat × Nat)) : List (Nat × Nat) :=
  (pairs ++ pairs.map fun p => (p.2, p.1)).mergeSort fun p q => p.1 ≤ q.1

/-- Adds the second code point of every pair whose first one is in the ranges. -/
def closeUnder (pairs : List (Nat × Nat)) (rs : Ranges) : Ranges :=
  .union rs (.normal ((pairsIn pairs rs).map fun p => (p.2, p.2)))

/-- Each character that folding changes with its folded form, and the other way round. -/
def casePairs : List (Nat × Nat) := bothWays foldPairs

/-- The same for the Latin letters of ASCII. -/
def latinPairs : List (Nat × Nat) := bothWays ((List.range 26).map fun i => (0x41 + i, 0x61 + i))

/-- Ranges closed under case: first folded forms come in, then all characters that share them. -/
def closeUnderCase (rs : Ranges) : Ranges := closeUnder casePairs (closeUnder casePairs rs)

/-- The set as ranges in normal form. -/
def ranges : CharSet → Ranges
  | none => []
  | range first last => if first ≤ last then [(first, last)] else []
  | table rs => .normal rs
  | union a b => .union a.ranges b.ranges
  | inter a b => .inter a.ranges b.ranges
  | minus a b => .minus a.ranges b.ranges
  | xor a b => .xor a.ranges b.ranges
  | compl a => .compl a.ranges
  | folded a => closeUnderCase a.ranges
  | foldedLatin a => closeUnder latinPairs a.ranges

/-! ## Bounds -/

/-- No set has more characters. -/
def mostPoints : Nat := 0x110000

/-- No fewer than the characters of a set. -/
def pointBound : CharSet → Nat
  | none => 0
  | range first last => last + 1 - first
  | table rs => (rs.map fun r => r.2 + 1 - r.1).foldr (· + ·) 0
  | union a b => pointBound a + pointBound b
  | inter a b => min (pointBound a) (pointBound b)
  | minus a _ => pointBound a
  | xor a b => pointBound a + pointBound b
  | compl _ => mostPoints
  | folded a => 4 * pointBound a
  | foldedLatin a => 2 * pointBound a

/-- No fewer than the ranges of a set in normal form.  Of the characters that differ in case only there are
four at most, and folding knows a limited number of characters. -/
def rangeBound : CharSet → Nat
  | none => 0
  | range _ _ => 1
  | table rs => rs.length
  | union a b => rangeBound a + rangeBound b
  | inter a b => rangeBound a + rangeBound b
  | minus a b => rangeBound a + rangeBound b
  | xor a b => rangeBound a + rangeBound b
  | compl a => rangeBound a + 1
  | folded a => rangeBound a + min (3 * pointBound a) casePairs.length
  | foldedLatin a => rangeBound a + min (pointBound a) latinPairs.length

end CharSet

/-! ## Names -/

/-- A set under the names it goes by. -/
structure NamedSet where
  names : List String
  set : CharSet

/-- The set of a name. -/
def NamedSet.find? (sets : List NamedSet) (name : String) : Option CharSet :=
  (sets.find? fun s => s.names.contains name).map (·.set)

end DocQuery.Unicode
