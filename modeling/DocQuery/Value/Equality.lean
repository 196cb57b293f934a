import DocQuery.Document
import DocQuery.Value.Number

/-!
# Two equalities of values

`same` is strict about kinds: the integer 1 of 32 bits and the one of 64 bits differ.  It takes documents as
maps, whatever the order of their fields.

`equal` compares numbers of any two kinds by value, arrays element by element and documents field by field in
order; all else as `same` does.

    same  1 1.0 = false      same  {a: 1, b: 2} {b: 2, a: 1} = true
    equal 1 1.0 = true       equal {a: 1, b: 2} {b: 2, a: 1} = false

Both follow doubles: a NaN differs from itself.
-/

namespace DocQuery.Value

/-! ## Algorithm -/

mutual

/-- Equality within one kind. -/
def same : Value → Value → Bool
  | double x, double y => Double.equal x y
  | string s, string t => s == t
  | document d, document e => d.length == e.length && sameFields d e
  | array xs, array ys => sameItems xs ys
  | binary t xs, binary u ys => t == u && xs == ys
  | undefined, undefined => true
  | objectId x, objectId y => x == y
  | boolean b, boolean c => b == c
  | dateTime x, dateTime y => x == y
  | null, null => true
  | regex p, regex q => p == q
  | code s, code t => s == t
  | symbol s, symbol t => s == t
  | scopedCode s d, scopedCode t e => s == t && (d.length == e.length && sameFields d e)
  | int32 m, int32 n => m == n
  | timestamp t i, timestamp u j => t == u && i == j
  | int64 m, int64 n => m == n
  | decimal x, decimal y => x == y
  | minKey, minKey => true
  | maxKey, maxKey => true
  | _, _ => false
termination_by structural v => v

def sameItems : List Value → List Value → Bool
  | [], [] => true
  | x :: xs, y :: ys => same x y && sameItems xs ys
  | _, _ => false
termination_by structural vs => vs

/-- Every field of the first document has its like in the second. -/
def sameFields : List (String × Value) → List (String × Value) → Bool
  | [], _ => true
  | (k, v) :: rest, e =>
    (match Document.get? e k with
      | some w => same v w
      | none => false) && sameFields rest e
termination_by structural fs => fs

end

mutual

/-- Equality with numbers compared by value. -/
def equal : Value → Value → Bool
  | array xs, b =>
    match b with
    | array ys => equalItems xs ys
    | _ => false
  | document d, b =>
    match b with
    | document e => equalFields d e
    | _ => false
  | a, b =>
    if a.isNumeric && b.isNumeric then
      match a.toFloat?, b.toFloat? with
      | some x, some y => Double.equal x y
      | _, _ => false
    else same a b
termination_by structural v => v

def equalItems : List Value → List Value → Bool
  | [], [] => true
  | x :: xs, y :: ys => equal x y && equalItems xs ys
  | _, _ => false
termination_by structural vs => vs

def equalFields : List (String × Value) → List (String × Value) → Bool
  | [], [] => true
  | (k, v) :: rest, (j, w) :: others => k == j && equal v w && equalFields rest others
  | _, _ => false
termination_by structural fs => fs

end

/-- Strict equality of documents. -/
def sameDocument (d e : Document) : Bool := same (document d) (document e)

end DocQuery.Value
