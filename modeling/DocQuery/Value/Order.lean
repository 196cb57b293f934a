import DocQuery.Value.Equality

/-!
# The order of values

Kinds fall into brackets, and brackets are ordered:

    minKey < null < numbers < texts < documents < arrays < binary < object ids < booleans
           < dates < timestamps < regexes < code < maxKey

`within?` orders two values of one bracket and is none across brackets or where a NaN or a decimal leaves the
numbers unordered; `compare` puts the brackets first and takes unordered values as equal.
-/

namespace DocQuery.Value

/-! ## Algorithm -/

/-- The bracket of a value. -/
def rank : Value → Nat
  | minKey => 0
  | null => 1
  | undefined => 1
  | int32 _ => 2
  | int64 _ => 2
  | double _ => 2
  | decimal _ => 2
  | string _ => 3
  | symbol _ => 3
  | document _ => 4
  | array _ => 5
  | binary _ _ => 6
  | objectId _ => 7
  | boolean _ => 8
  | dateTime _ => 9
  | timestamp _ _ => 10
  | regex _ => 11
  | code _ => 12
  | scopedCode _ _ => 12
  | maxKey => 13

/-- The order of numbers by their doubles. -/
def numberOrder? (a b : Value) : Option Ordering :=
  match a.toFloat?, b.toFloat? with
  | some x, some y => Double.compare? x y
  | _, _ => none

/-- The order of two values of one bracket that hold no others; kinds without an order of their own tie. -/
def scalarOrder? : Value → Value → Option Ordering
  | string s, string t => some (Ord.compare s t)
  | boolean b, boolean c => some (Ord.compare b c)
  | dateTime x, dateTime y => some (Ord.compare x.toInt y.toInt)
  | objectId x, objectId y => some (Ord.compare x.bits.toNat y.bits.toNat)
  | timestamp t i, timestamp u j => some ((Ord.compare t.toNat u.toNat).then (Ord.compare i.toNat j.toNat))
  | a, b => if a.isNumeric && b.isNumeric then numberOrder? a b else some .eq

/-- The order of two values, given what is known within their bracket. -/
def settle (a b : Value) (within : Option Ordering) : Ordering :=
  if a.rank = b.rank then within.getD .eq else Ord.compare a.rank b.rank

mutual

/-- The order within one bracket. -/
def within? : Value → Value → Option Ordering
  | array xs, b =>
    match b with
    | array ys => some (compareItems xs ys)
    | _ => none
  | document d, b =>
    match b with
    | document e => some (compareFields d e)
    | _ => none
  | a, b => if a.rank = b.rank then scalarOrder? a b else none
termination_by structural v => v

/-- Element by element; the shorter of two equal runs comes first. -/
def compareItems : List Value → List Value → Ordering
  | [], [] => .eq
  | [], _ :: _ => .lt
  | _ :: _, [] => .gt
  | x :: xs, y :: ys => (settle x y (within? x y)).then (compareItems xs ys)
termination_by structural vs => vs

/-- Field by field, each by its name and then its value. -/
def compareFields : List (String × Value) → List (String × Value) → Ordering
  | [], [] => .eq
  | [], _ :: _ => .lt
  | _ :: _, [] => .gt
  | (k, v) :: rest, (j, w) :: others =>
    ((Ord.compare k j).then (settle v w (within? v w))).then (compareFields rest others)
termination_by structural fs => fs

end

/-- The order of any two values. -/
def compare (a b : Value) : Ordering := settle a b (within? a b)

end DocQuery.Value
