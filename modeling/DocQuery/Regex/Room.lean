import DocQuery.Regex.Plan
import DocQuery.Unicode.Utf8

/-!
# The room of a searching machine

Two machines search for an expression, one forwards and one backwards, and read the text byte by byte.  Their
states are built from the plan, counted repetitions written out:

    room a{1000}       1000 states, one for each round
    room [é-ü]         a state for each place in the UTF-8 forms of the set
    room (a|b)         alternatives in a state that branches, and where the group starts and ends

An expression one of whose machines needs more than the limit is refused (`fits`).
-/

namespace DocQuery.Regex

open Unicode (Ranges Utf8.Sequence)

/-- Which way a machine reads. -/
inductive Direction where
  | forwards
  | backwards
  deriving DecidableEq, Repr

namespace Machine

/-! ## Room of single states, in bytes -/

def state : Nat := 32

/-- A way on from a state that branches. -/
def branch : Nat := 4

/-- A state that goes on to `n` others without reading. -/
def branching (n : Nat) : Nat := state + branch * n

/-- A state that reads a byte of one of `n` ranges. -/
def reading (n : Nat) : Nat := state + 8 * n

/-! ## Sets -/

/-- The sequences cut into runs that start with the same bytes, each run without that start. -/
def runs : List Utf8.Sequence → List ((Nat × Nat) × List Utf8.Sequence)
  | [] => []
  | [] :: rest => runs rest
  | (r :: s) :: rest =>
    match runs rest with
    | (r', ss) :: later => if r = r' then (r, s :: ss) :: later else (r, [s]) :: (r', ss) :: later
    | [] => [(r, [s])]

/-- The number of starts that sequences of at most `n` bytes have. -/
def starts : Nat → List Utf8.Sequence → Nat
  | 0, _ => 0
  | n + 1, ss => ((runs ss).map fun run => 1 + starts n run.2).foldr (· + ·) 0

/-- The lists of what is still to be read, wherever something is. -/
def remainders : Nat → List Utf8.Sequence → List (List Utf8.Sequence)
  | 0, _ => []
  | n + 1, ss => if (runs ss).isEmpty then [] else ss :: (runs ss).flatMap fun run => remainders n run.2

/-- No character has more bytes. -/
def longest : Nat := 4

/-- Forwards, a state stands for all places with the same remainder; backwards, for all places with the same
start. -/
def setRoom (d : Direction) (rs : Ranges) : Nat :=
  if rs.all (·.2 ≤ 0x7F) then state + reading rs.length
  else
    let ss := Unicode.Utf8.sequences rs
    match d with
    | .forwards => state + ((remainders longest ss).eraseDups.map fun ss => reading (runs ss).length).foldr (· + ·) 0
    | .backwards => branching ss.length + state + starts longest ss * state

/-! ## Literals -/

/-- The bytes of a literal in the order that the machine reads them. -/
def bytes (d : Direction) (s : List Char) : List UInt8 :=
  match d with
  | .forwards => s.flatMap String.utf8EncodeChar
  | .backwards => (s.flatMap String.utf8EncodeChar).reverse

/-- Words cut where one of them ends: the words of each part, and no word that has ended. -/
def partsAt : List (List UInt8) → List (List (List UInt8))
  | [] => [[]]
  | [] :: rest => [] :: partsAt rest
  | w :: rest =>
    match partsAt rest with
    | part :: later => (w :: part) :: later
    | [] => [[w]]

/-- A word that ends before any other has begun ends once. -/
def dropRepeatedEnds : List (List UInt8) → List (List UInt8)
  | [] :: rest => [] :: rest.dropWhile List.isEmpty
  | ws => ws

/-- The bytes that words start with. -/
def firstBytes (ws : List (List UInt8)) : List UInt8 := (ws.filterMap List.head?).eraseDups

/-- What is left of the words that start with a byte. -/
def behind (b : UInt8) (ws : List (List UInt8)) : List (List UInt8) :=
  (ws.filter fun w => w.head? == some b).map List.tail

/-- The states for words of at most `n` bytes that are read together as long as they are the same. -/
def wordsRoom : Nat → List (List UInt8) → Nat
  | 0, _ => 0
  | n + 1, ws =>
    let parts := partsAt (dropRepeatedEnds ws)
    let partRoom (part : List (List UInt8)) : Nat :=
      let bs := firstBytes part
      let own := if bs.length ≤ 1 then state * bs.length else reading bs.length
      own + (bs.map fun b =>
        let rest := behind b part
        if rest.all List.isEmpty then 0 else wordsRoom n rest).foldr (· + ·) 0
    branching ((parts.filter fun p => !p.isEmpty).length + (parts.length - 1)) + (parts.map partRoom).foldr (· + ·) 0

def literalsRoom (d : Direction) (ss : List (List Char)) : Nat :=
  let ws := ss.map (bytes d)
  state + wordsRoom ((ws.map List.length).foldr (· + ·) 0 + 1) ws

/-! ## Plans -/

/-- The states of a repetition whose rounds need `round` each. -/
def repeatedRoom (round : Nat) (canBeEmpty : Bool) (min : Nat) : Option Nat → Nat
  | none =>
    if min = 0 then
      if canBeEmpty then round + branching 2 + branching 2 + state else branching 2 + round
    else min * round + branching 2
  | some max =>
    if min = 0 ∧ max = 1 then branching 2 + round + state
    else
      let fixed := if min = 0 then state else min * round
      if min = max then fixed else fixed + state + (max - min) * (branching 2 + round)

/-- The room of a plan.  Alternatives lean to the right, so the last two count the state that branches and the
one where they meet. -/
def planRoom (d : Direction) : Plan → Nat
  | .empty => state
  | .literal s => state * (bytes d s).length
  | .set rs => setRoom d rs
  | .look _ => state
  | .group p => (if d = .forwards then state + state else 0) + planRoom d p
  | .seq a b => planRoom d a + planRoom d b
  | .alt a b =>
    let meeting := match b with
      | .alt _ _ => branch
      | _ => branching 2 + state
    planRoom d a + planRoom d b + meeting
  | .literals ss => literalsRoom d ss
  | .repeated p min max => repeatedRoom (planRoom d p) ((p.minLength.getD 0) == 0) min max

/-- What stands before the plan: a start at any place, but where a match has only one place to start. -/
def startRoom (d : Direction) (p : Plan) : Nat :=
  let isFixed := match d with
    | .forwards => p.startsText
    | .backwards => p.endsText
  if isFixed then state else branching 2 + state + reading 1

/-- The room of the whole machine; the match as a whole is a group. -/
def room (d : Direction) (p : Plan) : Nat := startRoom d p + planRoom d (.group p) + state

/-- Ten mebibytes. -/
def limit : Nat := 10 * Nat.pow 2 20

/-! ## A bound -/

/-- No fewer than the bytes for a range whose characters have one number of bytes: it has at most seven sequences,
and these have at most twenty-two starts. -/
def rangeRoom : Nat := 1024

end Machine

/-- No fewer than the ranges and single states that the machines for an expression are made of.  Four ranges of a
set may have characters of several widths at their ends. -/
def weight : Regex → Nat
  | empty => 1
  | set s => s.rangeBound + 4
  | look _ => 1
  | group _ r => weight r + 1
  | seq a b => weight a + weight b
  | alt a b => weight a + weight b + 1
  | repeated r min max => weight r * Nat.max 1 (max.getD min) + 1

/-- Whether the machines for an expression have room.  Most expressions are too small to be measured. -/
def fits (r : Regex) : Bool :=
  if (r.weight + 1) * Machine.rangeRoom ≤ Machine.limit then true
  else
    let p := r.plan
    [Direction.forwards, .backwards].all fun d => Machine.room d p ≤ Machine.limit

/-! ## Lemmas -/

namespace Machine

example : room .forwards (.literal ['a']) = 240 := by decide +kernel

example : setRoom .backwards [(0xE9, 0xE9)] = branching 1 + state + 2 * state := by decide +kernel

/-- Rounds are written out. -/
example : planRoom .forwards (.repeated (.literal ['a', 'b']) 3 (some 3)) = 6 * state := by decide +kernel

end Machine

end DocQuery.Regex
