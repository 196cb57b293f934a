import DocQuery.Regex.Basic

/-!
# Searching a text

An expression takes the places where it may begin to the places where it may end.  Sets of places are lists in
order of their index, so an expression is run once over all of them and never backtracks:

    ends (seq a b) ps = ends b (ends a ps)
    ends (alt a b) ps = ends a ps ∪ ends b ps

A text matches when some place is reached from some place.
-/

namespace DocQuery.Regex

open Unicode (CharSet)

/-! ## Algorithm -/

/-- The places of both lists in order, each once. -/
def merge : List Place → List Place → List Place
  | [], qs => qs
  | p :: ps, qs => insertPlace p (merge ps qs)
where
  insertPlace (p : Place) : List Place → List Place
    | [] => [p]
    | q :: qs =>
      if p.index < q.index then p :: q :: qs
      else if p.index = q.index then q :: qs
      else q :: insertPlace p qs

/-- The place behind the next character, when that is in the set. -/
def advance? (s : CharSet) (p : Place) : Option Place :=
  match p.after with
  | c :: rest => if s.contains c then some ⟨p.index + 1, c :: p.before, rest⟩ else none
  | [] => none

/-- Exactly `n` rounds; no places stay no places. -/
def rounds (f : List Place → List Place) : Nat → List Place → List Place
  | 0, ps => ps
  | n + 1, ps => if ps.isEmpty then [] else rounds f n (f ps)

/-- Any number of rounds up to `n`, stopped when a round reaches nothing new. -/
def roundsUpTo (f : List Place → List Place) : Nat → List Place → List Place
  | 0, ps => ps
  | n + 1, ps =>
    let reached := merge (f ps) ps
    if reached.length = ps.length then ps else roundsUpTo f n reached

/-- The places where an expression ends that begins at one of the given ones; the text has `n` characters. -/
def ends (n : Nat) : Regex → List Place → List Place
  | empty, ps => ps
  | set s, ps => ps.filterMap (advance? s)
  | look l, ps => ps.filter fun p => l.holds p
  | group _ r, ps => ends n r ps
  | seq a b, ps => ends n b (ends n a ps)
  | alt a b, ps => merge (ends n a ps) (ends n b ps)
  | repeated r min max, ps =>
    let start := rounds (fun qs => ends n r qs) min ps
    match max with
    | some m => roundsUpTo (fun qs => ends n r qs) (m - min) start
    | none => roundsUpTo (fun qs => ends n r qs) (n + 1) start

/-- Every place of a text, from the start on. -/
def placesFrom (index : Nat) (before : List Char) : List Char → List Place
  | [] => [⟨index, before, []⟩]
  | c :: rest => ⟨index, before, c :: rest⟩ :: placesFrom (index + 1) (c :: before) rest

/-- Whether some part of a text matches. -/
def isMatch (r : Regex) (text : List Char) : Bool :=
  !(ends text.length r (placesFrom 0 [] text)).isEmpty

/-! ## Meaning -/

/-- One place further, over a character. -/
inductive Next (s : CharSet) : Place → Place → Prop where
  | step {i : Nat} {before rest : List Char} {c : Char} (h : s.contains c = true) :
      Next s ⟨i, before, c :: rest⟩ ⟨i + 1, c :: before, rest⟩

/-- The expression matches what stands between two places. -/
inductive Matches : Regex → Place → Place → Prop where
  | empty {p : Place} : Matches empty p p
  | set {s : CharSet} {p q : Place} (h : Next s p q) : Matches (set s) p q
  | look {l : Look} {p : Place} (h : l.holds p = true) : Matches (look l) p p
  | group {capturing : Bool} {r : Regex} {p q : Place} (h : Matches r p q) : Matches (group capturing r) p q
  | seq {a b : Regex} {p q r : Place} (left : Matches a p q) (right : Matches b q r) : Matches (seq a b) p r
  | altLeft {a b : Regex} {p q : Place} (h : Matches a p q) : Matches (alt a b) p q
  | altRight {a b : Regex} {p q : Place} (h : Matches b p q) : Matches (alt a b) p q
  | done {r : Regex} {max : Option Nat} {p : Place} : Matches (repeated r 0 max) p p
  | needed {r : Regex} {min : Nat} {max : Option Nat} {p q s : Place} (first : Matches r p q)
      (rest : Matches (repeated r min (max.map (· - 1))) q s) : Matches (repeated r (min + 1) max) p s
  | optional {r : Regex} {m : Nat} {p q s : Place} (first : Matches r p q)
      (rest : Matches (repeated r 0 (some m)) q s) : Matches (repeated r 0 (some (m + 1))) p s
  | again {r : Regex} {p q s : Place} (first : Matches r p q)
      (rest : Matches (repeated r 0 none) q s) : Matches (repeated r 0 none) p s

end DocQuery.Regex
