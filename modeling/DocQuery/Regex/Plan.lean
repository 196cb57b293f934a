import DocQuery.Regex.Basic

/-!
# Plans of searching machines

The machine that searches for an expression is built from a simpler form of it, its plan: characters in a row
are one literal, alternatives that are single characters are one set, and what all alternatives start with
stands in front of them.

    a(?:bc)d       the literal abcd
    a|b|[0-9]x     the alternatives a, b and [0-9]x
    a|b            the set [ab]
    [ab]x|[ab]y    [ab] before the set [xy]

A plan is in normal form: sequences and alternatives lean to the right, a sequence has no empty part and no two
literals side by side, and a set has not exactly one character.
-/

namespace DocQuery.Regex

open Unicode (Ranges)

inductive Plan where
  | empty
  | literal (s : List Char)
  | set (rs : Ranges)
  | look (l : Look)
  /-- A group that the machine remembers. -/
  | group (p : Plan)
  | seq (a b : Plan)
  | alt (a b : Plan)
  /-- Alternatives all of which are literals. -/
  | literals (ss : List (List Char))
  | repeated (p : Plan) (min : Nat) (max : Option Nat)
  deriving DecidableEq

namespace Plan

/-! ## Lengths -/

/-- The sum of two lengths, either of which may have no bound. -/
def addLengths (a b : Option Nat) : Option Nat := a.bind fun m => b.map (m + ·)

/-- The length by which two alternatives are bounded. -/
def joinLengths (choose : Nat → Nat → Nat) (a b : Option Nat) : Option Nat :=
  a.bind fun m => b.map (choose m)

/-- The least number of characters in a match; none when a part matches nothing at all. -/
def minLength : Plan → Option Nat
  | empty => some 0
  | literal s => some s.length
  | set rs => if rs.isEmpty then none else some 1
  | look _ => some 0
  | group p => minLength p
  | seq a b => addLengths (minLength a) (minLength b)
  | alt a b => joinLengths min (minLength a) (minLength b)
  | literals ss => (ss.map List.length).min?
  | repeated p n _ => (minLength p).map (· * n)

/-- The greatest number of characters in a match; none when there is no such bound. -/
def maxLength : Plan → Option Nat
  | empty => some 0
  | literal s => some s.length
  | set rs => if rs.isEmpty then none else some 1
  | look _ => some 0
  | group p => maxLength p
  | seq a b => addLengths (maxLength a) (maxLength b)
  | alt a b => joinLengths max (maxLength a) (maxLength b)
  | literals ss => (ss.map List.length).max?
  | repeated p _ n => n.bind fun n => (maxLength p).map (· * n)

/-- Whether no match has a character. -/
def isZeroWidth (p : Plan) : Bool := p.maxLength == some 0

/-! ## Places at the ends of a text -/

/-- Whether every match starts at the start of the text. -/
def startsText : Plan → Bool
  | look l => l == .textStart
  | group p => startsText p
  | seq a b => startsText a || (a.isZeroWidth && startsText b)
  | alt a b => startsText a && startsText b
  | repeated p n _ => n != 0 && startsText p
  | _ => false

/-- Whether every match ends at the end of the text. -/
def endsText : Plan → Bool
  | look l => l == .textEnd
  | group p => endsText p
  | seq a b => endsText b || (b.isZeroWidth && endsText a)
  | alt a b => endsText a && endsText b
  | repeated p n _ => n != 0 && endsText p
  | _ => false

/-! ## Sequences -/

/-- A part that is no sequence before a plan. -/
def cons : Plan → Plan → Plan
  | empty, b => b
  | a, empty => a
  | literal s, literal t => literal (s ++ t)
  | literal s, seq (literal t) b => seq (literal (s ++ t)) b
  | a, b => seq a b

/-- One plan after the other. -/
def append : Plan → Plan → Plan
  | seq a b, c => cons a (append b c)
  | a, b => cons a b

/-- The parts of a sequence. -/
def parts : Plan → List Plan
  | seq a b => a :: parts b
  | p => [p]

def ofParts (ps : List Plan) : Plan := ps.foldr append empty

/-! ## Alternatives -/

/-- The set of ranges in normal form; a single character is a literal. -/
def ofRanges (rs : Ranges) : Plan :=
  match rs with
  | [(first, last)] => if first = last then literal [Char.ofNat first] else set rs
  | _ => set rs

/-- The alternatives of a plan. -/
def branches : Plan → List Plan
  | alt a b => a :: branches b
  | literals ss => ss.map literal
  | p => [p]

/-- A literal's text. -/
def text? : Plan → Option (List Char)
  | literal s => some s
  | _ => none

/-- The range of a literal of one character. -/
def single? : Plan → Option (Nat × Nat)
  | literal [c] => some (c.toNat, c.toNat)
  | _ => none

def ranges? : Plan → Option Ranges
  | set rs => some rs
  | _ => none

def hasGroup : Plan → Bool
  | group _ => true
  | seq a b => hasGroup a || hasGroup b
  | alt a b => hasGroup a || hasGroup b
  | repeated p _ _ => hasGroup p
  | _ => false

/-- The parts that two sequences start with alike.  Groups are never alike. -/
def commonParts : List Plan → List Plan → List Plan
  | p :: ps, q :: qs => if p = q && !p.hasGroup then p :: commonParts ps qs else []
  | _, _ => []

/-- What all alternatives start with, when each of them is a sequence. -/
def commonStart : List Plan → List Plan
  | [] => []
  | p :: ps => if (p :: ps).all (·.parts.length ≥ 2) then ps.foldl (fun c q => commonParts c q.parts) p.parts else []

/-- Alternatives that no simplification applies to. -/
def ofBranches : List Plan → Plan
  | [] => set []
  | [p] => p
  | p :: ps => alt p (ofBranches ps)

/-- The alternatives as one plan.  Every simplification of a common start takes at least one part off each of
them, and no plan has more than `fuel` parts. -/
def alternationOf : Nat → List Plan → Plan
  | 0, ps => ofBranches ps
  | fuel + 1, ps =>
    let ps := ps.flatMap branches
    match ps.mapM single? with
    | some singles => ofRanges (.normal singles)
    | none =>
      match ps.mapM ranges? with
      | some sets => ofRanges (.normal sets.flatten)
      | none =>
        match commonStart ps with
        | [] =>
          match ps.mapM text? with
          | some texts => literals texts
          | none => ofBranches ps
        | common => append (ofParts common) (alternationOf fuel (ps.map fun p => ofParts (p.parts.drop common.length)))

/-- A number that no count of parts in a plan exceeds. -/
def size : Plan → Nat
  | group p => size p + 1
  | seq a b => size a + size b + 1
  | alt a b => size a + size b + 1
  | repeated p _ _ => size p + 1
  | _ => 1

def alternation (ps : List Plan) : Plan :=
  match ps with
  | [p] => p
  | ps => alternationOf ((ps.map size).foldr (· + ·) 0 + 1) ps

/-! ## Repetitions -/

/-- A repetition: what has no characters is repeated once at most, and a single round is no repetition. -/
def repetition (p : Plan) (least : Nat) (most : Option Nat) : Plan :=
  let (least, most) := if p.isZeroWidth then (min least 1, some (min (most.getD 1) 1)) else (least, most)
  if most = some 0 then empty
  else if least = 1 ∧ most = some 1 then p
  else repeated p least most

end Plan

/-- The plans of the alternatives of an expression. -/
def plans : Regex → List Plan
  | empty => [.empty]
  | set s => [.ofRanges s.ranges]
  | look l => [.look l]
  | group capturing r => let p := Plan.alternation (plans r); [if capturing then .group p else p]
  | seq a b => [.append (.alternation (plans a)) (.alternation (plans b))]
  | alt a b => .alternation (plans a) :: plans b
  | repeated r min max => [.repetition (.alternation (plans r)) min max]

def plan (r : Regex) : Plan := .alternation (plans r)

/-! ## Lemmas -/

example : (ofList [ofChar 'a', group false (ofList [ofChar 'b', empty]), ofChar 'c']).plan
    = .literal ['a', 'b', 'c'] := by decide +kernel

example : (ofAlternatives [ofChar 'a', ofChar 'c', ofChar 'b']).plan = .set [(0x61, 0x63)] := by cbv

end DocQuery.Regex
