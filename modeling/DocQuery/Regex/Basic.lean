import DocQuery.Unicode.Property

/-!
# Regular expressions

Sets of characters, conditions on a place in a text, and the expressions over them.  A search only asks whether
a match exists, so groups have no effect on it and there is no greed.

    r ::= empty | set s | look l | group capturing r | seq r r | alt r r | repeated r min max
-/

namespace DocQuery

namespace Regex

/-! ## Sets of characters -/

open Unicode (CharSet)

/-- Decimal digits, of Unicode or of ASCII. -/
def digits (unicode : Bool) : CharSet := if unicode then Unicode.Category.nd else .range 0x30 0x39

def blanks (unicode : Bool) : CharSet :=
  .table (if unicode then Unicode.whiteSpace else [(0x9, 0xD), (0x20, 0x20)])

/-- The characters of words: letters, marks, digits, connectors and joiners. -/
def wordRanges : Unicode.Ranges :=
  (CharSet.unionOf [Unicode.alphabetic, Unicode.Category.marks, Unicode.Category.nd, Unicode.Category.pc,
    Unicode.joinControl]).ranges

def wordCharacters (unicode : Bool) : CharSet :=
  if unicode then .table wordRanges else .ofTable "30-39 41-5A 5F 61-7A"

/-- The classes that a bracket names between colons; all of ASCII. -/
def namedClasses : List Unicode.NamedSet :=
  [⟨["alnum"], .ofTable "30-39 41-5A 61-7A"⟩,
   ⟨["alpha"], .ofTable "41-5A 61-7A"⟩,
   ⟨["ascii"], .ofTable "0-7F"⟩,
   ⟨["blank"], .ofTable "9 20"⟩,
   ⟨["cntrl"], .ofTable "0-1F 7F"⟩,
   ⟨["digit"], .ofTable "30-39"⟩,
   ⟨["graph"], .ofTable "21-7E"⟩,
   ⟨["lower"], .ofTable "61-7A"⟩,
   ⟨["print"], .ofTable "20-7E"⟩,
   ⟨["punct"], .ofTable "21-2F 3A-40 5B-60 7B-7E"⟩,
   ⟨["space"], .ofTable "9-D 20"⟩,
   ⟨["upper"], .ofTable "41-5A"⟩,
   ⟨["word"], .ofTable "30-39 41-5A 5F 61-7A"⟩,
   ⟨["xdigit"], .ofTable "30-39 41-46 61-66"⟩]

/-! ## Places in a text -/

/-- A place between two characters: what stands before it, the nearest first, and what stands after it. -/
structure Place where
  index : Nat
  before : List Char
  after : List Char

inductive Look where
  | textStart
  | textEnd
  | lineStart
  | lineEnd
  /-- Lines that `\r`, `\n` or both end. -/
  | anyLineStart
  | anyLineEnd
  | wordBoundary (unicode : Bool)
  | notWordBoundary (unicode : Bool)
  | wordStart (unicode : Bool)
  | wordEnd (unicode : Bool)
  | wordStartHalf (unicode : Bool)
  | wordEndHalf (unicode : Bool)
  deriving DecidableEq, Repr

namespace Look

def isWord (unicode : Bool) : Option Char → Bool
  | some c => (wordCharacters unicode).contains c
  | none => false

/-- Whether a place satisfies a condition. -/
def holds (p : Place) : Look → Bool
  | textStart => p.before.isEmpty
  | textEnd => p.after.isEmpty
  | lineStart => p.before.isEmpty || p.before.head? == some '\n'
  | lineEnd => p.after.isEmpty || p.after.head? == some '\n'
  | anyLineStart => p.before.isEmpty || p.before.head? == some '\n'
      || (p.before.head? == some '\r' && p.after.head? != some '\n')
  | anyLineEnd => p.after.isEmpty || p.after.head? == some '\r'
      || (p.after.head? == some '\n' && p.before.head? != some '\r')
  | wordBoundary u => isWord u p.before.head? != isWord u p.after.head?
  | notWordBoundary u => isWord u p.before.head? == isWord u p.after.head?
  | wordStart u => !isWord u p.before.head? && isWord u p.after.head?
  | wordEnd u => isWord u p.before.head? && !isWord u p.after.head?
  | wordStartHalf u => !isWord u p.before.head?
  | wordEndHalf u => !isWord u p.after.head?

end Look

/-! ## Expressions -/

end Regex

inductive Regex where
  | empty
  | set (s : Unicode.CharSet)
  | look (l : Regex.Look)
  | group (capturing : Bool) (r : Regex)
  | seq (a b : Regex)
  | alt (a b : Regex)
  /-- At least `min` times, and at most `max` times when there is such a bound. -/
  | repeated (r : Regex) (min : Nat) (max : Option Nat)

namespace Regex

def ofChar (c : Char) : Regex := set (.single c)

/-- The expressions one after the other. -/
def ofList : List Regex → Regex
  | [] => empty
  | [r] => r
  | r :: rest => seq r (ofList rest)

/-- One of the expressions. -/
def ofAlternatives : List Regex → Regex
  | [] => empty
  | [r] => r
  | r :: rest => alt r (ofAlternatives rest)

end Regex

end DocQuery
