import DocQuery.Regex.Class
import DocQuery.Regex.Room
import DocQuery.Regex.Search
import DocQuery.Value

/-!
# Reading regular expressions

The text of an expression is read sign by sign.  The state holds the flags in force, the alternatives and the
items read so far, and one frame for each group that is still open; a closed group gives back the flags from
before it.

    parse? "^a|b{2}$"  =  alternatives [^ a], [b twice, $]

A compiled pattern is the pattern's text with its options `i`, `m`, `s` and `x` written in front.  Expressions
that are nested too deep or whose machines need too much room do not compile.
-/

namespace DocQuery.Regex

open Unicode (CharSet)

/-! ## Algorithm -/

/-- An item of a sequence: an expression, or none for a change of flags, which cannot be repeated. -/
structure Item where
  regex : Option Regex
  /-- How deep the item is nested. -/
  nest : Nat := 0

/-- What stands outside an open group. -/
structure Frame where
  capturing : Bool
  flags : Flags
  alternatives : List Item
  items : List Item

structure State where
  flags : Flags := {}
  /-- Alternatives and items in reverse order. -/
  alternatives : List Item := []
  items : List Item := []
  stack : List Frame := []
  names : List (List Char) := []

/-- One item of several, put together as `join` says. -/
def Item.ofList (join : List Regex → Regex) (items : List Item) : Item :=
  ⟨some (join (items.filterMap (·.regex))), nestOf (items.map (·.nest))⟩

namespace State

/-- The sequence of the items read so far. -/
def sequence (st : State) : Item := .ofList Regex.ofList st.items.reverse

/-- All alternatives read so far. -/
def alternation (st : State) : Item := .ofList ofAlternatives (st.sequence :: st.alternatives).reverse

def push (st : State) (r : Regex) (nest : Nat) : State := { st with items := ⟨some r, nest⟩ :: st.items }

/-- Starts the next alternative. -/
def bar (st : State) : State := { st with alternatives := st.sequence :: st.alternatives, items := [] }

/-- Opens a group in which other flags are in force. -/
def opened (st : State) (capturing : Bool) (inner : Flags) : State :=
  { st with
    flags := inner, alternatives := [], items := []
    stack := ⟨capturing, st.flags, st.alternatives, st.items⟩ :: st.stack }

/-- Closes the innermost group. -/
def closed? (st : State) : Option State :=
  match st.stack with
  | [] => none
  | frame :: stack =>
    let inner := st.alternation
    let item := ⟨inner.regex.map (group frame.capturing), inner.nest + 1⟩
    some { st with
      flags := frame.flags, alternatives := frame.alternatives, items := item :: frame.items, stack := stack }

/-- Repeats the last item. -/
def repeatLast? (st : State) (min : Nat) (max : Option Nat) : Option State :=
  match st.items with
  | ⟨some r, nest⟩ :: items => some { st with items := ⟨some (repeated r min max), nest + 1⟩ :: items }
  | _ => none

end State

/-- The text behind a question mark that asks for few repetitions; whether there is a match is the same. -/
def dropLazy : List Char → List Char
  | '?' :: rest => rest
  | s => s

/-- The flag of a letter with its value. -/
def withFlag? (f : Flags) (value : Bool) : Char → Option Flags
  | 'i' => some { f with insensitive := value }
  | 'm' => some { f with multiLine := value }
  | 's' => some { f with dotAll := value }
  | 'u' => some { f with unicode := value }
  | 'R' => some { f with anyLine := value }
  | 'x' => some { f with extended := value }
  | 'U' => some f
  | _ => none

/-- Reads flags up to `:` or `)`: each letter once, at most one minus and a letter behind it.  Gives the flags,
whether there were any, and whether a group follows. -/
def readFlags (f : Flags) (value : Bool) (seen : List Char) : List Char → Option ((Flags × Bool × Bool) × List Char)
  | [] => none
  | c :: rest =>
    if c = ':' ∨ c = ')' then
      if seen.head? = some '-' then none else some ((f, !seen.isEmpty, c == ':'), rest)
    else if seen.contains c then none
    else if c = '-' then readFlags f false (c :: seen) rest
    else
      match withFlag? f value c with
      | some f => readFlags f value (c :: seen) rest
      | none => none

/-- Characters of group names. -/
def isNameCharacter (first : Bool) (c : Char) : Bool :=
  if first then c == '_' || Unicode.alphabetic.contains c
  else c == '_' || c == '.' || c == '[' || c == ']' || Unicode.alphabetic.contains c
    || Unicode.Category.numbers.contains c

/-- The name of a group, up to `>`. -/
def readName (name : List Char) : List Char → Option (List Char × List Char)
  | [] => none
  | '>' :: rest => if name.isEmpty then none else some (name.reverse, rest)
  | c :: rest => if isNameCharacter name.isEmpty c then readName (c :: name) rest else none

/-- Opens a named group, whose name no other group has. -/
def openNamed (st : State) (s : List Char) : Option (State × List Char) := do
  let (name, rest) ← readName [] s
  if st.names.contains name then none
  else some (({ st with names := name :: st.names }).opened true st.flags, rest)

/-- What stands behind an opening parenthesis: a group of some kind, or flags for the rest of this group. -/
def readGroup (st : State) (s : List Char) : Option (State × List Char) :=
  match skip st.flags s with
  | '?' :: '=' :: _ => none
  | '?' :: '!' :: _ => none
  | '?' :: '<' :: '=' :: _ => none
  | '?' :: '<' :: '!' :: _ => none
  | '?' :: 'P' :: '<' :: rest => openNamed st rest
  | '?' :: '<' :: rest => openNamed st rest
  | '?' :: rest => do
    let ((flags, given, isGroup), rest) ← readFlags st.flags true [] rest
    if isGroup then some (st.opened false flags, rest)
    else if given then some ({ st with flags := flags, items := ⟨none, 0⟩ :: st.items }, rest)
    else none
  | rest => some (st.opened true st.flags, rest)

/-- A repetition count in braces. -/
def readRepetition (f : Flags) (s : List Char) : Option ((Nat × Option Nat) × List Char) := do
  let (min, rest) ← readCount f (skip f s)
  match rest with
  | '}' :: rest => some ((min, some min), dropLazy (skip f rest))
  | ',' :: rest =>
    match skip f rest with
    | '}' :: rest => some ((min, none), dropLazy (skip f rest))
    | rest => do
      let (max, rest) ← readCount f rest
      match rest with
      | '}' :: rest => if min ≤ max then some ((min, some max), dropLazy (skip f rest)) else none
      | _ => none
  | _ => none

/-- The condition at the start of a text, or of a line under `m`. -/
def startLook (f : Flags) : Look :=
  if !f.multiLine then .textStart else if f.anyLine then .anyLineStart else .lineStart

def endLook (f : Flags) : Look :=
  if !f.multiLine then .textEnd else if f.anyLine then .anyLineEnd else .lineEnd

/-- The characters a dot stands for; a dot for bytes is none. -/
def dotSet? (f : Flags) : Option CharSet :=
  if !f.unicode then none
  else if f.dotAll then some .all
  else if f.anyLine then some (.compl (.table [(0xA, 0xA), (0xD, 0xD)]))
  else some (.compl (.single '\n'))

/-- A character that stands for itself, in either case where case does not count. -/
def literal (f : Flags) (c : Char) : Regex := set (foldIf f (.single c))

/-- An escape outside classes. -/
def ofEscaped? (f : Flags) : Escaped → Option Regex
  | .char c => some (literal f c)
  | .set s => (asciiOnly? f s).map set
  | .look l => some (look l)

/-- Reads one sign. -/
def readSign (st : State) (c : Char) (rest : List Char) : Option (State × List Char) :=
  match c with
  | '(' => readGroup st rest
  | ')' => st.closed?.map fun st => (st, rest)
  | '|' => some (st.bar, rest)
  | '[' => (readClass st.flags rest).map fun ((s, nest), rest) => (st.push (set s) nest, rest)
  | '?' => (st.repeatLast? 0 (some 1)).map fun st => (st, dropLazy rest)
  | '*' => (st.repeatLast? 0 none).map fun st => (st, dropLazy rest)
  | '+' => (st.repeatLast? 1 none).map fun st => (st, dropLazy rest)
  | '{' => do
    let ((min, max), rest) ← readRepetition st.flags rest
    let st ← st.repeatLast? min max
    some (st, rest)
  | '\\' => do
    let (e, rest) ← readEscape st.flags rest
    let r ← ofEscaped? st.flags e
    some (st.push r 0, rest)
  | '.' => (dotSet? st.flags).map fun s => (st.push (set s) 0, rest)
  | '^' => some (st.push (look (startLook st.flags)) 0, rest)
  | '$' => some (st.push (look (endLook st.flags)) 0, rest)
  | c => some (st.push (literal st.flags c) 0, rest)

/-- Reads signs up to the end of the text; every sign is at least one character. -/
def readFrom : Nat → State → List Char → Option Item
  | 0, _, _ => none
  | fuel + 1, st, s =>
    match skip st.flags s with
    | [] => if st.stack.isEmpty then some st.alternation else none
    | c :: rest =>
      match readSign st c rest with
      | some (st, rest) => readFrom fuel st rest
      | none => none

/-- How deep the constructs of an expression may be nested. -/
def nestLimit : Nat := 250

/-- The expression that a text writes. -/
def parse? (s : List Char) : Option Regex := do
  let item ← readFrom (s.length + 1) {} s
  if item.nest ≤ nestLimit then item.regex else none

end DocQuery.Regex

namespace DocQuery.Pattern

/-- The options that searching knows. -/
def flagLetters (p : Pattern) : List Char :=
  p.options.toList.filter fun c => c == 'i' || c == 'm' || c == 's' || c == 'x'

/-- The text of a pattern with its flags in front. -/
def fullSource (p : Pattern) : List Char :=
  if p.flagLetters.isEmpty then p.source.toList
  else '(' :: '?' :: p.flagLetters ++ ')' :: p.source.toList

/-- The expression of a pattern, when there is room for it. -/
def compile? (p : Pattern) : Option Regex := (Regex.parse? p.fullSource).filter (·.fits)

end DocQuery.Pattern
