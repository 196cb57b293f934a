import DocQuery.Number.Numeral
import DocQuery.Regex.Escape
import DocQuery.Regex.Basic
import DocQuery.Regex.Property
import DocQuery.Text.Hex

/-!
# Reading escapes and bracketed classes

The parts of an expression's text that stand for one character or one set of characters:

    \n   \x41   \u{1F600}   \d   \p{Greek}   [a-c&&[^b]]   [[:alpha:]]

Each reader takes the text behind the sign it was chosen by and returns what it read with the text behind it;
none means that the text is no expression.  Flags in force are `Flags`; under `x`, blanks and comments between
the signs do not count.
-/

namespace DocQuery.Regex

open Unicode (CharSet)

structure Flags where
  insensitive : Bool := false
  multiLine : Bool := false
  dotAll : Bool := false
  unicode : Bool := true
  anyLine : Bool := false
  extended : Bool := false
  deriving DecidableEq, Repr

/-! ## Blanks and numbers -/

mutual

/-- The text behind blanks and comments. -/
def skipBlanks : List Char → List Char
  | [] => []
  | '#' :: rest => skipComment rest
  | c :: rest => if Blank.isBlank c then skipBlanks rest else c :: rest
termination_by structural s => s

/-- The text behind a comment, which the end of its line ends. -/
def skipComment : List Char → List Char
  | [] => []
  | '\n' :: rest => skipBlanks rest
  | _ :: rest => skipComment rest
termination_by structural s => s

end

/-- The text behind what does not count under the flags. -/
def skip (f : Flags) (s : List Char) : List Char := if f.extended then skipBlanks s else s

/-- Digits of a count, with what does not count between them. -/
def readDigits (f : Flags) : Nat → List Char → List Char → List Char × List Char
  | 0, ds, s => (ds.reverse, s)
  | fuel + 1, ds, s =>
    match s with
    | c :: rest => if Numeral.isDigit c then readDigits f fuel (c :: ds) (skip f rest) else (ds.reverse, s)
    | [] => (ds.reverse, s)

/-- A count below `2^32`, blanks around it allowed. -/
def readCount (f : Flags) (s : List Char) : Option (Nat × List Char) :=
  let (ds, rest) := readDigits f s.length [] (s.dropWhile Blank.isBlank)
  match Numeral.natural? ds with
  | some n => if n < UInt32.size then some (n, rest.dropWhile Blank.isBlank) else none
  | none => none

/-! ## Escapes -/

/-- What an escape stands for. -/
inductive Escaped where
  | char (c : Char)
  | set (s : CharSet)
  | look (l : Look)

/-- The character of a number, when it is one. -/
def charOf? (n : Nat) : Option Char := if h : n.isValidChar then some (Char.ofNatAux n h) else none

/-- The number in braces, up to `}`. -/
def readBraced (f : Flags) : Nat → List Char → List Char → Option (List Char × List Char)
  | 0, _, _ => none
  | fuel + 1, cs, s =>
    match skip f s with
    | '}' :: rest => some (cs.reverse, rest)
    | c :: rest => readBraced f fuel (c :: cs) rest
    | [] => none

/-- A fixed count of hexadecimal digits. -/
def readHexDigits (f : Flags) : Nat → List Char → List Char → Option (List Char × List Char)
  | 0, ds, s => some (ds.reverse, s)
  | n + 1, ds, s =>
    match skip f s with
    | c :: rest => if (Hex.digitValue? c).isSome then readHexDigits f n (c :: ds) rest else none
    | [] => none

/-- The character behind `\x`, `\u` or `\U`: that many digits, or any number of them in braces.  Without
Unicode, two digits are a byte, and only those of ASCII are text. -/
def readHex (f : Flags) (width : Nat) (s : List Char) : Option (Escaped × List Char) := do
  let (ds, rest, fixed) ← match skip f s with
    | '{' :: rest => (readBraced f (rest.length + 1) [] rest).map fun (ds, rest) => (ds, rest, false)
    | _ => (readHexDigits f width [] s).map fun (ds, rest) => (ds, rest, true)
  let n ← Hex.toNat? ds
  let c ← charOf? n
  if fixed && width == 2 && !f.unicode && 0x80 ≤ n then none else some (.char c, rest)

/-- A set with its cases folded under the flags. -/
def foldIf (f : Flags) (s : CharSet) : CharSet :=
  if !f.insensitive then s else if f.unicode then .folded s else .foldedLatin s

/-- The set behind `\p` or `\P`. -/
def readProperty (f : Flags) (negated : Bool) (s : List Char) : Option (Escaped × List Char) := do
  let (name, rest) ← match skip f s with
    | '{' :: rest => readBraced f (rest.length + 1) [] rest
    | '\\' :: _ => none
    | c :: rest => some ([c], skip f rest)
    | [] => none
  if f.unicode then
    let (s, other) ← propertySet? name
    some (.set (CharSet.negateIf (negated != other) (foldIf f s)), rest)
  else none

/-- The name in the braces behind `\b`: none of this kind when the braces hold something else. -/
def readBoundaryName (f : Flags) : Nat → List Char → List Char → Option (List Char × List Char)
  | 0, _, _ => none
  | fuel + 1, cs, s =>
    match s with
    | c :: rest =>
      if ('A' ≤ c ∧ c ≤ 'Z') ∨ ('a' ≤ c ∧ c ≤ 'z') ∨ c = '-' then
        readBoundaryName f fuel (c :: cs) (skip f rest)
      else if c = '}' then some (cs.reverse, rest)
      else none
    | [] => none

/-- The condition behind `\b`, with the name of a special boundary in braces. -/
def readBoundary (f : Flags) (s : List Char) : Option (Escaped × List Char) :=
  let plain : Option (Escaped × List Char) := some (.look (.wordBoundary f.unicode), s)
  match s with
  | '{' :: rest =>
    match skip f rest with
    | [] => none
    | c :: more =>
      if ('A' ≤ c ∧ c ≤ 'Z') ∨ ('a' ≤ c ∧ c ≤ 'z') ∨ c = '-' then do
        let (name, rest) ← readBoundaryName f (more.length + 2) [] (c :: more)
        match String.ofList name with
        | "start" => some (.look (.wordStart f.unicode), rest)
        | "end" => some (.look (.wordEnd f.unicode), rest)
        | "start-half" => some (.look (.wordStartHalf f.unicode), rest)
        | "end-half" => some (.look (.wordEndHalf f.unicode), rest)
        | _ => none
      else plain
  | _ => plain

/-- Characters that may stand behind a backslash for themselves: signs of ASCII, but no angle. -/
def isEscapable (c : Char) : Bool :=
  isMeta c || (c.toNat < 128 && !c.isAlphanum && c != '<' && c != '>')

/-- What the text behind a backslash stands for. -/
def readEscape (f : Flags) : List Char → Option (Escaped × List Char)
  | [] => none
  | c :: rest =>
    match c with
    | 'x' => readHex f 2 rest
    | 'u' => readHex f 4 rest
    | 'U' => readHex f 8 rest
    | 'p' => readProperty f false rest
    | 'P' => readProperty f true rest
    | 'd' => some (.set (digits f.unicode), rest)
    | 'D' => some (.set (.compl (digits f.unicode)), rest)
    | 's' => some (.set (blanks f.unicode), rest)
    | 'S' => some (.set (.compl (blanks f.unicode)), rest)
    | 'w' => some (.set (wordCharacters f.unicode), rest)
    | 'W' => some (.set (.compl (wordCharacters f.unicode)), rest)
    | 'a' => some (.char '\x07', rest)
    | 'f' => some (.char '\x0c', rest)
    | 't' => some (.char '\t', rest)
    | 'n' => some (.char '\n', rest)
    | 'r' => some (.char '\r', rest)
    | 'v' => some (.char '\x0b', rest)
    | 'A' => some (.look .textStart, rest)
    | 'z' => some (.look .textEnd, rest)
    | 'b' => readBoundary f rest
    | 'B' => some (.look (.notWordBoundary f.unicode), rest)
    | '<' => some (.look (.wordStart f.unicode), rest)
    | '>' => some (.look (.wordEnd f.unicode), rest)
    | c => if isEscapable c then some (.char c, rest) else none

/-! ## Bracketed classes -/

inductive SetOperation where
  | inter
  | minus
  | xor
  deriving DecidableEq, Repr

/-- How deep a construct of these parts is nested: a part that stands alone is the construct itself. -/
def nestOf : List Nat → Nat
  | [] => 0
  | [n] => n
  | ns => ns.foldl max 0 + 1

/-- The part of a class that has been read: its set, and how deep each of its items is nested. -/
structure ClassPart where
  set : CharSet := .none
  nests : List Nat := []

namespace ClassPart

def nest (p : ClassPart) : Nat := nestOf p.nests

/-- With one more item. -/
def add (p : ClassPart) (s : CharSet) (nest : Nat) : ClassPart := ⟨.union p.set s, nest :: p.nests⟩

end ClassPart

/-- A class that is still open: one bracket with what stands before it, or the left side of an operation. -/
inductive ClassFrame where
  | bracket (before : ClassPart) (negated : Bool)
  | operation (op : SetOperation) (left : ClassPart)

/-- Without Unicode a set may hold characters of ASCII only. -/
def asciiOnly? (f : Flags) (s : CharSet) : Option CharSet :=
  if f.unicode then some s
  else if (List.range 128).any fun i => s.contains (Char.ofNat (128 + i)) then none
  else some s

/-- Applies the operation that waits for its right side, when one does. -/
def closeOperation (f : Flags) (right : ClassPart) : List ClassFrame → ClassPart × List ClassFrame
  | .operation op left :: stack =>
    let (l, r) := (foldIf f left.set, foldIf f right.set)
    let set := match op with
      | .inter => CharSet.inter l r
      | .minus => CharSet.minus l r
      | .xor => CharSet.xor l r
    (⟨set, [max left.nest right.nest + 1]⟩, stack)
  | stack => (right, stack)

/-- The hyphens and the closing bracket that stand for themselves at the start of a class. -/
def readLeading (f : Flags) (first : Bool) : Nat → ClassPart → List Char → Option (ClassPart × List Char)
  | 0, _, _ => none
  | fuel + 1, acc, s =>
    match s with
    | '-' :: rest =>
      match skip f rest with
      | [] => none
      | more => readLeading f false fuel (acc.add (.single '-') 0) more
    | ']' :: rest =>
      if first then
        match skip f rest with
        | [] => none
        | more => some (acc.add (.single ']') 0, more)
      else some (acc, s)
    | _ => some (acc, s)

/-- The start of a class behind `[`: its negation and the characters at its start. -/
def readOpening (f : Flags) (s : List Char) : Option ((ClassPart × Bool) × List Char) :=
  let start (negated : Bool) (s : List Char) : Option ((ClassPart × Bool) × List Char) :=
    (readLeading f true (s.length + 1) {} s).map fun (acc, rest) => ((acc, negated), rest)
  match skip f s with
  | [] => none
  | '^' :: rest =>
    match skip f rest with
    | [] => none
    | more => start true more
  | more => start false more

/-- The set between `[:` and `:]`, when such a class is there. -/
def readNamedClass (s : List Char) : Option ((CharSet × Bool) × List Char) :=
  match s with
  | ':' :: rest =>
    let (negated, body) := match rest with
      | '^' :: more => (true, more)
      | _ => (false, rest)
    match cutAt? [':'] body with
    | some (name, ']' :: rest) => (Unicode.NamedSet.find? namedClasses (String.ofList name)).map fun s => ((s, negated), rest)
    | _ => none
  | _ => none

/-- One character, or the set or condition of an escape, within a class. -/
def readClassItem (f : Flags) : List Char → Option (Escaped × List Char)
  | [] => none
  | '\\' :: rest => readEscape f rest
  | c :: rest => some (.char c, rest)

/-- The character ahead, under `x` behind blanks. -/
def ahead (f : Flags) (s : List Char) : Option Char :=
  if f.extended then
    match (s.dropWhile Blank.isBlank) with
    | '#' :: rest => (rest.dropWhile Blank.isBlank).head?
    | s => s.head?
  else s.head?

/-- A single item of a class as a set; conditions are none. -/
def itemSet? (f : Flags) : Escaped → Option CharSet
  | .char c => if f.unicode || c.toNat < 128 then some (.single c) else none
  | .set s => asciiOnly? f s
  | .look _ => none

/-- A range, or a single item where no range follows. -/
def readClassRange (f : Flags) (s : List Char) : Option (CharSet × List Char) := do
  let (item, rest) ← readClassItem f s
  match skip f rest with
  | [] => none
  | '-' :: more =>
    if ahead f more == some ']' || ahead f more == some '-' then
      (itemSet? f item).map fun one => (one, '-' :: more)
    else
      match skip f more with
      | [] => none
      | last => do
        let (item', rest) ← readClassItem f last
        match item, item' with
        | .char a, .char b =>
          if a ≤ b ∧ (f.unicode ∨ b.toNat < 128) then some (.range a.toNat b.toNat, rest) else none
        | _, _ => none
  | more => (itemSet? f item).map fun one => (one, more)

/-- Reads a class whose brackets so far are on the stack, `part` being the innermost one.  Gives the set and how
deep the class is nested. -/
def readClassFrom (f : Flags) :
    Nat → List ClassFrame → ClassPart → List Char → Option ((CharSet × Nat) × List Char)
  | 0, _, _, _ => none
  | fuel + 1, stack, part, s =>
    let operate (op : SetOperation) (rest : List Char) : Option ((CharSet × Nat) × List Char) :=
      let (left, stack) := closeOperation f part stack
      readClassFrom f fuel (.operation op left :: stack) {} rest
    match skip f s with
    | [] => none
    | '[' :: rest =>
      match readNamedClass rest with
      | some ((named, negated), rest) => do
        let named ← asciiOnly? f (.negateIf negated (foldIf f named))
        readClassFrom f fuel stack (part.add named 0) rest
      | none => do
        let ((start, negated), rest) ← readOpening f rest
        readClassFrom f fuel (.bracket part negated :: stack) start rest
    | ']' :: rest =>
      match closeOperation f part stack with
      | (inside, .bracket before negated :: stack) => do
        let closed ← asciiOnly? f (.negateIf negated (foldIf f inside.set))
        match stack with
        | [] => some ((closed, inside.nest + 1), rest)
        | _ => readClassFrom f fuel stack (before.add closed (inside.nest + 1)) rest
      | _ => none
    | '&' :: '&' :: rest => operate .inter rest
    | '-' :: '-' :: rest => operate .minus rest
    | '~' :: '~' :: rest => operate .xor rest
    | more => do
      let (one, rest) ← readClassRange f more
      readClassFrom f fuel stack (part.add one 0) rest

/-- The class behind `[`. -/
def readClass (f : Flags) (s : List Char) : Option ((CharSet × Nat) × List Char) := do
  let ((start, negated), rest) ← readOpening f s
  readClassFrom f (rest.length + 1) [.bracket {} negated] start rest

end DocQuery.Regex
