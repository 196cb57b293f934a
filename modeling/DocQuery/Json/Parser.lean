import DocQuery.Json.Basic

/-!
# Reading JSON

Text is read strictly, up to 127 levels deep.  A record is an object of which only some fields are known, or an
array of these fields in order; its other fields are passed over, and there neither depth nor the range of
numbers nor unpaired surrogates matter.

    parse? shape s = some j     exactly when s is one value with blanks around it

Integers that 64 bits hold stay integers, the least of them being `-2^63` and the largest `2^64 - 1`.  Other
numbers become doubles: the digits that fit into 64 bits, times a power of ten.
-/

namespace DocQuery.Json

/-! ## What is read -/

inductive Shape where
  | any
  /-- Known fields in order. -/
  | record (fields : List (String × Shape))
  deriving Inhabited

/-- The known fields of a record; everything is known otherwise. -/
def Shape.known? : Shape → Option (List (String × Shape))
  | any => none
  | record fields => some fields

/-- The shapes of the elements of an array. -/
def Shape.elements : Shape → List Shape
  | any => []
  | record fields => fields.map Prod.snd

/-- The levels that may still be opened; none when the text is only passed over. -/
abbrev Depth := Option Nat

/-- Levels that a text may open. -/
def maxDepth : Nat := 127

/-- The depth inside an array or an object. -/
def enter : Depth → Option Depth
  | none => some none
  | some 0 => none
  | some (n + 1) => some (some n)

/-! ## Texts -/

def isBlank (c : Char) : Bool := c == ' ' || c == '\n' || c == '\t' || c == '\r'

def dropBlanks (s : List Char) : List Char := s.dropWhile isBlank

/-- Four hexadecimal digits. -/
def readHex : List Char → Option (Nat × List Char)
  | a :: b :: c :: d :: rest => (Hex.toNat? [a, b, c, d]).map fun n => (n, rest)
  | _ => none

def isHighSurrogate (n : Nat) : Bool := 0xD800 ≤ n && n < 0xDC00

def isLowSurrogate (n : Nat) : Bool := 0xDC00 ≤ n && n < 0xE000

/-- The character behind `\u`; two surrogates make one character, and single ones are refused when strict. -/
def readUnicode (strict : Bool) (s : List Char) : Option (Char × List Char) := do
  let (high, rest) ← readHex s
  if !strict then some (Char.ofNat high, rest)
  else if isLowSurrogate high then none
  else if isHighSurrogate high then
    match rest with
    | '\\' :: 'u' :: rest => do
      let (low, rest) ← readHex rest
      if isLowSurrogate low then
        some (Char.ofNat (0x10000 + (high - 0xD800) * 0x400 + (low - 0xDC00)), rest)
      else none
    | _ => none
  else some (Char.ofNat high, rest)

/-- The character behind a backslash. -/
def readEscape (strict : Bool) : List Char → Option (Char × List Char)
  | '"' :: rest => some ('"', rest)
  | '\\' :: rest => some ('\\', rest)
  | '/' :: rest => some ('/', rest)
  | 'b' :: rest => some ('\x08', rest)
  | 'f' :: rest => some ('\x0c', rest)
  | 'n' :: rest => some ('\n', rest)
  | 'r' :: rest => some ('\r', rest)
  | 't' :: rest => some ('\t', rest)
  | 'u' :: rest => readUnicode strict rest
  | _ => none

/-- The rest of a quoted text, up to its closing quote. -/
def readChars (strict : Bool) : Nat → List Char → Option (List Char × List Char)
  | 0, _ => none
  | fuel + 1, s =>
    match s with
    | '"' :: rest => some ([], rest)
    | '\\' :: rest => do
      let (c, rest) ← readEscape strict rest
      let (cs, rest) ← readChars strict fuel rest
      some (c :: cs, rest)
    | c :: rest =>
      if c.toNat < 32 then none
      else do
        let (cs, rest) ← readChars strict fuel rest
        some (c :: cs, rest)
    | [] => none

/-- The text behind an opening quote. -/
def readText (depth : Depth) (s : List Char) : Option (String × List Char) :=
  (readChars depth.isSome s.length s).map fun (cs, rest) => (String.ofList cs, rest)

/-! ## Numbers -/

/-- The parts of a number as it is written. -/
structure NumberText where
  negative : Bool
  whole : List Char
  fraction : Option (List Char)
  /-- Whether the exponent is negative, and its digits. -/
  exponent : Option (Bool × List Char)

/-- One digit or more. -/
def readDigits (s : List Char) : Option (List Char × List Char) :=
  let ds := s.takeWhile Numeral.isDigit
  if ds.isEmpty then none else some (ds, s.dropWhile Numeral.isDigit)

def readFraction : List Char → Option (Option (List Char) × List Char)
  | '.' :: rest => (readDigits rest).map fun (ds, rest) => (some ds, rest)
  | s => some (none, s)

def readExponent (s : List Char) : Option (Option (Bool × List Char) × List Char) :=
  let signed (negative : Bool) (s : List Char) : Option (Option (Bool × List Char) × List Char) :=
    (readDigits s).map fun (ds, rest) => (some (negative, ds), rest)
  let behind (rest : List Char) : Option (Option (Bool × List Char) × List Char) :=
    match rest with
    | '+' :: rest => signed false rest
    | '-' :: rest => signed true rest
    | rest => signed false rest
  match s with
  | 'e' :: rest => behind rest
  | 'E' :: rest => behind rest
  | s => some (none, s)

/-- The parts of a number; a zero does not stand before other digits. -/
def readNumberText (s : List Char) : Option (NumberText × List Char) := do
  let (negative, s) := match s with
    | '-' :: rest => (true, rest)
    | s => (false, s)
  let (whole, s) ← readDigits s
  if whole.head? = some '0' ∧ whole.length ≠ 1 then none
  else do
    let (fraction, s) ← readFraction s
    let (exponent, s) ← readExponent s
    some (⟨negative, whole, fraction, exponent⟩, s)

/-- Takes digits into a number as long as 64 bits hold it, and leaves the others. -/
def absorb (n : Nat) : List Char → Nat × List Char
  | [] => (n, [])
  | c :: rest =>
    let next := n * 10 + Numeral.digitValue c
    if next < UInt64.size then absorb next rest else (n, c :: rest)

def power (n : Nat) : Float := Float.ofScientific 1 false n

/-- The double of digits and a power of ten; none when it is infinite. -/
def scaled? (n : Nat) (exponent : Int) : Option Float :=
  let x := Float.ofNat n
  match exponent with
  | .ofNat e =>
    if n = 0 then some x
    else if 308 < e then none
    else
      let y := x * power e
      if Double.isFinite y then some y else none
  | .negSucc e =>
    let e := e + 1
    if e ≤ 308 then some (x / power e)
    else if e ≤ 616 then some (x / power 308 / power (e - 308))
    else some 0.0

/-- The number that its parts write. -/
def NumberText.value? (t : NumberText) : Option Json :=
  let (n, unread) := absorb 0 t.whole
  let signed (x : Float) : Json := .double (if t.negative then -x else x)
  if t.fraction.isNone && t.exponent.isNone && unread.isEmpty then
    if !t.negative then some (.int n)
    else if n = 0 ∨ Nat.pow 2 63 < n then some (signed (Float.ofNat n))
    else some (.int (-n))
  else
    let fraction := t.fraction.getD []
    let (n, beyond) := absorb n fraction
    let shift : Int := unread.length - (fraction.length - beyond.length : Nat)
    let exponent : Int := match t.exponent with
      | none => 0
      | some (negative, ds) =>
        let e : Nat := (Numeral.natural? ds).getD 0
        if negative then -(e : Int) else e
    (scaled? n (shift + exponent)).map signed

/-- A number; one that is passed over may have any value. -/
def readNumber (depth : Depth) (s : List Char) : Option (Json × List Char) := do
  let (t, rest) ← readNumberText s
  if depth.isNone then some (.null, rest) else (t.value?).map fun j => (j, rest)

/-! ## Values -/

/-- The fields of an object in which a repeated name writes again over the first one. -/
def lastWins (fields : List (String × Json)) : List (String × Json) :=
  let write (kept : List (String × Json)) (f : String × Json) : List (String × Json) :=
    if kept.any fun g => g.1 == f.1 then kept.map fun g => if g.1 == f.1 then f else g else kept ++ [f]
  fields.foldl write []

/-- An object of fields as they are read; those of a record stay as they stand. -/
def Shape.toObject (shape : Shape) (fields : List (String × Json)) : Json :=
  match shape with
  | any => .object (lastWins fields)
  | record _ => .object fields

mutual

/-- A value with the blanks before it. -/
def readValue : Nat → Depth → Shape → List Char → Option (Json × List Char)
  | 0, _, _, _ => none
  | fuel + 1, depth, shape, s =>
    match dropBlanks s with
    | '"' :: rest => (readText depth rest).map fun (t, rest) => (.string t, rest)
    | '[' :: rest => do
      let depth ← enter depth
      match dropBlanks rest with
      | ']' :: rest => some (.array [], rest)
      | rest => do
        let (items, rest) ← readItems fuel depth shape.elements rest
        some (.array items, rest)
    | '{' :: rest => do
      let depth ← enter depth
      match dropBlanks rest with
      | '}' :: rest => some (.object [], rest)
      | rest => do
        let (fields, rest) ← readMembers fuel depth shape.known? rest
        some (shape.toObject fields, rest)
    | 'n' :: 'u' :: 'l' :: 'l' :: rest => some (.null, rest)
    | 't' :: 'r' :: 'u' :: 'e' :: rest => some (.bool true, rest)
    | 'f' :: 'a' :: 'l' :: 's' :: 'e' :: rest => some (.bool false, rest)
    | s => readNumber depth s

/-- The elements of an array and its closing bracket. -/
def readItems : Nat → Depth → List Shape → List Char → Option (List Json × List Char)
  | 0, _, _, _ => none
  | fuel + 1, depth, shapes, s => do
    let (j, rest) ← readValue fuel depth (shapes.headD .any) s
    match dropBlanks rest with
    | ']' :: rest => some ([j], rest)
    | ',' :: rest => do
      let (js, rest) ← readItems fuel depth shapes.tail rest
      some (j :: js, rest)
    | _ => none

/-- The known fields of an object and its closing brace. -/
def readMembers : Nat → Depth → Option (List (String × Shape)) → List Char →
    Option (List (String × Json) × List Char)
  | 0, _, _, _ => none
  | fuel + 1, depth, known, s => do
    let (name, rest) ← readName depth s
    let (fields, rest) ← match known with
      | none => (readValue fuel depth .any rest).map fun (j, rest) => ([(name, j)], rest)
      | some shapes =>
        match shapes.lookup name with
        | some shape => (readValue fuel depth shape rest).map fun (j, rest) => ([(name, j)], rest)
        | none => (readValue fuel none .any rest).map fun (_, rest) => ([], rest)
    match dropBlanks rest with
    | '}' :: rest => some (fields, rest)
    | ',' :: rest => do
      let (others, rest) ← readMembers fuel depth known rest
      some (fields ++ others, rest)
    | _ => none
where
  /-- A quoted name and the colon behind it. -/
  readName (depth : Depth) (s : List Char) : Option (String × List Char) :=
    match dropBlanks s with
    | '"' :: rest => do
      let (name, rest) ← readText depth rest
      match dropBlanks rest with
      | ':' :: rest => some (name, rest)
      | _ => none
    | _ => none

end

/-- The value that a text writes. -/
def parse? (shape : Shape) (text : String) : Option Json :=
  let s := text.toList
  match readValue (2 * s.length + 2) (some maxDepth) shape s with
  | some (j, rest) => if (dropBlanks rest).isEmpty then some j else none
  | none => none

end DocQuery.Json
