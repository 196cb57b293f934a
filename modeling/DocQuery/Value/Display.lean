import DocQuery.Value.ExtendedJson

/-!
# Values in messages

The plain text of a value, as duplicate-key messages show it and as case changes see a number:

    1   -0   "text"   [1, "a", [null]]   ObjectId("…")   Timestamp(7, 3)   /pattern/options

Doubles are written out in full, without an exponent and without `.0`.
-/

namespace DocQuery.Value

/-! ## Algorithm -/

/-- Doubles are always positional; of two equally near texts the larger is taken. -/
def plainLayout : Shortest.Layout :=
  { positional := none, keepsPoint := false, tie := .up, nan := "NaN", infinity := "inf" }

/-- A fraction of a second of at least one digit. -/
def fractionDigits (millis : Nat) : String :=
  if millis % 100 = 0 then Calendar.pad 1 (millis / 100)
  else if millis % 10 = 0 then Calendar.pad 2 (millis / 10)
  else Calendar.pad 3 millis

/-- A year of four digits; years outside them carry a sign. -/
def yearText (year : Int) : String :=
  if 0 ≤ year ∧ year < 10000 then Calendar.padInt 4 year
  else (if year < 0 then "-" else "+") ++ Calendar.pad 4 year.natAbs

/-- The calendar of messages ends with the years of six digits. -/
def clampedInstant (millis : Int) : Int := Calendar.clampYears (-999999) 999999 millis

/-- Date, time of day with the hour unpadded, and the offset of UTC. -/
def momentText (millis : Int) : String :=
  let t := clampedInstant millis
  let d := Calendar.dateOf t
  let fraction := if millis ≤ t then fractionDigits (Calendar.millisecond t) else "999999999"
  yearText d.year ++ "-" ++ Calendar.pad 2 d.month ++ "-" ++ Calendar.pad 2 d.day ++ " " ++
    Numeral.ofNat (Calendar.hour t) ++ ":" ++ Calendar.pad 2 (Calendar.minute t) ++ ":" ++
    Calendar.pad 2 (Calendar.second t) ++ "." ++ fraction ++ " +00:00:00"

/-- A document of texts already written: spaces inside the braces unless it is empty. -/
def bracedText (parts : List String) : String :=
  if parts.isEmpty then "\x7b\x7d" else "\x7b " ++ Split.intercalate ", " parts ++ " \x7d"

mutual

/-- The plain text of a value. -/
def display : Value → String
  | double x => Shortest.write plainLayout x
  | string s => "\"" ++ s ++ "\""
  | document d => bracedText (displayFields d)
  | array items => "[" ++ Split.intercalate ", " (displayItems items) ++ "]"
  | binary subtype bytes =>
    "Binary(0x" ++ String.ofList (Hex.short subtype.toNat) ++ ", " ++ String.ofList (Base64.encode bytes) ++ ")"
  | undefined => "undefined"
  | objectId id => "ObjectId(\"" ++ id.hex ++ "\")"
  | boolean b => if b then "true" else "false"
  | dateTime millis => "DateTime(\"" ++ momentText millis.toInt ++ "\")"
  | null => "null"
  | regex p => "/" ++ p.source ++ "/" ++ p.options
  | code s => s
  | symbol s => "Symbol(\"" ++ s ++ "\")"
  | scopedCode s _ => s
  | int32 n => Numeral.ofInt n.toInt
  | timestamp t i => "Timestamp(" ++ Numeral.ofNat t.toNat ++ ", " ++ Numeral.ofNat i.toNat ++ ")"
  | int64 n => Numeral.ofInt n.toInt
  | decimal d => d.write
  | minKey => "MinKey"
  | maxKey => "MaxKey"
termination_by structural v => v

def displayItems : List Value → List String
  | [] => []
  | v :: rest => display v :: displayItems rest
termination_by structural vs => vs

def displayFields : List (String × Value) → List String
  | [] => []
  | (k, v) :: rest => ("\"" ++ k ++ "\": " ++ display v) :: displayFields rest
termination_by structural fs => fs

end

end DocQuery.Value
