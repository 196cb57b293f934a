import DocQuery.Calendar
import DocQuery.Json.Basic
import DocQuery.Number.Decimal128

/-!
# Relaxed extended JSON

Values as JSON.  Numbers, texts, arrays and documents stand for themselves; the other kinds are objects with
one dollar name:

    "$oid"  "$date"  "$timestamp"  "$regularExpression"  "$binary"  "$numberDecimal"  "$symbol"  "$code"  …

A date of the years 1970 to 9999 is a calendar text, any other its milliseconds.
-/

namespace DocQuery

/-- The twenty-four digits of an object identifier. -/
def ObjectId.hex (id : ObjectId) : String := String.ofList (Hex.ofNat 24 id.bits.toNat)

namespace Value

/-! ## Algorithm -/

/-- The last millisecond of the year 9999. -/
def lastCalendarMillis : Int := Calendar.dayNumber ⟨10000, 1, 1⟩ * Calendar.millisPerDay - 1

/-- A fraction of a second without trailing zeros; nothing for none. -/
def fractionText (millis : Nat) : String :=
  if millis = 0 then ""
  else if millis % 100 = 0 then "." ++ Calendar.pad 1 (millis / 100)
  else if millis % 10 = 0 then "." ++ Calendar.pad 2 (millis / 10)
  else "." ++ Calendar.pad 3 millis

/-- Date, `T`, time of day, fraction and `Z`. -/
def instantText (millis : Int) : String :=
  let d := Calendar.dateOf millis
  Calendar.padInt 4 d.year ++ "-" ++ Calendar.pad 2 d.month ++ "-" ++ Calendar.pad 2 d.day ++ "T" ++
    Calendar.pad 2 (Calendar.hour millis) ++ ":" ++ Calendar.pad 2 (Calendar.minute millis) ++ ":" ++
    Calendar.pad 2 (Calendar.second millis) ++ fractionText (Calendar.millisecond millis) ++ "Z"

def dateJson (millis : Int) : Json :=
  .object [("$date",
    if 0 ≤ millis ∧ millis ≤ lastCalendarMillis then .string (instantText millis)
    else .object [("$numberLong", .string (Numeral.ofInt millis))])]

def doubleJson (x : Float) : Json :=
  let named (t : String) : Json := .object [("$numberDouble", .string t)]
  if Double.isNaN x then named "NaN"
  else if Double.isFinite x then .double x
  else if Double.isNegative x then named "-Infinity" else named "Infinity"

/-- Options are written in order of their letters. -/
def patternJson (p : Pattern) : Json :=
  let options := String.ofList (p.options.toList.mergeSort fun a b => a.toNat ≤ b.toNat)
  .object [("$regularExpression", .object [("pattern", .string p.source), ("options", .string options)])]

def binaryJson (subtype : UInt8) (bytes : List UInt8) : Json :=
  .object [("$binary", .object [("base64", .string (String.ofList (Base64.encode bytes))),
    ("subType", .string (String.ofList (Hex.ofNat 2 subtype.toNat)))])]

mutual

/-- A value as relaxed extended JSON. -/
def toJson : Value → Json
  | double x => doubleJson x
  | string s => .string s
  | document d => .object (fieldsJson d)
  | array items => .array (itemsJson items)
  | binary subtype bytes => binaryJson subtype bytes
  | undefined => .object [("$undefined", .bool true)]
  | objectId id => .object [("$oid", .string id.hex)]
  | boolean b => .bool b
  | dateTime millis => dateJson millis.toInt
  | null => .null
  | regex p => patternJson p
  | code s => .object [("$code", .string s)]
  | symbol s => .object [("$symbol", .string s)]
  | scopedCode s scope => .object [("$code", .string s), ("$scope", .object (fieldsJson scope))]
  | int32 n => .int n.toInt
  | timestamp t i => .object [("$timestamp", .object [("t", .int t.toNat), ("i", .int i.toNat)])]
  | int64 n => .int n.toInt
  | decimal d => .object [("$numberDecimal", .string d.write)]
  | minKey => .object [("$minKey", .int 1)]
  | maxKey => .object [("$maxKey", .int 1)]
termination_by structural v => v

def itemsJson : List Value → List Json
  | [] => []
  | v :: rest => toJson v :: itemsJson rest
termination_by structural vs => vs

def fieldsJson : List (String × Value) → List (String × Json)
  | [] => []
  | (k, v) :: rest => (k, toJson v) :: fieldsJson rest
termination_by structural fs => fs

end

/-- The compact relaxed extended JSON text of a value. -/
def jsonText (v : Value) : String := (toJson v).write

end Value

end DocQuery
