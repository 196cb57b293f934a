import DocQuery.Calendar
import DocQuery.Store.Error
import DocQuery.Value.ExtendedJson
import DocQuery.Value.Kind

/-!
# Calendar fields and formats in expressions

Expressions take the fields of a date, or of the time in an object identifier, in UTC.  Instants outside the
calendar's years count as its first or its last one.

    format "%Y-%m-%d" t = the date of t          format "%H:%M:%S" t = the time of day of t
-/

namespace DocQuery.DateFormat

/-! ## Algorithm -/

/-- The calendar covers the years -262143 to 262142. -/
def clamp (millis : Int) : Int := Calendar.clampYears (-262143) 262142 millis

/-- The instant that a value stands for; none for null and undefined. -/
def instant? (op : String) : Value → Outcome (Option Int)
  | .null => .ok none
  | .undefined => .ok none
  | .dateTime millis => .ok (some (clamp millis.toInt))
  | .objectId id => .ok (some (clamp (id.seconds * 1000 : Nat)))
  | v => Outcome.mismatch (op ++ " needs a date, got " ++ v.shortName)

/-- The calendar field that an operator takes. -/
def field? (op : String) : Option (Int → Int) :=
  match op with
  | "$year" => some fun t => (Calendar.dateOf t).year
  | "$month" => some fun t => (Calendar.dateOf t).month
  | "$dayOfMonth" => some fun t => (Calendar.dateOf t).day
  | "$dayOfWeek" => some fun t => Calendar.weekdayFromSunday t
  | "$dayOfYear" => some fun t => Calendar.dayOfYear t
  | "$hour" => some fun t => Calendar.hour t
  | "$minute" => some fun t => Calendar.minute t
  | "$second" => some fun t => Calendar.second t
  | "$millisecond" => some fun t => Calendar.millisecond t
  | _ => none

/-- The text of one format letter. -/
def letter? (t : Int) : Char → Option String
  | 'Y' => some (Calendar.padInt 4 (Calendar.dateOf t).year)
  | 'm' => some (Calendar.pad 2 (Calendar.dateOf t).month)
  | 'd' => some (Calendar.pad 2 (Calendar.dateOf t).day)
  | 'H' => some (Calendar.pad 2 (Calendar.hour t))
  | 'M' => some (Calendar.pad 2 (Calendar.minute t))
  | 'S' => some (Calendar.pad 2 (Calendar.second t))
  | 'L' => some (Calendar.pad 3 (Calendar.millisecond t))
  | 'j' => some (Calendar.pad 3 (Calendar.dayOfYear t))
  | 'u' => some (Numeral.ofNat (Calendar.weekdayFromMonday t))
  | '%' => some "%"
  | _ => none

/-- Writes an instant by a format: each `%` with its letter, all else as it stands. -/
def format (t : Int) : List Char → Outcome String
  | [] => .ok ""
  | '%' :: [] => Outcome.invalid "unsupported date format specifier %"
  | '%' :: c :: rest =>
    match letter? t c with
    | some s => (format t rest).map (s ++ ·)
    | none => Outcome.invalid ("unsupported date format specifier %" ++ String.ofList [c])
  | c :: rest => (format t rest).map (String.ofList [c] ++ ·)

/-- The format of expressions that give none. -/
def defaultFormat : String := "%Y-%m-%dT%H:%M:%S.%LZ"

end DocQuery.DateFormat
