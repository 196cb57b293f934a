import DocQuery.Number.Shortest
import DocQuery.Text.Hex
import DocQuery.Text.Split

/-!
# JSON values and their text

A JSON value keeps integers apart from doubles, and its object fields in order.  The text is compact:

    write (object [("a", int 1), ("b", array [double 1.0])]) = the text  "a":1,"b":[1.0]  in braces
-/

namespace DocQuery

inductive Json where
  | null
  | bool (b : Bool)
  | int (n : Int)
  | double (x : Float)
  | string (s : String)
  | array (items : List Json)
  | object (fields : List (String × Json))
  deriving Inhabited

namespace Json

/-! ## Algorithm -/

/-- Doubles are positional from `0.00001` up to sixteen digits, and keep a point. -/
def doubleLayout : Shortest.Layout :=
  { positional := some (-5, 15), keepsPoint := true, tie := .toEven, nan := "null", infinity := "null" }

/-- One character of a quoted text. -/
def escape (c : Char) : List Char :=
  if c = '"' then ['\\', '"']
  else if c = '\\' then ['\\', '\\']
  else if c = '\x08' then ['\\', 'b']
  else if c = '\x0c' then ['\\', 'f']
  else if c = '\n' then ['\\', 'n']
  else if c = '\r' then ['\\', 'r']
  else if c = '\t' then ['\\', 't']
  else if c.toNat < 32 then '\\' :: 'u' :: Hex.ofNat 4 c.toNat
  else [c]

def quote (s : String) : String := String.ofList ('"' :: s.toList.flatMap escape ++ ['"'])

mutual

/-- The compact text of a value. -/
def write : Json → String
  | null => "null"
  | bool b => if b then "true" else "false"
  | int n => Numeral.ofInt n
  | double x => Shortest.write doubleLayout x
  | string s => quote s
  | array items => "[" ++ Split.intercalate "," (writeItems items) ++ "]"
  | object fields => "\x7b" ++ Split.intercalate "," (writeFields fields) ++ "\x7d"
termination_by structural j => j

def writeItems : List Json → List String
  | [] => []
  | j :: rest => write j :: writeItems rest
termination_by structural js => js

def writeFields : List (String × Json) → List String
  | [] => []
  | (k, j) :: rest => (quote k ++ ":" ++ write j) :: writeFields rest
termination_by structural fs => fs

end

/-- The field of an object. -/
def field? (name : String) : Json → Option Json
  | object fields => fields.lookup name
  | _ => none

end Json

end DocQuery
