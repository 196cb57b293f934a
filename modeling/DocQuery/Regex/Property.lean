import DocQuery.Unicode.Age
import DocQuery.Unicode.ScriptExtension
import DocQuery.Unicode.Segment

/-!
# Properties by name

The names behind `\p` and `\P`: a property alone, or a property with a value.

    Greek   Lu   alphabetic   script=Greek   gc:Lu   age=5.0   wb!=Katakana

Case, blanks, lines and a leading `is` of a name do not count.
-/

namespace DocQuery.Regex

open Unicode (CharSet NamedSet)

/-! ## Algorithm -/

/-- A name in normal form. -/
def normalName (name : List Char) : String :=
  let (isPrefixed, body) := match name with
    | a :: b :: rest =>
      if (a == 'i' || a == 'I') && (b == 's' || b == 'S') then (true, rest) else (false, name)
    | _ => (false, name)
  let kept := (body.filter fun c => c.toNat < 128 && c != ' ' && c != '_' && c != '-').map fun c =>
    if 'A' ≤ c ∧ c ≤ 'Z' then Char.ofNat (c.toNat + 32) else c
  if isPrefixed && kept == ['c'] then "isc" else String.ofList kept

/-- The set of a general category. -/
def categorySet? : String → Option CharSet
  | "any" => some .all
  | "assigned" => some (.compl Unicode.Category.unassigned)
  | "ascii" => some (.range 0 0x7F)
  | name => NamedSet.find? Unicode.Category.all name

def scriptSet? (name : String) : Option CharSet := NamedSet.find? Unicode.Script.all name

/-- The set of a script with the characters it shares. -/
def extendedScriptSet? (name : String) : Option CharSet :=
  (Unicode.Script.all.find? fun s => s.names.contains name).map fun s => (Unicode.Script.extended s).set

/-- The set that one name stands for; three short names are those of categories first. -/
def namedSet? (name : String) : Option CharSet :=
  let property :=
    if name == "cf" || name == "sc" || name == "lc" then none
    else NamedSet.find? Unicode.properties name
  (property.or (categorySet? name)).or (scriptSet? name)

/-- The set of a property with a value. -/
def valuedSet? (property value : String) : Option CharSet :=
  match property with
  | "gc" | "generalcategory" => categorySet? value
  | "sc" | "script" => scriptSet? value
  | "scx" | "scriptextensions" => extendedScriptSet? value
  | "age" => Unicode.Age.find? value
  | "gcb" | "graphemeclusterbreak" => NamedSet.find? Unicode.Segment.graphemeParts value
  | "sb" | "sentencebreak" => NamedSet.find? Unicode.Segment.sentenceParts value
  | "wb" | "wordbreak" => NamedSet.find? Unicode.Segment.wordParts value
  | _ => none

/-- Cuts at the first occurrence of a sign. -/
def cutAt? (sign : List Char) : List Char → Option (List Char × List Char)
  | [] => none
  | c :: rest =>
    if sign.isPrefixOf (c :: rest) then some ([], (c :: rest).drop sign.length)
    else (cutAt? sign rest).map fun (front, back) => (c :: front, back)

/-- The set that the text in the braces of `\p` names, and whether it is the complement that is meant. -/
def propertySet? (name : List Char) : Option (CharSet × Bool) :=
  let valued (parts : List Char × List Char) (negated : Bool) : Option (CharSet × Bool) :=
    (valuedSet? (normalName parts.1) (normalName parts.2)).map fun s => (s, negated)
  match cutAt? ['!', '='] name with
  | some parts => valued parts true
  | none =>
    match cutAt? [':'] name with
    | some parts => valued parts false
    | none =>
      match cutAt? ['='] name with
      | some parts => valued parts false
      | none => (namedSet? (normalName name)).map fun s => (s, false)

end DocQuery.Regex
