import DocQuery.Text.Blank
import DocQuery.Text.Case
import DocQuery.Text.Split

/-!
# Operators of predicates

A predicate names its operator in relational spelling (`=`, `<>`, `like`, …) or by a native name of the store
(`gt`, `elemMatch`, …), in any case, with or without a leading `$` and with any white space:

    parse? "="          = equals          parse? "NOT  LIKE"   = like negated
    parse? "<>"         = native "ne"     parse? "$ELEMMATCH"  = native "elemMatch"
-/

namespace DocQuery

inductive Operator where
  | equals
  | like (negated : Bool)
  | regex (negated : Bool)
  /-- A native operator, without its `$`. -/
  | native (name : String)
  deriving DecidableEq, Repr

namespace Operator

/-! ## Algorithm -/

def relationalNames : List String :=
  ["=", "<", ">", "<=", ">=", "<>", "!=", "like", "not like", "regexp", "not regexp", "regex", "not regex"]

def nativeNames : List String :=
  ["eq", "gt", "gte", "in", "lt", "lte", "ne", "nin", "exists", "type", "expr", "mod", "regex", "text", "where",
   "geoIntersects", "geoWithin", "near", "nearSphere", "box", "center", "centerSphere", "geometry",
   "maxDistance", "minDistance", "polygon", "uniqueDocs", "all", "elemMatch", "size", "bitsAllClear",
   "bitsAllSet", "bitsAnyClear", "bitsAnySet", "slice"]

/-- Every operator a predicate may name, the relational ones first. -/
def names : List String := relationalNames ++ nativeNames

def dropDollars (s : List Char) : List Char := s.dropWhile (· == '$')

/-- No blanks around and no `$` before it, lower case, one space between words. -/
def normalize (raw : String) : String :=
  Split.intercalate " " ((Blank.words (Case.lower (dropDollars (Blank.trim raw.toList)))).map String.ofList)

/-- The native name of a relational comparison other than `=`. -/
def convert? (name : String) : Option String :=
  match name with
  | "!=" => some "ne"
  | "<>" => some "ne"
  | "<" => some "lt"
  | "<=" => some "lte"
  | ">" => some "gt"
  | ">=" => some "gte"
  | _ => none

/-- The native operator spelt like the name up to the case of Latin letters. -/
def canonical? (name : String) : Option String :=
  let wanted := (dropDollars name.toList).map Case.lowerLatin
  nativeNames.find? fun known => known.toList.map Case.lowerLatin == wanted

/-- The operator that a normal form names. -/
def ofNormal? (name : String) : Option Operator :=
  match name with
  | "=" => some equals
  | "like" => some (like false)
  | "not like" => some (like true)
  | "regex" => some (regex false)
  | "regexp" => some (regex false)
  | "not regex" => some (regex true)
  | "not regexp" => some (regex true)
  | other => ((convert? other).or (canonical? other)).map native

def parse? (raw : String) : Option Operator := ofNormal? (normalize raw)

/-- The six comparisons. -/
def comparisonNames : List String := ["eq", "ne", "gt", "gte", "lt", "lte"]

/-- The comparison that a normal form names. -/
def comparisonOfNormal? (name : String) : Option String :=
  if name = "=" then some "eq"
  else (convert? name).or ((canonical? name).filter comparisonNames.contains)

def comparison? (raw : String) : Option String := comparisonOfNormal? (normalize raw)

end Operator

inductive SortDirection where
  | ascending
  | descending
  deriving DecidableEq, Repr

namespace SortDirection

/-- Reads `asc` or `desc` in any case of Latin letters, blanks around them dropped. -/
def parse? (raw : String) : Option SortDirection :=
  match String.ofList ((Blank.trim raw.toList).map Case.lowerLatin) with
  | "asc" => some ascending
  | "desc" => some descending
  | _ => none

/-- The direction as sort stages write it. -/
def sign : SortDirection → Int32
  | ascending => 1
  | descending => -1

end SortDirection

end DocQuery
