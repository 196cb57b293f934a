import DocQuery.Value

/-!
# Kinds of values and their names

Each kind has a number and an alias that filters test, a short name that messages use, and the name of its
element type.  Only code with a scope is without number and alias.
-/

namespace DocQuery.Value

/-- The number of a kind in type tests. -/
def typeCode? : Value → Option Int
  | double _ => some 1
  | string _ => some 2
  | document _ => some 3
  | array _ => some 4
  | binary _ _ => some 5
  | undefined => some 6
  | objectId _ => some 7
  | boolean _ => some 8
  | dateTime _ => some 9
  | null => some 10
  | regex _ => some 11
  | code _ => some 13
  | symbol _ => some 14
  | scopedCode _ _ => none
  | int32 _ => some 16
  | timestamp _ _ => some 17
  | int64 _ => some 18
  | decimal _ => some 19
  | minKey => some (-1)
  | maxKey => some 127

/-- The alias of a kind in type tests. -/
def typeAlias? : Value → Option String
  | double _ => some "double"
  | string _ => some "string"
  | document _ => some "object"
  | array _ => some "array"
  | binary _ _ => some "binData"
  | undefined => some "undefined"
  | objectId _ => some "objectId"
  | boolean _ => some "bool"
  | dateTime _ => some "date"
  | null => some "null"
  | regex _ => some "regex"
  | code _ => some "javascript"
  | symbol _ => some "symbol"
  | scopedCode _ _ => none
  | int32 _ => some "int"
  | timestamp _ _ => some "timestamp"
  | int64 _ => some "long"
  | decimal _ => some "decimal"
  | minKey => some "minKey"
  | maxKey => some "maxKey"

/-- The name of a kind in the messages of a store; rare kinds share one. -/
def shortName : Value → String
  | double _ => "double"
  | string _ => "string"
  | document _ => "object"
  | array _ => "array"
  | binary _ _ => "binData"
  | objectId _ => "objectId"
  | boolean _ => "bool"
  | dateTime _ => "date"
  | null => "null"
  | regex _ => "regex"
  | int32 _ => "int"
  | int64 _ => "long"
  | decimal _ => "decimal"
  | timestamp _ _ => "timestamp"
  | _ => "other"

/-- The name of a kind's element type. -/
def elementName : Value → String
  | double _ => "Double"
  | string _ => "String"
  | document _ => "EmbeddedDocument"
  | array _ => "Array"
  | binary _ _ => "Binary"
  | undefined => "Undefined"
  | objectId _ => "ObjectId"
  | boolean _ => "Boolean"
  | dateTime _ => "DateTime"
  | null => "Null"
  | regex _ => "RegularExpression"
  | code _ => "JavaScriptCode"
  | symbol _ => "Symbol"
  | scopedCode _ _ => "JavaScriptCodeWithScope"
  | int32 _ => "Int32"
  | timestamp _ _ => "Timestamp"
  | int64 _ => "Int64"
  | decimal _ => "Decimal128"
  | minKey => "MinKey"
  | maxKey => "MaxKey"

def isNull : Value → Bool
  | null => true
  | _ => false

/-- Null or undefined: no value to work with. -/
def isNothing : Value → Bool
  | null => true
  | undefined => true
  | _ => false

def isDocument : Value → Bool
  | document _ => true
  | _ => false

def isDouble : Value → Bool
  | double _ => true
  | _ => false

def isArray : Value → Bool
  | array _ => true
  | _ => false

end DocQuery.Value
