/-!
# Values and documents

A value of the store is one of twenty kinds; a document is a list of named values, in order.

    Value    ::= null | true | 7 | 2.5 | "text" | [Value, …] | { name: Value, … } | …
    Document  =  List (String × Value)

Names within one document are meant to be distinct: `Document.insert` keeps them so, and
`Document.Distinct` says it.  The deprecated kind of pointers into other databases is left out: no operation
makes one or looks into one.
-/

namespace DocQuery

/-- An object identifier: twelve bytes, read as one big-endian number. -/
structure ObjectId where
  bits : BitVec 96
  deriving DecidableEq, Repr

/-- Seconds since 1970 stored in the first four bytes of an object identifier. -/
def ObjectId.seconds (id : ObjectId) : Nat := id.bits.toNat / Nat.pow 2 64

/-- A 128-bit decimal, kept as its encoding. -/
structure Decimal where
  bits : BitVec 128
  deriving DecidableEq, Repr

/-- The text of a regular expression and its option letters, not yet compiled. -/
structure Pattern where
  source : String
  options : String
  deriving DecidableEq, Repr

inductive Value where
  | double (x : Float)
  | string (s : String)
  | document (fields : List (String × Value))
  | array (items : List Value)
  | binary (subtype : UInt8) (bytes : List UInt8)
  | undefined
  | objectId (id : ObjectId)
  | boolean (b : Bool)
  /-- Milliseconds since 1970. -/
  | dateTime (millis : Int64)
  | null
  | regex (pattern : Pattern)
  | code (source : String)
  | symbol (name : String)
  | scopedCode (source : String) (scope : List (String × Value))
  | int32 (n : Int32)
  | timestamp (time increment : UInt32)
  | int64 (n : Int64)
  | decimal (d : Decimal)
  | minKey
  | maxKey
  deriving Inhabited

/-- Named values in order. -/
abbrev Document := List (String × Value)

end DocQuery
