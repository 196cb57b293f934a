import DocQuery.Statement.Error
import DocQuery.Query.Basic
import DocQuery.Value.ExtendedJson

/-!
# Statements

A statement is one store call with its documents: the stages of a read, the documents of an insert, the filter
and the change of an update, the filter of a delete, the drop of a collection.

    describe s = collection.method(arguments in relaxed extended JSON)
-/

namespace DocQuery

/-! ## Pipelines -/

inductive Stage where
  | addFields (fields : Document)
  | project (fields : Document)
  | filter (filter : Document)
  | group (spec : Document)
  | sort (keys : Document)
  | skip (n : UInt64)
  | limit (n : UInt64)

namespace Stage

def name : Stage → String
  | addFields _ => "$addFields"
  | project _ => "$project"
  | filter _ => "$match"
  | group _ => "$group"
  | sort _ => "$sort"
  | skip _ => "$skip"
  | limit _ => "$limit"

/-- A count of rows as a 64-bit integer; larger ones count as the largest. -/
def countValue (n : UInt64) : Value := .int64 (Int64.ofInt (min n.toNat Int64.maxValue.toInt))

/-- What the stage is given. -/
def argument : Stage → Value
  | addFields d => .document d
  | project d => .document d
  | filter d => .document d
  | group d => .document d
  | sort d => .document d
  | skip n => countValue n
  | limit n => countValue n

/-- The document with the stage's name as its only field. -/
def toDocument (s : Stage) : Document := [(s.name, s.argument)]

end Stage

/-! ## Statements -/

inductive StatementKind where
  | select
  | insert
  | insertGetId
  | update
  | delete
  | truncate
  deriving DecidableEq, Repr

namespace StatementKind

def name : StatementKind → String
  | select => "select"
  | insert => "insert"
  | insertGetId => "insert_get_id"
  | update => "update"
  | delete => "delete"
  | truncate => "truncate"

/-- Whether stored documents can change. -/
def isWrite : StatementKind → Bool
  | select => false
  | _ => true

end StatementKind

inductive Statement where
  | aggregate (collection : String) (pipeline : List Stage) (options : Document)
  | insertMany (collection : String) (documents : List Document)
  | insertOne (collection : String) (document : Document)
  | updateMany (collection : String) (filter update : Document)
  | deleteMany (collection : String) (filter : Document)
  | drop (collection : String)

namespace Statement

def kind : Statement → StatementKind
  | aggregate .. => .select
  | insertMany .. => .insert
  | insertOne .. => .insertGetId
  | updateMany .. => .update
  | deleteMany .. => .delete
  | drop _ => .truncate

def collection : Statement → String
  | aggregate c _ _ => c
  | insertMany c _ => c
  | insertOne c _ => c
  | updateMany c _ _ => c
  | deleteMany c _ => c
  | drop c => c

/-- The stages of a read. -/
def pipeline? : Statement → Option (List Stage)
  | aggregate _ p _ => some p
  | _ => none

/-- The method a statement calls and the values it passes. -/
def call : Statement → String × List Value
  | aggregate _ p options => ("aggregate", [.array (p.map fun s => .document s.toDocument), .document options])
  | insertMany _ documents => ("insertMany", [.array (documents.map .document)])
  | insertOne _ d => ("insertOne", [.document d])
  | updateMany _ filter update => ("updateMany", [.document filter, .document update])
  | deleteMany _ filter => ("deleteMany", [.document filter])
  | drop _ => ("drop", [])

/-- The text of a statement, as logs and errors show it. -/
def describe (s : Statement) : String :=
  let (method, arguments) := s.call
  s.collection ++ "." ++ method ++ "(" ++ Split.intercalate ", " (arguments.map Value.jsonText) ++ ")"

end Statement

/-- What a store answers to a statement. -/
inductive StatementOutput where
  | rows (documents : List Document)
  | acknowledged (done : Bool)
  | insertedId (id : Value)
  | count (n : UInt64)

namespace StatementOutput

/-- The rows; other answers have none. -/
def toRows : StatementOutput → List Document
  | rows ds => ds
  | _ => []

/-- The number of affected documents; other answers affect none. -/
def toCount : StatementOutput → UInt64
  | count n => n
  | _ => 0

/-- Whether the answer confirms the statement: a null id does not. -/
def isAcknowledged : StatementOutput → Bool
  | acknowledged done => done
  | insertedId .null => false
  | insertedId _ => true
  | rows _ => true
  | count _ => true

end StatementOutput

end DocQuery
