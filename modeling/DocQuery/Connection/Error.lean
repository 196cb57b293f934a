import DocQuery.Connection.Config
import DocQuery.Statement.Basic
import DocQuery.Store.Error

/-!
# What a connection reports

A caller learns of three kinds of failure: the query could not be compiled, the store refused the statement, or
the connection could not be opened.  An overflow inside a store is no report: it ends the work on the spot.
-/

namespace DocQuery

/-- A statement that a store refused. -/
structure QueryError where
  statement : String
  kind : StatementKind
  cause : StoreError
  deriving DecidableEq, Repr

namespace QueryError

def of (s : Statement) (cause : StoreError) : QueryError := ⟨s.describe, s.kind, cause⟩

/-- What the store said. -/
def reason (e : QueryError) : String := e.cause.message

/-- What the store said, and to which statement. -/
def message (e : QueryError) : String := e.reason ++ " (statement: " ++ e.statement ++ ")"

end QueryError

/-- The failures of a builder or a connection. -/
inductive DatabaseError where
  | compile (e : CompileError)
  | query (e : QueryError)
  | config (e : ConfigError)
  deriving DecidableEq, Repr

namespace DatabaseError

def code : DatabaseError → String
  | compile e => e.code
  | query e => e.cause.code
  | config e => e.code

def message : DatabaseError → String
  | compile e => e.message
  | query e => e.message
  | config e => e.message

/-- Whether a construct without a document form was asked for. -/
def isUnsupported : DatabaseError → Bool
  | compile e => e.isUnsupported
  | _ => false

end DatabaseError

/-- Why work on a connection stops. -/
inductive Fault where
  | error (e : DatabaseError)
  | overflow
  deriving DecidableEq, Repr

end DocQuery
