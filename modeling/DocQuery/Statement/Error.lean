/-!
# What cannot be compiled

A query is refused before any store is contacted: it asks for a construct without a document form, names an
operator outside the vocabulary, or gives a value of the wrong shape.
-/

namespace DocQuery

/-- Constructs without a document form. -/
inductive Construct where
  | joins
  | groupBy
  | having
  | unions
  | rowLocks
  | randomOrdering
  | exists
  | savepoints
  | sqlRendering
  | columnComparison
  | nestedGroups
  | subqueryMembership
  | existsSubquery
  | subqueryComparison
  | schemaBuilder
  | transactions
  deriving DecidableEq, Repr

def Construct.text : Construct → String
  | joins => "joins"
  | groupBy => "group by"
  | having => "having"
  | unions => "unions"
  | rowLocks => "row locks"
  | randomOrdering => "random ordering"
  | .exists => "exists"
  | savepoints => "savepoints"
  | sqlRendering => "SQL rendering"
  | columnComparison => "column comparison"
  | nestedGroups => "nested where groups"
  | subqueryMembership => "sub-query membership"
  | existsSubquery => "exists sub-queries"
  | subqueryComparison => "sub-query comparison"
  | schemaBuilder => "schema builder"
  | transactions => "transactions"

inductive CompileError where
  | unsupported (construct : Construct)
  | invalidOperator (name : String)
  | invalidArgument (reason : String)
  deriving DecidableEq, Repr

namespace CompileError

def code : CompileError → String
  | unsupported _ => "DOCBRIDGE_UNSUPPORTED"
  | invalidOperator _ => "DOCBRIDGE_INVALID_OPERATOR"
  | invalidArgument _ => "DOCBRIDGE_INVALID_ARGUMENT"

def message : CompileError → String
  | unsupported c => c.text ++ " is not supported by the document grammar"
  | invalidOperator name => "Invalid operator: " ++ name
  | invalidArgument reason => "Invalid argument: " ++ reason

def isUnsupported : CompileError → Bool
  | unsupported _ => true
  | _ => false

end CompileError

abbrev Compiled (α : Type) := Except CompileError α

end DocQuery
