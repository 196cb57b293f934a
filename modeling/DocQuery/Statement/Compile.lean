import DocQuery.Statement.Basic
import DocQuery.Statement.Filter

/-!
# Statements of queries

A read becomes a pipeline, in this order and each stage only where the query asks for it:

    computed fields, columns, filter, aggregate, projections, order, offset, limit

A write becomes the filter of the query with the change.  Compiling only reads the query, and a query with a
construct of relational databases has no statement.
-/

namespace DocQuery

namespace Query

/-! ## Parts of a read -/

/-- The first construct that a document store has no form for. -/
def refused? (q : Query) : Option Construct :=
  if !q.joins.isEmpty then some .joins
  else if !q.groups.isEmpty then some .groupBy
  else if !q.havings.isEmpty then some .having
  else if !q.unions.isEmpty then some .unions
  else if q.lock.isSome then some .rowLocks
  else none

def checkRelational (q : Query) : Compiled Unit :=
  match q.refused? with
  | some c => .error (.unsupported c)
  | none => .ok ()

/-- The filter document of a query. -/
def filter (q : Query) : Compiled Document := do
  q.checkRelational
  FilterDocument.ofClauses q.clauses

/-- The text before and after the first ` as ` in any case. -/
def cutAs? : List Char → Option (List Char × List Char)
  | [] => none
  | c :: rest =>
    match c, rest with
    | ' ', a :: s :: ' ' :: field =>
      if (a == 'a' || a == 'A') && (s == 's' || s == 'S') then some ([], field)
      else (cutAs? rest).map fun (name, field) => (c :: name, field)
    | _, _ => (cutAs? rest).map fun (name, field) => (c :: name, field)

/-- The name and the alias of a renamed column. -/
def renamed? (column : String) : Option (String × String) :=
  match cutAs? column.toList with
  | some (name, field) =>
    let name := Blank.trim name
    let field := Blank.trim field
    if name.isEmpty || field.isEmpty then none else some (String.ofList name, String.ofList field)
  | none => none

/-- The output field of a column: its value under an alias, or the column itself. -/
def columnField (column : String) : String × Value :=
  match renamed? column with
  | some (name, field) => (field, .string ("$" ++ name))
  | none => (String.ofList (Blank.trim column.toList), .int32 1)

/-- The output fields of the columns; `*` among them keeps everything. -/
def columnFields (columns : List String) : Document :=
  if columns.any fun c => Blank.trim c.toList == ['*'] then []
  else Document.ofFields (columns.map columnField)

/-- The accumulator of an aggregate, and the filter it works on: counting a column leaves its nulls out. -/
def accumulator (a : Aggregate) (filter : Document) : Compiled (Value × Document) :=
  let function := String.ofList ((Blank.trim a.function.toList).map Case.lowerLatin)
  match a.column? with
  | some column =>
    if function = "count" then
      .ok (.document [("$sum", .int32 1)], FilterDocument.conjoin [filter, FilterDocument.notNull column])
    else .ok (.document [("$" ++ function, .string ("$" ++ column))], filter)
  | none =>
    if function = "count" then .ok (.document [("$sum", .int32 1)], filter)
    else .error (.invalidArgument ("aggregate " ++ function ++ " needs a column"))

/-- The sort key of an order; `natural` is the order of the store. -/
def sortKey : Order → Compiled (String × Value)
  | .column name direction => .ok (if name = "natural" then "$natural" else name, .int32 direction.sign)
  | .random _ => .error (.unsupported .randomOrdering)

def sortKeys : List Order → Compiled (List (String × Value))
  | [] => .ok []
  | o :: rest => do
    let k ← sortKey o
    let ks ← sortKeys rest
    pure (k :: ks)

/-- A stage that an empty document leaves out. -/
def stageUnlessEmpty (stage : Document → Stage) (d : Document) : List Stage :=
  if d.isEmpty then [] else [stage d]

/-- A stage that a missing or zero count leaves out. -/
def stageUnlessZero (stage : UInt64 → Stage) : Option UInt64 → List Stage
  | some n => if n = 0 then [] else [stage n]
  | none => []

/-! ## Statements -/

/-- The stages of a read. -/
def stages (q : Query) : Compiled (List Stage) := do
  q.checkRelational
  let ownFilter ← FilterDocument.ofClauses q.clauses
  let (filter, groups) ← match q.aggregate with
    | some a => do
      let (acc, filter) ← accumulator a ownFilter
      pure (filter, [Stage.group [("_id", .null), ("aggregate", acc)]])
    | none => pure (ownFilter, [])
  let keys ← sortKeys q.orders
  pure (stageUnlessEmpty .addFields (Document.ofFields q.computed)
    ++ stageUnlessEmpty .project (columnFields q.columns)
    ++ stageUnlessEmpty .filter filter
    ++ groups
    ++ stageUnlessEmpty .project (Document.ofFields q.projections)
    ++ stageUnlessEmpty .sort (Document.ofFields keys)
    ++ stageUnlessZero .skip q.offset
    ++ stageUnlessZero .limit q.limit)

def compileSelect (q : Query) : Compiled Statement := do
  let stages ← q.stages
  pure (.aggregate q.collection stages q.effectiveOptions)

def compileInsert (q : Query) (documents : List Document) : Compiled Statement :=
  if documents.isEmpty then .error (.invalidArgument "insert needs at least one document")
  else .ok (.insertMany q.collection documents)

def compileInsertGetId (q : Query) (document : Document) : Compiled Statement :=
  .ok (.insertOne q.collection document)

/-- Whether a name is that of an operator. -/
def isOperatorName (name : String) : Bool := name.toList.head? == some '$'

/-- Plain fields are set; a document of operators is taken as it is. -/
def updateDocument (values : Document) : Compiled Document :=
  if values.isEmpty then .error (.invalidArgument "update needs at least one field")
  else if values.keys.all isOperatorName then .ok values
  else if values.keys.any isOperatorName then
    .error (.invalidArgument "update mixes operators and plain fields")
  else .ok [("$set", .document values)]

def compileUpdate (q : Query) (values : Document) : Compiled Statement := do
  let filter ← q.filter
  let update ← updateDocument values
  pure (.updateMany q.collection filter update)

def compileDelete (q : Query) : Compiled Statement := do
  let filter ← q.filter
  pure (.deleteMany q.collection filter)

def compileTruncate (q : Query) : Compiled Statement := .ok (.drop q.collection)

/-- Appends to an array field, a list element by element; `unique` passes over values already there. -/
def compilePush (q : Query) (column : String) (value : Value) (unique : Bool) : Compiled Statement := do
  let filter ← q.filter
  let operator := if unique then "$addToSet" else "$push"
  let argument := match value with
    | .array items => Value.document [("$each", .array items)]
    | other => other
  pure (.updateMany q.collection filter [(operator, .document [(column, argument)])])

/-- Removes a value from an array field, or each element of a list. -/
def compilePull (q : Query) (column : String) (value : Value) : Compiled Statement := do
  let filter ← q.filter
  let operator := if value.isArray then "$pullAll" else "$pull"
  pure (.updateMany q.collection filter [(operator, .document [(column, value)])])

end Query

/-- What the compiler says to a construct asked for by itself. -/
def Construct.compile {α : Type} (c : Construct) : Compiled α := .error (.unsupported c)

end DocQuery
