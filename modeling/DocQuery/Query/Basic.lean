import DocQuery.Document
import DocQuery.Query.Operator

/-!
# Queries

What a caller asks for, before it is compiled: a collection, columns, predicates joined by And and Or,
computed fields, an aggregate, an order, a page.

A query may also carry constructs that only a relational database has.  They are kept by name, because a
query with one of them is refused as a whole when it is compiled.
-/

namespace DocQuery

/-- How a predicate is joined to the ones before it. -/
inductive Connective where
  | and
  | or
  deriving DecidableEq, Repr

/-- The part of a date that a predicate compares. -/
inductive DatePart where
  | day
  | month
  | year
  /-- The calendar date as `YYYY-MM-DD`. -/
  | date
  /-- The time of day as `HH:MM:SS`. -/
  | time
  deriving DecidableEq, Repr

def DatePart.all : List DatePart := [day, month, year, date, time]

def DatePart.name : DatePart → String
  | day => "day"
  | month => "month"
  | year => "year"
  | date => "date"
  | time => "time"

/-- Predicates that a document store has no form for. -/
inductive RelationalForm where
  | column
  | nested
  | inSubquery
  | notInSubquery
  | exists
  | subquery
  deriving DecidableEq, Repr

inductive Predicate where
  | basic (column operator : String) (value : Value)
  | isIn (column : String) (values : List Value)
  | notIn (column : String) (values : List Value)
  | null (column : String)
  | notNull (column : String)
  /-- The closed range, or the two open tails when negated. -/
  | between (column : String) (low high : Value) (negated : Bool)
  | date (column : String) (part : DatePart) (operator : String) (value : Value)
  /-- A filter document taken as it is. -/
  | raw (expression : Document)
  | relational (form : RelationalForm)

/-- The name of a predicate's kind. -/
def Predicate.kind : Predicate → String
  | basic .. => "basic"
  | isIn .. => "in"
  | notIn .. => "not in"
  | null _ => "null"
  | notNull _ => "not null"
  | between .. => "between"
  | date .. => "date"
  | raw _ => "raw"
  | relational .column => "column"
  | relational .nested => "nested"
  | relational .inSubquery => "in sub-query"
  | relational .notInSubquery => "not in sub-query"
  | relational .exists => "exists"
  | relational .subquery => "sub-query"

structure Clause where
  connective : Connective
  predicate : Predicate

inductive Order where
  | column (name : String) (direction : SortDirection)
  | random (seed : Option String)
  deriving DecidableEq, Repr

/-- A function over the matching documents and the columns it names. -/
structure Aggregate where
  function : String
  columns : List String
  deriving DecidableEq, Repr

/-- The first column with a name; `*` is none. -/
def Aggregate.column? (a : Aggregate) : Option String := a.columns.find? fun c => c != "" && c != "*"

inductive LockMode where
  | forUpdate
  | shared
  deriving DecidableEq, Repr

structure Query where
  collection : String := ""
  /-- No columns means all of them. -/
  columns : List String := []
  clauses : List Clause := []
  orders : List Order := []
  /-- Output fields, applied after filter and aggregate. -/
  projections : List (String × Value) := []
  /-- Fields added to every document before it is filtered. -/
  computed : List (String × Value) := []
  aggregate : Option Aggregate := none
  limit : Option UInt64 := none
  offset : Option UInt64 := none
  options : Option Document := none
  joins : List String := []
  groups : List String := []
  havings : List Clause := []
  /-- The collections of the united queries. -/
  unions : List String := []
  lock : Option LockMode := none

/-- The options a pipeline runs with when the query gives none. -/
def Query.defaultOptions : Document := [("typeMap", .document [("array", .string "array")])]

def Query.effectiveOptions (q : Query) : Document := q.options.getD Query.defaultOptions

/-- Options that let a pipeline spill to disk say so by a boolean. -/
def Query.allowsDiskUse (options : Document) : Bool :=
  match options.get? "allowDiskUse" with
  | some (.boolean b) => b
  | _ => false

/-- The batch size that options give as an integer. -/
def Query.batchSize? (options : Document) : Option Int64 :=
  match options.get? "batchSize" with
  | some (.int32 n) => some (Int64.ofInt n.toInt)
  | some (.int64 n) => some n
  | _ => none

end DocQuery
