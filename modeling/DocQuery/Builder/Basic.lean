import DocQuery.Query.Basic

/-!
# Query builders

A builder collects a query step by step.  A modifier adds to the query or replaces a part of it:

    apply (limit 5) b          sets the limit
    apply (clause c) b         adds a predicate behind the ones before it
    forPage p n                skips the first (p - 1) * n rows and takes n

Constructs without a document form are collected like all others; they are refused when the query is compiled.
-/

namespace DocQuery

structure Builder where
  query : Query := {}
  /-- Whether reads go to the write handle. -/
  usesWriteHandle : Bool := false

/-- The elementary changes of a builder. -/
inductive Modifier where
  | collection (name : String)
  | select (columns : List String)
  | addSelect (columns : List String)
  | useWriteHandle
  | clause (c : Clause)
  | order (o : Order)
  | limit (n : UInt64)
  | offset (n : UInt64)
  | forPage (page perPage : UInt64)
  /-- A field added before the filter. -/
  | addField (column : String) (expression : Value)
  /-- An output field. -/
  | project (column : String) (projection : Value)
  | options (d : Document)
  | join (collection : String)
  | groupBy (column : String)
  | having (c : Clause)
  | union (collection : String)
  | lock (mode : LockMode)

/-- The product of two counts; larger ones count as the largest. -/
def saturatingProduct (a b : UInt64) : UInt64 :=
  UInt64.ofNat (min (a.toNat * b.toNat) (UInt64.size - 1))

/-- The rows before a page; pages are counted from 1, and page 0 is the first one too. -/
def pageOffset (page perPage : UInt64) : UInt64 :=
  saturatingProduct (if page = 0 then 0 else page - 1) perPage

namespace Modifier

/-- The query with the change made. -/
def change : Modifier → Query → Query
  | collection name, q => { q with collection := name }
  | select columns, q => { q with columns := columns }
  | addSelect columns, q => { q with columns := q.columns ++ columns }
  | useWriteHandle, q => q
  | clause c, q => { q with clauses := q.clauses ++ [c] }
  | order o, q => { q with orders := q.orders ++ [o] }
  | limit n, q => { q with limit := some n }
  | offset n, q => { q with offset := some n }
  | forPage page perPage, q => { q with offset := some (pageOffset page perPage), limit := some perPage }
  | addField column e, q => { q with computed := q.computed ++ [(column, e)] }
  | project column p, q => { q with projections := q.projections ++ [(column, p)] }
  | options d, q => { q with options := some d }
  | join name, q => { q with joins := q.joins ++ [name] }
  | groupBy column, q => { q with groups := q.groups ++ [column] }
  | having c, q => { q with havings := q.havings ++ [c] }
  | union name, q => { q with unions := q.unions ++ [name] }
  | lock mode, q => { q with lock := some mode }

def apply (m : Modifier) (b : Builder) : Builder :=
  match m with
  | useWriteHandle => { b with usesWriteHandle := true }
  | m => { b with query := m.change b.query }

/-! ## Predicates -/

/-- A predicate that has to hold beside the ones before it. -/
def also (p : Predicate) : Modifier := clause ⟨.and, p⟩

/-- A predicate that may hold in place of the ones before it. -/
def orElse (p : Predicate) : Modifier := clause ⟨.or, p⟩

def whereOp (column operator : String) (v : Value) : Modifier := also (.basic column operator v)

def orWhereOp (column operator : String) (v : Value) : Modifier := orElse (.basic column operator v)

def whereEq (column : String) (v : Value) : Modifier := whereOp column "=" v

def orWhereEq (column : String) (v : Value) : Modifier := orWhereOp column "=" v

def whereLike (column pattern : String) : Modifier := whereOp column "like" (.string pattern)

def whereNotLike (column pattern : String) : Modifier := whereOp column "not like" (.string pattern)

/-- A regular expression, or a text that delimits one. -/
def whereRegex (column : String) (pattern : Value) : Modifier := whereOp column "regex" pattern

def whereNotRegex (column : String) (pattern : Value) : Modifier := whereOp column "not regex" pattern

def whereIn (column : String) (vs : List Value) : Modifier := also (.isIn column vs)

def orWhereIn (column : String) (vs : List Value) : Modifier := orElse (.isIn column vs)

def whereNotIn (column : String) (vs : List Value) : Modifier := also (.notIn column vs)

def whereNull (column : String) : Modifier := also (.null column)

def orWhereNull (column : String) : Modifier := orElse (.null column)

def whereNotNull (column : String) : Modifier := also (.notNull column)

def orWhereNotNull (column : String) : Modifier := orElse (.notNull column)

def whereBetween (column : String) (low high : Value) : Modifier := also (.between column low high false)

def orWhereBetween (column : String) (low high : Value) : Modifier := orElse (.between column low high false)

def whereNotBetween (column : String) (low high : Value) : Modifier := also (.between column low high true)

/-- A part of a date, compared by an operator. -/
def wherePartOp (part : DatePart) (column operator : String) (v : Value) : Modifier :=
  also (.date column part operator v)

/-- A part of a date that equals a value. -/
def wherePart (part : DatePart) (column : String) (v : Value) : Modifier := wherePartOp part column "=" v

def whereRaw (expression : Document) : Modifier := also (.raw expression)

def orWhereRaw (expression : Document) : Modifier := orElse (.raw expression)

/-- A predicate without a document form. -/
def whereRelational (form : RelationalForm) : Modifier := also (.relational form)

def havingOp (column operator : String) (v : Value) : Modifier := having ⟨.and, .basic column operator v⟩

/-! ## Order and page -/

def orderBy (column : String) (direction : SortDirection) : Modifier := order (.column column direction)

def orderByDesc (column : String) : Modifier := orderBy column .descending

def inRandomOrder (seed : Option String) : Modifier := order (.random seed)

def take (n : UInt64) : Modifier := limit n

def skip (n : UInt64) : Modifier := offset n

end Modifier

namespace Builder

/-- A builder on a collection. -/
def on (collection : String) : Builder := Modifier.apply (.collection collection) {}

/-- All modifiers from the left. -/
def modify (b : Builder) (ms : List Modifier) : Builder := ms.foldl (fun b m => m.apply b) b

end Builder

end DocQuery
