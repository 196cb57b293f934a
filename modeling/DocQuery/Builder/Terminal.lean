import DocQuery.Builder.Basic
import DocQuery.Connection.Basic
import DocQuery.Statement.Request

/-!
# Terminals of query builders

A terminal compiles the collected query, sends the statement and shapes the answer.  The builder stays as it is,
so it can be used again.

    get                the matching rows
    first              the first of them, by a limit of one
    find id            the first one with that identifier
    aggregate f cs     the value of a function over the matching rows
    update, delete     the number of documents changed
-/

namespace DocQuery.Builder

open Session (compiled)

/-! ## Reads -/

/-- The rows of a query. -/
def read (b : Builder) (q : Query) : Action (List Document) := do
  let s ← compiled q.compileSelect
  Session.select s (!b.usesWriteHandle)

def get (b : Builder) : Action (List Document) := b.read b.query

def first (b : Builder) : Action (Option Document) := do
  let rows ← b.read { b.query with limit := some 1 }
  pure rows.head?

/-- The builder narrowed to one identifier. -/
def byId (b : Builder) (id : Value) : Builder := (Modifier.whereEq "_id" id).apply b

/-- The row with an identifier; null identifies nothing, and nothing is sent for it. -/
def find (b : Builder) (id : Value) : Action (Option Document) :=
  if id.isNull then pure none else (b.byId id).first

/-- One column of the first row. -/
def value (b : Builder) (column : String) : Action (Option Value) := do
  let row ← b.first
  pure (row.bind fun d => d.get? column)

/-- One column of every row; null where it is missing. -/
def pluck (b : Builder) (column : String) : Action (List Value) := do
  let rows ← b.get
  pure (rows.map fun d => (d.get? column).getD .null)

/-- Existence has no document form. -/
def exists? (_ : Builder) : Action Bool := compiled (Construct.compile .exists)

/-- The value of a function over the matching rows; null when there are none. -/
def aggregate (b : Builder) (function : String) (columns : List String) : Action Value := do
  let rows ← b.read { b.query with columns := [], aggregate := some ⟨function, columns⟩ }
  pure ((rows.head?.bind fun d => d.get? "aggregate").getD .null)

/-- A count as it is stored; what is no number counts as none. -/
def countOf : Value → UInt64
  | .int32 n => UInt64.ofNat n.toInt.toNat
  | .int64 n => UInt64.ofNat n.toInt.toNat
  | .double x => UInt64.ofNat (Double.toInt64 x).toInt.toNat
  | _ => 0

def counted (b : Builder) (columns : List String) : Action UInt64 := countOf <$> b.aggregate "count" columns

def count (b : Builder) : Action UInt64 := b.counted []

/-- The rows in which a column is there and not null. -/
def countColumn (b : Builder) (column : String) : Action UInt64 := b.counted [column]

/-- The sum of a column; zero when there are no rows. -/
def sum (b : Builder) (column : String) : Action Value := do
  let total ← b.aggregate "sum" [column]
  pure (if total.isNull then .int32 0 else total)

def avg (b : Builder) (column : String) : Action Value := b.aggregate "avg" [column]

def min (b : Builder) (column : String) : Action Value := b.aggregate "min" [column]

def max (b : Builder) (column : String) : Action Value := b.aggregate "max" [column]

/-- The stages that the query compiles to. -/
def toPipeline (b : Builder) : Action (List Document) := do
  let s ← compiled b.query.compileSelect
  pure ((s.pipeline?.getD []).map Stage.toDocument)

/-- A pipeline has no text in another query language. -/
def toSql (_ : Builder) : Action String := compiled (Construct.compile .sqlRendering)

/-! ## Writes -/

/-- Inserts documents; nothing is sent for none. -/
def insert (b : Builder) (documents : List Document) : Action Bool :=
  if documents.isEmpty then pure true
  else do
    let s ← compiled (b.query.compileInsert documents)
    let output ← Session.insert s
    pure output.isAcknowledged

def insertOne (b : Builder) (document : Document) : Action Bool := b.insert [document]

/-- Inserts a document and gives its identifier. -/
def insertGetId (b : Builder) (document : Document) : Action Value := do
  let s ← compiled (b.query.compileInsertGetId document)
  Session.insertGetId s

/-- Compiles a write and gives the number of documents that it changed. -/
def changing (r : Request) : Action UInt64 := do
  let s ← compiled r.compile
  Session.affecting s

def update (b : Builder) (values : Document) : Action UInt64 := changing (.update b.query values)

/-- The numbers that a column can be incremented by. -/
def isAmount : Value → Bool
  | .int32 _ => true
  | .int64 _ => true
  | .double _ => true
  | _ => false

/-- The update that adds an amount and sets other fields beside it. -/
def incrementUpdate (column : String) (amount : Value) (others : Document) : Document :=
  let added : String × Value := ("$inc", .document [(column, amount)])
  if others.isEmpty then [added] else [added, ("$set", .document others)]

/-- Adds an amount to a column and sets other fields beside it. -/
def increment (b : Builder) (column : String) (amount : Value) (others : Document) : Action UInt64 :=
  if isAmount amount then b.update (incrementUpdate column amount others)
  else
    compiled (.error (.invalidArgument ("non-numeric value passed to increment of '" ++ column ++ "'")))

/-- The amount that takes another one off; the least integer of a kind goes to the next wider kind. -/
def negated : Value → Value
  | .int32 n => if n = Int32.minValue then .int64 (Int64.ofInt (-n.toInt)) else .int32 (-n)
  | .int64 n => if n = Int64.minValue then .double (-(Double.ofInt64 n)) else .int64 (-n)
  | .double x => .double (-x)
  | other => other

def decrement (b : Builder) (column : String) (amount : Value) (others : Document) : Action UInt64 :=
  b.increment column (negated amount) others

/-- Deletes the matching documents, only the one with an identifier when one is given that is not null. -/
def delete (b : Builder) (id : Option Value) : Action UInt64 :=
  let narrowed := match id with
    | some id => if id.isNull then b else b.byId id
    | none => b
  changing (.delete narrowed.query)

/-- Drops the collection, whatever the predicates. -/
def truncate (b : Builder) : Action Unit := do
  let s ← compiled b.query.compileTruncate
  let _ ← Session.statement s
  pure ()

def push (b : Builder) (column : String) (v : Value) (unique : Bool) : Action UInt64 :=
  changing (.push b.query column v unique)

def pull (b : Builder) (column : String) (v : Value) : Action UInt64 := changing (.pull b.query column v)

end Builder

/-! ## All terminals -/

inductive Terminal where
  | get
  | first
  | find (id : Value)
  | value (column : String)
  | pluck (column : String)
  | exists
  | aggregate (function : String) (columns : List String)
  | count
  | countColumn (column : String)
  | sum (column : String)
  | avg (column : String)
  | min (column : String)
  | max (column : String)
  | toPipeline
  | toSql
  | insert (documents : List Document)
  | insertOne (document : Document)
  | insertGetId (document : Document)
  | update (values : Document)
  | increment (column : String) (amount : Value) (others : Document)
  | decrement (column : String) (amount : Value) (others : Document)
  | delete (id : Option Value)
  | truncate
  | push (column : String) (v : Value) (unique : Bool)
  | pull (column : String) (v : Value)
  | description

/-- What a terminal gives. -/
inductive Answer where
  | rows (documents : List Document)
  | row (document : Option Document)
  | value (v : Option Value)
  | values (vs : List Value)
  | flag (b : Bool)
  | count (n : UInt64)
  | text (s : String)
  | done
  /-- The connection's name and the query collected so far. -/
  | description (connection : String) (query : Query)

/-- Runs a terminal on a builder. -/
def Terminal.run (b : Builder) : Terminal → Action Answer
  | get => .rows <$> b.get
  | first => .row <$> b.first
  | find id => .row <$> b.find id
  | value column => .value <$> b.value column
  | pluck column => .values <$> b.pluck column
  | .exists => .flag <$> b.exists?
  | aggregate function columns => (.value ∘ some) <$> b.aggregate function columns
  | count => .count <$> b.count
  | countColumn column => .count <$> b.countColumn column
  | sum column => (.value ∘ some) <$> b.sum column
  | avg column => (.value ∘ some) <$> b.avg column
  | min column => (.value ∘ some) <$> b.min column
  | max column => (.value ∘ some) <$> b.max column
  | toPipeline => .rows <$> b.toPipeline
  | toSql => .text <$> b.toSql
  | insert documents => .flag <$> b.insert documents
  | insertOne document => .flag <$> b.insertOne document
  | insertGetId document => (.value ∘ some) <$> b.insertGetId document
  | update values => .count <$> b.update values
  | increment column amount others => .count <$> b.increment column amount others
  | decrement column amount others => .count <$> b.decrement column amount others
  | delete id => .count <$> b.delete id
  | truncate => (fun _ => .done) <$> b.truncate
  | push column v unique => .count <$> b.push column v unique
  | pull column v => .count <$> b.pull column v
  | description => do pure (.description (← MonadState.get).connection.name b.query)

end DocQuery
