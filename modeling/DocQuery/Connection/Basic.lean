import DocQuery.Connection.Error
import DocQuery.Connection.Metrics
import DocQuery.Connection.QueryLog
import DocQuery.Statement.Execute
import DocQuery.Text.Quoted

/-!
# Connections

A connection sends statements to the store behind its write handle; selects go to the read handle when there is
one.  It counts and logs what it sends, and remembers whether documents may have changed.

A dry run works on a view of the connection: the same handles and counters, but statements are recorded in a log
of the view's own instead of sent.

    select s     rows of the store, nothing in a dry run
    statement s  the store's answer, `acknowledged true` in a dry run
    affecting s  the number of changed documents, 0 in a dry run
-/

namespace DocQuery

structure Connection where
  name : String := "mongodb"
  database : String
  /-- The handle of writes. -/
  write : Nat
  /-- The handle of reads, when it is another one. -/
  read : Option Nat := none
  pretending : Bool := false
  /-- Whether a write has succeeded since the last reset. -/
  modified : Bool := false
  log : QueryLog := {}
  hasSchema : Bool := false
  config : Option Config := none

namespace Connection

def driver : String := "mongodb"

/-- The handle of a select. -/
def readHandle (c : Connection) (useRead : Bool) : Nat := if useRead then c.read.getD c.write else c.write

/-- Notes that documents may have changed; the note stays until it is reset. -/
def noteModified (c : Connection) (modified : Bool) : Connection :=
  { c with modified := c.modified || modified }

/-- The view of a dry run. -/
def dryRunView (c : Connection) : Connection :=
  { c with pretending := true, modified := false, log := { enabled := true } }

/-- A connection as diagnostics show it. -/
def inspect (c : Connection) : String :=
  let flag (b : Bool) : String := if b then "true" else "false"
  "Connection \x7b name: " ++ Quoted.quote c.name ++ ", database: " ++ Quoted.quote c.database ++
    ", read_split: " ++ flag c.read.isSome ++ ", pretending: " ++ flag c.pretending ++ ", .. \x7d"

/-- Whether there is someone who manages the schema. -/
def checkSchema (c : Connection) : Compiled Unit :=
  if c.hasSchema then .ok () else .error (.unsupported .schemaBuilder)

/-- Transactions need savepoints, which there are none of. -/
def beginTransaction (_ : Connection) : Compiled Unit := .error (.unsupported .transactions)

end Connection

/-- A connection at work: its stores and its counters, which its dry runs share. -/
structure Session where
  connection : Connection
  deployment : Deployment
  metrics : Metrics := {}

/-- Work on a session.  What it did before a failure stays done. -/
abbrev Action (α : Type) := ExceptT Fault (StateM Session) α

namespace Session

/-- A session on a database with one store in memory. -/
def inMemory (database : String) : Session :=
  ⟨{ database := database, write := 0 }, { backends := [.memory {}] }, {}⟩

def updateConnection (f : Connection → Connection) (s : Session) : Session :=
  { s with connection := f s.connection }

def record (entry : LogEntry) (s : Session) : Session :=
  s.updateConnection fun c => { c with log := c.log.record entry }

def count (counter : Metrics.Counter) (n : UInt64) (s : Session) : Session :=
  { s with metrics := s.metrics.add n counter }

/-! ## Dispatch -/

/-- Refuses what did not compile. -/
def compiled {α : Type} : Compiled α → Action α
  | .ok a => pure a
  | .error e => throw (.error (.compile e))

/-- Records a statement instead of sending it, in a dry run. -/
def pretended (s : Statement) : Action Bool := do
  if (← get).connection.pretending then
    modify fun t => (t.count .pretended 1).record (.of s true)
    pure true
  else pure false

/-- Sends a statement to the store behind a handle. -/
def send (handle : Nat) (s : Statement) : Action StatementOutput := do
  let session ← get
  match session.deployment.perform handle s.toCall with
  | (.ok reply, deployment) =>
    set (({ session with deployment }.count .executed 1).record (.of s false))
    pure reply.toOutput
  | (.error (.error e), deployment) =>
    set ({ session with deployment }.count .failed 1)
    throw (.error (.query (.of s e)))
  | (.error .overflow, deployment) =>
    set { session with deployment }
    throw .overflow

/-- The rows of a read. -/
def select (s : Statement) (useRead : Bool) : Action (List Document) := do
  if ← pretended s then pure []
  else
    let output ← send ((← get).connection.readHandle useRead) s
    modify fun t => (t.count .selects 1).count .returned (UInt64.ofNat output.toRows.length)
    pure output.toRows

/-- The answer to a write. -/
def statement (s : Statement) : Action StatementOutput := do
  if ← pretended s then pure (.acknowledged true)
  else
    let output ← send (← get).connection.write s
    modify fun t => (t.count .writes 1).updateConnection (·.noteModified true)
    pure output

/-- The answer to an insert. -/
def insert (s : Statement) : Action StatementOutput := statement s

/-- The number of documents that a write changed. -/
def affecting (s : Statement) : Action UInt64 := do
  if ← pretended s then pure 0
  else
    let output ← send (← get).connection.write s
    let n := output.toCount
    modify fun t =>
      ((t.count .writes 1).count .affected n).updateConnection (·.noteModified (n != 0))
    pure n

/-- The identifier of an inserted document; null in a dry run, where there is none. -/
def insertGetId (s : Statement) : Action Value := do
  match ← insert s with
  | .insertedId id => pure id
  | _ => pure .null

/-- The ways to hand a statement to a connection. -/
inductive Dispatch where
  | select (useRead : Bool)
  | statement
  | insert
  | affecting
  | insertGetId
  deriving DecidableEq, Repr

/-- What a dispatched statement gives. -/
inductive Reply where
  | rows (documents : List Document)
  | output (output : StatementOutput)
  | count (n : UInt64)
  | id (id : Value)

def Dispatch.run (d : Dispatch) (s : Statement) : Action Reply :=
  match d with
  | .select useRead => .rows <$> Session.select s useRead
  | .statement => .output <$> Session.statement s
  | .insert => .output <$> Session.insert s
  | .affecting => .count <$> Session.affecting s
  | .insertGetId => .id <$> Session.insertGetId s

/-! ## Dry runs -/

/-- The session on the view of a dry run. -/
def dryRun (s : Session) : Session := s.updateConnection Connection.dryRunView

/-- Does work on a view of the connection.  Gives what the work gives and the statements it would have sent; of
the session only the counters and what the work did to stores by other ways are changed. -/
def pretend {α : Type} (work : Session → α × Session) (s : Session) : (α × List LogEntry) × Session :=
  let (a, view) := work s.dryRun
  ((a, view.connection.log.entries), { view with connection := s.connection })

/-! ## Handles -/

/-- Puts a new store in place of the write handle. -/
def replaceWrite (s : Session) : Session :=
  let (handle, deployment) := s.deployment.addBackend (.memory {})
  { s with deployment, connection := { s.connection with write := handle } }

/-- Puts a new store in place of the read handle, or takes it away. -/
def replaceRead (s : Session) (present : Bool) : Session :=
  if present then
    let (handle, deployment) := s.deployment.addBackend (.memory {})
    { s with deployment, connection := { s.connection with read := some handle } }
  else { s with connection := { s.connection with read := none } }

end Session

end DocQuery
