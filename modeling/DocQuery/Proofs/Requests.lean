import DocQuery.Proofs.Dispatch

/-!
# What a terminal asks of its connection

Every way to hand a statement over records it in a dry run, and else sends it to one handle and counts what came
back:

    (d.run st).on s = (ok d.dryReply, s.captured st)           in a dry run
                    = (ok (d.reply o), d.noted o t)            where sending answers o and leaves t    (run_on)

A terminal hands over one request at most, in one of these ways, and shapes the reply:

    t.request? b = some (d, r) → t.run b = compile r, then d.run, then a shape        (Terminal.run_of_request)
    t.request? b = none        → (t.run b).on s = (what the name makes of it, s)      (Terminal.answer_of_no_request)
-/

namespace DocQuery

/-! ## Ways of dispatch -/

namespace Session

open DocQuery.Action

/-- The session of a dry run that has recorded one more statement. -/
def captured (s : Session) (st : Statement) : Session := (s.count .pretended 1).record (.of st true)

/-- The identifier that an answer holds; null where it holds none. -/
def insertedId (output : StatementOutput) : Value :=
  match output with
  | .insertedId id => id
  | _ => .null

namespace Dispatch

/-- What a dry run gives. -/
def dryReply : Dispatch → Reply
  | select _ => .rows []
  | statement => .output (.acknowledged true)
  | insert => .output (.acknowledged true)
  | affecting => .count 0
  | insertGetId => .id .null

/-- The handle that a statement is sent to. -/
def handle (d : Dispatch) (c : Connection) : Nat :=
  match d with
  | select useRead => c.readHandle useRead
  | _ => c.write

/-- The answer of a store, as it is passed on. -/
def reply (d : Dispatch) (output : StatementOutput) : Reply :=
  match d with
  | select _ => .rows output.toRows
  | statement => .output output
  | insert => .output output
  | affecting => .count output.toCount
  | insertGetId => .id (insertedId output)

/-- What is counted and noted of an answer. -/
def noted (d : Dispatch) (output : StatementOutput) (s : Session) : Session :=
  match d with
  | select _ => (s.count .selects 1).count .returned (UInt64.ofNat output.toRows.length)
  | affecting => ((s.count .writes 1).count .affected output.toCount).updateConnection
      (·.noteModified (output.toCount != 0))
  | _ => (s.count .writes 1).updateConnection (·.noteModified true)

end Dispatch

/-- Shaping what a dispatch gives changes neither what is sent nor what is recorded. -/
theorem on_map_of_dispatch {α β : Type} (f : α → β) {a : Action α} {s dryAfter : Session} {dry : α}
    {sent : Except Fault StatementOutput × Session} {shape : StatementOutput → α}
    {after : StatementOutput → Session → Session}
    (h : a.on s = if s.connection.pretending then (.ok dry, dryAfter)
      else match sent with
        | (.ok output, t) => (.ok (shape output), after output t)
        | (.error e, t) => (.error e, t)) :
    (f <$> a).on s = if s.connection.pretending then (.ok (f dry), dryAfter)
      else match sent with
        | (.ok output, t) => (.ok (f (shape output)), after output t)
        | (.error e, t) => (.error e, t) := by
  rw [on_map, h]
  by_cases hp : s.connection.pretending
  · rw [if_pos hp, if_pos hp]
    rfl
  · rw [if_neg hp, if_neg hp]
    rcases sent with ⟨r, t⟩
    cases r <;> rfl

theorem insertGetId_eq (st : Statement) : Session.insertGetId st = insertedId <$> Session.statement st := by
  rw [Session.insertGetId, Session.insert, ← bind_pure_comp]
  refine bind_congr fun output => ?_
  cases output <;> rfl

theorem Dispatch.run_on (d : Dispatch) (st : Statement) (s : Session) :
    (d.run st).on s =
      if s.connection.pretending then (.ok d.dryReply, s.captured st)
      else match (send (d.handle s.connection) st).on s with
        | (.ok output, t) => (.ok (d.reply output), d.noted output t)
        | (.error e, t) => (.error e, t) := by
  cases d with
  | select useRead => exact on_map_of_dispatch Reply.rows (select_on st useRead s)
  | statement => exact on_map_of_dispatch Reply.output (statement_on st s)
  | insert => exact on_map_of_dispatch Reply.output (statement_on st s)
  | affecting => exact on_map_of_dispatch Reply.count (affecting_on st s)
  | insertGetId =>
    show (Reply.id <$> Session.insertGetId st).on s = _
    rw [insertGetId_eq, Functor.map_map]
    exact on_map_of_dispatch _ (statement_on st s)

namespace Reply

def toRows : Reply → List Document
  | rows documents => documents
  | _ => []

def toOutput : Reply → StatementOutput
  | output o => o
  | _ => .acknowledged false

def toCount : Reply → UInt64
  | count n => n
  | _ => 0

def toId : Reply → Value
  | id v => v
  | _ => .null

end Reply

end Session

/-! ## Requests of terminals -/

open Session (Dispatch Reply compiled)

namespace Action

variable {α β : Type}

/-- The action compiles a request, hands its statement over and shapes the reply. -/
def Asks (a : Action α) (d : Dispatch) (r : Request) : Prop :=
  ∃ shape : Reply → α, a = compiled r.compile >>= fun st => shape <$> d.run st

theorem Asks.map {a : Action α} {d : Dispatch} {r : Request} (h : a.Asks d r) (f : α → β) :
    (f <$> a).Asks d r := by
  obtain ⟨shape, rfl⟩ := h
  refine ⟨f ∘ shape, ?_⟩
  rw [map_bind]
  refine bind_congr fun st => ?_
  rw [Functor.map_map]
  rfl

theorem Asks.bind_pure {a : Action α} {d : Dispatch} {r : Request} (h : a.Asks d r) (f : α → β) :
    (a >>= fun x => pure (f x)).Asks d r := by
  rw [bind_pure_comp]
  exact h.map f

/-- A request that does not compile is refused, and nothing has happened. -/
theorem Asks.on_of_error {a : Action α} {d : Dispatch} {r : Request} (h : a.Asks d r) {e : CompileError}
    (he : r.compile = .error e) (s : Session) : a.on s = (.error (.error (.compile e)), s) := by
  obtain ⟨shape, rfl⟩ := h
  rw [he]
  exact on_bind_of_error (Session.compiled_error_on e s) _

/-- A request that compiles is done as its statement is dispatched. -/
theorem Asks.on_of_ok {a : Action α} {d : Dispatch} {r : Request} (h : a.Asks d r) {st : Statement}
    (hst : r.compile = .ok st) :
    ∃ shape : Reply → α, ∀ s, a.on s = (((d.run st).on s).1.map shape, ((d.run st).on s).2) := by
  obtain ⟨shape, rfl⟩ := h
  refine ⟨shape, fun s => ?_⟩
  rw [hst, on_bind_of_ok (Session.compiled_ok_on st s), on_map]

end Action

namespace Builder

/-- The read that a builder asks for. -/
def selection (b : Builder) (q : Query) : Option (Dispatch × Request) :=
  some (.select (!b.usesWriteHandle), .select q)

/-- The count, sum or other value that a builder asks for. -/
def aggregation (b : Builder) (function : String) (columns : List String) : Option (Dispatch × Request) :=
  b.selection { b.query with columns := [], aggregate := some ⟨function, columns⟩ }

/-- The update that adds an amount; what is no number adds nothing. -/
def addition (b : Builder) (column : String) (amount : Value) (others : Document) : Option (Dispatch × Request) :=
  if isAmount amount then some (.affecting, .update b.query (incrementUpdate column amount others)) else none

/-- What a delete is narrowed to: an identifier when one is given that is not null. -/
def target (b : Builder) (id : Option Value) : Builder :=
  match id with
  | some id => if id.isNull then b else b.byId id
  | none => b

theorem read_asks (b : Builder) (q : Query) : (b.read q).Asks (.select (!b.usesWriteHandle)) (.select q) := by
  refine ⟨Reply.toRows, bind_congr fun st => ?_⟩
  show Session.select st _ = Reply.toRows <$> (Reply.rows <$> Session.select st _)
  rw [Functor.map_map]
  exact (id_map _).symm

theorem first_asks (b : Builder) :
    b.first.Asks (.select (!b.usesWriteHandle)) (.select { b.query with limit := some 1 }) :=
  (b.read_asks _).bind_pure List.head?

theorem aggregate_asks (b : Builder) (function : String) (columns : List String) :
    (b.aggregate function columns).Asks (.select (!b.usesWriteHandle))
      (.select { b.query with columns := [], aggregate := some ⟨function, columns⟩ }) :=
  (b.read_asks _).bind_pure _

theorem insert_asks (b : Builder) {documents : List Document} (h : documents.isEmpty = false) :
    (b.insert documents).Asks .insert (.insert b.query documents) := by
  refine ⟨fun reply => reply.toOutput.isAcknowledged, ?_⟩
  rw [insert, h, if_neg Bool.false_ne_true]
  refine bind_congr fun st => ?_
  show _ = _ <$> (Reply.output <$> Session.insert st)
  rw [Functor.map_map, bind_pure_comp]
  rfl

theorem insertGetId_asks (b : Builder) (document : Document) :
    (b.insertGetId document).Asks .insertGetId (.insertGetId b.query document) := by
  refine ⟨Reply.toId, bind_congr fun st => ?_⟩
  show Session.insertGetId st = Reply.toId <$> (Reply.id <$> Session.insertGetId st)
  rw [Functor.map_map]
  exact (id_map _).symm

theorem changing_asks (r : Request) : (changing r).Asks .affecting r := by
  refine ⟨Reply.toCount, bind_congr fun st => ?_⟩
  show Session.affecting st = Reply.toCount <$> (Reply.count <$> Session.affecting st)
  rw [Functor.map_map]
  exact (id_map _).symm

theorem increment_asks (b : Builder) {column : String} {amount : Value} {others : Document} {d : Dispatch}
    {r : Request} (h : b.addition column amount others = some (d, r)) :
    (b.increment column amount others).Asks d r := by
  rw [addition] at h
  split at h
  · rename_i ha
    cases h
    rw [increment, if_pos ha]
    exact changing_asks _
  · cases h

theorem truncate_asks (b : Builder) : b.truncate.Asks .statement (.truncate b.query) := by
  refine ⟨fun _ => (), bind_congr fun st => ?_⟩
  show _ = _ <$> (Reply.output <$> Session.statement st)
  rw [Functor.map_map, bind_pure_comp]

end Builder

namespace Terminal

/-- The request that a terminal hands over, and in which way. -/
def request? (b : Builder) : Terminal → Option (Dispatch × Request)
  | get => b.selection b.query
  | first => b.selection { b.query with limit := some 1 }
  | find id => if id.isNull then none else (b.byId id).selection { (b.byId id).query with limit := some 1 }
  | value _ => b.selection { b.query with limit := some 1 }
  | pluck _ => b.selection b.query
  | aggregate function columns => b.aggregation function columns
  | count => b.aggregation "count" []
  | countColumn column => b.aggregation "count" [column]
  | sum column => b.aggregation "sum" [column]
  | avg column => b.aggregation "avg" [column]
  | min column => b.aggregation "min" [column]
  | max column => b.aggregation "max" [column]
  | insert documents => if documents.isEmpty then none else some (.insert, .insert b.query documents)
  | insertOne document => some (.insert, .insert b.query [document])
  | insertGetId document => some (.insertGetId, .insertGetId b.query document)
  | update values => some (.affecting, .update b.query values)
  | increment column amount others => b.addition column amount others
  | decrement column amount others => b.addition column (Builder.negated amount) others
  | delete id => some (.affecting, .delete (b.target id).query)
  | truncate => some (.statement, .truncate b.query)
  | push column v unique => some (.affecting, .push b.query column v unique)
  | pull column v => some (.affecting, .pull b.query column v)
  | .exists => none
  | toPipeline => none
  | toSql => none
  | description => none

theorem run_of_request {b : Builder} {t : Terminal} {d : Dispatch} {r : Request}
    (h : t.request? b = some (d, r)) : (t.run b).Asks d r := by
  cases t with
  | get => cases h; exact (b.read_asks _).map _
  | first => cases h; exact b.first_asks.map _
  | find id =>
    rw [request?] at h
    split at h
    · cases h
    · rename_i hn
      cases h
      show (Answer.row <$> b.find id).Asks _ _
      rw [Builder.find, if_neg hn]
      exact (b.byId id).first_asks.map _
  | value column => cases h; exact (b.first_asks.bind_pure _).map _
  | pluck column => cases h; exact ((b.read_asks _).bind_pure _).map _
  | aggregate function columns => cases h; exact (b.aggregate_asks _ _).map _
  | count => cases h; exact ((b.aggregate_asks _ _).map _).map _
  | countColumn column => cases h; exact ((b.aggregate_asks _ _).map _).map _
  | sum column => cases h; exact ((b.aggregate_asks _ _).bind_pure _).map _
  | avg column => cases h; exact (b.aggregate_asks _ _).map _
  | min column => cases h; exact (b.aggregate_asks _ _).map _
  | max column => cases h; exact (b.aggregate_asks _ _).map _
  | insert documents =>
    rw [request?] at h
    split at h
    · cases h
    · rename_i hn
      cases h
      exact (b.insert_asks (Bool.eq_false_iff.2 hn)).map _
  | insertOne document => cases h; exact (b.insert_asks rfl).map _
  | insertGetId document => cases h; exact (b.insertGetId_asks document).map _
  | update values => cases h; exact (Builder.changing_asks _).map _
  | increment column amount others => exact (b.increment_asks h).map _
  | decrement column amount others => exact (b.increment_asks h).map _
  | delete id => cases h; exact (Builder.changing_asks _).map _
  | truncate => cases h; exact b.truncate_asks.map _
  | push column v unique => cases h; exact (Builder.changing_asks _).map _
  | pull column v => cases h; exact (Builder.changing_asks _).map _
  | «exists» => cases h
  | toPipeline => cases h
  | toSql => cases h
  | description => cases h

/-- What asks for nothing gives what the connection's name makes of it, and leaves the session. -/
theorem answer_of_no_request {b : Builder} {t : Terminal} (h : t.request? b = none) :
    ∃ answer : String → Except Fault Answer, ∀ s : Session, (t.run b).on s = (answer s.connection.name, s) := by
  have hcompiled : ∀ {α : Type} (c : Compiled α) (f : α → Answer), ∃ answer : String → Except Fault Answer,
      ∀ s : Session, (f <$> compiled c).on s = (answer s.connection.name, s) := by
    intro α c f
    cases c with
    | ok x => exact ⟨fun _ => .ok (f x), fun _ => rfl⟩
    | error e => exact ⟨fun _ => .error (.error (.compile e)), fun _ => rfl⟩
  have hincrement : ∀ column amount others, b.addition column amount others = none →
      ∃ answer : String → Except Fault Answer,
        ∀ s : Session, (Answer.count <$> b.increment column amount others).on s = (answer s.connection.name, s) := by
    intro column amount others ha
    rw [Builder.addition] at ha
    split at ha
    · cases ha
    · rename_i hn
      rw [Builder.increment, if_neg hn]
      exact hcompiled _ _
  cases t with
  | find id =>
    rw [request?] at h
    split at h
    · rename_i hn
      refine ⟨fun _ => .ok (.row none), fun s => ?_⟩
      show (Answer.row <$> b.find id).on s = _
      rw [Builder.find, if_pos hn]
      rfl
    · cases h
  | insert documents =>
    rw [request?] at h
    split at h
    · rename_i hn
      refine ⟨fun _ => .ok (.flag true), fun s => ?_⟩
      show (Answer.flag <$> b.insert documents).on s = _
      rw [Builder.insert, if_pos hn]
      rfl
    · cases h
  | increment column amount others => exact hincrement _ _ _ h
  | decrement column amount others => exact hincrement _ _ _ h
  | «exists» => exact hcompiled _ _
  | toPipeline =>
    show ∃ answer : String → Except Fault Answer,
      ∀ s : Session, (Answer.rows <$> b.toPipeline).on s = (answer s.connection.name, s)
    rw [Builder.toPipeline, bind_pure_comp, Functor.map_map]
    exact hcompiled _ _
  | toSql => exact hcompiled _ _
  | description => exact ⟨fun name => .ok (.description name b.query), fun _ => rfl⟩
  | _ => cases h

/-- What asks for nothing leaves the session, whatever it gives. -/
theorem on_of_no_request {b : Builder} {t : Terminal} (h : t.request? b = none) (s : Session) :
    ((t.run b).on s).2 = s := by
  obtain ⟨answer, hanswer⟩ := answer_of_no_request h
  rw [hanswer]

end Terminal

end DocQuery
