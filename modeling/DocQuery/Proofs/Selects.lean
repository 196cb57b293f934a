import DocQuery.Proofs.Collections
import DocQuery.Proofs.Stages

/-!
# What a read sees and leaves

A read gives what its stages make of the documents behind its handle, and leaves all documents, all handles and
whether this is a dry run:

    d.perform h (aggregate n p) = (what p makes of the collection, d)              (perform_aggregate)
    (select (aggregate n st o) r).on s = (s.rows r n st, t)  with s.SameData t     (select_aggregate_on)
    (b.read q).on s = (b.result s q, t)                      with s.SameData t     (read_gives)

So a second read, of the same session or of the one that the first has left, sees the same
(`result_of_sameData`).
-/

namespace DocQuery

open Outcome

/-! ## Stores -/

theorem Store.checkOpen_eq_ok_iff (s : Store) : s.checkOpen = .ok () ↔ s.poisoned = false := by
  rw [checkOpen]
  cases s.poisoned <;> simp

/-- A read leaves the store, even where it overflows. -/
theorem Store.perform_aggregate (s : Store) (supply : IdSupply) (name : String) (pipeline : List Document) :
    s.perform supply (.aggregate name pipeline) = ((s.aggregate name pipeline).map .rows, s, supply) := by
  rw [perform.eq_def, answer]
  cases s.aggregate name pipeline with
  | ok rows => rfl
  | error f =>
    cases f with
    | error e => rfl
    | overflow =>
      show (_, ({ s with poisoned := s.poisoned || false } : Store), supply) = _
      rw [Bool.or_false]
      rfl

namespace Deployment

/-- What a pipeline makes of a collection of the store behind a handle. -/
def aggregate (d : Deployment) (handle : Nat) (name : String) (pipeline : List Document) :
    Outcome (List Document) :=
  match d.backends[handle]? with
  | some (.memory s) => s.aggregate name pipeline
  | some (.unreachable reason) => .error (.error (.unavailable reason))
  | none => .error (.error (.unavailable "no backend"))

theorem perform_aggregate (d : Deployment) (handle : Nat) (name : String) (pipeline : List Document) :
    d.perform handle (.aggregate name pipeline) = ((d.aggregate handle name pipeline).map .rows, d) := by
  rw [perform, aggregate]
  cases hb : d.backends[handle]? with
  | none => rfl
  | some backend =>
    cases backend with
    | unreachable reason => rfl
    | memory s =>
      dsimp only
      rw [Store.perform_aggregate]
      dsimp only
      rw [set_backend hb]

/-- A handle with a store in memory that no writer has left half-way. -/
def Open (d : Deployment) (handle : Nat) : Prop :=
  ∃ s, d.backends[handle]? = some (.memory s) ∧ s.poisoned = false

theorem aggregate_of_open {d : Deployment} {handle : Nat} (h : d.Open handle) (name : String)
    (pipeline : List Document) :
    d.aggregate handle name pipeline = Pipeline.run pipeline (d.documents handle name) := by
  obtain ⟨s, hb, hp⟩ := h
  rw [aggregate, hb, documents_of_backend hb]
  show s.aggregate name pipeline = _
  rw [Store.aggregate, s.checkOpen_eq_ok_iff.2 hp]
  rfl

theorem aggregate_append (d : Deployment) (handle : Nat) (name : String) (first later : List Document) :
    d.aggregate handle name (first ++ later) = d.aggregate handle name first >>= Pipeline.run later := by
  rw [aggregate, aggregate]
  cases d.backends[handle]? with
  | none => rfl
  | some backend =>
    cases backend with
    | unreachable reason => rfl
    | memory s =>
      show s.aggregate name (first ++ later) = s.aggregate name first >>= _
      rw [Store.aggregate, Store.aggregate, Pipeline.run_append, bind_assoc]

theorem open_of_aggregate_ok {d : Deployment} {handle : Nat} {name : String} {pipeline rows : List Document}
    (h : d.aggregate handle name pipeline = .ok rows) : d.Open handle := by
  rw [aggregate] at h
  split at h
  · rename_i s hb
    obtain ⟨⟨⟩, hopen, -⟩ := (bind_eq_ok_iff _ _ _).1 h
    exact ⟨s, hb, s.checkOpen_eq_ok_iff.1 hopen⟩
  · cases h
  · cases h

end Deployment

/-! ## Sessions -/

namespace Session

/-- The same documents behind the same handles, in a dry run or not. -/
structure SameData (s t : Session) : Prop where
  deployment : t.deployment = s.deployment
  pretending : t.connection.pretending = s.connection.pretending
  write : t.connection.write = s.connection.write
  read : t.connection.read = s.connection.read

theorem SameData.refl (s : Session) : s.SameData s := ⟨rfl, rfl, rfl, rfl⟩

theorem SameData.trans {s t u : Session} (h : s.SameData t) (k : t.SameData u) : s.SameData u :=
  ⟨k.deployment.trans h.deployment, k.pretending.trans h.pretending, k.write.trans h.write, k.read.trans h.read⟩

/-- What stages make of a collection, where a select runs them; a dry run has no rows. -/
def rows (s : Session) (useRead : Bool) (name : String) (stages : List Stage) : Outcome (List Document) :=
  if s.connection.pretending then .ok []
  else s.deployment.aggregate (s.connection.readHandle useRead) name (stages.map Stage.toDocument)

theorem SameData.rows {s t : Session} (h : s.SameData t) (useRead : Bool) (name : String) (stages : List Stage) :
    t.rows useRead name stages = s.rows useRead name stages := by
  simp only [Session.rows, Connection.readHandle, h.deployment, h.pretending, h.write, h.read]

theorem rows_of_pretending {s : Session} (h : s.connection.pretending = true) (useRead : Bool) (name : String)
    (stages : List Stage) : s.rows useRead name stages = .ok [] := by
  rw [rows, if_pos h]

theorem rows_of_open {s : Session} {useRead : Bool} (hp : s.connection.pretending = false)
    (ho : s.deployment.Open (s.connection.readHandle useRead)) (name : String) (stages : List Stage) :
    s.rows useRead name stages = Pipeline.run (stages.map Stage.toDocument)
      (s.deployment.documents (s.connection.readHandle useRead) name) := by
  rw [rows, hp, Deployment.aggregate_of_open ho]
  rfl

/-- Where there are rows, it is a dry run and there are none, or the store is open and its documents have gone
through the stages. -/
theorem rows_eq_ok_iff {s : Session} {useRead : Bool} {name : String} {stages : List Stage}
    {rows : List Document} :
    s.rows useRead name stages = .ok rows ↔
      (s.connection.pretending = true ∧ rows = []) ∨
        (s.connection.pretending = false ∧ s.deployment.Open (s.connection.readHandle useRead) ∧
          Pipeline.run (stages.map Stage.toDocument)
            (s.deployment.documents (s.connection.readHandle useRead) name) = .ok rows) := by
  cases hp : s.connection.pretending with
  | true => simp [rows_of_pretending hp, eq_comm]
  | false =>
    constructor
    · intro h
      have ho : s.deployment.Open (s.connection.readHandle useRead) := by
        rw [Session.rows, hp] at h
        exact Deployment.open_of_aggregate_ok h
      exact .inr ⟨rfl, ho, by rw [← rows_of_open hp ho, h]⟩
    · rintro (⟨h, -⟩ | ⟨-, ho, h⟩)
      · cases h
      · rw [rows_of_open hp ho, h]

/-- An offset and a limit behind the stages of a read cut its rows. -/
theorem rows_page (s : Session) (useRead : Bool) (name : String) (stages : List Stage)
    (offset limit : Option UInt64) :
    s.rows useRead name (stages ++ (Query.stageUnlessZero .skip offset ++ Query.stageUnlessZero .limit limit)) =
      (s.rows useRead name stages).map (Pipeline.page offset limit) := by
  rw [rows, rows]
  by_cases hp : s.connection.pretending
  · rw [if_pos hp, if_pos hp]
    exact congrArg Except.ok (Pipeline.page_nil offset limit).symm
  · rw [if_neg hp, if_neg hp, List.map_append, Deployment.aggregate_append]
    cases s.deployment.aggregate (s.connection.readHandle useRead) name (stages.map Stage.toDocument) with
    | error f => rfl
    | ok rows => exact Pipeline.run_page offset limit rows

/-- What a caller learns of a failure. -/
def faultOf (st : Statement) : Failure → Fault
  | .error e => .error (.query (.of st e))
  | .overflow => .overflow

theorem select_aggregate_on (s : Session) (useRead : Bool) (name : String) (stages : List Stage)
    (options : Document) :
    ∃ t, s.SameData t ∧ (select (.aggregate name stages options) useRead).on s =
      ((s.rows useRead name stages).mapError (faultOf (.aggregate name stages options)), t) := by
  rw [select_on, rows]
  by_cases hp : s.connection.pretending
  · rw [if_pos hp, if_pos hp]
    refine ⟨_, ?_, rfl⟩
    exact ⟨rfl, rfl, rfl, rfl⟩
  · rw [if_neg hp, if_neg hp, send_on,
      show (Statement.aggregate name stages options).toCall = .aggregate name (stages.map Stage.toDocument) from rfl,
      Deployment.perform_aggregate]
    cases s.deployment.aggregate (s.connection.readHandle useRead) name (stages.map Stage.toDocument) with
    | ok rows =>
      refine ⟨_, ?_, rfl⟩
      exact ⟨rfl, rfl, rfl, rfl⟩
    | error f =>
      cases f with
      | error e =>
        refine ⟨_, ?_, rfl⟩
        exact ⟨rfl, rfl, rfl, rfl⟩
      | overflow =>
        refine ⟨_, ?_, rfl⟩
        exact ⟨rfl, rfl, rfl, rfl⟩

end Session

namespace Action

variable {α β : Type}

/-- What an action gives, where it leaves all documents and handles. -/
def Gives (a : Action α) (s : Session) (r : Except Fault α) : Prop := ∃ t, s.SameData t ∧ a.on s = (r, t)

theorem Gives.eq {a : Action α} {s t : Session} {r x : Except Fault α} (h : a.Gives s r)
    (hx : a.on s = (x, t)) : x = r ∧ s.SameData t := by
  obtain ⟨u, hu, hr⟩ := h
  rw [hr] at hx
  cases hx
  exact ⟨rfl, hu⟩

/-- What is done next is done on the same data. -/
theorem Gives.bind {a : Action α} {f : α → Action β} {s : Session} {x : α} {r : Except Fault β}
    (h : a.Gives s (.ok x)) (hf : ∀ t, s.SameData t → (f x).Gives t r) : (a >>= f).Gives s r := by
  obtain ⟨t, ht, hx⟩ := h
  obtain ⟨u, hu, hr⟩ := hf t ht
  exact ⟨u, ht.trans hu, by rw [on_bind_of_ok hx, hr]⟩

theorem Gives.bind_pure {a : Action α} {s : Session} {r : Except Fault α} (h : a.Gives s r) (f : α → β) :
    (a >>= fun x => pure (f x)).Gives s (r.map f) := by
  obtain ⟨t, ht, hr⟩ := h
  refine ⟨t, ht, ?_⟩
  rw [on_bind, hr]
  cases r <;> rfl

theorem Gives.map {a : Action α} {s : Session} {r : Except Fault α} (h : a.Gives s r) (f : α → β) :
    (f <$> a).Gives s (r.map f) := by
  rw [← bind_pure_comp]
  exact h.bind_pure f

end Action

/-! ## Builders -/

namespace Builder

/-- The rows of a query, or why there are none. -/
def result (b : Builder) (s : Session) (q : Query) : Except Fault (List Document) :=
  match q.stages with
  | .ok stages => (s.rows (!b.usesWriteHandle) q.collection stages).mapError
      (Session.faultOf (.aggregate q.collection stages q.effectiveOptions))
  | .error e => .error (.error (.compile e))

theorem result_eq_ok_iff {b : Builder} {s : Session} {q : Query} {rows : List Document} :
    b.result s q = .ok rows ↔
      ∃ stages, q.stages = .ok stages ∧ s.rows (!b.usesWriteHandle) q.collection stages = .ok rows := by
  rw [result]
  cases q.stages with
  | error e => simp
  | ok stages =>
    cases hr : s.rows (!b.usesWriteHandle) q.collection stages <;> simp [Except.mapError, hr]

/-- Rows without an aggregate: documents behind an open handle that have passed the filter, shown; or none, in a
dry run. -/
theorem passed_of_result {b : Builder} {s : Session} {q : Query} (ha : q.aggregate = none) {rows : List Document}
    (h : b.result s q = .ok rows) :
    q.refused? = none ∧ ∃ filter keys, FilterDocument.ofClauses q.clauses = .ok filter ∧
      Query.sortKeys q.orders = .ok keys ∧
      ((s.connection.pretending = true ∧ rows = []) ∨
        (s.connection.pretending = false ∧ s.deployment.Open (s.connection.readHandle (!b.usesWriteHandle)) ∧
          ∃ passed, q.passed filter (s.deployment.documents (s.connection.readHandle (!b.usesWriteHandle))
            q.collection) = .ok passed ∧ q.shown keys passed = .ok rows)) := by
  obtain ⟨stages, hs, hr⟩ := result_eq_ok_iff.1 h
  obtain ⟨hrefused, own, filter, groups, keys, hf, hg, hk, rfl⟩ := Query.stages_eq_ok_iff.1 hs
  rw [Query.grouped, ha] at hg
  cases hg
  refine ⟨hrefused, own, keys, hf, hk, ?_⟩
  rcases Session.rows_eq_ok_iff.1 hr with hdry | ⟨hp, hopen, hrun⟩
  · exact .inl hdry
  · rw [Query.run_stages] at hrun
    obtain ⟨passed, hpassed, hshown⟩ := (bind_eq_ok_iff _ _ _).1 hrun
    obtain ⟨_, hpassed, hnone⟩ := (bind_eq_ok_iff _ _ _).1 hpassed
    cases hnone
    exact .inr ⟨hp, hopen, passed, hpassed, hshown⟩

theorem result_of_sameData {s t : Session} (h : s.SameData t) (b : Builder) (q : Query) :
    b.result t q = b.result s q := by
  simp only [result, h.rows]

/-- Cutting a page off a query that has none cuts its rows, and fails where the query fails. -/
theorem result_page_eq_ok_iff {b : Builder} {s : Session} {q : Query} (ho : q.offset = none) (hl : q.limit = none)
    {offset limit : Option UInt64} {rows : List Document} :
    b.result s { q with offset, limit } = .ok rows ↔
      ∃ whole, b.result s q = .ok whole ∧ rows = Pipeline.page offset limit whole := by
  constructor
  · intro h
    obtain ⟨stages, hs, hr⟩ := result_eq_ok_iff.1 h
    obtain ⟨before, hb, rfl⟩ := (Query.stages_page_eq_ok_iff ho hl).1 hs
    rw [Session.rows_page, map_eq_ok_iff] at hr
    obtain ⟨whole, hw, rfl⟩ := hr
    exact ⟨whole, result_eq_ok_iff.2 ⟨before, hb, hw⟩, rfl⟩
  · rintro ⟨whole, h, rfl⟩
    obtain ⟨stages, hs, hw⟩ := result_eq_ok_iff.1 h
    refine result_eq_ok_iff.2 ⟨_, (Query.stages_page_eq_ok_iff ho hl).2 ⟨stages, hs, rfl⟩, ?_⟩
    rw [Session.rows_page, hw]
    rfl

theorem read_gives (b : Builder) (q : Query) (s : Session) : (b.read q).Gives s (b.result s q) := by
  rw [read, Query.compileSelect, result]
  cases q.stages with
  | error e => exact ⟨s, .refl s, rfl⟩
  | ok stages => exact Session.select_aggregate_on s (!b.usesWriteHandle) q.collection stages q.effectiveOptions

theorem get_gives (b : Builder) (s : Session) : b.get.Gives s (b.result s b.query) := b.read_gives b.query s

theorem first_gives (b : Builder) (s : Session) :
    b.first.Gives s ((b.result s { b.query with limit := some 1 }).map List.head?) :=
  (b.read_gives _ s).bind_pure List.head?

/-- The query of an aggregate: all fields of the matching documents, and a function over them. -/
def aggregateQuery (b : Builder) (function : String) (columns : List String) : Query :=
  { b.query with columns := [], aggregate := some ⟨function, columns⟩ }

/-- The value that the row of an aggregate shows. -/
def shownAggregate (rows : List Document) : Value :=
  (rows.head?.bind fun d => d.get? "aggregate").getD .null

theorem aggregate_gives (b : Builder) (function : String) (columns : List String) (s : Session) :
    (b.aggregate function columns).Gives s
      ((b.result s (b.aggregateQuery function columns)).map shownAggregate) :=
  (b.read_gives _ s).bind_pure shownAggregate

theorem counted_gives (b : Builder) (columns : List String) (s : Session) :
    (b.counted columns).Gives s
      (((b.result s (b.aggregateQuery "count" columns)).map shownAggregate).map countOf) :=
  (b.aggregate_gives "count" columns s).map countOf

end Builder

end DocQuery
