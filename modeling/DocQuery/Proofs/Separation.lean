import DocQuery.Proofs.Accounts
import DocQuery.Proofs.Reads
import DocQuery.Proofs.Selects

/-!
# Reads and writes apart

A connection with a read handle of its own keeps two stores apart.  A call is a terminal of a builder; it is on the
read handle when the terminal reads and the builder does not ask for the write handle.  Of two sessions of one
connection, run side by side:

    the store behind the read handle stays                                            (Apart.after)
    what calls on the read handle give is a function of that store                    (results_of_same_reads)
    what all others give, and the store behind the write handle afterwards, is a
    function of the store behind the write handle and the supply of identifiers       (results_of_same_writes)

Each rests on what one call does (`Call.run_cases`): it reads behind one handle and leaves the stores, or it
writes behind the write handle and leaves the others, or it sends nothing.
-/

namespace DocQuery

open Session (Dispatch Reply faultOf)

/-! ## Store calls behind different handles -/

namespace Deployment

variable {d e : Deployment} {handle : Nat}

/-- A call leaves what is behind other handles. -/
theorem perform_other {other : Nat} (h : handle ≠ other) (call : StoreCall) :
    (d.perform handle call).2.backends[other]? = d.backends[other]? := by
  obtain ⟨s, t, supply, -, -, hd⟩ | ⟨reason, -, hd⟩ := perform_cases (Prod.eta (d.perform handle call)).symm
  · rw [hd]
    exact List.getElem?_set_ne h
  · rw [hd]

/-- A call leaves a store in memory where there was one. -/
theorem perform_memory {s : Store} (hb : d.backends[handle]? = some (.memory s)) (call : StoreCall) :
    ∃ t, (d.perform handle call).2.backends[handle]? = some (.memory t) := by
  obtain ⟨hlt, -⟩ := List.getElem?_eq_some_iff.1 hb
  obtain ⟨-, t, supply, -, -, hd⟩ | ⟨reason, -, hd⟩ := perform_cases (Prod.eta (d.perform handle call)).symm
  · rw [hd]
    exact ⟨t, List.getElem?_set_self hlt⟩
  · rw [hd]
    exact ⟨s, hb⟩

/-- A read sees no more than what is behind its handle. -/
theorem aggregate_congr (hb : d.backends[handle]? = e.backends[handle]?) (name : String) (pipeline : List Document) :
    d.aggregate handle name pipeline = e.aggregate handle name pipeline := by
  rw [aggregate, aggregate, hb]

/-- A call sees no more than what is behind its handle and the supply, and makes the same of the same. -/
theorem perform_congr (hb : d.backends[handle]? = e.backends[handle]?) (hs : d.supply = e.supply) (call : StoreCall) :
    (d.perform handle call).1 = (e.perform handle call).1 ∧
      (d.perform handle call).2.backends[handle]? = (e.perform handle call).2.backends[handle]? ∧
      (d.perform handle call).2.supply = (e.perform handle call).2.supply := by
  rw [perform, perform, ← hb, ← hs]
  cases hd : d.backends[handle]? with
  | none => exact ⟨rfl, hb, hs⟩
  | some backend =>
    cases backend with
    | unreachable reason => exact ⟨rfl, hb, hs⟩
    | memory s =>
      obtain ⟨hdlt, -⟩ := List.getElem?_eq_some_iff.1 hd
      obtain ⟨helt, -⟩ := List.getElem?_eq_some_iff.1 (hb.symm.trans hd)
      refine ⟨rfl, ?_, rfl⟩
      exact (List.getElem?_set_self hdlt).trans (List.getElem?_set_self helt).symm

end Deployment

/-! ## Calls -/

/-- The terminals that read. -/
def Terminal.isRead : Terminal → Bool
  | insert _ | insertOne _ | insertGetId _ | update _ | increment .. | decrement .. | delete _ | truncate => false
  | push .. | pull .. => false
  | _ => true

namespace Terminal

variable {b : Builder} {t : Terminal} {d : Dispatch} {r : Request}

theorem request_of_read (ht : t.isRead = true) (h : t.request? b = some (d, r)) :
    d = .select (!b.usesWriteHandle) ∧ ∃ q, r = .select q := by
  cases t with
  | find id =>
    rw [request?] at h
    split at h
    · cases h
    · cases h
      exact ⟨rfl, _, rfl⟩
  | get | first | value _ | pluck _ | aggregate _ _ | count | countColumn _ | sum _ | avg _ | min _ | max _ =>
    cases h
    exact ⟨rfl, _, rfl⟩
  | «exists» | toPipeline | toSql | description => cases h
  | _ => cases ht

theorem request_of_write (ht : t.isRead = false) (h : t.request? b = some (d, r)) (c : Connection) :
    d.handle c = c.write := by
  have haddition : ∀ column amount others, b.addition column amount others = some (d, r) → d.handle c = c.write := by
    intro column amount others ha
    rw [Builder.addition] at ha
    split at ha <;> cases ha
    rfl
  cases t with
  | insert documents =>
    rw [request?] at h
    split at h <;> cases h
    rfl
  | increment column amount others => exact haddition _ _ _ h
  | decrement column amount others => exact haddition _ _ _ h
  | insertOne _ | insertGetId _ | update _ | delete _ | truncate | push _ _ _ | pull _ _ =>
    cases h
    rfl
  | _ => cases ht

end Terminal

namespace Session

open DocQuery.Action

/-- A terminal on a builder. -/
structure Call where
  builder : Builder
  terminal : Terminal

namespace Call

def run (c : Call) : Action Answer := c.terminal.run c.builder

/-- A read that does not ask for the write handle. -/
def onRead (c : Call) : Bool := c.terminal.isRead && !c.builder.usesWriteHandle

/-- A call sends nothing, or it reads behind a handle, or it writes behind the write handle. -/
theorem run_cases (c : Call) :
    (∃ answer : String → Except Fault Answer, ∀ s : Session, c.run.on s = (answer s.connection.name, s)) ∨
      ∃ (d : Dispatch) (st : Statement) (shape : Reply → Answer),
        (∀ s, c.run.on s = (((d.run st).on s).1.map shape, ((d.run st).on s).2)) ∧
        ((c.terminal.isRead = true ∧ d = .select (!c.builder.usesWriteHandle) ∧
            ∃ name stages options, st = .aggregate name stages options) ∨
          (c.terminal.isRead = false ∧ ∀ connection, d.handle connection = connection.write)) := by
  cases hr : c.terminal.request? c.builder with
  | none => exact .inl (Terminal.answer_of_no_request hr)
  | some request =>
    obtain ⟨d, r⟩ := request
    cases hc : r.compile with
    | error e => exact .inl ⟨fun _ => .error (.error (.compile e)), (Terminal.run_of_request hr).on_of_error hc⟩
    | ok st =>
      obtain ⟨shape, hshape⟩ := (Terminal.run_of_request hr).on_of_ok hc
      refine .inr ⟨d, st, shape, hshape, ?_⟩
      cases ht : c.terminal.isRead with
      | true =>
        obtain ⟨hd, q, rfl⟩ := Terminal.request_of_read ht hr
        obtain ⟨stages, -, hst⟩ := Query.compileSelect_eq hc
        exact .inl ⟨rfl, hd, _, _, _, hst⟩
      | false => exact .inr ⟨rfl, Terminal.request_of_write ht hr⟩

/-- What is not on the read handle sends nothing, or sends behind the write handle. -/
theorem run_cases_of_write {c : Call} (hc : c.onRead = false) :
    (∃ answer : String → Except Fault Answer, ∀ s : Session, c.run.on s = (answer s.connection.name, s)) ∨
      ∃ (d : Dispatch) (st : Statement) (shape : Reply → Answer),
        (∀ s, c.run.on s = (((d.run st).on s).1.map shape, ((d.run st).on s).2)) ∧
        ∀ connection, d.handle connection = connection.write := by
  obtain hanswer | ⟨d, st, shape, hon, ⟨hread, hd, -⟩ | ⟨-, hhandle⟩⟩ := c.run_cases
  · exact .inl hanswer
  · have huses : c.builder.usesWriteHandle = true := by simpa [onRead, hread] using hc
    refine .inr ⟨d, st, shape, hon, fun connection => ?_⟩
    rw [hd, huses]
    rfl
  · exact .inr ⟨d, st, shape, hon, hhandle⟩

end Call

/-- The session behind all calls, one after the other. -/
def after : List Call → Session → Session
  | [], s => s
  | c :: rest, s => after rest (c.run.on s).2

/-- What the calls give that pass a test, in order, where all are made one after the other. -/
def results (test : Call → Bool) : List Call → Session → List (Except Fault Answer)
  | [], _ => []
  | c :: rest, s => (if test c then [(c.run.on s).1] else []) ++ results test rest (c.run.on s).2

/-! ## Two sessions of one connection -/

/-- What a dispatch gives is what the call gives, or its dry reply. -/
theorem Dispatch.run_fst (d : Dispatch) (st : Statement) (s : Session) :
    ((d.run st).on s).1 = if s.connection.pretending then .ok d.dryReply
      else ((s.deployment.perform (d.handle s.connection) st.toCall).1.map fun reply => d.reply reply.toOutput).mapError
        (faultOf st) := by
  rw [Dispatch.run_on, send_on]
  by_cases hp : s.connection.pretending
  · rw [if_pos hp, if_pos hp]
  · rw [if_neg hp, if_neg hp]
    rcases s.deployment.perform (d.handle s.connection) st.toCall with ⟨r, deployment⟩
    cases r with
    | ok reply => rfl
    | error f => cases f <;> rfl

theorem Dispatch.name_run (d : Dispatch) (st : Statement) (s : Session) :
    ((d.run st).on s).2.connection.name = s.connection.name := by
  obtain ⟨-, hon⟩ | ⟨-, deployment, ⟨output, hon⟩ | ⟨e, hon⟩ | hon⟩ := d.run_cases st s
  · rw [hon]
    rfl
  · rw [hon]
    cases d <;> rfl
  · rw [hon]
    rfl
  · rw [hon]

/-- Two sessions of one connection, whatever is behind its handles. -/
structure SameConnection (s t : Session) : Prop extends s.SameHandles t where
  name : t.connection.name = s.connection.name

namespace SameConnection

variable {s t : Session}

theorem refl (s : Session) : s.SameConnection s := ⟨.refl s, rfl⟩

theorem symm (h : s.SameConnection t) : t.SameConnection s :=
  ⟨⟨h.pretending.symm, h.write.symm, h.read.symm⟩, h.name.symm⟩

theorem trans {u : Session} (h : s.SameConnection t) (k : t.SameConnection u) : s.SameConnection u :=
  ⟨h.toSameHandles.trans k.toSameHandles, k.name.trans h.name⟩

theorem handle (h : s.SameConnection t) (d : Dispatch) : d.handle t.connection = d.handle s.connection := by
  cases d <;> simp only [Dispatch.handle, Connection.readHandle, h.write, h.read]

/-- The same replies are passed on in the same way. -/
theorem run_fst (h : s.SameConnection t) {d : Dispatch} {st : Statement}
    (hreply : (s.deployment.perform (d.handle s.connection) st.toCall).1 =
      (t.deployment.perform (d.handle s.connection) st.toCall).1) :
    ((d.run st).on s).1 = ((d.run st).on t).1 := by
  rw [Dispatch.run_fst, Dispatch.run_fst, h.handle, h.pretending, hreply]

end SameConnection

theorem Call.sameConnection (c : Call) (s : Session) : s.SameConnection (c.run.on s).2 := by
  obtain ⟨answer, hon⟩ | ⟨d, st, shape, hon, -⟩ := c.run_cases
  · rw [hon]
    exact .refl s
  · rw [hon]
    exact ⟨d.sameHandles_run st s, d.name_run st s⟩

theorem SameConnection.run {s t : Session} (h : s.SameConnection t) (c : Call) :
    (c.run.on s).2.SameConnection (c.run.on t).2 :=
  (c.sameConnection s).symm.trans (h.trans (c.sameConnection t))

/-! ## One call -/

/-- Reads go to a store, and writes to another one. -/
structure Apart (s : Session) (handle : Nat) (reads writes : Store) : Prop where
  read : s.connection.read = some handle
  other : s.connection.write ≠ handle
  reads : s.deployment.backends[handle]? = some (.memory reads)
  writes : s.deployment.backends[s.connection.write]? = some (.memory writes)

section

variable {s t : Session} {handle : Nat} {R R' W W' : Store}

/-- A read leaves all stores and the supply. -/
theorem Call.deployment_of_read {c : Call} (hc : c.terminal.isRead = true) (s : Session) :
    (c.run.on s).2.deployment = s.deployment := by
  obtain ⟨answer, hon⟩ | ⟨d, st, shape, hon, ⟨-, hd, name, stages, options, hst⟩ | ⟨hw, -⟩⟩ := c.run_cases
  · rw [hon]
  · rw [hon, Dispatch.run_deployment, hst]
    show (if _ then _ else (s.deployment.perform _ (.aggregate name (stages.map Stage.toDocument))).2) = _
    rw [Deployment.perform_aggregate, ite_self]
  · cases hc.symm.trans hw

/-- Whatever a call is, the read store stays, and there is a store behind the write handle afterwards. -/
theorem Apart.run (h : s.Apart handle R W) (c : Call) : ∃ V, (c.run.on s).2.Apart handle R V := by
  have hsame := c.sameConnection s
  have hkept : (c.run.on s).2.deployment = s.deployment → ∃ V, (c.run.on s).2.Apart handle R V := by
    intro hd
    exact ⟨W, hsame.read.trans h.read, by rw [hsame.write]; exact h.other, by rw [hd]; exact h.reads,
      by rw [hd, hsame.write]; exact h.writes⟩
  obtain ⟨answer, hon⟩ | ⟨d, st, shape, hon, ⟨hread, -⟩ | ⟨-, hhandle⟩⟩ := c.run_cases
  · exact hkept (by rw [hon])
  · exact hkept (Call.deployment_of_read hread s)
  · have hdeployment : (c.run.on s).2.deployment = if s.connection.pretending then s.deployment
        else (s.deployment.perform s.connection.write st.toCall).2 := by
      rw [hon, d.run_deployment, hhandle]
    split at hdeployment
    · exact hkept hdeployment
    · obtain ⟨V, hV⟩ := Deployment.perform_memory h.writes st.toCall
      refine ⟨V, hsame.read.trans h.read, by rw [hsame.write]; exact h.other, ?_, ?_⟩
      · rw [hdeployment, Deployment.perform_other h.other]
        exact h.reads
      · rw [hdeployment, hsame.write]
        exact hV

/-- The same read store gives the same behind the read handle, whatever is behind the other one. -/
theorem Apart.run_onRead (hs : s.Apart handle R W) (ht : t.Apart handle R W') (h : s.SameConnection t) {c : Call}
    (hc : c.onRead = true) : (c.run.on s).1 = (c.run.on t).1 := by
  obtain ⟨hread, huses⟩ := Bool.and_eq_true_iff.1 hc
  obtain ⟨answer, hon⟩ | ⟨d, st, shape, hon, ⟨-, hd, name, stages, options, hst⟩ | ⟨hwrite, -⟩⟩ := c.run_cases
  · rw [hon, hon, h.name]
  · have hhandle : d.handle s.connection = handle := by
      rw [hd, huses]
      show s.connection.read.getD s.connection.write = handle
      rw [hs.read, Option.getD_some]
    have hreply : (s.deployment.perform (d.handle s.connection) st.toCall).1 =
        (t.deployment.perform (d.handle s.connection) st.toCall).1 := by
      rw [hhandle, hst]
      show (s.deployment.perform handle (.aggregate name _)).1 = (t.deployment.perform handle (.aggregate name _)).1
      rw [Deployment.perform_aggregate, Deployment.perform_aggregate,
        Deployment.aggregate_congr (hs.reads.trans ht.reads.symm)]
    rw [hon, hon, h.run_fst hreply]
  · cases hread.symm.trans hwrite

/-- The same behind the write handle and the same supply give the same to all but reads of the read handle, and are
the same afterwards, whatever is behind other handles. -/
theorem Call.run_congr (h : s.SameConnection t)
    (hwrites : s.deployment.backends[s.connection.write]? = t.deployment.backends[s.connection.write]?)
    (hsupply : s.deployment.supply = t.deployment.supply) (c : Call) :
    (c.onRead = false → (c.run.on s).1 = (c.run.on t).1) ∧
      (c.run.on s).2.deployment.backends[s.connection.write]? =
        (c.run.on t).2.deployment.backends[s.connection.write]? ∧
      (c.run.on s).2.deployment.supply = (c.run.on t).2.deployment.supply := by
  cases hc : c.onRead with
  | true =>
    have hread := (Bool.and_eq_true_iff.1 hc).1
    rw [deployment_of_read hread, deployment_of_read hread]
    exact ⟨nofun, hwrites, hsupply⟩
  | false =>
    obtain ⟨answer, hon⟩ | ⟨d, st, shape, hon, hhandle⟩ := run_cases_of_write hc
    · rw [hon, hon, h.name]
      exact ⟨fun _ => rfl, hwrites, hsupply⟩
    · obtain ⟨hreply, hbackend, hlater⟩ := Deployment.perform_congr hwrites hsupply st.toCall
      rw [← hhandle s.connection] at hreply
      rw [hon, hon]
      refine ⟨fun _ => by rw [h.run_fst hreply], ?_⟩
      show ((d.run st).on s).2.deployment.backends[s.connection.write]? =
          ((d.run st).on t).2.deployment.backends[s.connection.write]? ∧
        ((d.run st).on s).2.deployment.supply = ((d.run st).on t).2.deployment.supply
      rw [d.run_deployment, d.run_deployment, hhandle, hhandle, h.pretending, h.write]
      by_cases hp : s.connection.pretending
      · rw [if_pos hp, if_pos hp]
        exact ⟨hwrites, hsupply⟩
      · rw [if_neg hp, if_neg hp]
        exact ⟨hbackend, hlater⟩

end

/-! ## Runs -/

section

variable {s t : Session} {handle : Nat} {R R' W W' : Store}

/-- The read store stays. -/
theorem Apart.after (h : s.Apart handle R W) (calls : List Call) : ∃ V, (after calls s).Apart handle R V := by
  induction calls generalizing s W with
  | nil => exact ⟨W, h⟩
  | cons c rest ih =>
    obtain ⟨V, hV⟩ := h.run c
    exact ih hV

theorem results_of_same_reads (hs : s.Apart handle R W) (ht : t.Apart handle R W') (h : s.SameConnection t)
    (calls : List Call) : results Call.onRead calls s = results Call.onRead calls t := by
  induction calls generalizing s t W W' with
  | nil => rfl
  | cons c rest ih =>
    obtain ⟨V, hV⟩ := hs.run c
    obtain ⟨V', hV'⟩ := ht.run c
    rw [results, results, ih hV hV' (h.run c)]
    cases hc : c.onRead with
    | true => rw [hs.run_onRead ht h hc]
    | false => rfl

theorem results_of_same_writes (hs : s.Apart handle R W) (ht : t.Apart handle R' W) (h : s.SameConnection t)
    (hsupply : s.deployment.supply = t.deployment.supply) (calls : List Call) :
    results (!·.onRead) calls s = results (!·.onRead) calls t ∧
      (∃ V, (Session.after calls s).Apart handle R V ∧ (Session.after calls t).Apart handle R' V) ∧
      (Session.after calls s).deployment.supply = (Session.after calls t).deployment.supply := by
  induction calls generalizing s t W with
  | nil => exact ⟨rfl, ⟨W, hs, ht⟩, hsupply⟩
  | cons c rest ih =>
    have hwrites : s.deployment.backends[s.connection.write]? = t.deployment.backends[s.connection.write]? := by
      rw [hs.writes, ← h.write, ht.writes]
    obtain ⟨hresult, hbackend, hlater⟩ := c.run_congr h hwrites hsupply
    obtain ⟨V, hV⟩ := hs.run c
    obtain ⟨V', hV'⟩ := ht.run c
    have hsame : V = V' := by
      have hv := hV.writes
      have hv' := hV'.writes
      rw [(c.sameConnection s).write, hbackend] at hv
      rw [(c.sameConnection t).write, h.write, hv] at hv'
      cases hv'
      rfl
    cases hsame
    obtain ⟨hresults, hafter⟩ := ih hV hV' (h.run c) hlater
    refine ⟨?_, hafter⟩
    rw [results, results, hresults]
    cases hc : c.onRead with
    | true => rfl
    | false => rw [hresult hc]

end

/-- Reads and writes on different stores do not meet.  Take two sessions of one connection, with any stores, and
make the same calls on both.  The read store of either never changes.  Where the read stores are the same, so is all
that reads of the read handle give, whatever has been written.  Where the write stores and the supplies of
identifiers are the same, so is all that writes and reads of the write handle give, and so are the write stores and
the supplies afterwards. -/
theorem apart_spec {s t : Session} {handle : Nat} {R R' W W' : Store} (hs : s.Apart handle R W)
    (ht : t.Apart handle R' W') (h : s.SameConnection t) (calls : List Call) :
    (∃ V, (after calls s).Apart handle R V) ∧
      (R = R' → results Call.onRead calls s = results Call.onRead calls t) ∧
      (W = W' → s.deployment.supply = t.deployment.supply →
        results (!·.onRead) calls s = results (!·.onRead) calls t ∧
          (∃ V, (after calls s).Apart handle R V ∧ (after calls t).Apart handle R' V) ∧
          (after calls s).deployment.supply = (after calls t).deployment.supply) := by
  refine ⟨hs.after calls, ?_, ?_⟩
  · rintro rfl
    exact results_of_same_reads hs ht h calls
  · rintro rfl hsupply
    exact results_of_same_writes hs ht h hsupply calls

/-- Reads of both handles around an insert that takes a new identifier, an update and a delete.  The second session
has another write store than the first, and the third one another read store. -/
theorem apart_spec_three :
    let users := Builder.on "users"
    let store (ids : List Int32) : Store := { collections := [("users", ids.map fun n => [("_id", .int32 n)])] }
    let session (reads writes : Store) : Session :=
      { connection := { database := "app", write := 0, read := some 1 },
        deployment := { backends := [.memory writes, .memory reads] } }
    let calls : List Call := [⟨users, .get⟩, ⟨users, .insertOne [("name", .string "b")]⟩,
      ⟨users.modify [.useWriteHandle], .count⟩, ⟨users, .update [("seen", .int32 1)]⟩,
      ⟨users, .delete (some (.int32 2))⟩, ⟨users, .count⟩]
    let s := session (store [1]) (store [])
    let t := session (store [1]) (store [2])
    let u := session (store [1, 2]) (store [])
    s.Apart 1 (store [1]) (store []) ∧ t.Apart 1 (store [1]) (store [2]) ∧ u.Apart 1 (store [1, 2]) (store []) ∧
      s.SameConnection t ∧ s.SameConnection u ∧
      results Call.onRead calls s = results Call.onRead calls t ∧
      results (!·.onRead) calls s = results (!·.onRead) calls u ∧
      ∃ V, (after calls s).Apart 1 (store [1]) V ∧ (after calls u).Apart 1 (store [1, 2]) V := by
  intro users store session calls s t u
  have hs : s.Apart 1 (store [1]) (store []) := ⟨rfl, nofun, rfl, rfl⟩
  have ht : t.Apart 1 (store [1]) (store [2]) := ⟨rfl, nofun, rfl, rfl⟩
  have hu : u.Apart 1 (store [1, 2]) (store []) := ⟨rfl, nofun, rfl, rfl⟩
  have hst : s.SameConnection t := ⟨⟨rfl, rfl, rfl⟩, rfl⟩
  have hsu : s.SameConnection u := ⟨⟨rfl, rfl, rfl⟩, rfl⟩
  obtain ⟨-, hreads, -⟩ := apart_spec hs ht hst calls
  obtain ⟨-, -, hwrites⟩ := apart_spec hs hu hsu calls
  obtain ⟨hresults, hafter, -⟩ := hwrites rfl rfl
  exact ⟨hs, ht, hu, hst, hsu, hreads rfl, hresults, hafter⟩

end Session

end DocQuery
