import DocQuery.Proofs.Dispatch

/-!
# What a failure leaves behind

Work that ends with an error has not happened.  A store that refuses a call is as it was; a terminal or a
dispatch that gives an error leaves all stores and the connection as they were, and counts one more refused
statement exactly when the error is a store's:

    d.perform h call = (error e, d')     → d'.backends = d.backends     (perform_error)
    (t.run b).on s = (error e, s')       → Session.Unharmed e s s'      (Terminal.careful_run)

An overflow is no error in this sense: it locks the store that it happens in.  Only the identifiers that a refused
insert has drawn are not given back.
-/

namespace DocQuery

/-- An error that a store has given, and not the compiler. -/
def DatabaseError.fromStore : DatabaseError → Bool
  | .query _ => true
  | _ => false

/-- A session after an error: all stores and the whole connection as before, the modified flag and the log
included, and one more refused statement where the error is a store's. -/
structure Session.Unharmed (e : DatabaseError) (s t : Session) : Prop where
  backends : t.deployment.backends = s.deployment.backends
  connection : t.connection = s.connection
  failed : t.metrics.failed = s.metrics.failed + if e.fromStore then 1 else 0
  others : ∀ c, c ≠ .failed → t.metrics.get c = s.metrics.get c

/-! ## Store calls -/

theorem Store.perform_error {s t : Store} {supply later : IdSupply} {call : StoreCall} {e : StoreError}
    (h : s.perform supply call = (.error (.error e), t, later)) : t = s := by
  rw [Store.perform] at h
  cases ha : s.answer supply call with
  | ok reply => rw [ha] at h; cases h
  | error f =>
    rw [ha] at h
    cases f with
    | overflow => cases h
    | error e' => cases h; rfl

/-- A call goes to a store in memory, or there is none to answer it and nothing happens. -/
theorem Deployment.perform_cases {d d' : Deployment} {handle : Nat} {call : StoreCall}
    {r : Outcome StoreReply} (h : d.perform handle call = (r, d')) :
    (∃ s t supply, d.backends[handle]? = some (.memory s) ∧ s.perform d.supply call = (r, t, supply) ∧
        d' = ⟨d.backends.set handle (.memory t), supply⟩) ∨
      ∃ reason, r = .error (.error (.unavailable reason)) ∧ d' = d := by
  rw [Deployment.perform] at h
  split at h
  · rename_i s hb
    rcases hp : s.perform d.supply call with ⟨reply, t, supply⟩
    rw [hp] at h
    cases h
    exact .inl ⟨s, t, supply, hb, hp, rfl⟩
  · cases h
    exact .inr ⟨_, rfl, rfl⟩
  · cases h
    exact .inr ⟨_, rfl, rfl⟩

theorem Deployment.set_backend {d : Deployment} {handle : Nat} {b : Backend} (h : d.backends[handle]? = some b) :
    d.backends.set handle b = d.backends := by
  obtain ⟨hlt, rfl⟩ := List.getElem?_eq_some_iff.1 h
  exact List.set_getElem_self hlt

theorem Deployment.perform_error {d d' : Deployment} {handle : Nat} {call : StoreCall} {e : StoreError}
    (h : d.perform handle call = (.error (.error e), d')) : d'.backends = d.backends := by
  rcases Deployment.perform_cases h with ⟨s, t, supply, hb, hp, rfl⟩ | ⟨-, -, rfl⟩
  · rw [Store.perform_error hp]
    exact Deployment.set_backend hb
  · rfl

/-! ## Actions -/

namespace Action

variable {α β : Type}

/-- An action whose errors leave the session unharmed. -/
def Careful (a : Action α) : Prop :=
  ∀ (s t : Session) (e : DatabaseError), a.on s = (.error (.error e), t) → s.Unharmed e t

/-- An action that always gives something. -/
def Succeeds (a : Action α) : Prop := ∀ s : Session, ∃ x t, a.on s = (.ok x, t)

theorem succeeds_pure (x : α) : Succeeds (pure x) := fun s => ⟨x, s, rfl⟩

theorem succeeds_modify (f : Session → Session) : Succeeds (modify f : Action PUnit) :=
  fun s => ⟨⟨⟩, f s, rfl⟩

theorem Succeeds.bind {a : Action α} {f : α → Action β} (ha : a.Succeeds) (hf : ∀ x, (f x).Succeeds) :
    (a >>= f).Succeeds := by
  intro s
  obtain ⟨x, t, h⟩ := ha s
  rw [on_bind_of_ok h]
  exact hf x t

theorem Succeeds.careful {a : Action α} (ha : a.Succeeds) : a.Careful := by
  intro s t e h
  obtain ⟨x, t', hs⟩ := ha s
  rw [hs] at h
  cases h

theorem careful_pure (x : α) : Careful (pure x) := (succeeds_pure x).careful

/-- What cannot fail may follow. -/
theorem Careful.bind {a : Action α} {f : α → Action β} (ha : a.Careful) (hf : ∀ x, (f x).Succeeds) :
    (a >>= f).Careful := by
  intro s t e h
  rw [on_bind] at h
  rcases hr : a.on s with ⟨r, u⟩
  rw [hr] at h
  cases r with
  | ok x =>
    obtain ⟨y, v, hv⟩ := hf x u
    replace h : (f x).on u = (.error (.error e), t) := h
    rw [hv] at h
    cases h
  | error f' =>
    cases h
    exact ha s t e hr

theorem Careful.map {a : Action α} (ha : a.Careful) (f : α → β) : (f <$> a).Careful := by
  rw [← bind_pure_comp]
  exact ha.bind fun x => succeeds_pure (f x)

/-- What is compiled first has changed nothing yet. -/
theorem careful_compiled_bind (c : Compiled α) {f : α → Action β} (hf : ∀ x, (f x).Careful) :
    (Session.compiled c >>= f).Careful := by
  intro s t e h
  rcases Session.compiled_bind_error h with ⟨e', he, rfl⟩ | ⟨a, -, ha⟩
  · cases he
    exact ⟨rfl, rfl, (UInt64.add_zero _).symm, fun _ _ => rfl⟩
  · exact hf a s t e ha

theorem careful_compiled (c : Compiled α) : (Session.compiled c).Careful := by
  rw [← bind_pure (Session.compiled c)]
  exact careful_compiled_bind c careful_pure

end Action

/-! ## Dispatches -/

namespace Session

open DocQuery.Action

theorem careful_send (handle : Nat) (st : Statement) : (send handle st).Careful := by
  intro s t e h
  rw [send_on] at h
  rcases hp : s.deployment.perform handle st.toCall with ⟨r, deployment⟩
  rw [hp] at h
  cases r with
  | ok reply => cases h
  | error f =>
    cases f with
    | overflow => cases h
    | error e' =>
      cases h
      refine ⟨Deployment.perform_error hp, rfl, rfl, fun c hc => ?_⟩
      cases c <;> first | rfl | exact absurd rfl hc

/-- In a dry run nothing is sent, so nothing fails; otherwise a failure is one of sending. -/
theorem careful_dispatch {α : Type} {st : Statement} {dry : α} {rest : Action α}
    (h : rest.Careful) : (do if ← pretended st then pure dry else rest : Action α).Careful := by
  intro s t e ht
  rw [on_bind, pretended_on] at ht
  by_cases hp : s.connection.pretending
  · rw [if_pos hp] at ht
    cases ht
  · rw [if_neg hp] at ht
    exact h s t e ht

theorem careful_select (st : Statement) (useRead : Bool) : (select st useRead).Careful := by
  refine careful_dispatch fun s t e h => ?_
  rw [on_bind_of_ok (on_get s)] at h
  exact ((careful_send _ st).bind fun output =>
    (succeeds_modify _).bind fun _ => succeeds_pure output.toRows) s t e h

theorem careful_statement (st : Statement) : (statement st).Careful := by
  refine careful_dispatch fun s t e h => ?_
  rw [on_bind_of_ok (on_get s)] at h
  exact ((careful_send _ st).bind fun output =>
    (succeeds_modify _).bind fun _ => succeeds_pure output) s t e h

theorem careful_affecting (st : Statement) : (affecting st).Careful := by
  refine careful_dispatch fun s t e h => ?_
  rw [on_bind_of_ok (on_get s)] at h
  exact ((careful_send _ st).bind fun output =>
    (succeeds_modify _).bind fun _ => succeeds_pure output.toCount) s t e h

theorem careful_insertGetId (st : Statement) : (insertGetId st).Careful := by
  refine (careful_statement st).bind fun output => ?_
  split
  · exact succeeds_pure _
  · exact succeeds_pure _

theorem Dispatch.careful_run (d : Dispatch) (st : Statement) : (d.run st).Careful := by
  cases d with
  | select useRead => exact (careful_select st useRead).map _
  | statement => exact (careful_statement st).map _
  | insert => exact (careful_statement st).map _
  | affecting => exact (careful_affecting st).map _
  | insertGetId => exact (careful_insertGetId st).map _

end Session

/-! ## Terminals -/

namespace Builder

open DocQuery.Action Session

theorem careful_read (b : Builder) (q : Query) : (b.read q).Careful :=
  careful_compiled_bind _ fun st => careful_select st _

theorem careful_first (b : Builder) : b.first.Careful :=
  (b.careful_read _).bind fun rows => succeeds_pure rows.head?

theorem careful_find (b : Builder) (id : Value) : (b.find id).Careful := by
  rw [find]
  split
  · exact careful_pure none
  · exact (b.byId id).careful_first

theorem careful_aggregate (b : Builder) (function : String) (columns : List String) :
    (b.aggregate function columns).Careful :=
  (b.careful_read _).bind fun _ => succeeds_pure _

theorem careful_insert (b : Builder) (documents : List Document) : (b.insert documents).Careful := by
  rw [insert]
  split
  · exact careful_pure true
  · exact careful_compiled_bind _ fun st => (careful_statement st).bind fun _ => succeeds_pure _

theorem careful_changing (r : Request) : (changing r).Careful :=
  careful_compiled_bind _ careful_affecting

theorem careful_increment (b : Builder) (column : String) (amount : Value) (others : Document) :
    (b.increment column amount others).Careful := by
  rw [increment]
  split
  · exact careful_changing _
  · exact careful_compiled _

theorem careful_truncate (b : Builder) : b.truncate.Careful :=
  careful_compiled_bind _ fun st => (careful_statement st).bind fun _ => succeeds_pure _

end Builder

open Builder in
theorem Terminal.careful_run (b : Builder) (t : Terminal) : (t.run b).Careful := by
  cases t with
  | get => exact (careful_read b _).map _
  | first => exact (careful_first b).map _
  | find id => exact (careful_find b id).map _
  | value column => exact ((careful_first b).bind fun _ => Action.succeeds_pure _).map _
  | pluck column => exact ((careful_read b _).bind fun _ => Action.succeeds_pure _).map _
  | «exists» => exact (Action.careful_compiled _).map _
  | aggregate function columns => exact (careful_aggregate b function columns).map _
  | count => exact ((careful_aggregate b _ _).map _).map _
  | countColumn column => exact ((careful_aggregate b _ _).map _).map _
  | sum column => exact ((careful_aggregate b _ _).bind fun _ => Action.succeeds_pure _).map _
  | avg column => exact (careful_aggregate b _ _).map _
  | min column => exact (careful_aggregate b _ _).map _
  | max column => exact (careful_aggregate b _ _).map _
  | toPipeline => exact (Action.careful_compiled_bind _ fun _ => Action.careful_pure _).map _
  | toSql => exact (Action.careful_compiled _).map _
  | insert documents => exact (careful_insert b documents).map _
  | insertOne document => exact (careful_insert b [document]).map _
  | insertGetId document => exact (Action.careful_compiled_bind _ Session.careful_insertGetId).map _
  | update values => exact (careful_changing _).map _
  | increment column amount others => exact (careful_increment b column amount others).map _
  | decrement column amount others => exact (careful_increment b column _ others).map _
  | delete id => exact (careful_changing _).map _
  | truncate => exact (careful_truncate b).map _
  | push column v unique => exact (careful_changing _).map _
  | pull column v => exact (careful_changing _).map _
  | description => exact Action.Succeeds.careful fun s => ⟨_, s, rfl⟩

end DocQuery
