import DocQuery.Proofs.ById
import DocQuery.Proofs.DryRuns
import DocQuery.Proofs.Selects

/-!
# Finding what was inserted

`Session.Reachable` is every session of a connection over one store in memory, whatever has been done on it and,
by other clients, on its store.  All of them are over one store still, and in no dry run (`Reachable.overOneStore`).

An insert of a document without an identifier puts a new one in front of its fields and the document at the end of
its collection (`Store.answer_insertOne_ok_iff`); a find on a builder without modifiers gives the first document
with the identifier (`Builder.find_gives`).  So what was inserted is found (`Builder.insertGetId_spec`).
-/

namespace DocQuery

open Outcome

/-! ## One store -/

namespace Deployment

/-- A call, whatever it is and whichever handle it is made on, leaves one store. -/
theorem perform_one_store {d : Deployment} (h : ∃ store, d.backends = [.memory store]) (handle : Nat)
    (call : StoreCall) : ∃ store, (d.perform handle call).2.backends = [.memory store] := by
  obtain ⟨store, hd⟩ := h
  rcases hp : d.perform handle call with ⟨r, d'⟩
  rcases perform_cases hp with ⟨s, t, supply, hb, -, rfl⟩ | ⟨-, -, rfl⟩
  · have hhandle : handle = 0 := by
      obtain ⟨hlt, -⟩ := List.getElem?_eq_some_iff.1 hb
      rw [hd] at hlt
      exact Nat.lt_one_iff.1 hlt
    subst hhandle
    refine ⟨t, ?_⟩
    show d.backends.set 0 (.memory t) = _
    rw [hd]
    rfl
  · exact ⟨store, hd⟩

/-- A call that the store behind the handle answers. -/
theorem perform_of_answer {d : Deployment} {handle : Nat} {s t : Store} {call : StoreCall} {reply : StoreReply}
    {later : IdSupply} (hb : d.backends[handle]? = some (.memory s))
    (ha : s.answer d.supply call = .ok (reply, t, later)) :
    d.perform handle call = (.ok reply, ⟨d.backends.set handle (.memory t), later⟩) := by
  have hs : s.perform d.supply call = (.ok reply, t, later) := by rw [Store.perform.eq_def, ha]
  rw [perform, hb]
  dsimp only
  rw [hs]

end Deployment

namespace Session

/-- A connection over one store in memory, in no dry run. -/
structure OverOneStore (s : Session) : Prop where
  pretending : s.connection.pretending = false
  write : s.connection.write = 0
  read : s.connection.read = none
  store : ∃ store, s.deployment.backends = [.memory store]

theorem OverOneStore.of_sameHandles {s t : Session} (h : s.OverOneStore) (hh : s.SameHandles t)
    (hd : ∃ store, t.deployment.backends = [.memory store]) : t.OverOneStore :=
  ⟨hh.pretending.trans h.pretending, hh.write.trans h.write, hh.read.trans h.read, hd⟩

theorem OverOneStore.use {s : Session} (h : s.OverOneStore) (u : Use) : (u.run.on s).2.OverOneStore := by
  refine h.of_sameHandles (u.sameHandles s) ?_
  cases hs : u.sent? with
  | none =>
    rw [Use.on_of_not_sent hs]
    exact h.store
  | some sent =>
    obtain ⟨d, st⟩ := sent
    obtain ⟨shape, hrun⟩ := Use.run_of_sent hs
    rw [hrun, Dispatch.run_deployment, h.pretending]
    exact Deployment.perform_one_store h.store _ _

/-- The sessions of a connection over one store in memory: it is used, also for dry runs, its log and its note of
changes are set, and other clients make calls on its store. -/
inductive Reachable : Session → Prop where
  | start (database : String) : Reachable (inMemory database)
  | use {s : Session} (u : Use) : Reachable s → Reachable (u.run.on s).2
  | dryRun {s : Session} {α : Type} (script : Script α) : Reachable s → Reachable (s.pretend script.run).2
  | call {s : Session} (c : StoreCall) :
      Reachable s → Reachable { s with deployment := (s.deployment.perform s.connection.write c).2 }
  | note {s : Session} (log : QueryLog) (modified : Bool) :
      Reachable s → Reachable (s.updateConnection fun c => { c with log, modified })

theorem Reachable.overOneStore {s : Session} (h : s.Reachable) : s.OverOneStore := by
  induction h with
  | start database => exact ⟨rfl, rfl, rfl, {}, rfl⟩
  | use u _ ih => exact ih.use u
  | @dryRun s α script _ ih =>
    rw [(pretend_run script s).2]
    exact ⟨ih.pretending, ih.write, ih.read, ih.store⟩
  | call c _ ih =>
    exact ⟨ih.pretending, ih.write, ih.read, Deployment.perform_one_store ih.store _ c⟩
  | note log modified _ ih => exact ⟨ih.pretending, ih.write, ih.read, ih.store⟩

end Session

/-! ## Inserting -/

namespace Store

theorem collection?_replace (s : Store) (name other : String) (docs : List Document) :
    (s.replace name docs).collection? other = if other = name then some docs else s.collection? other :=
  lookup_replaceIn name other docs s.collections

/-- An insert of a document without an identifier gives it a new one, when no document has that one, and puts it
behind all others of its collection. -/
theorem answer_insertOne_ok_iff {s t : Store} {supply later : IdSupply} {name : String} {d : Document}
    {reply : StoreReply} (hd : d.get? "_id" = none) :
    s.answer supply (.insertOne name d) = .ok (reply, t, later) ↔
      s.poisoned = false ∧ hasId (s.documents name) (.objectId supply.first) = false ∧
        reply = .id (.objectId supply.first) ∧
        t = s.replace name (s.documents name ++ [("_id", .objectId supply.first) :: d]) ∧ later = supply.rest := by
  have hidentify : supply.identify d =
      ((.objectId supply.first, ("_id", .objectId supply.first) :: d), supply.rest) := by
    rw [IdSupply.identify, hd]
  rw [answer, hidentify]
  show (s.insertMany name _ >>= fun s' => _) = _ ↔ _
  rw [insertMany, ← s.checkOpen_eq_ok_iff, checkOpen]
  cases s.poisoned with
  | true => simp [bind, Except.bind]
  | false =>
    rw [appendNew]
    cases hasId (s.documents name) (.objectId supply.first) with
    | true => simp [bind, Except.bind]
    | false =>
      simp only [appendNew, bind, Except.bind, pure, Except.pure, Bool.false_eq_true, if_false, true_and,
        Except.ok.injEq, Prod.mk.injEq]
      constructor
      · rintro ⟨rfl, rfl, rfl⟩
        exact ⟨rfl, rfl, rfl⟩
      · rintro ⟨rfl, rfl, rfl⟩
        exact ⟨rfl, rfl, rfl⟩

/-- An identifier that is found in no document is new. -/
theorem hasId_of_not_found {docs : List Document} {o : ObjectId}
    (h : ∀ d ∈ docs, ¬ d.HasId (.objectId o)) : hasId docs (.objectId o) = false := by
  refine List.any_eq_false.2 fun d hd => ?_
  have hnot := h d hd
  cases hid : d.get? "_id" with
  | none => simp
  | some v =>
    intro hsame
    -- Strict equality leaves one kind of value, and of that kind both equalities are the same.
    have hequal : Value.equal v (.objectId o) = true := by
      cases v with
      | objectId x => exact hsame
      | _ => cases hsame
    exact hnot ⟨v, hid, .inl hequal⟩

end Store

/-! ## Finding -/

namespace Builder

/-- A find on a builder without modifiers gives the first document with the identifier. -/
theorem find_gives (collection : String) {id : Value} (hid : id.IsScalar) (hn : id.isNull = false) {s : Session}
    (hp : s.connection.pretending = false) (ho : s.deployment.Open (s.connection.readHandle true)) :
    ((Builder.on collection).find id).Gives s
      (.ok ((s.deployment.documents (s.connection.readHandle true) collection).find? fun d =>
        Filter.equals (d.get? "_id") id)) := by
  have haccepts : ∀ d, Filter.accepts [("_id", id)] d = .ok (Filter.equals (d.get? "_id") id) := by
    intro d
    rw [← test_byId hid d]
    exact (Clause.test_of_compiles rfl d).symm
  have hkeep : ∀ docs, keep (Filter.accepts [("_id", id)]) docs =
      .ok (docs.filter fun d => Filter.equals (d.get? "_id") id) := by
    intro docs
    rw [keep_of_decided fun d _ => ⟨_, haccepts d⟩]
    simp [haccepts]
  have hrows : ((Builder.on collection).byId id).result s
      { ((Builder.on collection).byId id).query with limit := some 1 } =
      .ok (((s.deployment.documents (s.connection.readHandle true) collection).filter fun d =>
        Filter.equals (d.get? "_id") id).take 1) := by
    refine result_eq_ok_iff.2 ⟨Query.stageUnlessEmpty .filter [("_id", id)] ++
      (Query.stageUnlessZero .skip none ++ Query.stageUnlessZero .limit (some 1)), rfl, ?_⟩
    refine (Session.rows_of_open hp ho _ _).trans ?_
    rw [List.map_append, Pipeline.run_append, Pipeline.run_filter, hkeep]
    exact Pipeline.run_page none (some 1) _
  -- A limit of one and the head of what is left are the head of all.
  have hfirst := ((Builder.on collection).byId id).first_gives s
  rw [hrows] at hfirst
  rw [find, hn, if_neg Bool.false_ne_true]
  have hhead : ∀ docs : List Document, (docs.take 1).head? = docs.head? := by
    intro docs
    cases docs <;> rfl
  rw [← List.head?_filter, ← hhead]
  exact hfirst

/-! ## Inserting by a builder -/

theorem insertGetId_on (b : Builder) (d : Document) (s : Session) :
    (b.insertGetId d).on s =
      let st := Statement.insertOne b.query.collection d
      if s.connection.pretending then (.ok .null, s.captured st)
      else match (Session.send s.connection.write st).on s with
        | (.ok output, t) =>
          (.ok (Session.insertedId output), (t.count .writes 1).updateConnection (·.noteModified true))
        | (.error e, t) => (.error e, t) := by
  have hcompiled : (b.insertGetId d).on s = (Session.insertGetId (.insertOne b.query.collection d)).on s := rfl
  rw [hcompiled, Session.insertGetId_eq]
  exact Session.on_map_of_dispatch Session.insertedId (Session.statement_on _ s)

section

variable {s t : Session} {store : Store} {collection : String} {d : Document} {id : Value}

theorem insertGetId_on_one_store (hs : s.OverOneStore) (collection : String) (d : Document) :
    ((Builder.on collection).insertGetId d).on s =
      match (Session.send 0 (.insertOne collection d)).on s with
      | (.ok output, t) =>
        (.ok (Session.insertedId output), (t.count .writes 1).updateConnection (·.noteModified true))
      | (.error e, t) => (.error e, t) := by
  rw [insertGetId_on, hs.pretending, hs.write]
  rfl

/-- What an insert gives, and the deployment that it leaves: the document behind all others of its collection. -/
theorem insertGetId_ok (hs : s.OverOneStore) (hb : s.deployment.backends = [.memory store])
    (hd : d.get? "_id" = none) (h : ((Builder.on collection).insertGetId d).on s = (.ok id, t)) :
    store.poisoned = false ∧ id = .objectId s.deployment.supply.first ∧ s.SameHandles t ∧
      t.deployment.backends =
        [.memory (store.replace collection (store.documents collection ++ [("_id", id) :: d]))] := by
  rw [insertGetId_on_one_store hs, Session.send_on] at h
  rcases hperform : s.deployment.perform 0 (Statement.insertOne collection d).toCall with ⟨r, deployment⟩
  rw [hperform] at h
  cases r with
  | error f => cases f <;> cases h
  | ok reply =>
    cases h
    obtain ⟨before, after, supply, hmemory, hanswer, rfl⟩ := Deployment.perform_ok hperform
    rw [hb] at hmemory
    cases hmemory
    obtain ⟨hopen, -, rfl, rfl, rfl⟩ := (Store.answer_insertOne_ok_iff hd).1 hanswer
    refine ⟨hopen, rfl, ⟨rfl, rfl, rfl⟩, ?_⟩
    show s.deployment.backends.set 0 _ = _
    rw [hb]
    rfl

/-- An insert succeeds unless the store is locked or a document has the identifier already. -/
theorem insertGetId_succeeds (hs : s.OverOneStore) (hb : s.deployment.backends = [.memory store])
    (hd : d.get? "_id" = none) (hopen : store.poisoned = false)
    (hnew : Store.hasId (store.documents collection) (.objectId s.deployment.supply.first) = false) :
    ∃ t, ((Builder.on collection).insertGetId d).on s = (.ok (.objectId s.deployment.supply.first), t) := by
  have hanswer := (Store.answer_insertOne_ok_iff hd).2 ⟨hopen, hnew, rfl, rfl, rfl⟩
  have hmemory : s.deployment.backends[0]? = some (.memory store) := by
    rw [hb]
    rfl
  have hperform : s.deployment.perform 0 (Statement.insertOne collection d).toCall = _ :=
    Deployment.perform_of_answer hmemory hanswer
  rw [insertGetId_on_one_store hs, Session.send_on, hperform]
  exact ⟨_, rfl⟩

end

/-- Of documents without the identifier and one behind them that has it, the last one is found. -/
theorem find?_inserted {docs : List Document} {o : ObjectId} (h : ∀ e ∈ docs, ¬ e.HasId (.objectId o))
    (d : Document) :
    (docs ++ [("_id", .objectId o) :: d]).find? (fun e => Filter.equals (e.get? "_id") (.objectId o)) =
      some (("_id", .objectId o) :: d) := by
  have hbefore : docs.find? (fun e => Filter.equals (e.get? "_id") (.objectId o)) = none := by
    refine List.find?_eq_none.2 fun e he hequals => ?_
    exact h e he ((Document.hasId_iff e rfl).1 hequals)
  have hlast : Filter.equals (Document.get? (("_id", .objectId o) :: d) "_id") (.objectId o) = true := by
    rw [Document.get?_cons, if_pos rfl]
    show (o == o) = true
    exact beq_self_eq_true o
  rw [List.find?_append, hbefore, Option.none_or]
  exact List.find?_cons_of_pos hlast

/-! ## Main result -/

/-- What is inserted is found.  On a connection over one store, in any state, a document without an identifier gets
a new one, unless the store is locked, as long as no document of the collection has that one.  The identifier finds
the document, with it in front of the fields; the document stands behind all others of its collection, which are as
before, and no other collection is changed.  In a dry run nothing is inserted and there is no identifier. -/
theorem insertGetId_spec {s : Session} (hs : s.Reachable) {d : Document} (hd : d.get? "_id" = none)
    (collection : String)
    (hnew : ∀ e ∈ s.deployment.documents 0 collection, ¬ e.HasId (.objectId s.deployment.supply.first)) :
    ∃ store, s.deployment.backends = [.memory store] ∧
      (store.poisoned = false →
        ∃ t, ((Builder.on collection).insertGetId d).on s = (.ok (.objectId s.deployment.supply.first), t)) ∧
      (∀ id t, ((Builder.on collection).insertGetId d).on s = (.ok id, t) →
        (∃ u, ((Builder.on collection).find id).on t = (.ok (some (("_id", id) :: d)), u) ∧
          u.deployment = t.deployment) ∧
        ∃ later, t.deployment.backends = [.memory later] ∧
          later.collection? collection = some (store.documents collection ++ [("_id", id) :: d]) ∧
          ∀ other, other ≠ collection → later.collection? other = store.collection? other) ∧
      ∃ t, ((Builder.on collection).insertGetId d).on s.dryRun = (.ok .null, t) ∧
        t.deployment = s.deployment := by
  have hone := hs.overOneStore
  obtain ⟨store, hb⟩ := hone.store
  have hdocs : s.deployment.documents 0 collection = store.documents collection :=
    Deployment.documents_of_backend (by rw [hb]; rfl) collection
  rw [hdocs] at hnew
  refine ⟨store, hb, fun hopen => ?_, fun id t h => ?_, ?_⟩
  · exact insertGetId_succeeds hone hb hd hopen (Store.hasId_of_not_found hnew)
  · obtain ⟨hopen, rfl, hhandles, hafter⟩ := insertGetId_ok hone hb hd h
    have honeAfter : t.OverOneStore := hone.of_sameHandles hhandles ⟨_, hafter⟩
    have hread : t.connection.readHandle true = 0 := by
      rw [Connection.readHandle, if_pos rfl, honeAfter.read, honeAfter.write]
      rfl
    have hopenAfter : t.deployment.Open 0 := ⟨_, congrArg (·[0]?) hafter, hopen⟩
    have hdocsAfter : t.deployment.documents 0 collection =
        store.documents collection ++ [("_id", .objectId s.deployment.supply.first) :: d] := by
      rw [Deployment.documents_of_backend (congrArg (·[0]?) hafter), Store.documents_replace, if_pos rfl]
    refine ⟨?_, _, hafter, ?_, fun other hother => ?_⟩
    · have hscalar : (Value.objectId s.deployment.supply.first).IsScalar := trivial
      obtain ⟨u, hdata, hfind⟩ := find_gives collection hscalar rfl honeAfter.pretending
        (by rw [hread]; exact hopenAfter)
      rw [hread, hdocsAfter, find?_inserted hnew] at hfind
      exact ⟨u, hfind, hdata.deployment⟩
    · rw [Store.collection?_replace, if_pos rfl]
    · rw [Store.collection?_replace, if_neg hother]
  · have hdry : s.dryRun.connection.pretending = true := rfl
    rw [insertGetId_on, hdry]
    exact ⟨_, rfl, rfl⟩

/-- A second document, inserted and found behind the first. -/
theorem insertGetId_spec_second :
    let people := Builder.on "people"
    let s := ((Session.Use.terminal people (.insertOne [("name", .string "ann")])).run.on
      (Session.inMemory "app")).2
    let d : Document := [("name", .string "bob"), ("tags", .array [.int32 1])]
    let id := Value.objectId s.deployment.supply.first
    s.Reachable ∧ d.get? "_id" = none ∧ (∀ e ∈ s.deployment.documents 0 "people", ¬ e.HasId id) ∧
      ∃ t, (people.insertGetId d).on s = (.ok id, t) ∧
        ∃ u, (people.find id).on t = (.ok (some (("_id", id) :: d)), u) := by
  intro people s d id
  have hs : s.Reachable := .use _ (.start "app")
  have hnew : ∀ e ∈ s.deployment.documents 0 "people", ¬ e.HasId id := by
    have hdocs : s.deployment.documents 0 "people" =
        [[("_id", .objectId ({} : IdSupply).first), ("name", .string "ann")]] := rfl
    intro e he
    rw [hdocs] at he
    cases List.mem_singleton.1 he
    rw [← Document.hasId_iff _ rfl]
    decide
  obtain ⟨store, hb, hsucceeds, hfound, -⟩ := insertGetId_spec hs (d := d) rfl "people" hnew
  have hopen : store.poisoned = false := by
    cases hb
    rfl
  obtain ⟨t, ht⟩ := hsucceeds hopen
  obtain ⟨⟨u, hu, -⟩, -⟩ := hfound id t ht
  exact ⟨hs, rfl, hnew, t, ht, u, hu⟩

end Builder

end DocQuery
