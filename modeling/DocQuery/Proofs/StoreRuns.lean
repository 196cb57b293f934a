import DocQuery.Proofs.BulkWrites
import DocQuery.Proofs.Failures

/-!
# Store calls in place

`Work` changes one store as it goes, and what it has done before a failure stays done.  Each call is a run of such
steps here: it decides on its whole batch, and only then pushes documents, writes them to their places or drops them.
None of the later steps can fail, so a call that fails has not begun to write:

    runOn (Work.insertMany n entries) s = ok, all entries behind the others, or an error and s   (runOn_insertMany)
    runOn (Work.updateMany n f u) s     = ok, each new document in its place, or an error and s  (runOn_updateMany)
    runOn (Work.deleteMany n f) s       = ok, without all that f accepts, or an error and s      (runOn_deleteMany)
    s.performInPlace supply call        = s.perform supply call                           (performInPlace_eq_perform)

The identifiers of a batch are drawn before any of this; an overflow of a write locks the store that it has left.
-/

namespace DocQuery

namespace Store

/-- Work on a store.  What it did before a failure stays done. -/
abbrev Work (α : Type) := ExceptT Failure (StateM Store) α

/-! ## Runs -/

namespace Work

variable {α β : Type}

/-- What has been decided, without a change. -/
def decided : Outcome α → Work α
  | .ok x => pure x
  | .error f => throw f

/-- Refuses a store that a writer left half-way. -/
def enter : Work Unit := do decided (← get).checkOpen

/-- A failure of a writer: an overflow leaves the store locked, as it is then. -/
def unwind : Failure → Work α
  | .overflow => do
    modify fun s => { s with poisoned := true }
    throw .overflow
  | f => throw f

/-- Work of a writer. -/
def writing (w : Work α) : Work α := do
  enter
  tryCatch w unwind

def aggregate (name : String) (pipeline : List Document) : Work (List Document) := do
  enter
  decided (Pipeline.run pipeline ((← get).documents name))

/-- The first phase of an insertion: no identifier of the batch is one of the collection or of an earlier entry. -/
def checkBatch (name : String) (docs : List Document) (earlier : List Value) : List (Value × Document) → Outcome Unit
  | [] => pure ()
  | (id, _) :: rest =>
    if hasId docs id || earlier.any fun other => Value.same other id then
      .error (.error (.duplicateKey (name ++ " _id " ++ id.display)))
    else checkBatch name docs (earlier ++ [id]) rest

/-- The second phase: the documents go to the end of the collection, one after the other. -/
def pushAll (name : String) : List (Value × Document) → Work (List Value)
  | [] => pure []
  | (id, d) :: rest => do
    modify fun s => s.replace name (s.documents name ++ [d])
    let ids ← pushAll name rest
    pure (id :: ids)

def insertMany (name : String) (entries : List (Value × Document)) : Work (List Value) :=
  writing do
    decided (checkBatch name ((← get).documents name) [] entries)
    -- a missing collection is there from here on
    modify fun s => s.replace name (s.documents name)
    pushAll name entries

/-- A batch of one. -/
def insertOne (name : String) (entry : Value × Document) : Work Value := do
  match (← insertMany name [entry]).head? with
  | some id => pure id
  | none => throw (.error (.internal "insert returned no id"))

/-- The second phase of an update: each new document is written to its place. -/
def writeAll (name : String) : List (Nat × Document) → Work Unit
  | [] => pure ()
  | (place, d) :: rest => do
    modify fun s => s.replace name ((s.documents name).set place d)
    writeAll name rest

def updateMany (name : String) (filter update : Document) : Work UpdateCount :=
  writing do
    match (← get).collection? name with
    | none => pure ⟨0, 0⟩
    | some docs => do
      let (matched, entries) ← decided (replacements filter update 0 docs)
      writeAll name entries
      pure ⟨matched, entries.length⟩

def deleteMany (name : String) (filter : Document) : Work Nat :=
  writing do
    match (← get).collection? name with
    | none => pure 0
    | some docs => do
      let flags ← decided (Outcome.traverse (fun d => (Filter.accepts filter d).map (!·)) docs)
      modify fun s => s.replace name (retain flags (s.documents name))
      pure (docs.length - ((← get).documents name).length)

def drop (name : String) : Work Unit :=
  writing do
    modify fun s => { s with collections := s.collections.filter fun c => c.1 != name }

/-- A call with the identifiers that it has drawn. -/
def call (supply : IdSupply) : StoreCall → Work StoreReply
  | .aggregate name pipeline => .rows <$> aggregate name pipeline
  | .insertMany name docs => .ids <$> insertMany name (supply.identifyAll docs).1
  | .insertOne name d => .id <$> insertOne name (supply.identify d).1
  | .updateMany name filter update => .updated <$> updateMany name filter update
  | .deleteMany name filter => .deleted <$> deleteMany name filter
  | .drop name => (fun _ => .dropped) <$> drop name

end Work

/-- Makes a call in place. -/
def performInPlace (s : Store) (supply : IdSupply) (call : StoreCall) : Outcome StoreReply × Store × IdSupply :=
  let (reply, t) := runOn (Work.call supply call) s
  (reply, t, call.drawn supply)

/-! ## Steps -/

namespace Work

variable {α β : Type}

theorem runOn_get_bind (f : Store → Work β) (s : Store) : runOn (get >>= f) s = runOn (f s) s := rfl

theorem runOn_modify_bind (g : Store → Store) (f : PUnit → Work β) (s : Store) :
    runOn (modify g >>= f) s = runOn (f ⟨⟩) (g s) := rfl

theorem runOn_decided (a : Outcome α) (s : Store) : runOn (decided a) s = (a, s) := by
  cases a <;> rfl

theorem runOn_enter (s : Store) : runOn enter s = (s.checkOpen, s) := runOn_decided s.checkOpen s

theorem runOn_map (f : α → β) (w : Work α) (s : Store) :
    runOn (f <$> w) s = ((runOn w s).1.map f, (runOn w s).2) := by
  rw [← bind_pure_comp]
  rcases h : runOn w s with ⟨r, t⟩
  cases r with
  | ok x => exact runOn_bind_of_ok h _
  | error e => exact runOn_bind_of_error h _

end Work

/-! ## All or nothing -/

section

variable {α β : Type}

/-- What has a new store leaves it, and what fails leaves the old one. -/
def allOrNothing (s : Store) : Outcome (α × Store) → Outcome α × Store
  | .ok (x, t) => (.ok x, t)
  | .error f => (.error f, s)

/-- The same for a call, where the overflow of a write leaves the store locked. -/
def concluded (s : Store) (isWrite : Bool) : Outcome (α × Store) → Outcome α × Store
  | .ok (x, t) => (.ok x, t)
  | .error .overflow => (.error .overflow, { s with poisoned := s.poisoned || isWrite })
  | .error (.error e) => (.error (.error e), s)

theorem concluded_map (s : Store) (isWrite : Bool) (f : α → β) (a : Outcome (α × Store)) :
    s.concluded isWrite ((fun out => (f out.1, out.2)) <$> a) =
      ((s.concluded isWrite a).1.map f, (s.concluded isWrite a).2) := by
  cases a with
  | ok out => rfl
  | error f => cases f <;> rfl

/-- A read locks nothing. -/
theorem concluded_read (s : Store) (a : Outcome α) :
    s.concluded false ((fun x => (x, s)) <$> a) = (a, s) := by
  cases a with
  | ok x => rfl
  | error f =>
    cases f with
    | error e => rfl
    | overflow =>
      show (_, ({ s with poisoned := s.poisoned || false } : Store)) = _
      rw [Bool.or_false]

theorem drawn_of_answer {s t : Store} {supply later : IdSupply} {call : StoreCall} {reply : StoreReply}
    (h : s.answer supply call = .ok (reply, t, later)) : later = call.drawn supply := by
  cases call
  all_goals
    obtain ⟨out, -, h⟩ := (Outcome.bind_eq_ok_iff _ _ _).1 h
    cases h
    rfl

theorem perform_eq_concluded (s : Store) (supply : IdSupply) (call : StoreCall) :
    s.perform supply call =
      let (reply, t) := s.concluded call.isWrite ((fun out => (out.1, out.2.1)) <$> s.answer supply call)
      (reply, t, call.drawn supply) := by
  rw [perform]
  cases h : s.answer supply call with
  | ok out =>
    obtain ⟨reply, t, later⟩ := out
    obtain rfl := drawn_of_answer h
    rfl
  | error f => cases f <;> rfl

namespace Work

theorem runOn_writing {w : Work α} {s : Store} {a : Outcome (α × Store)} (h : runOn w s = s.allOrNothing a) :
    runOn (writing w) s = s.concluded true (s.checkOpen >>= fun _ => a) := by
  cases hopen : s.checkOpen with
  | error f =>
    rw [writing, runOn_bind_of_error ((runOn_enter s).trans (by rw [hopen]))]
    rw [checkOpen] at hopen
    split at hopen
    · cases hopen
      rfl
    · cases hopen
  | ok u =>
    rw [writing, runOn_bind_of_ok ((runOn_enter s).trans (by rw [hopen]))]
    cases a with
    | ok out => exact runOn_tryCatch_of_ok h _
    | error f =>
      rw [runOn_tryCatch_of_error h]
      cases f with
      | error e => rfl
      | overflow =>
        show (_, ({ s with poisoned := true } : Store)) = (_, ({ s with poisoned := s.poisoned || true } : Store))
        rw [Bool.or_true]

/-- The reply of a write is made of its value. -/
theorem runOn_reply {w : Work α} {s : Store} {a : Outcome (α × Store)} (h : runOn w s = s.concluded true a)
    (f : α → StoreReply) : runOn (f <$> w) s = s.concluded true ((fun out => (f out.1, out.2)) <$> a) := by
  rw [runOn_map, h, concluded_map]

end Work

end

/-! ## Insertion -/

/-- Entries under the identifiers of their documents. -/
def Labelled (entries : List (Value × Document)) : Prop := ∀ entry ∈ entries, entry.2.get? "_id" = some entry.1

theorem hasId_entries {entries : List (Value × Document)} (h : Labelled entries) (id : Value) :
    hasId (entries.map Prod.snd) id = (entries.map Prod.fst).any fun other => Value.same other id := by
  induction entries with
  | nil => rfl
  | cons entry rest ih =>
    obtain ⟨hentry, hrest⟩ := List.forall_mem_cons.1 h
    rw [List.map_cons, List.map_cons, List.any_cons, ← ih hrest, hasId, List.any_cons, hentry]
    rfl

theorem labelled_identifyAll (supply : IdSupply) (docs : List Document) : Labelled (supply.identifyAll docs).1 := by
  induction docs generalizing supply with
  | nil => exact nofun
  | cons d rest ih => exact List.forall_mem_cons.2 ⟨supply.get?_identify d, ih _⟩

namespace Work

/-- The check and the pushes of a batch, one behind the other, do what one pass of both does. -/
theorem appendNew_eq_checkBatch (name : String) (docs : List Document) (done entries : List (Value × Document))
    (h : Labelled (done ++ entries)) :
    appendNew name (docs ++ done.map Prod.snd) entries =
      (fun _ => docs ++ (done ++ entries).map Prod.snd) <$> checkBatch name docs (done.map Prod.fst) entries := by
  induction entries generalizing done with
  | nil =>
    rw [List.append_nil]
    rfl
  | cons entry rest ih =>
    obtain ⟨id, d⟩ := entry
    have hids : hasId (docs ++ done.map Prod.snd) id =
        (hasId docs id || (done.map Prod.fst).any fun other => Value.same other id) := by
      rw [← hasId_entries fun e he => h e (List.mem_append_left _ he)]
      exact List.any_append
    have hnext := ih (done ++ [(id, d)]) (by rwa [List.append_assoc])
    rw [appendNew, checkBatch, hids]
    split
    · rfl
    · simpa only [List.map_append, List.map_cons, List.map_nil, List.append_assoc, List.singleton_append] using hnext

/-- The documents of a batch go behind those that the collection has by then. -/
theorem runOn_pushAll (s : Store) (name : String) (docs : List Document) (entries : List (Value × Document)) :
    runOn (pushAll name entries) (s.replace name docs) =
      (.ok (entries.map Prod.fst), s.replace name (docs ++ entries.map Prod.snd)) := by
  induction entries generalizing docs with
  | nil =>
    rw [List.map_nil, List.map_nil, List.append_nil]
    rfl
  | cons entry rest ih =>
    obtain ⟨id, d⟩ := entry
    rw [pushAll, runOn_modify_bind, documents_replace_self, replace_replace, runOn_bind_of_ok (ih (docs ++ [d])),
      List.append_assoc]
    rfl

theorem runOn_insertMany (s : Store) (name : String) {entries : List (Value × Document)} (h : Labelled entries) :
    runOn (insertMany name entries) s =
      s.concluded true ((fun t => (entries.map Prod.fst, t)) <$> s.insertMany name entries) := by
  have happend := appendNew_eq_checkBatch name (s.documents name) [] entries h
  rw [List.map_nil, List.append_nil, List.nil_append, List.map_nil] at happend
  rw [Store.insertMany, map_bind, happend]
  refine runOn_writing ?_
  rw [runOn_get_bind]
  cases hcheck : checkBatch name (s.documents name) [] entries with
  | error f => exact runOn_bind_of_error (runOn_decided _ s) _
  | ok u =>
    rw [runOn_bind_of_ok (runOn_decided (.ok u) s), runOn_modify_bind, runOn_pushAll]
    rfl

theorem runOn_insertOne (s : Store) (name : String) {entry : Value × Document}
    (h : entry.2.get? "_id" = some entry.1) :
    runOn (insertOne name entry) s = s.concluded true ((fun t => (entry.1, t)) <$> s.insertMany name [entry]) := by
  have hbatch := runOn_insertMany s name (List.forall_mem_singleton.2 h : Labelled [entry])
  cases ha : s.insertMany name [entry] with
  | ok t =>
    rw [ha] at hbatch
    exact runOn_bind_of_ok hbatch _
  | error f =>
    rw [ha] at hbatch
    cases f <;> exact runOn_bind_of_error hbatch _

end Work

/-! ## Updates, deletes and drops -/

namespace Work

theorem runOn_writeAll (s : Store) (name : String) (docs : List Document) (entries : List (Nat × Document)) :
    runOn (writeAll name entries) (s.replace name docs) = (.ok (), s.replace name (writeAt docs entries)) := by
  induction entries generalizing docs with
  | nil => rfl
  | cons entry rest ih =>
    obtain ⟨place, d⟩ := entry
    rw [writeAll, runOn_modify_bind, documents_replace_self, replace_replace, ih]
    rfl

theorem runOn_updateMany (s : Store) (name : String) (filter update : Document) :
    runOn (updateMany name filter update) s =
      s.concluded true ((fun out => (out.2, out.1)) <$> s.updateMany name filter update) := by
  rw [updateMany_eq_inPhases, updateInPhases, map_bind]
  refine runOn_writing ?_
  rw [runOn_get_bind]
  cases hc : s.collection? name with
  | none => rfl
  | some docs =>
    dsimp only
    cases hr : replacements filter update 0 docs with
    | error f => exact runOn_bind_of_error (runOn_decided _ s) _
    | ok r =>
      obtain ⟨matched, entries⟩ := r
      have hwrite := runOn_writeAll s name docs entries
      rw [replace_of_collection? hc] at hwrite
      rw [runOn_bind_of_ok (runOn_decided (.ok (matched, entries)) s)]
      exact runOn_bind_of_ok hwrite _

theorem runOn_deleteMany (s : Store) (name : String) (filter : Document) :
    runOn (deleteMany name filter) s =
      s.concluded true ((fun out => (out.2, out.1)) <$> s.deleteMany name filter) := by
  rw [deleteMany_eq_inPhases, deleteInPhases, map_bind]
  refine runOn_writing ?_
  rw [runOn_get_bind]
  cases hc : s.collection? name with
  | none => rfl
  | some docs =>
    have hdocs : s.documents name = docs := by rw [documents, hc]; rfl
    dsimp only
    cases hf : Outcome.traverse (fun d => (Filter.accepts filter d).map (!·)) docs with
    | error f => exact runOn_bind_of_error (runOn_decided _ s) _
    | ok flags =>
      rw [runOn_bind_of_ok (runOn_decided (.ok flags) s), runOn_modify_bind, runOn_get_bind, hdocs,
        documents_replace_self]
      rfl

theorem runOn_drop (s : Store) (name : String) :
    runOn (drop name) s = s.concluded true ((fun t => ((), t)) <$> s.drop name) := by
  rw [Store.drop, map_bind]
  exact runOn_writing rfl

theorem runOn_aggregate (s : Store) (name : String) (pipeline : List Document) :
    runOn (aggregate name pipeline) s = (s.aggregate name pipeline, s) := by
  rw [aggregate, Store.aggregate]
  cases hopen : s.checkOpen with
  | error f => exact runOn_bind_of_error ((runOn_enter s).trans (by rw [hopen])) _
  | ok u =>
    rw [runOn_bind_of_ok ((runOn_enter s).trans (by rw [hopen])), runOn_get_bind]
    exact runOn_decided _ s

/-- What a call comes to in place. -/
theorem runOn_call (s : Store) (supply : IdSupply) (request : StoreCall) :
    runOn (call supply request) s =
      s.concluded request.isWrite ((fun out => (out.1, out.2.1)) <$> s.answer supply request) := by
  cases request with
  | aggregate name pipeline =>
    have hanswer : (fun out => (out.1, out.2.1)) <$> s.answer supply (.aggregate name pipeline) =
        (fun x => (x, s)) <$> (s.aggregate name pipeline).map StoreReply.rows := by
      rw [answer]
      cases s.aggregate name pipeline <;> rfl
    rw [call, runOn_map, runOn_aggregate, hanswer]
    exact (concluded_read s _).symm
  | insertMany name docs =>
    rw [call, runOn_reply (runOn_insertMany s name (labelled_identifyAll supply docs)), answer]
    simp only [bind_pure_comp, Functor.map_map]
    rfl
  | insertOne name d =>
    rw [call, runOn_reply (runOn_insertOne s name (supply.get?_identify d)), answer]
    simp only [bind_pure_comp, Functor.map_map]
    rfl
  | updateMany name filter update =>
    rw [call, runOn_reply (runOn_updateMany s name filter update), answer]
    simp only [bind_pure_comp, Functor.map_map]
    rfl
  | deleteMany name filter =>
    rw [call, runOn_reply (runOn_deleteMany s name filter), answer]
    simp only [bind_pure_comp, Functor.map_map]
    rfl
  | drop name =>
    rw [call, runOn_reply (runOn_drop s name), answer]
    simp only [bind_pure_comp, Functor.map_map]
    rfl

end Work

theorem performInPlace_eq_perform (s : Store) (supply : IdSupply) (call : StoreCall) :
    s.performInPlace supply call = s.perform supply call := by
  rw [performInPlace, Work.runOn_call, perform_eq_concluded]

/-- A call that fails in place leaves the whole store. -/
theorem performInPlace_error {s t : Store} {supply later : IdSupply} {call : StoreCall} {e : StoreError}
    (h : s.performInPlace supply call = (.error (.error e), t, later)) : t = s :=
  perform_error ((performInPlace_eq_perform s supply call).symm.trans h)

end Store

/-! ## Main result -/

/-- Whatever ends with an error has changed nothing: a terminal or a dispatch leaves all stores and the
connection as they were and counts a refused statement exactly when a store has refused it, and a store call
leaves all stores as they were.  A call that goes about it step by step, each step on the store itself, comes to the
same, so it has not begun to write when it fails. -/
theorem error_changes_nothing :
    (∀ (b : Builder) (t : Terminal), (t.run b).Careful) ∧
      (∀ (d : Session.Dispatch) (st : Statement), (d.run st).Careful) ∧
      (∀ (d d' : Deployment) (handle : Nat) (call : StoreCall) (e : StoreError),
        d.perform handle call = (.error (.error e), d') → d'.backends = d.backends) ∧
      ∀ (s : Store) (supply : IdSupply) (call : StoreCall),
        s.performInPlace supply call = s.perform supply call ∧
        ∀ e t later, s.performInPlace supply call = (.error (.error e), t, later) → t = s :=
  ⟨Terminal.careful_run, Session.Dispatch.careful_run, fun _ _ _ _ _ => Deployment.perform_error,
    fun s supply call => ⟨s.performInPlace_eq_perform supply call, fun _ _ _ => Store.performInPlace_error⟩⟩

/-- A duplicate at the end of a batch, also of one that would be the first of its collection; an update and a delete
that fail on the second document only; and the first of these calls by a builder. -/
theorem error_changes_nothing_late :
    let s : Store := { collections := [("jobs", [
      [("_id", .int32 1), ("n", .int32 1)], [("_id", .int32 2), ("n", .string "x")]])] }
    let session : Session := ⟨{ database := "app", write := 0 }, { backends := [.memory s] }, {}⟩
    let failed (call : StoreCall) (e : StoreError) : Prop :=
      ∃ t later, s.performInPlace {} call = (.error (.error e), t, later) ∧ t = s
    let batch : List Document := [[("_id", .int32 3)], [("_id", .int32 1)]]
    failed (.insertMany "jobs" batch) (.duplicateKey "jobs _id 1") ∧
      failed (.insertMany "logs" [[("_id", .int32 1)], [("_id", .int32 1)]]) (.duplicateKey "logs _id 1") ∧
      failed (.updateMany "jobs" [] [("$inc", .document [("n", .int32 1)])])
        (.typeMismatch "cannot $inc non-numeric field 'n'") ∧
      failed (.deleteMany "jobs" [("$or", .array [
        .document [("_id", .int32 1)], .document [("n", .document [("$nope", .int32 1)])]])])
        (.unsupportedOperator "$nope") ∧
      ∃ e t, ((Terminal.insert batch).run (Builder.on "jobs")).on session = (.error (.error e), t) ∧
        t.deployment.backends = [.memory s] ∧ t.metrics.failed = 1 := by
  intro s session failed batch
  obtain ⟨hterminal, -, -, hcalls⟩ := error_changes_nothing
  have hfailed : ∀ {call e t later}, s.performInPlace {} call = (.error (.error e), t, later) → failed call e :=
    fun h => ⟨_, _, h, (hcalls s {} _).2 _ _ _ h⟩
  refine ⟨hfailed rfl, hfailed rfl, hfailed rfl, hfailed rfl, ?_⟩
  have hrun : ((Terminal.insert batch).run (Builder.on "jobs")).on session = (.error (.error _), _) := rfl
  have h := hterminal _ _ _ _ _ hrun
  exact ⟨_, _, hrun, h.backends, h.failed⟩

end DocQuery
