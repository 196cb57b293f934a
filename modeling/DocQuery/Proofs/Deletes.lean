import DocQuery.Proofs.ById
import DocQuery.Proofs.Columns
import DocQuery.Proofs.Selects

/-!
# Deleting what has been read

A delete runs the filter of its query on the documents as they are stored, and nothing else; a read computes
fields first.  Where the clauses say the same with and without these fields, the two select the same documents:

    (b.delete none).on s = (ok n, t) → b.reached s is taken out, and n is its length       (delete_none_ok)
    b.get gives rows → they are the rows of b.reached s, and the delete succeeds           (delete_after_get)

Clauses on columns that are not computed say the same (`computedAside_of_columns`).
-/

namespace DocQuery

open Outcome

/-! ## Stores -/

namespace Store

/-- A filter that decides every document lets a delete count those that it accepts. -/
theorem deleteMany_of_decided {s : Store} (hp : s.poisoned = false) {name : String} {filter : Document}
    (h : ∀ d ∈ s.documents name, (Filter.accepts filter d).Decides) :
    ∃ t, s.deleteMany name filter =
      .ok (t, ((s.documents name).filter fun d => Filter.accepts filter d = .ok true).length) := by
  rw [deleteMany, s.checkOpen_eq_ok_iff.2 hp, documents]
  rw [documents] at h
  cases hc : s.collection? name with
  | none => exact ⟨s, rfl⟩
  | some docs =>
    rw [hc] at h
    have hnot : ∀ d ∈ docs, Decides ((Filter.accepts filter d).map (!·)) := fun d hd => (h d hd).map_not
    refine ⟨s.replace name (docs.filter fun d => (Filter.accepts filter d).map (!·) = .ok true), ?_⟩
    show (keep (fun d => (Filter.accepts filter d).map (!·)) docs >>= _) = _
    rw [keep_of_decided hnot]
    exact congrArg (fun n => Except.ok (_, n)) (length_sub_filter_not h)

/-- A delete that succeeds has decided every document. -/
theorem decided_of_deleteMany {s t : Store} {name : String} {filter : Document} {n : Nat}
    (h : s.deleteMany name filter = .ok (t, n)) :
    s.poisoned = false ∧ ∀ d ∈ s.documents name, (Filter.accepts filter d).Decides := by
  rw [deleteMany] at h
  obtain ⟨⟨⟩, hopen, h⟩ := (bind_eq_ok_iff _ _ _).1 h
  refine ⟨s.checkOpen_eq_ok_iff.1 hopen, ?_⟩
  rw [documents]
  cases hc : s.collection? name with
  | none => simp
  | some docs =>
    rw [hc] at h
    obtain ⟨kept, hk, -⟩ := (bind_eq_ok_iff _ _ _).1 h
    intro d hd
    obtain ⟨b, hb⟩ := (eq_filter_of_keep hk).2 d hd
    obtain ⟨accepted, ha, -⟩ := (map_eq_ok_iff _ _ _).1 hb
    exact ⟨accepted, ha⟩

end Store

/-! ## Connections -/

namespace Deployment

theorem perform_deleteMany_of_decided {d : Deployment} {handle : Nat} (ho : d.Open handle) {name : String}
    {filter : Document} (h : ∀ doc ∈ d.documents handle name, (Filter.accepts filter doc).Decides) :
    ∃ e, d.perform handle (.deleteMany name filter) = (.ok (.deleted
      ((d.documents handle name).filter fun doc => Filter.accepts filter doc = .ok true).length), e) := by
  obtain ⟨s, hb, hp⟩ := ho
  rw [documents_of_backend hb] at h ⊢
  obtain ⟨t, ht⟩ := Store.deleteMany_of_decided hp h
  refine ⟨⟨d.backends.set handle (.memory t), d.supply⟩, ?_⟩
  have hperform : s.perform d.supply (.deleteMany name filter) =
      (.ok (.deleted ((s.documents name).filter fun doc => Filter.accepts filter doc = .ok true).length), t,
        d.supply) := by
    rw [Store.perform.eq_def, Store.answer, ht]
    rfl
  rw [perform, hb]
  dsimp only
  rw [hperform]

theorem decided_of_perform_deleteMany {d e : Deployment} {handle : Nat} {name : String} {filter : Document}
    {reply : StoreReply} (h : d.perform handle (.deleteMany name filter) = (.ok reply, e)) :
    d.Open handle ∧ ∀ doc ∈ d.documents handle name, (Filter.accepts filter doc).Decides := by
  obtain ⟨s, t, supply, hb, ha, -⟩ := perform_ok h
  obtain ⟨⟨u, n⟩, hd, -⟩ := (bind_eq_ok_iff _ _ _).1 ha
  obtain ⟨hp, hall⟩ := Store.decided_of_deleteMany hd
  exact ⟨⟨s, hb, hp⟩, by rw [documents_of_backend hb]; exact hall⟩

end Deployment

namespace Session

theorem affecting_deleteMany_of_decided {s : Session} (hp : s.connection.pretending = false)
    (ho : s.deployment.Open s.connection.write) {name : String} {filter : Document}
    (h : ∀ d ∈ s.deployment.documents s.connection.write name, (Filter.accepts filter d).Decides) :
    ∃ t, (affecting (.deleteMany name filter)).on s = (.ok (UInt64.ofNat
      ((s.deployment.documents s.connection.write name).filter fun d => Filter.accepts filter d = .ok true).length),
      t) := by
  obtain ⟨e, he⟩ := Deployment.perform_deleteMany_of_decided ho h
  rw [affecting_on, hp, if_neg Bool.false_ne_true, send_on,
    show (Statement.deleteMany name filter).toCall = .deleteMany name filter from rfl, he]
  exact ⟨_, rfl⟩

theorem decided_of_affecting_deleteMany {s t : Session} (hp : s.connection.pretending = false) {name : String}
    {filter : Document} {n : UInt64} (h : (affecting (.deleteMany name filter)).on s = (.ok n, t)) :
    s.deployment.Open s.connection.write ∧
      ∀ d ∈ s.deployment.documents s.connection.write name, (Filter.accepts filter d).Decides := by
  rw [affecting_on, hp, if_neg Bool.false_ne_true, send_on] at h
  rcases hperform : s.deployment.perform s.connection.write (Statement.deleteMany name filter).toCall
    with ⟨r, deployment⟩
  rw [hperform] at h
  cases r with
  | error f => cases f <;> cases h
  | ok reply => exact Deployment.decided_of_perform_deleteMany hperform

end Session

/-! ## Builders -/

namespace Builder

/-- The stored documents that a delete takes out: those that the clauses hold of, and none in a dry run. -/
def reached (b : Builder) (s : Session) : List Document :=
  if s.connection.pretending then []
  else (s.deployment.documents s.connection.write b.query.collection).filter fun d =>
    Clause.testAll b.query.clauses d = .ok true

theorem delete_none_of_decided {b : Builder} {s : Session} (hr : b.query.refused? = none) {filter : Document}
    (hf : FilterDocument.ofClauses b.query.clauses = .ok filter)
    (h : s.connection.pretending = false → s.deployment.Open s.connection.write ∧
      ∀ d ∈ s.deployment.documents s.connection.write b.query.collection,
        (Clause.testAll b.query.clauses d).Decides) :
    ∃ t, (b.delete none).on s = (.ok (UInt64.ofNat (b.reached s).length), t) := by
  have hcompile : (Request.delete b.query).compile = .ok (.deleteMany b.query.collection filter) := by
    show (do let f ← (do b.query.checkRelational; FilterDocument.ofClauses b.query.clauses); _ : Compiled Statement) = _
    rw [(Query.checkRelational_eq_ok_iff _).2 hr, hf]
    rfl
  rw [delete, changing, hcompile]
  show ∃ t, (Session.affecting (.deleteMany b.query.collection filter)).on s = _
  rw [reached]
  cases hp : s.connection.pretending with
  | true =>
    rw [Session.affecting_on, hp]
    exact ⟨_, rfl⟩
  | false =>
    obtain ⟨ho, hall⟩ := h hp
    simp only [← FilterDocument.accepts_ofClauses hf] at hall ⊢
    exact Session.affecting_deleteMany_of_decided hp ho hall

/-- A delete that succeeds gives the number of the documents that it reaches, takes them out, and leaves the
others and all other collections. -/
theorem delete_none_ok {b : Builder} {s t : Session} {n : UInt64} (h : (b.delete none).on s = (.ok n, t)) :
    n = UInt64.ofNat (b.reached s).length ∧ ∀ handle name, t.deployment.documents handle name =
      if s.connection.pretending = false ∧ handle = s.connection.write ∧ name = b.query.collection then
        (s.deployment.documents handle name).filter fun d => Clause.testAll b.query.clauses d ≠ .ok true
      else s.deployment.documents handle name := by
  refine ⟨?_, changing_delete_ok h⟩
  obtain ⟨st, hq, hsend⟩ := Session.compiled_bind_ok h
  obtain ⟨filter, hfilter, hst⟩ := (bind_eq_ok_iff _ _ _).1 hq
  cases hst
  obtain ⟨u, hrefused, hf⟩ := (bind_eq_ok_iff _ _ _).1 hfilter
  obtain ⟨t', ht⟩ := delete_none_of_decided ((Query.checkRelational_eq_ok_iff _).1 hrefused) hf fun hp => by
    obtain ⟨ho, hall⟩ := Session.decided_of_affecting_deleteMany hp hsend
    simp only [← FilterDocument.accepts_ofClauses hf]
    exact ⟨ho, hall⟩
  rw [h] at ht
  injection ht with hn
  injection hn

end Builder

/-! ## Reading before -/

namespace Query

/-- The clauses say the same of a stored document and of the same document with its computed fields. -/
def ComputedAside (q : Query) (d : Document) : Prop :=
  ∀ e, Pipeline.addFields (Document.ofFields q.computed) d = .ok e →
    Clause.testAll q.clauses e = Clause.testAll q.clauses d

/-- Clauses on columns that no field is computed under, or within, or around. -/
theorem computedAside_of_columns {q : Query}
    (h : ∀ c ∈ q.clauses, ∃ column, c.predicate.column? = some column ∧
      Expression.isOperatorName column = false ∧
      ∀ f ∈ Document.ofFields q.computed, (Path.parse f.1).head ≠ (Path.parse column).head) (d : Document) :
    q.ComputedAside d :=
  fun _ he => Clause.testAll_addFields h he

end Query

namespace Builder

/-- The rows of a read without columns, output fields, offset and limit are those of the documents that a delete
reaches, and the delete can be done. -/
theorem reached_of_result {b : Builder} (ha : b.query.aggregate = none) (hc : b.query.columns = [])
    (hp : b.query.projections = []) (ho : b.query.offset = none) (hl : b.query.limit = none) {s : Session}
    (hone : s.connection.readHandle (!b.usesWriteHandle) = s.connection.write)
    (hcomputed : ∀ d ∈ s.deployment.documents s.connection.write b.query.collection, b.query.ComputedAside d)
    {rows : List Document} (h : b.result s b.query = .ok rows) :
    (∃ shown, Outcome.traverse (Pipeline.addFields (Document.ofFields b.query.computed)) (b.reached s) = .ok shown ∧
        rows.Perm shown) ∧
      ∃ t, (b.delete none).on s = (.ok (UInt64.ofNat (b.reached s).length), t) := by
  obtain ⟨hrefused, own, keys, hf, -, ⟨hpretending, rfl⟩ | ⟨hpretending, hopen, passed, hpassed, hshown⟩⟩ :=
    passed_of_result ha h
  · have hnone : b.reached s = [] := by rw [reached, if_pos hpretending]
    refine ⟨⟨[], by rw [hnone]; rfl, .refl _⟩, delete_none_of_decided hrefused hf fun h => ?_⟩
    rw [hpretending] at h
    cases h
  · rw [hone] at hopen hpassed
    obtain ⟨computed, taken, htraverse, htaken, hkeep⟩ := Query.passed_eq_ok_iff.1 hpassed
    rw [hc] at htaken
    cases (Pipeline.projectAll_nil computed).symm.trans htaken
    have hpairs : List.Forall₂ (fun d e => Pipeline.addFields (Document.ofFields b.query.computed) d = .ok e ∧
        Filter.accepts own d = Filter.accepts own e)
        (s.deployment.documents s.connection.write b.query.collection) computed := by
      refine ((List.forall₂_and_left _ _).2 ⟨hcomputed, traverse_eq_ok_iff.1 htraverse⟩).imp fun d e hde => ?_
      rw [FilterDocument.accepts_ofClauses hf, FilterDocument.accepts_ofClauses hf]
      exact ⟨hde.2, (hde.1 e hde.2).symm⟩
    obtain ⟨found, hfound, hforms⟩ := keep_forall₂ hpairs hkeep
    obtain ⟨hfilter, hall⟩ := eq_filter_of_keep hfound
    have hreached : b.reached s = found := by
      rw [reached, hpretending, hfilter]
      simp only [FilterDocument.accepts_ofClauses hf]
      rfl
    refine ⟨⟨passed, by rw [hreached, traverse_eq_ok_iff]; exact hforms, ?_⟩,
      delete_none_of_decided hrefused hf fun _ => ⟨hopen, ?_⟩⟩
    · obtain ⟨projected, sortKeys, hprojected, -, rfl⟩ := Query.shown_eq_ok_iff.1 hshown
      rw [hp] at hprojected
      cases (Pipeline.projectAll_nil passed).symm.trans hprojected
      rw [ho, hl, Pipeline.page_none]
      exact Pipeline.sortBy_perm sortKeys passed
    · simp only [← FilterDocument.accepts_ofClauses hf]
      exact hall

/-! ## Main result -/

/-- A read and then a delete on the same handle, by one builder without columns, output fields, offset and limit.
A delete that succeeds takes out exactly the stored documents that the clauses hold of, and gives their number.
Where the clauses say the same with and without the computed fields, these are the documents whose rows the read
has given, and the delete succeeds. -/
theorem delete_after_get (collection : String) (ms : List Modifier) {b : Builder}
    (hb : b = (Builder.on collection).modify ms) (hc : b.query.columns = []) (hp : b.query.projections = [])
    (ho : b.query.offset = none) (hl : b.query.limit = none) {s t : Session}
    (hone : s.connection.readHandle (!b.usesWriteHandle) = s.connection.write) {rows : List Document}
    (h : b.get.on s = (.ok rows, t)) :
    (∀ n u, (b.delete none).on t = (.ok n, u) →
        n = UInt64.ofNat (b.reached s).length ∧ ∀ handle name, u.deployment.documents handle name =
          if s.connection.pretending = false ∧ handle = s.connection.write ∧ name = b.query.collection then
            (s.deployment.documents handle name).filter fun d => Clause.testAll b.query.clauses d ≠ .ok true
          else s.deployment.documents handle name) ∧
      ((∀ d ∈ s.deployment.documents s.connection.write b.query.collection, b.query.ComputedAside d) →
        ∃ shown, Outcome.traverse (Pipeline.addFields (Document.ofFields b.query.computed)) (b.reached s) = .ok shown ∧
          rows.Perm shown ∧ ∃ u, (b.delete none).on t = (.ok (UInt64.ofNat rows.length), u)) := by
  have ha : b.query.aggregate = none := by
    rw [hb, aggregate_modify]
    rfl
  obtain ⟨hrows, ht⟩ := (get_gives b s).eq h
  have hreached : b.reached t = b.reached s := by
    simp only [reached, ht.deployment, ht.pretending, ht.write]
  refine ⟨fun n u hu => ?_, fun hcomputed => ?_⟩
  · have hdelete := delete_none_ok hu
    rw [hreached, ht.deployment, ht.pretending, ht.write] at hdelete
    exact hdelete
  · rw [← ht.deployment, ← ht.write] at hcomputed
    have hhandle : t.connection.readHandle (!b.usesWriteHandle) = t.connection.write := by
      rw [ht.write, ← hone, Connection.readHandle, Connection.readHandle, ht.read, ht.write]
    have hresult : b.result t b.query = .ok rows := by rw [result_of_sameData ht, ← hrows]
    obtain ⟨⟨shown, htraverse, hperm⟩, u, hu⟩ := reached_of_result ha hc hp ho hl hhandle hcomputed hresult
    refine ⟨shown, by rw [← hreached, htraverse], hperm, u, ?_⟩
    rw [hperm.length_eq, length_of_traverse htraverse, hu]

/-- A computed field that no clause looks at: the read shows it, and the delete takes out the document shown. -/
theorem delete_after_get_one :
    let docs : List Document :=
      [[("_id", .string "1"), ("kind", .string "a")], [("_id", .string "2"), ("kind", .string "b")]]
    let s : Session := { Session.inMemory "app" with
      deployment := { backends := [.memory { collections := [("t", docs)] }] } }
    let b := (Builder.on "t").modify [.addField "label" (.string "$kind"), .whereEq "kind" (.string "a")]
    ∃ t u, b.get.on s = (.ok [[("_id", .string "1"), ("kind", .string "a"), ("label", .string "a")]], t) ∧
      (b.delete none).on t = (.ok 1, u) ∧
      u.deployment.documents 0 "t" = [[("_id", .string "2"), ("kind", .string "b")]] := by
  intro docs s b
  have hget : b.get.on s =
      (.ok [[("_id", .string "1"), ("kind", .string "a"), ("label", .string "a")]], (b.get.on s).2) := rfl
  obtain ⟨hdelete, hrows⟩ := delete_after_get "t" _ (b := b) rfl rfl rfl rfl rfl rfl hget
  have hcomputed : ∀ d ∈ docs, b.query.ComputedAside d := by
    refine fun d _ => Query.computedAside_of_columns (fun c hc => ⟨"kind", ?_⟩) d
    cases List.mem_singleton.1 hc
    refine ⟨rfl, by decide, fun f hf => ?_⟩
    cases List.mem_singleton.1 hf
    decide
  obtain ⟨-, -, -, u, hu⟩ := hrows hcomputed
  exact ⟨_, u, hget, hu, (hdelete _ u hu).2 0 "t"⟩

/-- A clause on a computed field finds the document for a read, but a delete looks at what is stored and takes
nothing out. -/
theorem delete_looks_at_stored :
    let docs : List Document := [[("_id", .string "1")]]
    let s : Session := { Session.inMemory "app" with
      deployment := { backends := [.memory { collections := [("t", docs)] }] } }
    let b := (Builder.on "t").modify [.addField "flag" (.string "x"), .whereEq "flag" (.string "x")]
    ∃ t u, b.get.on s = (.ok [[("_id", .string "1"), ("flag", .string "x")]], t) ∧
      (b.delete none).on t = (.ok 0, u) ∧ u.deployment.documents 0 "t" = docs :=
  ⟨_, _, rfl, rfl, rfl⟩

end Builder

end DocQuery
