import DocQuery.Proofs.ArrayFields
import DocQuery.Proofs.BulkWrites
import DocQuery.Proofs.Changes
import DocQuery.Proofs.EqualValues
import DocQuery.Proofs.WellFormedValues

/-!
# The same update twice

An update of plain fields writes each of them at its path.  Where the paths part, no write gets in the way of another, so
all values are at their paths in the end, and to write them once more changes nothing:

    foldlM (applyField "$set") d fields = ok e → each value is at its path in e           (leads_of_fields)
                                               → foldlM (applyField "$set") e fields = ok e   (fields_again)

Whether this counts as a change is decided by strict equality, which a document has with itself where it holds no NaN
(`same_self_iff`).  The second update tests its filter on what the first one has written, and so it succeeds exactly
where the filter says something of each document then; it counts none (`update_again`).
-/

namespace DocQuery

open Outcome

/-! ## Writes at paths that part -/

namespace Path

variable {d e : Document} {p q : Path} {v w : Value}

/-- A write leaves a value where it is at the end of a path that parts from the written one. -/
theorem Leads.set_apart (h : Leads d q v) (hpq : p.Apart q) (he : Path.set d p w = .ok e) : Leads e q v := by
  have hchange : (Change.write w).on p d = .ok e := (lift_eq_ok_iff _ _).2 he
  have hself : (Change.write v).on q d = .ok d := (lift_eq_ok_iff _ _).2 h.set_self
  -- What could be written before can be written now, and the same is read.
  obtain ⟨f, hf⟩ := Change.on_of_on hpq hchange hself
  exact leads_of_set ((lift_eq_ok_iff _ _).1 hf) ((Change.resolve_on hpq hchange).trans h.resolve)

theorem wellFormed_setFrom {head : String} {tail : List String} (hd : (Value.document d).WellFormed)
    (hv : v.WellFormed) (h : setFrom v head tail d = .ok e) : (Value.document e).WellFormed := by
  induction tail generalizing head d e with
  | nil =>
    cases h
    exact hd.insert head hv
  | cons next rest ih =>
    obtain ⟨inner, written, hinner, hwritten, rfl⟩ := setFrom_cons_eq_ok h
    have hbelow : (Value.document inner).WellFormed := by
      rcases hinner with hinner | ⟨-, rfl⟩
      · exact hd.of_get? hinner
      · exact ⟨List.nodup_nil, trivial⟩
    exact hd.insert head (ih hbelow hwritten)

theorem wellFormed_set (hd : (Value.document d).WellFormed) (hv : v.WellFormed) (h : set d p v = .ok e) :
    (Value.document e).WellFormed :=
  wellFormed_setFrom hd hv h

end Path

/-! ## Plain fields -/

namespace Update

variable {d e : Document} {fields : Document}

theorem applyField_set_iff (f : String × Value) :
    applyField "$set" d f = .ok e ↔ (Path.parse f.1).head ≠ "_id" ∧ Path.set d (Path.parse f.1) f.2 = .ok e := by
  rw [applyField]
  by_cases hid : (Path.parse f.1).head = "_id"
  · rw [if_pos hid]
    simp [hid, Outcome.invalid]
  · rw [if_neg hid]
    show lift (Path.set d _ _) = _ ↔ _
    rw [lift_eq_ok_iff, and_iff_right hid]

theorem leads_of_fold {p : Path} {v : Value} (hl : Path.Leads d p v) (hp : ∀ f ∈ fields, (Path.parse f.1).Apart p)
    (h : fields.foldlM (applyField "$set") d = .ok e) : Path.Leads e p v :=
  foldlM_induction (P := fun d => Path.Leads d p v)
    (fun _ f hf _ hl hset => Path.Leads.set_apart hl (hp f hf) ((applyField_set_iff f).1 hset).2) hl h

/-- Every value is at its path behind the writes. -/
theorem leads_of_fields (hapart : fields.Pairwise fun f g => (Path.parse f.1).Apart (Path.parse g.1))
    (h : fields.foldlM (applyField "$set") d = .ok e) :
    ∀ f ∈ fields, (Path.parse f.1).head ≠ "_id" ∧ Path.Leads e (Path.parse f.1) f.2 := by
  induction fields generalizing d with
  | nil => simp
  | cons f rest ih =>
    obtain ⟨hf, hrest⟩ := List.pairwise_cons.1 hapart
    rw [List.foldlM_cons] at h
    obtain ⟨next, hnext, h⟩ := (bind_eq_ok_iff _ _ _).1 h
    obtain ⟨hid, hset⟩ := (applyField_set_iff f).1 hnext
    have hparts : ∀ g ∈ rest, (Path.parse g.1).Apart (Path.parse f.1) := fun g hg => (hf g hg).symm
    exact List.forall_mem_cons.2 ⟨⟨hid, leads_of_fold (Path.leads_set hset) hparts h⟩, ih hrest h⟩

/-- Writes of what is there leave the document as it is. -/
theorem fields_again (h : ∀ f ∈ fields, (Path.parse f.1).head ≠ "_id" ∧ Path.Leads e (Path.parse f.1) f.2) :
    fields.foldlM (applyField "$set") e = .ok e := by
  induction fields with
  | nil => rfl
  | cons f rest ih =>
    obtain ⟨⟨hid, hl⟩, hrest⟩ := List.forall_mem_cons.1 h
    rw [List.foldlM_cons, (applyField_set_iff f).2 ⟨hid, hl.set_self⟩]
    exact ih hrest

theorem wellFormed_fields (hd : (Value.document d).WellFormed) (hfields : ∀ f ∈ fields, f.2.WellFormed)
    (h : fields.foldlM (applyField "$set") d = .ok e) : (Value.document e).WellFormed :=
  foldlM_induction (P := fun d => (Value.document d).WellFormed)
    (fun _ f hf _ hd hset => Path.wellFormed_set hd (hfields f hf) ((applyField_set_iff f).1 hset).2) hd h

/-- What an update of plain fields has changed, it does not change again, if there is no NaN in it. -/
theorem changed?_again (hapart : fields.Pairwise fun f g => (Path.parse f.1).Apart (Path.parse g.1))
    (hfields : ∀ f ∈ fields, f.2.WellFormed) (hd : (Value.document d).WellFormed)
    (h : changed? d [("$set", .document fields)] = .ok (some e)) (hnan : (Value.document e).NaNFree) :
    changed? e [("$set", .document fields)] = .ok none := by
  rw [changed?_operator] at h
  obtain ⟨out, hout, hreported⟩ := (map_eq_ok_iff _ _ _).1 h
  have heq : out = e := by
    rw [reported] at hreported
    split at hreported
    · cases hreported
    · exact Option.some.inj hreported
  subst heq
  have hself : Value.sameDocument out out = true := (Value.same_self_iff (wellFormed_fields hd hfields hout)).2 hnan
  rw [changed?_operator, fields_again (leads_of_fields hapart hout)]
  show Except.ok (reported out out) = _
  rw [reported, if_pos hself]

end Update

/-! ## Stores -/

namespace Store

variable {s t : Store} {name : String} {filter fields d e : Document}

theorem changed?_of_replacement? {update : Document} (h : replacement? filter update d = some e) :
    Update.changed? d update = .ok (some e) := by
  rw [replacement?] at h
  split at h
  · rename_i hchanged
    rw [hchanged, h]
  · cases h

theorem decides_of_updatable {update : Document} (h : Updatable filter update d) : (Filter.accepts filter d).Decides := by
  rcases h with ha | ⟨ha, -⟩
  · exact ⟨false, ha⟩
  · exact ⟨true, ha⟩

/-- A document that an update would leave as it is. -/
theorem updatable_iff_of_unchanged {update : Document} (h : Update.changed? e update = .ok none) :
    replacement? filter update e = none ∧ (Updatable filter update e ↔ (Filter.accepts filter e).Decides) := by
  constructor
  · rw [replacement?, h]
    split
    · rename_i hchanged
      cases hchanged
      rfl
    · rfl
  · refine ⟨decides_of_updatable, ?_⟩
    rintro ⟨accepted, ha⟩
    cases accepted with
    | false => exact .inl ha
    | true => exact .inr ⟨ha, none, h⟩

/-- A document behind an update has no replacement in the same update, and can be updated exactly where the filter says
something of it. -/
theorem again_of_updatable (hapart : fields.Pairwise fun f g => (Path.parse f.1).Apart (Path.parse g.1))
    (hfields : ∀ f ∈ fields, f.2.WellFormed) (hd : (Value.document d).WellFormed)
    (hnan : ∀ e, replacement? filter [("$set", .document fields)] d = some e → (Value.document e).NaNFree)
    (h : Updatable filter [("$set", .document fields)] d)
    (he : (replacement? filter [("$set", .document fields)] d).getD d = e) :
    replacement? filter [("$set", .document fields)] e = none ∧
      (Updatable filter [("$set", .document fields)] e ↔ (Filter.accepts filter e).Decides) := by
  cases hr : replacement? filter [("$set", .document fields)] d with
  | none =>
    rw [hr, Option.getD_none] at he
    subst he
    exact ⟨hr, iff_of_true h (decides_of_updatable h)⟩
  | some f =>
    rw [hr, Option.getD_some] at he
    subst he
    have hchanged := changed?_of_replacement? hr
    exact updatable_iff_of_unchanged (Update.changed?_again hapart hfields hd hchanged (hnan f hr))

theorem updateMany_again (hapart : fields.Pairwise fun f g => (Path.parse f.1).Apart (Path.parse g.1))
    (hfields : ∀ f ∈ fields, f.2.WellFormed)
    (hdocs : ∀ d ∈ s.documents name, (Value.document d).WellFormed ∧
      ∀ e, replacement? filter [("$set", .document fields)] d = some e → (Value.document e).NaNFree)
    {count : UpdateCount} (h : s.updateMany name filter [("$set", .document fields)] = .ok (t, count)) :
    ((∃ u again, t.updateMany name filter [("$set", .document fields)] = .ok (u, again)) ↔
        ∀ e ∈ t.documents name, (Filter.accepts filter e).Decides) ∧
      ∀ u again, t.updateMany name filter [("$set", .document fields)] = .ok (u, again) →
        again.modified = 0 ∧ ∀ other, u.documents other = t.documents other := by
  obtain ⟨hopen, hupdatable⟩ := updateMany_succeeds_iff.1 ⟨t, count, h⟩
  obtain ⟨hwritten, -⟩ := rewritten_updateMany h
  have hdocuments : t.documents name =
      (s.documents name).map fun d => (replacement? filter [("$set", .document fields)] d).getD d := by
    rw [hwritten.documents, if_pos rfl]
  have hone : ∀ e ∈ t.documents name, replacement? filter [("$set", .document fields)] e = none ∧
      (Updatable filter [("$set", .document fields)] e ↔ (Filter.accepts filter e).Decides) := by
    intro e he
    rw [hdocuments] at he
    obtain ⟨d, hd, hde⟩ := List.mem_map.1 he
    exact again_of_updatable hapart hfields (hdocs d hd).1 (hdocs d hd).2 (hupdatable d hd) hde
  constructor
  · rw [updateMany_succeeds_iff, hwritten.poisoned, and_iff_right hopen]
    exact forall₂_congr fun e he => (hone e he).2
  · intro u again hu
    obtain ⟨hsame, hcount⟩ := rewritten_updateMany hu
    constructor
    · rw [hcount, List.length_eq_zero_iff, List.filter_eq_nil_iff]
      intro e he
      rw [(hone e he).1]
      exact Bool.false_ne_true
    · intro other
      rw [hsame.documents]
      by_cases ho : other = name
      · rw [if_pos ho, ho]
        conv_rhs => rw [← List.map_id (t.documents name)]
        exact List.map_congr_left fun e he => by rw [(hone e he).1]; rfl
      · rw [if_neg ho]

end Store

/-! ## Calls -/

namespace Deployment

variable {d e : Deployment} {handle : Nat} {name : String} {filter update : Document} {reply : StoreReply}

theorem perform_updateMany_ok_iff :
    d.perform handle (.updateMany name filter update) = (.ok reply, e) ↔ ∃ s t count,
      d.backends[handle]? = some (.memory s) ∧ s.updateMany name filter update = .ok (t, count) ∧
      reply = .updated count ∧ e = ⟨d.backends.set handle (.memory t), d.supply⟩ := by
  constructor
  · intro h
    obtain ⟨s, t, supply, hb, ha, rfl⟩ := perform_ok h
    obtain ⟨⟨t', count⟩, hu, ha⟩ := (bind_eq_ok_iff _ _ _).1 ha
    cases ha
    exact ⟨s, t, count, hb, hu, rfl, rfl⟩
  · rintro ⟨s, t, count, hb, hu, rfl, rfl⟩
    have hperform : s.perform d.supply (.updateMany name filter update) = (.ok (.updated count), t, d.supply) := by
      rw [Store.perform.eq_def, Store.answer, hu]
      rfl
    rw [perform, hb]
    dsimp only
    rw [hperform]

end Deployment

namespace Session

variable {s t : Session} {name : String} {filter update : Document} {n : UInt64}

theorem affecting_updateMany_ok (hp : s.connection.pretending = false)
    (h : (affecting (.updateMany name filter update)).on s = (.ok n, t)) : ∃ store later count,
      s.deployment.backends[s.connection.write]? = some (.memory store) ∧
      store.updateMany name filter update = .ok (later, count) ∧ n = UInt64.ofNat count.modified ∧
      t.deployment = ⟨s.deployment.backends.set s.connection.write (.memory later), s.deployment.supply⟩ ∧
      t.connection.write = s.connection.write ∧ t.connection.pretending = false := by
  rw [affecting_on, hp, if_neg Bool.false_ne_true, send_on] at h
  rcases hperform : s.deployment.perform s.connection.write (Statement.updateMany name filter update).toCall
    with ⟨r, deployment⟩
  rw [hperform] at h
  cases r with
  | error f => cases f <;> cases h
  | ok reply =>
    obtain ⟨store, later, count, hb, hu, rfl, rfl⟩ := Deployment.perform_updateMany_ok_iff.1 hperform
    cases h
    exact ⟨store, later, count, hb, hu, rfl, rfl, rfl, hp⟩

theorem affecting_updateMany_of_ok (hp : s.connection.pretending = false) {store later : Store} {count : UpdateCount}
    (hb : s.deployment.backends[s.connection.write]? = some (.memory store))
    (h : store.updateMany name filter update = .ok (later, count)) :
    ∃ t, (affecting (.updateMany name filter update)).on s = (.ok (UInt64.ofNat count.modified), t) := by
  have hperform := Deployment.perform_updateMany_ok_iff.2 ⟨store, later, count, hb, h, rfl, rfl⟩
  rw [affecting_on, hp, if_neg Bool.false_ne_true, send_on,
    show (Statement.updateMany name filter update).toCall = .updateMany name filter update from rfl, hperform]
  exact ⟨_, rfl⟩

/-- In a dry run nothing is counted, and it stays one. -/
theorem affecting_of_pretending (hp : s.connection.pretending = true) (st : Statement) :
    ∃ t, (affecting st).on s = (.ok 0, t) ∧ t.deployment = s.deployment ∧ t.connection.pretending = true := by
  rw [affecting_on, hp]
  exact ⟨_, rfl, rfl, hp⟩

theorem affecting_again {fields : Document}
    (hapart : fields.Pairwise fun f g => (Path.parse f.1).Apart (Path.parse g.1))
    (hfields : ∀ f ∈ fields, f.2.WellFormed)
    (hdocs : ∀ d ∈ s.deployment.documents s.connection.write name, (Value.document d).WellFormed ∧
      ∀ e, Store.replacement? filter [("$set", .document fields)] d = some e → (Value.document e).NaNFree)
    (h : (affecting (.updateMany name filter [("$set", .document fields)])).on s = (.ok n, t)) :
    ((∃ m u, (affecting (.updateMany name filter [("$set", .document fields)])).on t = (.ok m, u)) ↔
        s.connection.pretending = true ∨
          ∀ e ∈ t.deployment.documents s.connection.write name, (Filter.accepts filter e).Decides) ∧
      ∀ m u, (affecting (.updateMany name filter [("$set", .document fields)])).on t = (.ok m, u) →
        m = 0 ∧ ∀ handle other, u.deployment.documents handle other = t.deployment.documents handle other := by
  cases hp : s.connection.pretending with
  | true =>
    obtain ⟨t', ht', -, htp⟩ := affecting_of_pretending hp (.updateMany name filter [("$set", .document fields)])
    cases h.symm.trans ht'
    obtain ⟨u', hu', hdeployment, -⟩ := affecting_of_pretending htp (.updateMany name filter [("$set", .document fields)])
    refine ⟨iff_of_true ⟨0, u', hu'⟩ (.inl rfl), fun m u hu => ?_⟩
    cases hu.symm.trans hu'
    exact ⟨rfl, fun handle other => by rw [hdeployment]⟩
  | false =>
    obtain ⟨store, later, count, hb, hupdate, -, hdeployment, hwrite, htp⟩ := affecting_updateMany_ok hp h
    rw [Deployment.documents_of_backend hb] at hdocs
    obtain ⟨hsucceeds, hcounts⟩ := Store.updateMany_again hapart hfields hdocs hupdate
    have hlater : t.deployment.backends[t.connection.write]? = some (.memory later) := by
      obtain ⟨hlt, -⟩ := List.getElem?_eq_some_iff.1 hb
      rw [hdeployment, hwrite]
      exact List.getElem?_set_self hlt
    have hdocuments : t.deployment.documents s.connection.write name = later.documents name := by
      rw [← hwrite, Deployment.documents_of_backend hlater]
    rw [hdocuments, ← hsucceeds]
    constructor
    · constructor
      · rintro ⟨m, u, hu⟩
        obtain ⟨store', last, again, hb', hagain, -⟩ := affecting_updateMany_ok htp hu
        cases hlater.symm.trans hb'
        exact .inr ⟨last, again, hagain⟩
      · rintro (hdry | ⟨last, again, hagain⟩)
        · cases hdry
        · obtain ⟨u, hu⟩ := affecting_updateMany_of_ok htp hlater hagain
          exact ⟨_, u, hu⟩
    · intro m u hu
      obtain ⟨store', last, again, hb', hagain, rfl, hlast, -⟩ := affecting_updateMany_ok htp hu
      cases hlater.symm.trans hb'
      obtain ⟨hzero, hsame⟩ := hcounts last again hagain
      refine ⟨by rw [hzero]; rfl, fun handle other => ?_⟩
      rw [hlast, Deployment.documents_set hb']
      by_cases hh : handle = t.connection.write
      · rw [if_pos hh, hh, hsame, Deployment.documents_of_backend hlater]
      · rw [if_neg hh]

end Session

/-! ## Builders -/

/-- Plain fields are set. -/
theorem Query.updateDocument_plain {values update : Document}
    (hplain : ∀ k ∈ values.keys, Query.isOperatorName k = false) (h : updateDocument values = .ok update) :
    update = [("$set", .document values)] := by
  cases values with
  | nil => cases h
  | cons f rest =>
    have hf : isOperatorName f.1 = false := hplain f.1 List.mem_cons_self
    have hany : (Document.keys (f :: rest)).any isOperatorName = false :=
      List.any_eq_false.2 fun k hk => by simp [hplain k hk]
    have hall : (Document.keys (f :: rest)).all isOperatorName = false := by
      rw [Document.keys, List.map_cons, List.all_cons, hf, Bool.false_and]
    rw [updateDocument, hany, hall] at h
    exact (Except.ok.inj h).symm

namespace Builder

/-- A successful update of plain fields whose paths part, and the same update right after it, where no document that the
first one changes holds a NaN.  The second one tests the filter on what the first has written: it succeeds exactly in a
dry run, and where the filter says something of each document of the collection.  Then it counts no document and leaves
all as they are. -/
theorem update_again {b : Builder} {values : Document} (hplain : ∀ k ∈ values.keys, Query.isOperatorName k = false)
    (hapart : values.keys.Pairwise fun k j => (Path.parse k).Apart (Path.parse j))
    (hvalues : (Value.document values).WellFormed) {filter : Document} (hfilter : b.query.filter = .ok filter)
    {s t : Session} {n : UInt64}
    (hdocs : ∀ d ∈ s.deployment.documents s.connection.write b.query.collection, (Value.document d).WellFormed ∧
      ∀ e, Store.replacement? filter [("$set", .document values)] d = some e → (Value.document e).NaNFree)
    (h : (b.update values).on s = (.ok n, t)) :
    ((∃ m u, (b.update values).on t = (.ok m, u)) ↔ s.connection.pretending = true ∨
        ∀ e ∈ t.deployment.documents s.connection.write b.query.collection, (Filter.accepts filter e).Decides) ∧
      ∀ m u, (b.update values).on t = (.ok m, u) →
        m = 0 ∧ ∀ handle name, u.deployment.documents handle name = t.deployment.documents handle name := by
  obtain ⟨st, hcompile, hsend⟩ := Session.compiled_bind_ok h
  obtain ⟨filter', hf, hst⟩ := (bind_eq_ok_iff _ _ _).1 hcompile
  cases hfilter.symm.trans hf
  obtain ⟨update, hupdate, hst⟩ := (bind_eq_ok_iff _ _ _).1 hst
  cases hst
  cases Query.updateDocument_plain hplain hupdate
  have hon : ∀ s : Session, (b.update values).on s =
      (Session.affecting (.updateMany b.query.collection filter [("$set", .document values)])).on s := by
    intro s
    rw [Builder.update, changing, hcompile]
    exact Action.on_bind_of_ok (Session.compiled_ok_on _ s) _
  have hfields : ∀ f ∈ values, f.2.WellFormed := (Value.wellFormedFields_iff values).1 hvalues.2
  have hparts : values.Pairwise fun f g => (Path.parse f.1).Apart (Path.parse g.1) := by
    rw [Document.keys, List.pairwise_map] at hapart
    exact hapart
  simp only [hon]
  exact Session.affecting_again hparts hfields hdocs hsend

/-- Two fields, of which one is what the filter looks at. -/
theorem update_again_moved :
    let docs : List Document := [[("_id", .int32 1), ("kind", .string "a"), ("n", .double 0)],
      [("_id", .int32 2), ("kind", .string "b")]]
    let s : Session := { Session.inMemory "app" with
      deployment := { backends := [.memory { collections := [("t", docs)] }] } }
    let b := (Builder.on "t").modify [.whereEq "kind" (.string "a")]
    let values : Document := [("a.b", .int32 7), ("kind", .string "c")]
    ∃ t u, (b.update values).on s = (.ok 1, t) ∧ t.deployment.documents 0 "t" =
        [[("_id", .int32 1), ("kind", .string "c"), ("n", .double 0), ("a", .document [("b", .int32 7)])],
          [("_id", .int32 2), ("kind", .string "b")]] ∧
      (b.update values).on t = (.ok 0, u) ∧ u.deployment.documents 0 "t" = t.deployment.documents 0 "t" := by
  intro docs s b values
  let filter : Document := [("kind", .string "a")]
  have hfilter : b.query.filter = .ok filter := rfl
  have hplain : ∀ k ∈ values.keys, Query.isOperatorName k = false := by decide +kernel
  have hapart : values.keys.Pairwise fun k j => (Path.parse k).Apart (Path.parse j) := by decide +kernel
  have hvalues : (Value.document values).WellFormed := by
    simp [values, Value.WellFormed, Value.WellFormedFields, Document.Distinct]
  have hdocs : ∀ d ∈ docs, (Value.document d).WellFormed ∧
      ∀ e, Store.replacement? filter [("$set", .document values)] d = some e → (Value.document e).NaNFree := by
    have hzero : Double.isNaN 0 = false := by decide +kernel
    simp only [docs, List.forall_mem_cons]
    refine ⟨⟨?_, ?_⟩, ⟨?_, ?_⟩, by simp⟩
    · simp [Value.WellFormed, Value.WellFormedFields, Document.Distinct]
    · let written : Document :=
        [("_id", .int32 1), ("kind", .string "c"), ("n", .double 0), ("a", .document [("b", .int32 7)])]
      intro e he
      cases (show some written = some e from he)
      simp [written, Value.NaNFree, Value.NaNFreeFields, hzero]
    · simp [Value.WellFormed, Value.WellFormedFields, Document.Distinct]
    · intro e he
      cases (show none = some e from he)
  have hfirst : (b.update values).on s = (.ok 1, ((b.update values).on s).2) := rfl
  obtain ⟨hsucceeds, hcounts⟩ := update_again (s := s) hplain hapart hvalues hfilter hdocs hfirst
  have hdecides : ∀ e ∈ ((b.update values).on s).2.deployment.documents 0 "t", (Filter.accepts filter e).Decides :=
    List.forall_mem_cons.2 ⟨⟨false, rfl⟩, List.forall_mem_cons.2 ⟨⟨false, rfl⟩, by simp⟩⟩
  obtain ⟨m, u, hu⟩ := hsucceeds.2 (.inr hdecides)
  obtain ⟨rfl, hsame⟩ := hcounts m u hu
  exact ⟨_, u, hfirst, rfl, hu, hsame 0 "t"⟩

/-- A filter on the year of a date, which the update makes a text: the second update fails.  And a document with a NaN in
it counts as changed each time. -/
theorem update_again_not_zero :
    let s (d : Document) : Session := { Session.inMemory "app" with
      deployment := { backends := [.memory { collections := [("t", [d])] }] } }
    let nan : Value := .double (Float.ofBits 0x7ff8000000000000)
    let born := (Builder.on "t").modify [.wherePart .year "born" (.int32 1970)]
    let all := Builder.on "t"
    let text : Document := [("born", .string "unknown")]
    let number : Document := [("n", .int32 1)]
    (∃ t e u, (born.update text).on (s [("_id", .int32 1), ("born", .dateTime 0)]) = (.ok 1, t) ∧
      (born.update text).on t = (.error e, u)) ∧
      ∃ t u, (all.update number).on (s [("_id", .int32 1), ("x", nan)]) = (.ok 1, t) ∧
        (all.update number).on t = (.ok 1, u) :=
  ⟨⟨_, _, _, rfl, rfl⟩, _, _, rfl, rfl⟩

end Builder

end DocQuery
