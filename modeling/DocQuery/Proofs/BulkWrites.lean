import DocQuery.Proofs.Deletes
import DocQuery.Proofs.Identifiers

/-!
# Writes on a whole collection

An update and a delete run a filter on every document of one collection before anything is written:

    updateMany s = ok (t, count)   → each document accepted is its replacement, where it has one,
                                     and every other one stands as it was               (rewritten_updateMany)
    deleteMany s = ok (t, n)       → those not accepted are left, in their order        (rewritten_deleteMany)

The writing itself goes by place: an update notes the places of its replacements, a delete one flag for each
document.  Both give what the passes over the documents give (`updateMany_eq_inPhases`,
`deleteMany_eq_inPhases`).
-/

namespace DocQuery

open Outcome

/-! ## Passes -/

namespace Outcome

variable {α β : Type}

/-- A pass whose single results are known: it has a result where every element has one. -/
theorem traverse_eq_ok_iff_map {f : α → Outcome β} {P : α → Prop} {g : α → β}
    (h : ∀ a b, f a = .ok b ↔ P a ∧ g a = b) {as : List α} {bs : List β} :
    traverse f as = .ok bs ↔ (∀ a ∈ as, P a) ∧ as.map g = bs := by
  rw [traverse_eq_ok_iff, ← List.forall₂_eq_eq_eq, List.forall₂_map_left_iff, ← List.forall₂_and_left]
  simp only [h]

/-- A sum of ones, one for each element that passes. -/
theorem foldr_add_ones (p : α → Bool) (as : List α) :
    (as.map fun a => if p a then 1 else 0).foldr (· + ·) 0 = (as.filter p).length := by
  induction as with
  | nil => rfl
  | cons a rest ih =>
    rw [List.map_cons, List.foldr_cons, ih]
    cases hp : p a with
    | true => rw [List.filter_cons_of_pos hp, List.length_cons, if_pos rfl, Nat.add_comm]
    | false => rw [List.filter_cons_of_neg (by rw [hp]; decide), if_neg Bool.false_ne_true, Nat.zero_add]

end Outcome

def UpdateCount.add (c d : UpdateCount) : UpdateCount := ⟨c.matched + d.matched, c.modified + d.modified⟩

theorem UpdateCount.sum_cons (c : UpdateCount) (counts : List UpdateCount) :
    sum (c :: counts) = c.add (sum counts) := rfl

namespace Store

/-! ## One collection rewritten -/

/-- A collection has other documents, in its place among the collections, and nothing else is changed. -/
structure Rewritten (s : Store) (name : String) (later : List Document) (t : Store) : Prop where
  documents : ∀ other, t.documents other = if other = name then later else s.documents other
  names : t.collections.map Prod.fst = s.collections.map Prod.fst
  poisoned : t.poisoned = s.poisoned

variable {s t : Store} {name : String} {filter update d : Document} {docs : List Document}

theorem rewritten_replace (hc : s.collection? name = some docs) (later : List Document) :
    s.Rewritten name later (s.replace name later) where
  documents other := documents_replace s name other later
  names := by
    have hplaces : List.Forall₂ (fun c c' => c'.1 = c.1 ∧ True) s.collections
        (replaceIn name later s.collections) :=
      forall₂_replaceIn (R := fun _ _ => True) (fun _ => trivial) trivial hc
    have hnames : List.Forall₂ Eq ((replaceIn name later s.collections).map Prod.fst)
        (s.collections.map Prod.fst) := by
      rw [List.forall₂_map_left_iff, List.forall₂_map_right_iff]
      exact (hplaces.imp fun _ _ h => h.1).flip
    exact List.forall₂_eq_eq_eq ▸ hnames
  poisoned := rfl

/-- A collection that is missing has no documents before and none after. -/
theorem rewritten_missing (hc : s.collection? name = none) : s.Rewritten name [] s where
  documents other := by
    split
    · rename_i h
      rw [h, Store.documents, hc]
      rfl
    · rfl
  names := rfl
  poisoned := rfl

/-! ## Updates -/

/-- What an update puts in the place of a document: the changed document, where the filter accepts it and the
update changes it. -/
def replacement? (filter update d : Document) : Option Document :=
  match Filter.accepts filter d, Update.changed? d update with
  | .ok true, .ok changed => changed
  | _, _ => none

/-- The filter says something of the document, and where it accepts it the update has a result. -/
def Updatable (filter update d : Document) : Prop :=
  Filter.accepts filter d = .ok false ∨
    Filter.accepts filter d = .ok true ∧ ∃ changed, Update.changed? d update = .ok changed

/-- What one document adds to the counts of an update. -/
def tally (filter update d : Document) : UpdateCount :=
  ⟨if Filter.accepts filter d = .ok true then 1 else 0, if (replacement? filter update d).isSome then 1 else 0⟩

theorem updateOne_eq_ok_iff (filter update d : Document) (entry : Document × UpdateCount) :
    updateOne filter update d = .ok entry ↔
      Updatable filter update d ∧ ((replacement? filter update d).getD d, tally filter update d) = entry := by
  rw [updateOne, Updatable, tally, replacement?]
  cases Filter.accepts filter d with
  | error e => simp [bind, Except.bind]
  | ok accepted =>
    cases accepted with
    | false => simp [bind, Except.bind, pure, Except.pure]
    | true =>
      cases Update.changed? d update with
      | error e => simp [bind, Except.bind]
      | ok changed => cases changed <;> simp [bind, Except.bind, pure, Except.pure]

theorem sum_tallies (filter update : Document) (docs : List Document) :
    UpdateCount.sum (docs.map (tally filter update)) =
      ⟨(docs.filter fun d => Filter.accepts filter d = .ok true).length,
        (docs.filter fun d => (replacement? filter update d).isSome).length⟩ := by
  rw [UpdateCount.sum, List.map_map, List.map_map, ← foldr_add_ones, ← foldr_add_ones]
  simp only [decide_eq_true_eq]
  rfl

theorem traverse_updateOne_iff {updated : List (Document × UpdateCount)} :
    Outcome.traverse (updateOne filter update) docs = .ok updated ↔
      (∀ d ∈ docs, Updatable filter update d) ∧
        (docs.map fun d => ((replacement? filter update d).getD d, tally filter update d)) = updated :=
  traverse_eq_ok_iff_map (updateOne_eq_ok_iff filter update)

/-- A whole update has a result exactly where the store is open and each document has one. -/
theorem updateMany_succeeds_iff :
    (∃ t count, s.updateMany name filter update = .ok (t, count)) ↔
      s.poisoned = false ∧ ∀ d ∈ s.documents name, Updatable filter update d := by
  constructor
  · rintro ⟨t, count, h⟩
    rw [updateMany, bind_eq_ok_iff] at h
    obtain ⟨⟨⟩, hopen, h⟩ := h
    refine ⟨s.checkOpen_eq_ok_iff.1 hopen, ?_⟩
    rw [Store.documents]
    cases hc : s.collection? name with
    | none => simp
    | some docs =>
      rw [hc] at h
      obtain ⟨updated, hu, -⟩ := (bind_eq_ok_iff _ _ _).1 h
      exact (traverse_updateOne_iff.1 hu).1
  · rintro ⟨hp, hall⟩
    rw [updateMany, s.checkOpen_eq_ok_iff.2 hp]
    rw [Store.documents] at hall
    cases hc : s.collection? name with
    | none => exact ⟨s, ⟨0, 0⟩, rfl⟩
    | some docs =>
      rw [hc] at hall
      obtain ⟨updated, hu⟩ : ∃ updated, Outcome.traverse (updateOne filter update) docs = .ok updated :=
        ⟨_, traverse_updateOne_iff.2 ⟨hall, rfl⟩⟩
      refine ⟨s.replace name (updated.map Prod.fst), UpdateCount.sum (updated.map Prod.snd), ?_⟩
      show (Outcome.traverse (updateOne filter update) docs >>= _) = _
      rw [hu]
      rfl

/-- What a whole update writes and counts. -/
theorem rewritten_updateMany {count : UpdateCount} (h : s.updateMany name filter update = .ok (t, count)) :
    s.Rewritten name ((s.documents name).map fun d => (replacement? filter update d).getD d) t ∧
      count = ⟨((s.documents name).filter fun d => Filter.accepts filter d = .ok true).length,
        ((s.documents name).filter fun d => (replacement? filter update d).isSome).length⟩ := by
  rw [updateMany, bind_eq_ok_iff] at h
  obtain ⟨-, -, h⟩ := h
  rw [Store.documents]
  cases hc : s.collection? name with
  | none =>
    rw [hc] at h
    cases h
    exact ⟨rewritten_missing hc, rfl⟩
  | some docs =>
    rw [hc] at h
    obtain ⟨updated, hu, h⟩ := (bind_eq_ok_iff _ _ _).1 h
    cases h
    rw [← (traverse_updateOne_iff.1 hu).2, List.map_map, List.map_map]
    exact ⟨rewritten_replace hc _, sum_tallies filter update docs⟩

/-- An update counts the documents that its filter accepts. -/
theorem matched_of_updateMany {count : UpdateCount} (h : s.updateMany name filter update = .ok (t, count)) :
    count.matched = ((s.documents name).filter fun d => Filter.accepts filter d = .ok true).length := by
  rw [(rewritten_updateMany h).2]

/-! ## Deletes -/

theorem deleteMany_succeeds_iff :
    (∃ t n, s.deleteMany name filter = .ok (t, n)) ↔
      s.poisoned = false ∧ ∀ d ∈ s.documents name, (Filter.accepts filter d).Decides := by
  constructor
  · rintro ⟨t, n, h⟩
    exact decided_of_deleteMany h
  · rintro ⟨hp, h⟩
    obtain ⟨t, ht⟩ := deleteMany_of_decided hp h
    exact ⟨t, _, ht⟩

/-- What a delete leaves and counts. -/
theorem rewritten_deleteMany {n : Nat} (h : s.deleteMany name filter = .ok (t, n)) :
    s.Rewritten name ((s.documents name).filter fun d => Filter.accepts filter d = .ok false) t ∧
      n = ((s.documents name).filter fun d => Filter.accepts filter d = .ok true).length := by
  obtain ⟨hp, hall⟩ := decided_of_deleteMany h
  have hcount : n = ((s.documents name).filter fun d => Filter.accepts filter d = .ok true).length := by
    obtain ⟨u, hu⟩ := deleteMany_of_decided hp hall
    rw [h] at hu
    cases hu
    rfl
  have hleft : ((s.documents name).filter fun d => Filter.accepts filter d = .ok false) =
      (s.documents name).filter fun d => Filter.accepts filter d ≠ .ok true := by
    refine List.filter_congr fun d hd => ?_
    obtain ⟨b, hb⟩ := hall d hd
    rw [hb]
    cases b <;> rfl
  rw [hleft]
  refine ⟨?_, hcount⟩
  rcases deleteMany_ok h with ⟨hc, rfl⟩ | ⟨docs, hc, rfl⟩
  · rw [Store.documents, hc]
    exact rewritten_missing hc
  · rw [Store.documents, hc]
    exact rewritten_replace hc _

/-! ## In two phases -/

/-- The first phase of an update: how many documents are accepted, and the new documents with their places,
counted from `place` on. -/
def replacements (filter update : Document) (place : Nat) : List Document → Outcome (Nat × List (Nat × Document))
  | [] => pure (0, [])
  | d :: rest => do
    if ← Filter.accepts filter d then
      match ← Update.changed? d update with
      | some changed => do
        let (matched, later) ← replacements filter update (place + 1) rest
        pure (matched + 1, (place, changed) :: later)
      | none => do
        let (matched, later) ← replacements filter update (place + 1) rest
        pure (matched + 1, later)
    else replacements filter update (place + 1) rest

/-- The second phase: each new document is written to its place. -/
def writeAt (docs : List Document) (entries : List (Nat × Document)) : List Document :=
  entries.foldl (fun docs entry => docs.set entry.1 entry.2) docs

def updateInPhases (s : Store) (name : String) (filter update : Document) : Outcome (Store × UpdateCount) := do
  s.checkOpen
  match s.collection? name with
  | none => pure (s, ⟨0, 0⟩)
  | some docs => do
    let (matched, entries) ← replacements filter update 0 docs
    pure (s.replace name (writeAt docs entries), ⟨matched, entries.length⟩)

/-- The next place is behind what has been passed, and only its document changes. -/
theorem writeAt_next (done rest : List Document) (d e : Document) (entries : List (Nat × Document)) :
    writeAt (done ++ d :: rest) ((done.length, e) :: entries) = writeAt (done ++ e :: rest) entries := by
  rw [writeAt, List.foldl_cons, List.set_append_right _ _ (Nat.le_refl _), Nat.sub_self, List.set_cons_zero]
  rfl

/-- Behind the documents that an update has passed, its two phases do what one pass does. -/
theorem replacements_eq_traverse (filter update : Document) (done docs : List Document) :
    (fun r => (writeAt (done ++ docs) r.2, UpdateCount.mk r.1 r.2.length)) <$>
        replacements filter update done.length docs =
      (fun updated => (done ++ updated.map Prod.fst, UpdateCount.sum (updated.map Prod.snd))) <$>
        Outcome.traverse (updateOne filter update) docs := by
  induction docs generalizing done with
  | nil => rfl
  | cons d rest ih =>
    -- what stands in the place of `d` joins the documents that have been passed, and its count the sum
    have hnext : ∀ (e : Document) (c : UpdateCount),
        (fun r => (writeAt (done ++ e :: rest) r.2, UpdateCount.mk (c.matched + r.1) (c.modified + r.2.length))) <$>
            replacements filter update (done.length + 1) rest =
          (fun later => (done ++ e :: later.map Prod.fst, UpdateCount.sum (c :: later.map Prod.snd))) <$>
            Outcome.traverse (updateOne filter update) rest := by
      intro e c
      have h := congrArg (fun out => (fun o => (o.1, c.add o.2)) <$> out) (ih (done ++ [e]))
      simpa only [Functor.map_map, List.length_append, List.length_singleton, List.append_assoc,
        List.singleton_append, UpdateCount.sum_cons, UpdateCount.add] using h
    rw [replacements, Outcome.traverse, updateOne]
    cases Filter.accepts filter d with
    | error e => rfl
    | ok accepted =>
      cases accepted with
      | false =>
        have h := hnext d ⟨0, 0⟩
        show _ <$> replacements filter update (done.length + 1) rest =
          _ <$> (Outcome.traverse (updateOne filter update) rest >>= fun later => pure ((d, ⟨0, 0⟩) :: later))
        simpa only [bind_pure_comp, Functor.map_map, List.map_cons, Nat.zero_add] using h
      | true =>
        cases Update.changed? d update with
        | error e => rfl
        | ok changed =>
          cases changed with
          | none =>
            have h := hnext d ⟨1, 0⟩
            show _ <$> (replacements filter update (done.length + 1) rest >>= fun r => pure (r.1 + 1, r.2)) =
              _ <$> (Outcome.traverse (updateOne filter update) rest >>= fun later => pure ((d, ⟨1, 0⟩) :: later))
            simpa only [bind_pure_comp, Functor.map_map, List.map_cons, Nat.zero_add, Nat.add_comm 1] using h
          | some e =>
            have h := hnext e ⟨1, 1⟩
            show _ <$> (replacements filter update (done.length + 1) rest >>=
                fun r => pure (r.1 + 1, (done.length, e) :: r.2)) =
              _ <$> (Outcome.traverse (updateOne filter update) rest >>= fun later => pure ((e, ⟨1, 1⟩) :: later))
            simpa only [bind_pure_comp, Functor.map_map, List.map_cons, List.length_cons, writeAt_next,
              Nat.add_comm 1] using h

theorem updateMany_eq_inPhases (s : Store) (name : String) (filter update : Document) :
    s.updateMany name filter update = s.updateInPhases name filter update := by
  rw [updateMany, updateInPhases]
  cases s.checkOpen with
  | error e => rfl
  | ok u =>
    cases s.collection? name with
    | none => rfl
    | some docs =>
      have h := congrArg (fun out => (fun o => (s.replace name o.1, o.2)) <$> out)
        (replacements_eq_traverse filter update [] docs)
      show (Outcome.traverse (updateOne filter update) docs >>= fun updated => pure _) =
        (replacements filter update 0 docs >>= fun r => pure _)
      simpa only [bind_pure_comp, Functor.map_map, List.nil_append, List.length_nil] using h.symm

/-- The second phase of a delete: each document takes the next flag, and stays where there is none left. -/
def retain : List Bool → List Document → List Document
  | _, [] => []
  | [], d :: rest => d :: retain [] rest
  | stays :: flags, d :: rest => if stays then d :: retain flags rest else retain flags rest

def deleteInPhases (s : Store) (name : String) (filter : Document) : Outcome (Store × Nat) := do
  s.checkOpen
  match s.collection? name with
  | none => pure (s, 0)
  | some docs => do
    let flags ← Outcome.traverse (fun d => (Filter.accepts filter d).map (!·)) docs
    pure (s.replace name (retain flags docs), docs.length - (retain flags docs).length)

/-- What the flags of a test retain is what the test keeps. -/
theorem keep_eq_retain (test : Document → Outcome Bool) (docs : List Document) :
    keep test docs = (Outcome.traverse test docs).map fun flags => retain flags docs := by
  induction docs with
  | nil => rfl
  | cons d rest ih =>
    rw [keep, Outcome.traverse, ih]
    cases test d with
    | error e => rfl
    | ok stays =>
      cases Outcome.traverse test rest with
      | error e => rfl
      | ok flags => cases stays <;> rfl

theorem deleteMany_eq_inPhases (s : Store) (name : String) (filter : Document) :
    s.deleteMany name filter = s.deleteInPhases name filter := by
  rw [deleteMany, deleteInPhases]
  cases s.checkOpen with
  | error e => rfl
  | ok u =>
    cases s.collection? name with
    | none => rfl
    | some docs =>
      simp only [keep_eq_retain]
      cases Outcome.traverse (fun d => (Filter.accepts filter d).map (!·)) docs <;> rfl

/-! ## Main result -/

/-- An update, which decides first and then writes by place, succeeds exactly where the store is open, the filter
decides every document, and the update has a result for each document accepted.  Then every document accepted that
the update changes is replaced by the changed one, all others stay in their places, and the counts are those of the
documents accepted and of those replaced.  A delete, which flags first and then retains, succeeds exactly where the
store is open and the filter decides every document.  Then those that are not accepted are left in their order, and
the count is that of the documents accepted.  Neither touches another collection. -/
theorem bulk_writes_spec (s : Store) (name : String) (filter update : Document) :
    (s.updateMany name filter update = s.updateInPhases name filter update ∧
      ((∃ t count, s.updateMany name filter update = .ok (t, count)) ↔
        s.poisoned = false ∧ ∀ d ∈ s.documents name, Updatable filter update d) ∧
      ∀ t count, s.updateMany name filter update = .ok (t, count) →
        s.Rewritten name ((s.documents name).map fun d => (replacement? filter update d).getD d) t ∧
        count = ⟨((s.documents name).filter fun d => Filter.accepts filter d = .ok true).length,
          ((s.documents name).filter fun d => (replacement? filter update d).isSome).length⟩) ∧
    s.deleteMany name filter = s.deleteInPhases name filter ∧
      ((∃ t n, s.deleteMany name filter = .ok (t, n)) ↔
        s.poisoned = false ∧ ∀ d ∈ s.documents name, (Filter.accepts filter d).Decides) ∧
      ∀ t n, s.deleteMany name filter = .ok (t, n) →
        s.Rewritten name ((s.documents name).filter fun d => Filter.accepts filter d = .ok false) t ∧
        n = ((s.documents name).filter fun d => Filter.accepts filter d = .ok true).length :=
  ⟨⟨updateMany_eq_inPhases s name filter update, updateMany_succeeds_iff, fun _ _ => rewritten_updateMany⟩,
    deleteMany_eq_inPhases s name filter, deleteMany_succeeds_iff, fun _ _ => rewritten_deleteMany⟩

/-- Of three documents two are accepted, and one of these is as the update wants it already. -/
theorem bulk_writes_spec_three :
    let s : Store := { collections := [("jobs", [
      [("_id", .int32 1), ("open", .boolean true), ("n", .int32 5)],
      [("_id", .int32 2), ("open", .boolean false), ("n", .int32 6)],
      [("_id", .int32 3), ("open", .boolean true), ("n", .int32 7)]]), ("logs", [[("_id", .int32 1)]])] }
    let filter : Document := [("open", .boolean true)]
    ∃ t u, s.updateMany "jobs" filter [("$set", .document [("n", .int32 7)])] = .ok (t, ⟨2, 1⟩) ∧
      t.documents "jobs" = [
        [("_id", .int32 1), ("open", .boolean true), ("n", .int32 7)],
        [("_id", .int32 2), ("open", .boolean false), ("n", .int32 6)],
        [("_id", .int32 3), ("open", .boolean true), ("n", .int32 7)]] ∧
      t.documents "logs" = s.documents "logs" ∧
      s.deleteMany "jobs" filter = .ok (u, 2) ∧
      u.documents "jobs" = [[("_id", .int32 2), ("open", .boolean false), ("n", .int32 6)]] := by
  intro s filter
  obtain ⟨⟨-, -, hupdate⟩, -, -, hdelete⟩ :=
    bulk_writes_spec s "jobs" filter [("$set", .document [("n", .int32 7)])]
  have hu : s.updateMany "jobs" filter [("$set", .document [("n", .int32 7)])] = .ok (_, ⟨2, 1⟩) := rfl
  have hd : s.deleteMany "jobs" filter = .ok (_, 2) := rfl
  refine ⟨_, _, hu, ?_, ?_, hd, ?_⟩
  · rw [(hupdate _ _ hu).1.documents, if_pos rfl]
    rfl
  · rw [(hupdate _ _ hu).1.documents, if_neg (by decide)]
  · rw [(hdelete _ _ hd).1.documents, if_pos rfl]
    rfl

end Store

end DocQuery
