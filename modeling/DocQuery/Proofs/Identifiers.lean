import DocQuery.Proofs.Collections
import DocQuery.Proofs.SameValues
import DocQuery.Proofs.Updates

/-!
# Identifiers in a store

`Reachable` is every store that comes out of calls on an empty one, in any order, each from any supply of new
identifiers, whether it succeeds or not.  `Keyed` is what all of them keep: the documents of a collection have
identifiers, no two the same.

    s.Keyed → (s.perform supply call).2.1.Keyed                                (Keyed.perform)
    s.Reachable → s.Keyed                                                      (Reachable.keyed)

An update leaves every document in its place, with its identifier (`updateMany_updated`).
-/

namespace DocQuery

/-- A document has the identifier that it is entered under. -/
theorem IdSupply.get?_identify (supply : IdSupply) (d : Document) :
    (supply.identify d).1.2.get? "_id" = some (supply.identify d).1.1 := by
  rw [identify]
  cases hid : d.get? "_id" with
  | some id => exact hid
  | none => exact Document.get?_cons ..

/-! ## Runs of calls -/

/-- A call that inserts no document in which a name occurs twice. -/
def StoreCall.WellFormed : StoreCall → Prop
  | .insertMany _ docs => ∀ d ∈ docs, (Value.document d).WellFormed
  | .insertOne _ d => (Value.document d).WellFormed
  | _ => True

namespace Store

/-- The stores that calls arrive at. -/
inductive Reachable : Store → Prop where
  | empty : Reachable {}
  | call {s : Store} (supply : IdSupply) (c : StoreCall) :
      Reachable s → c.WellFormed → Reachable (s.perform supply c).2.1

/-! ## Lists of documents -/

/-- The identifiers of documents, where they have one. -/
def ids (docs : List Document) : List (Option Value) := docs.map fun d => d.get? "_id"

/-- Every document has an identifier, and each differs from the ones before it. -/
structure KeyedList (docs : List Document) : Prop where
  identified : ∀ x ∈ ids docs, ∃ v : Value, x = some v ∧ v.WellFormed
  apart : (ids docs).Pairwise fun x y => ∀ v ∈ x, ∀ w ∈ y, Value.same v w = false

theorem KeyedList.nil : KeyedList [] := ⟨by simp [ids], List.Pairwise.nil⟩

theorem KeyedList.of_ids_eq {docs later : List Document} (h : KeyedList docs) (he : ids later = ids docs) :
    KeyedList later :=
  ⟨by rw [he]; exact h.identified, by rw [he]; exact h.apart⟩

theorem KeyedList.sublist {docs kept : List Document} (h : KeyedList docs) (hs : kept.Sublist docs) :
    KeyedList kept :=
  ⟨fun x hx => h.identified x ((hs.map _).subset hx), h.apart.sublist (hs.map _)⟩

/-- What an identifier differs from, when no document has it. -/
theorem same_eq_false_of_hasId {docs : List Document} {id v : Value} (h : hasId docs id = false)
    (hv : some v ∈ ids docs) : Value.same v id = false := by
  obtain ⟨d, hd, hdv⟩ := List.mem_map.1 hv
  have hall := List.any_eq_false.1 h d hd
  rw [hdv] at hall
  exact Bool.eq_false_iff.2 hall

theorem KeyedList.concat {docs : List Document} (h : KeyedList docs) {d : Document} {id : Value}
    (hid : d.get? "_id" = some id) (hw : id.WellFormed) (hn : hasId docs id = false) :
    KeyedList (docs ++ [d]) := by
  have hids : ids (docs ++ [d]) = ids docs ++ [some id] := by
    rw [ids, List.map_append, List.map_singleton, hid]
    rfl
  constructor
  · rw [hids]
    intro x hx
    rcases List.mem_append.1 hx with hx | hx
    · exact h.identified x hx
    · exact ⟨id, List.mem_singleton.1 hx, hw⟩
  · rw [hids, List.pairwise_append]
    refine ⟨h.apart, List.pairwise_singleton _ _, ?_⟩
    intro x hx y hy v hv w hw'
    cases List.mem_singleton.1 hy
    cases Option.mem_some.1 hw'
    rw [Option.mem_def.1 hv] at hx
    exact same_eq_false_of_hasId hn hx

/-! ## Insertion -/

/-- An entry of a batch: the document beside its identifier. -/
def KeyedEntry (entry : Value × Document) : Prop :=
  entry.2.get? "_id" = some entry.1 ∧ entry.1.WellFormed

theorem keyedEntry_identify (supply : IdSupply) {d : Document} (h : (Value.document d).WellFormed) :
    KeyedEntry (supply.identify d).1 := by
  refine ⟨supply.get?_identify d, ?_⟩
  rw [IdSupply.identify]
  cases hid : d.get? "_id" with
  | some id =>
    rw [Value.WellFormed, Value.wellFormedFields_iff] at h
    exact h.2 _ (Document.mem_of_get? hid)
  | none => exact trivial

theorem keyedEntry_identifyAll (supply : IdSupply) {docs : List Document}
    (h : ∀ d ∈ docs, (Value.document d).WellFormed) :
    ∀ entry ∈ (supply.identifyAll docs).1, KeyedEntry entry := by
  induction docs generalizing supply with
  | nil => simp [IdSupply.identifyAll]
  | cons d rest ih =>
    obtain ⟨hd, hr⟩ := List.forall_mem_cons.1 h
    exact List.forall_mem_cons.2 ⟨keyedEntry_identify supply hd, ih _ hr⟩

/-- A batch goes in document by document, each apart from the stored ones and from the earlier ones. -/
theorem KeyedList.appendNew {name : String} {docs out : List Document} {entries : List (Value × Document)}
    (h : KeyedList docs) (he : ∀ entry ∈ entries, KeyedEntry entry)
    (ho : Store.appendNew name docs entries = .ok out) : KeyedList out := by
  induction entries generalizing docs with
  | nil =>
    cases ho
    exact h
  | cons entry rest ih =>
    obtain ⟨id, d⟩ := entry
    obtain ⟨⟨hid, hw⟩, hr⟩ := List.forall_mem_cons.1 he
    rw [Store.appendNew] at ho
    split at ho
    · cases ho
    · rename_i hn
      exact ih (h.concat hid hw (Bool.eq_false_iff.2 hn)) hr ho

/-! ## Collections -/

/-- Every collection has identified documents, no two with the same identifier. -/
def Keyed (s : Store) : Prop := ∀ c ∈ s.collections, KeyedList c.2

theorem Keyed.collection {s : Store} (h : s.Keyed) {name : String} {docs : List Document}
    (hc : s.collection? name = some docs) : KeyedList docs := by
  obtain ⟨before, after, hs, -⟩ := List.lookup_eq_some_iff.1 hc
  exact h (name, docs) (by rw [hs]; simp)

theorem Keyed.documents {s : Store} (h : s.Keyed) (name : String) : KeyedList (s.documents name) := by
  rw [Store.documents]
  cases hc : s.collection? name with
  | none => exact KeyedList.nil
  | some docs => exact h.collection hc

theorem mem_replaceIn {name : String} {docs : List Document} {cs : List (String × List Document)}
    {c : String × List Document} (h : c ∈ replaceIn name docs cs) : c = (name, docs) ∨ c ∈ cs := by
  induction cs with
  | nil => exact .inl (List.mem_singleton.1 h)
  | cons other rest ih =>
    rw [replaceIn] at h
    split at h
    · rcases List.mem_cons.1 h with h | h
      · exact .inl h
      · exact .inr (List.mem_cons_of_mem _ h)
    · rcases List.mem_cons.1 h with h | h
      · exact .inr (h ▸ List.mem_cons_self)
      · exact (ih h).imp_right (List.mem_cons_of_mem _)

theorem Keyed.replace {s : Store} (h : s.Keyed) (name : String) {docs : List Document} (hd : KeyedList docs) :
    (s.replace name docs).Keyed := by
  intro c hc
  rcases mem_replaceIn hc with rfl | hc
  · exact hd
  · exact h c hc

/-! ## Updates -/

/-- A document behind an update: as it was or as the update changes it, with its identifier. -/
def Updated (update d later : Document) : Prop :=
  later.get? "_id" = d.get? "_id" ∧ (later = d ∨ Update.changed? d update = .ok (some later))

/-- The same collections in the same places, and so are their documents. -/
def UpdatedStore (update : Document) (s t : Store) : Prop :=
  List.Forall₂ (fun c c' => c'.1 = c.1 ∧ List.Forall₂ (Updated update) c.2 c'.2) s.collections t.collections

theorem updated_refl (update d : Document) : Updated update d d := ⟨rfl, .inl rfl⟩

theorem updatedStore_of_collections {update : Document} {s t : Store} (h : t.collections = s.collections) :
    UpdatedStore update s t := by
  rw [UpdatedStore, h]
  exact List.forall₂_same.2 fun c _ => ⟨rfl, List.forall₂_same.2 fun d _ => updated_refl update d⟩

theorem updateOne_updated {filter update d later : Document} {count : UpdateCount}
    (h : updateOne filter update d = .ok (later, count)) : Updated update d later := by
  rw [updateOne, Outcome.bind_eq_ok_iff] at h
  obtain ⟨selected, -, h⟩ := h
  cases selected with
  | false =>
    cases h
    exact updated_refl update d
  | true =>
    obtain ⟨changed, hc, h⟩ := (Outcome.bind_eq_ok_iff _ _ _).1 h
    cases changed with
    | none =>
      cases h
      exact updated_refl update d
    | some out =>
      cases h
      exact ⟨Update.get?_id_of_changed? hc, .inr hc⟩

/-- One collection is replaced in its place, all others stay. -/
theorem forall₂_replaceIn {R : List Document → List Document → Prop} (hrefl : ∀ docs, R docs docs)
    {name : String} {docs later : List Document} (hr : R docs later) {cs : List (String × List Document)}
    (h : cs.lookup name = some docs) :
    List.Forall₂ (fun c c' => c'.1 = c.1 ∧ R c.2 c'.2) cs (replaceIn name later cs) := by
  induction cs with
  | nil => cases h
  | cons c rest ih =>
    obtain ⟨other, kept⟩ := c
    rw [replaceIn]
    by_cases hn : other = name
    · subst hn
      rw [List.lookup_cons_self] at h
      cases h
      rw [if_pos rfl]
      exact .cons ⟨rfl, hr⟩ (List.forall₂_same.2 fun c _ => ⟨rfl, hrefl c.2⟩)
    · rw [List.lookup_cons, beq_false_of_ne (Ne.symm hn)] at h
      rw [if_neg hn]
      exact .cons ⟨rfl, hrefl kept⟩ (ih h)

theorem updateMany_updated {s t : Store} {name : String} {filter update : Document} {count : UpdateCount}
    (h : s.updateMany name filter update = .ok (t, count)) : UpdatedStore update s t := by
  rw [updateMany, Outcome.bind_eq_ok_iff] at h
  obtain ⟨-, -, h⟩ := h
  cases hc : s.collection? name with
  | none =>
    rw [hc] at h
    cases h
    exact updatedStore_of_collections rfl
  | some docs =>
    rw [hc] at h
    obtain ⟨updated, hu, h⟩ := (Outcome.bind_eq_ok_iff _ _ _).1 h
    cases h
    refine forall₂_replaceIn (fun docs => List.forall₂_same.2 fun d _ => updated_refl update d) ?_ hc
    rw [List.forall₂_map_right_iff]
    exact (Outcome.traverse_eq_ok_iff.1 hu).imp fun d entry he => updateOne_updated he

/-- A call that updates leaves every document in its place, whether it succeeds or not. -/
theorem perform_updateMany_updated (s : Store) (supply : IdSupply) (name : String) (filter update : Document) :
    UpdatedStore update s (s.perform supply (.updateMany name filter update)).2.1 := by
  rcases hp : s.perform supply (.updateMany name filter update) with ⟨r, t, later⟩
  cases r with
  | ok reply =>
    obtain ⟨out, hu, ha⟩ := (Outcome.bind_eq_ok_iff _ _ _).1 (perform_ok hp)
    cases ha
    exact updateMany_updated hu
  | error f => exact updatedStore_of_collections (collections_of_perform_error hp)

theorem ids_of_updated {update : Document} {docs later : List Document}
    (h : List.Forall₂ (Updated update) docs later) : ids later = ids docs := by
  induction h with
  | nil => rfl
  | cons hd _ ih => exact congrArg₂ List.cons hd.1 ih

theorem Keyed.of_updated {s t : Store} (h : s.Keyed) {update : Document} (hu : UpdatedStore update s t) :
    t.Keyed := by
  intro c' hc'
  obtain ⟨i, hi, rfl⟩ := List.getElem_of_mem hc'
  have hlen : i < s.collections.length := by rw [hu.length_eq]; exact hi
  exact (h _ (List.getElem_mem hlen)).of_ids_eq (ids_of_updated (hu.get hlen hi).2)

/-! ## Calls -/

theorem Keyed.insertMany {s t : Store} (h : s.Keyed) {name : String} {entries : List (Value × Document)}
    (he : ∀ entry ∈ entries, KeyedEntry entry) (ht : s.insertMany name entries = .ok t) : t.Keyed := by
  rw [Store.insertMany, Outcome.bind_eq_ok_iff] at ht
  obtain ⟨-, -, ht⟩ := ht
  obtain ⟨docs, hd, ht⟩ := (Outcome.bind_eq_ok_iff _ _ _).1 ht
  cases ht
  exact h.replace name ((h.documents name).appendNew he hd)

theorem Keyed.deleteMany {s t : Store} (h : s.Keyed) {name : String} {filter : Document} {count : Nat}
    (ht : s.deleteMany name filter = .ok (t, count)) : t.Keyed := by
  rcases deleteMany_ok ht with ⟨-, rfl⟩ | ⟨docs, hc, rfl⟩
  · exact h
  · exact h.replace name ((h.collection hc).sublist List.filter_sublist)

theorem Keyed.drop {s t : Store} (h : s.Keyed) {name : String} (ht : s.drop name = .ok t) : t.Keyed := by
  rw [Store.drop, Outcome.bind_eq_ok_iff] at ht
  obtain ⟨-, -, ht⟩ := ht
  cases ht
  exact fun c hc => h c (List.mem_of_mem_filter hc)

theorem Keyed.answer {s t : Store} (h : s.Keyed) {supply later : IdSupply} {c : StoreCall} {reply : StoreReply}
    (hc : c.WellFormed) (ha : s.answer supply c = .ok (reply, t, later)) : t.Keyed := by
  cases c with
  | aggregate name pipeline =>
    obtain ⟨rows, -, ha⟩ := (Outcome.bind_eq_ok_iff _ _ _).1 ha
    cases ha
    exact h
  | insertMany name docs =>
    obtain ⟨t', ht, ha⟩ := (Outcome.bind_eq_ok_iff _ _ _).1 ha
    cases ha
    exact h.insertMany (keyedEntry_identifyAll supply hc) ht
  | insertOne name d =>
    obtain ⟨t', ht, ha⟩ := (Outcome.bind_eq_ok_iff _ _ _).1 ha
    cases ha
    exact h.insertMany (List.forall_mem_singleton.2 (keyedEntry_identify supply hc)) ht
  | updateMany name filter update =>
    obtain ⟨out, ht, ha⟩ := (Outcome.bind_eq_ok_iff _ _ _).1 ha
    cases ha
    exact h.of_updated (updateMany_updated ht)
  | deleteMany name filter =>
    obtain ⟨out, ht, ha⟩ := (Outcome.bind_eq_ok_iff _ _ _).1 ha
    cases ha
    exact h.deleteMany ht
  | drop name =>
    obtain ⟨t', ht, ha⟩ := (Outcome.bind_eq_ok_iff _ _ _).1 ha
    cases ha
    exact h.drop ht

/-- A call keeps identifiers apart; one that fails has changed no collection. -/
theorem Keyed.perform {s : Store} (h : s.Keyed) (supply : IdSupply) {c : StoreCall} (hc : c.WellFormed) :
    (s.perform supply c).2.1.Keyed := by
  rcases hp : s.perform supply c with ⟨r, t, later⟩
  cases r with
  | ok reply => exact h.answer hc (perform_ok hp)
  | error f =>
    show ∀ c ∈ t.collections, KeyedList c.2
    rw [collections_of_perform_error hp]
    exact h

theorem Reachable.keyed {s : Store} (h : s.Reachable) : s.Keyed := by
  induction h with
  | empty => exact fun c hc => nomatch hc
  | call supply c _ hc ih => exact ih.perform supply hc

/-! ## Main result -/

/-- Apart in one order is apart in both: identifiers are well-formed, so it does not matter which one is on
the left. -/
theorem KeyedList.apart_of_ne {docs : List Document} (h : KeyedList docs) {i j : Nat} {x y : Value}
    (hi : (ids docs)[i]? = some (some x)) (hj : (ids docs)[j]? = some (some y)) (hn : i ≠ j) :
    Value.same x y = false := by
  obtain ⟨hil, hi⟩ := List.getElem?_eq_some_iff.1 hi
  obtain ⟨hjl, hj⟩ := List.getElem?_eq_some_iff.1 hj
  have hpair := List.pairwise_iff_getElem.1 h.apart
  rcases Nat.lt_or_gt_of_ne hn with hlt | hlt
  · exact hpair i j hil hjl hlt x hi y hj
  · have hw : ∀ v, some v ∈ ids docs → v.WellFormed := by
      intro v hv
      obtain ⟨w, hvw, hw⟩ := h.identified _ hv
      cases hvw
      exact hw
    rw [Value.same_comm (hw x (hi ▸ List.getElem_mem hil)) (hw y (hj ▸ List.getElem_mem hjl))]
    exact hpair j i hjl hil hlt y hj x hi

theorem Keyed.identified {s : Store} (h : s.Keyed) : s.Identified := by
  intro c hc i j d e hd he
  have hk := h c hc
  have hget : ∀ {n : Nat} {f : Document}, c.2[n]? = some f → (ids c.2)[n]? = some (f.get? "_id") := by
    intro n f hf
    rw [ids, List.getElem?_map, hf]
    rfl
  obtain ⟨x, hx, -⟩ := hk.identified _ (List.mem_of_getElem? (hget hd))
  obtain ⟨y, hy, -⟩ := hk.identified _ (List.mem_of_getElem? (hget he))
  exact ⟨x, y, hx, hy, hk.apart_of_ne (hx ▸ hget hd) (hy ▸ hget he)⟩

/-- In every store that calls arrive at, all documents have identifiers and no two of a collection the same;
and an update of any store leaves every document in its place, with its identifier. -/
theorem reachable_identified {s : Store} (h : s.Reachable) :
    s.Identified ∧ ∀ (t : Store) (supply : IdSupply) (name : String) (filter update : Document),
      UpdatedStore update t (t.perform supply (.updateMany name filter update)).2.1 :=
  ⟨h.keyed.identified, perform_updateMany_updated⟩

/-- Two documents inserted at once, one of them without an identifier. -/
theorem reachable_identified_two :
    let s := (perform {} {} (.insertMany "t" [[("_id", .int32 1)], []])).2.1
    (s.documents "t").length = 2 ∧ s.Identified := by
  refine ⟨rfl, (reachable_identified (.call {} _ .empty ?_)).1⟩
  simp [StoreCall.WellFormed, Value.WellFormed, Value.WellFormedFields, Document.Distinct]

end Store

end DocQuery
