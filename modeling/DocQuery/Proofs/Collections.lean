import DocQuery.Proofs.Failures
import DocQuery.Proofs.Outcomes

/-!
# Documents behind a handle

What a call does is told by the documents of each collection behind each handle:

    d.documents h n        the documents of the collection n of the store behind h

A read runs its pipeline over them (`perform_aggregate_ok`), a delete takes out the documents that its filter
accepts and leaves all other collections (`perform_deleteMany_ok`), and a call that fails leaves them all, also
where it overflows (`documents_of_perform_error`).
-/

namespace DocQuery

open Outcome

/-! ## One store -/

namespace Store

theorem lookup_cons_eq {α : Type} (k other : String) (a : α) (rest : List (String × α)) :
    ((k, a) :: rest).lookup other = if other = k then some a else rest.lookup other := by
  rw [List.lookup_cons]
  by_cases h : other = k
  · subst h
    simp
  · rw [beq_false_of_ne h, if_neg h]

theorem lookup_replaceIn (name other : String) (docs : List Document) (cs : List (String × List Document)) :
    (replaceIn name docs cs).lookup other = if other = name then some docs else cs.lookup other := by
  induction cs with
  | nil =>
    rw [replaceIn, lookup_cons_eq]
  | cons c rest ih =>
    obtain ⟨first, kept⟩ := c
    rw [replaceIn]
    by_cases hf : first = name
    · rw [if_pos hf, lookup_cons_eq, lookup_cons_eq, hf]
      by_cases h : other = name
      · rw [if_pos h, if_pos h]
      · rw [if_neg h, if_neg h, if_neg h]
    · rw [if_neg hf, lookup_cons_eq, lookup_cons_eq, ih]
      by_cases h : other = first
      · have hn : other ≠ name := fun hn => hf (h.symm.trans hn)
        rw [if_pos h, if_neg hn, if_pos h]
      · rw [if_neg h, if_neg h]

theorem replaceIn_replaceIn (name : String) (docs later : List Document) (cs : List (String × List Document)) :
    replaceIn name later (replaceIn name docs cs) = replaceIn name later cs := by
  induction cs with
  | nil => simp [replaceIn]
  | cons c rest ih =>
    obtain ⟨other, kept⟩ := c
    by_cases h : other = name
    · rw [replaceIn, if_pos h, replaceIn, if_pos rfl, replaceIn, if_pos h]
    · rw [replaceIn, if_neg h, replaceIn, if_neg h, replaceIn, if_neg h, ih]

theorem replaceIn_of_lookup {name : String} {docs : List Document} {cs : List (String × List Document)}
    (h : cs.lookup name = some docs) : replaceIn name docs cs = cs := by
  induction cs with
  | nil => cases h
  | cons c rest ih =>
    obtain ⟨other, kept⟩ := c
    rw [lookup_cons_eq] at h
    rw [replaceIn]
    by_cases hn : other = name
    · rw [if_pos hn.symm] at h
      cases h
      rw [if_pos hn, hn]
    · rw [if_neg (Ne.symm hn)] at h
      rw [if_neg hn, ih h]

theorem documents_replace (s : Store) (name other : String) (docs : List Document) :
    (s.replace name docs).documents other = if other = name then docs else s.documents other := by
  rw [documents, collection?, replace, lookup_replaceIn]
  by_cases h : other = name
  · rw [if_pos h, if_pos h]
    rfl
  · rw [if_neg h, if_neg h]
    rfl

theorem documents_replace_self (s : Store) (name : String) (docs : List Document) :
    (s.replace name docs).documents name = docs := by
  rw [documents_replace, if_pos rfl]

theorem replace_replace (s : Store) (name : String) (docs later : List Document) :
    (s.replace name docs).replace name later = s.replace name later := by
  rw [replace, replace, replaceIn_replaceIn]
  rfl

/-- Putting a collection where it is changes nothing. -/
theorem replace_of_collection? {s : Store} {name : String} {docs : List Document}
    (hc : s.collection? name = some docs) : s.replace name docs = s := by
  rw [replace, replaceIn_of_lookup hc]

/-- A delete leaves the documents that its filter does not accept. -/
theorem deleteMany_ok {s t : Store} {name : String} {filter : Document} {count : Nat}
    (h : s.deleteMany name filter = .ok (t, count)) :
    (s.collection? name = none ∧ t = s) ∨ ∃ docs, s.collection? name = some docs ∧
      t = s.replace name (docs.filter fun d => Filter.accepts filter d ≠ .ok true) := by
  rw [deleteMany, bind_eq_ok_iff] at h
  obtain ⟨-, -, h⟩ := h
  cases hc : s.collection? name with
  | none =>
    rw [hc] at h
    cases h
    exact .inl ⟨rfl, rfl⟩
  | some docs =>
    rw [hc] at h
    obtain ⟨kept, hk, h⟩ := (bind_eq_ok_iff _ _ _).1 h
    cases h
    obtain ⟨rfl, hall⟩ := eq_filter_of_keep hk
    refine .inr ⟨docs, rfl, congrArg (s.replace name) (List.filter_congr fun d hd => ?_)⟩
    obtain ⟨b, hb⟩ := hall d hd
    obtain ⟨accepted, ha, rfl⟩ := (map_eq_ok_iff _ _ _).1 hb
    rw [ha]
    cases accepted <;> rfl

theorem documents_deleteMany {s t : Store} {name : String} {filter : Document} {count : Nat}
    (h : s.deleteMany name filter = .ok (t, count)) (other : String) :
    t.documents other =
      if other = name then (s.documents other).filter fun d => Filter.accepts filter d ≠ .ok true
      else s.documents other := by
  rcases deleteMany_ok h with ⟨hc, rfl⟩ | ⟨docs, hc, rfl⟩
  · by_cases ho : other = name
    · subst ho
      rw [if_pos rfl, documents, hc]
      rfl
    · rw [if_neg ho]
  · rw [documents_replace]
    by_cases ho : other = name
    · subst ho
      rw [if_pos rfl, if_pos rfl, documents, hc]
      rfl
    · rw [if_neg ho, if_neg ho]

theorem perform_ok {s t : Store} {supply later : IdSupply} {call : StoreCall} {reply : StoreReply}
    (h : s.perform supply call = (.ok reply, t, later)) : s.answer supply call = .ok (reply, t, later) := by
  rw [perform.eq_def] at h
  split at h
  · rename_i ha
    cases h
    exact ha
  · cases h
  · cases h

theorem collections_of_perform_error {s t : Store} {supply later : IdSupply} {call : StoreCall} {f : Failure}
    (h : s.perform supply call = (.error f, t, later)) : t.collections = s.collections := by
  rw [perform.eq_def] at h
  split at h
  · cases h
  · cases h
    rfl
  · cases h
    rfl

end Store

/-! ## All stores -/

namespace Deployment

/-- The documents of a collection of the store behind a handle. -/
def documents (d : Deployment) (handle : Nat) (name : String) : List Document :=
  match d.store? handle with
  | some s => s.documents name
  | none => []

theorem documents_of_store? {d : Deployment} {handle : Nat} {s : Store} (h : d.store? handle = some s)
    (name : String) : d.documents handle name = s.documents name := by
  rw [documents, h]

/-- The store behind a handle is exchanged, all others stay. -/
theorem documents_set {d : Deployment} {handle : Nat} {b : Backend} (h : d.backends[handle]? = some b)
    (t : Store) (supply : IdSupply) (other : Nat) (name : String) :
    (⟨d.backends.set handle (.memory t), supply⟩ : Deployment).documents other name =
      if other = handle then t.documents name else d.documents other name := by
  obtain ⟨hlt, -⟩ := List.getElem?_eq_some_iff.1 h
  by_cases ho : other = handle
  · subst ho
    rw [if_pos rfl]
    exact documents_of_store? (by rw [store?, List.getElem?_set_self hlt]) name
  · rw [if_neg ho, documents, store?, List.getElem?_set_ne (Ne.symm ho)]
    rfl

/-- A call on a store that answers it. -/
theorem perform_ok {d d' : Deployment} {handle : Nat} {call : StoreCall} {reply : StoreReply}
    (h : d.perform handle call = (.ok reply, d')) :
    ∃ s t supply, d.backends[handle]? = some (.memory s) ∧ s.answer d.supply call = .ok (reply, t, supply) ∧
      d' = ⟨d.backends.set handle (.memory t), supply⟩ := by
  rcases perform_cases h with ⟨s, t, supply, hb, hp, hd⟩ | ⟨reason, hr, -⟩
  · exact ⟨s, t, supply, hb, Store.perform_ok hp, hd⟩
  · cases hr

theorem documents_of_backend {d : Deployment} {handle : Nat} {s : Store}
    (h : d.backends[handle]? = some (.memory s)) (name : String) :
    d.documents handle name = s.documents name :=
  documents_of_store? (by rw [store?, h]) name

/-- A read gives the rows of its pipeline. -/
theorem perform_aggregate_ok {d d' : Deployment} {handle : Nat} {name : String} {pipeline : List Document}
    {reply : StoreReply} (h : d.perform handle (.aggregate name pipeline) = (.ok reply, d')) :
    ∃ rows, reply = .rows rows ∧ Pipeline.run pipeline (d.documents handle name) = .ok rows := by
  obtain ⟨s, t, supply, hb, ha, -⟩ := perform_ok h
  obtain ⟨rows, hr, ha⟩ := (bind_eq_ok_iff _ _ _).1 ha
  cases ha
  obtain ⟨-, -, hr⟩ := (bind_eq_ok_iff _ _ _).1 hr
  exact ⟨rows, rfl, by rw [documents_of_backend hb]; exact hr⟩

/-- A delete takes accepted documents out of its collection. -/
theorem perform_deleteMany_ok {d d' : Deployment} {handle : Nat} {name : String} {filter : Document}
    {reply : StoreReply} (h : d.perform handle (.deleteMany name filter) = (.ok reply, d')) (other : Nat)
    (n : String) :
    d'.documents other n =
      if other = handle ∧ n = name then
        (d.documents other n).filter fun doc => Filter.accepts filter doc ≠ .ok true
      else d.documents other n := by
  obtain ⟨s, t, supply, hb, ha, rfl⟩ := perform_ok h
  obtain ⟨out, hd, ha⟩ := (bind_eq_ok_iff _ _ _).1 ha
  cases ha
  rw [documents_set hb]
  by_cases ho : other = handle
  · subst ho
    rw [if_pos rfl, Store.documents_deleteMany hd, documents_of_backend hb]
    by_cases hn : n = name
    · rw [if_pos hn, if_pos ⟨rfl, hn⟩]
    · rw [if_neg hn, if_neg fun h => hn h.2]
  · rw [if_neg ho, if_neg fun h => ho h.1]

/-- A call that fails changes no document, even where it locks the store. -/
theorem documents_of_perform_error {d d' : Deployment} {handle : Nat} {call : StoreCall} {f : Failure}
    (h : d.perform handle call = (.error f, d')) (other : Nat) (n : String) :
    d'.documents other n = d.documents other n := by
  rcases perform_cases h with ⟨s, t, supply, hb, hp, rfl⟩ | ⟨-, -, rfl⟩
  · rw [documents_set hb]
    by_cases ho : other = handle
    · subst ho
      rw [if_pos rfl, documents_of_backend hb, Store.documents, Store.collection?,
        Store.collections_of_perform_error hp]
      rfl
    · rw [if_neg ho]
  · rfl

end Deployment

/-! ## Dispatches -/

namespace Session

/-- What a select gives: nothing in a dry run, otherwise the rows of its pipeline. -/
theorem select_aggregate_ok {s t : Session} {name : String} {stages : List Stage} {options : Document}
    {useRead : Bool} {rows : List Document}
    (h : (select (.aggregate name stages options) useRead).on s = (.ok rows, t)) :
    rows = [] ∨ Pipeline.run (stages.map Stage.toDocument)
      (s.deployment.documents (s.connection.readHandle useRead) name) = .ok rows := by
  rw [select_on] at h
  split at h
  · cases h
    exact .inl rfl
  · rw [send_on] at h
    rcases hp : s.deployment.perform (s.connection.readHandle useRead)
        (Statement.aggregate name stages options).toCall with ⟨r, deployment⟩
    rw [hp] at h
    cases r with
    | error f => cases f <;> cases h
    | ok reply =>
      cases h
      obtain ⟨rows, rfl, hr⟩ := Deployment.perform_aggregate_ok hp
      exact .inr hr

/-- What a delete leaves: everything in a dry run, otherwise all but what its filter accepts. -/
theorem affecting_deleteMany_ok {s t : Session} {name : String} {filter : Document} {n : UInt64}
    (h : (affecting (.deleteMany name filter)).on s = (.ok n, t)) (handle : Nat) (other : String) :
    t.deployment.documents handle other =
      if s.connection.pretending = false ∧ handle = s.connection.write ∧ other = name then
        (s.deployment.documents handle other).filter fun d => Filter.accepts filter d ≠ .ok true
      else s.deployment.documents handle other := by
  rw [affecting_on] at h
  split at h
  · rename_i hd
    cases h
    rw [hd, if_neg (by simp)]
    rfl
  · rename_i hd
    rw [send_on] at h
    rcases hp : s.deployment.perform s.connection.write (Statement.deleteMany name filter).toCall
      with ⟨r, deployment⟩
    rw [hp] at h
    cases r with
    | error f => cases f <;> cases h
    | ok reply =>
      cases h
      rw [Bool.eq_false_iff.2 hd]
      simp only [true_and]
      exact Deployment.perform_deleteMany_ok hp handle other

/-- A write that fails, also by an overflow, changes no document. -/
theorem documents_of_affecting_error {s t : Session} {st : Statement} {e : Fault}
    (h : (affecting st).on s = (.error e, t)) (handle : Nat) (name : String) :
    t.deployment.documents handle name = s.deployment.documents handle name := by
  rw [affecting_on] at h
  split at h
  · cases h
  · rw [send_on] at h
    rcases hp : s.deployment.perform s.connection.write st.toCall with ⟨r, deployment⟩
    rw [hp] at h
    cases r with
    | ok reply => cases h
    | error f =>
      have hd := Deployment.documents_of_perform_error hp handle name
      cases f <;> cases h <;> exact hd

end Session

end DocQuery
