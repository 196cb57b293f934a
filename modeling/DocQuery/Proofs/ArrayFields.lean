import DocQuery.Proofs.Writing

/-!
# Arrays at paths

An operator on arrays reads the elements at a path and writes others there.  Reading sees through arrays and writing
does not, so that a write that succeeds has gone the way of the reading, and what is written does not matter to one that
fails:

    resolve d p = some w → set d p v = ok e → Leads d p w                                         (leads_of_set)
    set d p v = error f → set d p w = error f                                                      (set_error)

Two updates that write arrays over an array report the same only when the arrays are as long (`length_eq_of_reported`).
-/

namespace DocQuery

open Outcome

namespace Value

theorem length_eq_of_sameItems {xs ys : List Value} (h : sameItems xs ys = true) : xs.length = ys.length := by
  induction xs generalizing ys with
  | nil =>
    cases ys with
    | nil => rfl
    | cons => cases h
  | cons x xs ih =>
    cases ys with
    | nil => cases h
    | cons y ys =>
      rw [sameItems, Bool.and_eq_true] at h
      rw [List.length_cons, List.length_cons, ih h.2]

/-- Only an array is the same as an array, and it is as long. -/
theorem array_of_same {xs : List Value} {v : Value} (h : same (array xs) v = true) :
    ∃ ys, v = array ys ∧ xs.length = ys.length := by
  cases v with
  | array ys =>
    rw [same] at h
    exact ⟨ys, rfl, length_eq_of_sameItems h⟩
  | _ => cases h

end Value

namespace Path

variable {head : String} {tail : List String} {d e : Document} {p : Path} {v w : Value}

/-! ## Where a write goes -/

theorem reaches_of_setFrom (h : setFrom v head tail d = .ok e) (hread : descend (head :: tail) (.document d) = some w) :
    Reaches head tail d w := by
  induction tail generalizing head d e with
  | nil =>
    obtain ⟨x, hx, hend⟩ := Option.bind_eq_some_iff.1 hread
    cases hend
    exact .field hx
  | cons next rest ih =>
    obtain ⟨x, hx, hbelow⟩ := Option.bind_eq_some_iff.1 hread
    have hfield : d.get? head = some x := hx
    obtain ⟨inner, written, hinner | ⟨hnone, -⟩, hwritten, -⟩ := setFrom_cons_eq_ok h
    · rw [hfield] at hinner
      cases hinner
      exact .within hfield (ih hwritten hbelow)
    · rw [hfield] at hnone
      cases hnone

/-- What is read where a write succeeds stands in embedded documents. -/
theorem leads_of_set (h : set d p v = .ok e) (hread : resolve d p = some w) : Leads d p w :=
  reaches_of_setFrom h hread

theorem setFrom_error {f : StoreError} (h : setFrom v head tail d = .error f) (w : Value) :
    setFrom w head tail d = .error f := by
  have hmap : ∀ {a b : Except StoreError Document} {g : Document → Document} {f : StoreError},
      (∀ f, a = .error f → b = .error f) → a.map g = .error f → b.map g = .error f := by
    intro a b g f hab ha
    cases a with
    | ok _ => cases ha
    | error f =>
      cases ha
      rw [hab f rfl]
      rfl
  induction tail generalizing head d f with
  | nil => cases h
  | cons next rest ih =>
    rw [setFrom] at h ⊢
    split at h
    · exact hmap (fun _ hf => ih hf) h
    · exact hmap (fun _ hf => ih hf) h
    · exact h

/-- A write that fails does so whatever is written. -/
theorem set_error {f : StoreError} (h : set d p v = .error f) (w : Value) : set d p w = .error f := setFrom_error h w

end Path

namespace Update

variable {d e f : Document} {p : Path} {path : String}

/-- Reports of arrays written over an array tell how long these are. -/
theorem length_eq_of_reported {items xs ys : List Value} (hl : Path.Leads d p (.array items))
    (hx : Path.Leads e p (.array xs)) (hy : Path.Leads f p (.array ys)) (h : reported d e = reported d f) :
    xs.length = ys.length := by
  have hlength : ∀ {g : Document} {zs : List Value}, Path.Leads g p (.array zs) → Value.sameDocument g d = true →
      zs.length = items.length := by
    intro g zs hz hs
    obtain ⟨ys, hys, hlen⟩ := Value.array_of_same (hl.same hz hs)
    cases hys
    exact hlen
  unfold reported at h
  by_cases he : Value.sameDocument e d = true
  · by_cases hf : Value.sameDocument f d = true
    · rw [hlength hx he, hlength hy hf]
    · rw [if_pos he, if_neg hf] at h
      cases h
  · by_cases hf : Value.sameDocument f d = true
    · rw [if_neg he, if_pos hf] at h
      cases h
    · rw [if_neg he, if_neg hf] at h
      cases h
      cases hx.unique hy
      rfl

end Update

end DocQuery
