import DocQuery.Proofs.Writing

/-!
# Documents up to the order of their fields

Fields of different names may change places, in a document and in the documents embedded in it; all else stays
(`Document.Reordered`).  Reading, writing and removing a field do not see the difference:

    d.Reordered e → d.get? k and e.get? k are none, equal, or reordered documents            (Reordered.get?)
    d.Reordered e → (d.put k v).Reordered (e.put k w)      for v and w that are the same so    (Reordered.put)
    d.Reordered e → sameDocument d x = sameDocument e x                                        (Reordered.sameDocument)

and changes of two fields commute (`put_comm`).
-/

namespace DocQuery

/-! ## Definitions -/

namespace Document

/-- The same fields in another order: fields of different names have changed places, here or in an embedded
document.  Equal names, where a list of fields has them, stay in their order. -/
inductive Reordered : Document → Document → Prop where
  | nil : Reordered [] []
  | cons (f : String × Value) {d e : Document} (h : Reordered d e) : Reordered (f :: d) (f :: e)
  | within (name : String) {d e : Document} (h : Reordered d e) (rest : Document) :
      Reordered ((name, .document d) :: rest) ((name, .document e) :: rest)
  | swap {name other : String} (h : name ≠ other) (v w : Value) (rest : Document) :
      Reordered ((name, v) :: (other, w) :: rest) ((other, w) :: (name, v) :: rest)
  | trans {d e f : Document} (h : Reordered d e) (k : Reordered e f) : Reordered d f

/-- Writes a field, or removes it where there is no value. -/
def put (d : Document) (name : String) : Option Value → Document
  | some v => d.insert name v
  | none => d.erase name

end Document

/-- The same value, or documents with the same fields in another order. -/
inductive Value.Reordered : Value → Value → Prop where
  | self (v : Value) : Reordered v v
  | document {d e : Document} (h : d.Reordered e) : Reordered (.document d) (.document e)

namespace Document

/-! ## Reorderings -/

theorem Reordered.refl (d : Document) : d.Reordered d := by
  induction d with
  | nil => exact .nil
  | cons f _ ih => exact .cons f ih

end Document

theorem Value.Reordered.trans {u v w : Value} (h : u.Reordered v) (k : v.Reordered w) : u.Reordered w := by
  cases h with
  | self => exact k
  | document h =>
    cases k with
    | self => exact .document h
    | document k => exact .document (h.trans k)

theorem Value.reordered_refl (o : Option Value) : Option.Rel Value.Reordered o o := by
  cases o with
  | none => exact .none
  | some v => exact .some (.self v)

theorem Value.reordered_document_iff {d e : Document} :
    (Value.document d).Reordered (.document e) ↔ d.Reordered e := by
  constructor
  · rintro (_ | h)
    · exact .refl d
    · exact h
  · exact .document

namespace Document

variable {d e : Document} {name other : String} {v w : Value}

/-- The first field may hold the same value in another order. -/
theorem Reordered.head (name : String) (h : v.Reordered w) (d : Document) :
    Reordered ((name, v) :: d) ((name, w) :: d) := by
  cases h with
  | self => exact .refl _
  | document h => exact .within name h d

/-! ## Reading -/

theorem Reordered.length_eq (h : d.Reordered e) : d.length = e.length := by
  induction h with
  | nil => rfl
  | cons _ _ ih => exact congrArg (· + 1) ih
  | within => rfl
  | swap => rfl
  | trans _ _ ihd ihe => exact ihd.trans ihe

theorem Reordered.get? (h : d.Reordered e) (name : String) :
    Option.Rel Value.Reordered (d.get? name) (e.get? name) := by
  induction h with
  | nil => exact .none
  | cons f _ ih =>
    obtain ⟨k, v⟩ := f
    rw [get?_cons, get?_cons]
    split
    · exact .some (.self v)
    · exact ih
  | within k h rest =>
    rw [get?_cons, get?_cons]
    split
    · exact .some (.document h)
    · exact Value.reordered_refl _
  | @swap k j h v w rest =>
    by_cases hk : k = name
    · have hj : j ≠ name := fun hj => h (hk.trans hj.symm)
      simp only [get?_cons, if_pos hk, if_neg hj]
      exact Value.reordered_refl _
    · simp only [get?_cons, if_neg hk]
      exact Value.reordered_refl _
  | @trans d e f _ _ ihd ihe =>
    generalize d.get? name = x at ihd
    generalize e.get? name = y at ihd ihe
    generalize f.get? name = z at ihe
    cases ihd with
    | none => exact ihe
    | some h =>
      cases ihe with
      | some k => exact .some (h.trans k)

/-! ## Writing and removing -/

theorem insert_cons (k : String) (u : Value) (rest : Document) (name : String) (v : Value) :
    insert ((k, u) :: rest) name v = if k = name then (k, v) :: rest else (k, u) :: insert rest name v := rfl

theorem erase_cons (k : String) (u : Value) (rest : Document) (name : String) :
    erase ((k, u) :: rest) name = if k = name then rest else (k, u) :: erase rest name := rfl

theorem reordered_insert (d : Document) (name : String) (h : v.Reordered w) :
    (d.insert name v).Reordered (d.insert name w) := by
  induction d with
  | nil => exact .head name h []
  | cons f rest ih =>
    obtain ⟨k, u⟩ := f
    rw [insert_cons, insert_cons]
    split
    · exact .head k h rest
    · exact .cons _ ih

theorem Reordered.insert (hd : d.Reordered e) (name : String) (h : v.Reordered w) :
    (d.insert name v).Reordered (e.insert name w) := by
  induction hd generalizing v w with
  | nil => exact .head name h []
  | cons f hd ih =>
    obtain ⟨k, u⟩ := f
    rw [insert_cons, insert_cons]
    split
    · exact (Reordered.cons _ hd).trans (.head k h _)
    · exact .cons _ (ih h)
  | within k hd rest =>
    rw [insert_cons, insert_cons]
    split
    · exact .head k h rest
    · exact (Reordered.within k hd _).trans (.cons _ (reordered_insert rest name h))
  | @swap k j hne u t rest =>
    by_cases hk : k = name
    · have hj : j ≠ name := fun hj => hne (hk.trans hj.symm)
      simp only [insert_cons, if_pos hk, if_neg hj]
      exact (Reordered.head k h _).trans (.swap hne w t rest)
    · by_cases hj : j = name
      · simp only [insert_cons, if_neg hk, if_pos hj]
        exact (Reordered.swap hne u v rest).trans (.head j h _)
      · simp only [insert_cons, if_neg hk, if_neg hj]
        exact (Reordered.swap hne u t _).trans (.cons _ (.cons _ (reordered_insert rest name h)))
  | trans _ _ ihd ihe => exact (ihd (.self v)).trans (ihe h)

theorem Reordered.erase (hd : d.Reordered e) (name : String) : (d.erase name).Reordered (e.erase name) := by
  induction hd with
  | nil => exact .nil
  | cons f hd ih =>
    obtain ⟨k, u⟩ := f
    rw [erase_cons, erase_cons]
    split
    · exact hd
    · exact .cons _ ih
  | within k hd rest =>
    rw [erase_cons, erase_cons]
    split
    · exact .refl rest
    · exact .within k hd _
  | @swap k j hne u t rest =>
    by_cases hk : k = name
    · have hj : j ≠ name := fun hj => hne (hk.trans hj.symm)
      simp only [erase_cons, if_pos hk, if_neg hj]
      exact .refl _
    · simp only [erase_cons, if_neg hk]
      split
      · exact .refl _
      · exact .swap hne u t _
  | trans _ _ ihd ihe => exact ihd.trans ihe

theorem Reordered.put (hd : d.Reordered e) (name : String) {o p : Option Value}
    (h : Option.Rel Value.Reordered o p) : (d.put name o).Reordered (e.put name p) := by
  cases h with
  | none => exact hd.erase name
  | some h => exact hd.insert name h

/-! ## Two changes -/

theorem insert_comm (h : name ≠ other) (d : Document) (v w : Value) :
    ((d.insert name v).insert other w).Reordered ((d.insert other w).insert name v) := by
  induction d with
  | nil =>
    show Reordered (if name = other then _ else _) (if other = name then _ else _)
    rw [if_neg h, if_neg h.symm]
    exact .swap h v w []
  | cons f rest ih =>
    obtain ⟨k, u⟩ := f
    by_cases hk : k = name
    · subst hk
      simp only [insert_cons, if_true, if_neg h]
      exact .refl _
    · by_cases hj : k = other
      · subst hj
        simp only [insert_cons, if_true, if_neg hk]
        exact .refl _
      · simp only [insert_cons, if_neg hk, if_neg hj]
        exact .cons _ ih

theorem erase_insert_comm (h : name ≠ other) (d : Document) (w : Value) :
    (d.erase name).insert other w = (d.insert other w).erase name := by
  induction d with
  | nil =>
    show _ = if other = name then _ else _
    rw [if_neg h.symm]
    rfl
  | cons f rest ih =>
    obtain ⟨k, u⟩ := f
    by_cases hk : k = name
    · subst hk
      simp only [insert_cons, erase_cons, if_true, if_neg h]
    · by_cases hj : k = other
      · subst hj
        simp only [insert_cons, erase_cons, if_true, if_neg hk]
      · simp only [insert_cons, erase_cons, if_neg hk, if_neg hj, ih]

theorem erase_comm (h : name ≠ other) (d : Document) : (d.erase name).erase other = (d.erase other).erase name := by
  induction d with
  | nil => rfl
  | cons f rest ih =>
    obtain ⟨k, u⟩ := f
    by_cases hk : k = name
    · subst hk
      simp only [erase_cons, if_true, if_neg h]
    · by_cases hj : k = other
      · subst hj
        simp only [erase_cons, if_true, if_neg hk]
      · simp only [erase_cons, if_neg hk, if_neg hj, ih]

/-- Changes of two fields give the same fields, whichever comes first. -/
theorem put_comm (h : name ≠ other) (d : Document) (o p : Option Value) :
    ((d.put name o).put other p).Reordered ((d.put other p).put name o) := by
  cases o with
  | some v =>
    cases p with
    | some w => exact insert_comm h d v w
    | none =>
      show Reordered ((d.insert name v).erase other) ((d.erase other).insert name v)
      rw [erase_insert_comm h.symm]
      exact .refl _
  | none =>
    cases p with
    | some w =>
      show Reordered ((d.erase name).insert other w) ((d.insert other w).erase name)
      rw [erase_insert_comm h]
      exact .refl _
    | none =>
      show Reordered ((d.erase name).erase other) ((d.erase other).erase name)
      rw [erase_comm h]
      exact .refl _

theorem get?_put_of_ne (h : name ≠ other) (d : Document) (o : Option Value) :
    (d.put name o).get? other = d.get? other := by
  cases o with
  | some v => exact get?_insert_of_ne d h v
  | none => exact get?_erase_of_ne d h

theorem erase_of_get?_eq_none (h : d.get? name = none) : d.erase name = d := by
  induction d with
  | nil => rfl
  | cons f rest ih =>
    obtain ⟨k, u⟩ := f
    rw [get?_cons] at h
    by_cases hk : k = name
    · rw [if_pos hk] at h
      cases h
    · rw [if_neg hk] at h
      rw [erase_cons, if_neg hk, ih h]

/-- A field is what was put there; nothing, where only a missing field was removed. -/
theorem get?_put_self {o : Option Value} (h : o = none → d.get? name = none) : (d.put name o).get? name = o := by
  cases o with
  | some v => exact get?_insert_self d name v
  | none =>
    show (d.erase name).get? name = none
    rw [erase_of_get?_eq_none (h rfl), h rfl]

theorem put_put {o p : Option Value} (ho : o = none → d.get? name = none) (hp : p = none → o = none) :
    (d.put name o).put name p = d.put name p := by
  cases o with
  | none =>
    show (d.erase name).put name p = _
    rw [erase_of_get?_eq_none (ho rfl)]
  | some v =>
    cases p with
    | none => cases hp rfl
    | some w => exact insert_insert d name v w

/-! ## Strict equality -/

theorem Reordered.sameFields (h : d.Reordered e) (x : Document) :
    Value.sameFields d x = Value.sameFields e x := by
  induction h generalizing x with
  | nil => rfl
  | cons f _ ih => rw [Value.sameFields, Value.sameFields, ih]
  | @within name d e h rest ih =>
    have hsame : ∀ w, Value.same (.document d) w = Value.same (.document e) w := by
      intro w
      cases w with
      | document x => rw [Value.same, Value.same, h.length_eq, ih]
      | _ => rfl
    simp only [Value.sameFields, hsame]
  | swap => simp only [Value.sameFields, Bool.and_left_comm]
  | trans _ _ ihd ihe => exact (ihd x).trans (ihe x)

/-- Strict equality does not depend on the order of fields. -/
theorem Reordered.sameDocument (h : d.Reordered e) (x : Document) :
    Value.sameDocument d x = Value.sameDocument e x := by
  rw [Value.sameDocument, Value.sameDocument, Value.same, Value.same, h.length_eq, h.sameFields]

end Document

end DocQuery
