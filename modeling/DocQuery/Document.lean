import DocQuery.Value

/-!
# Documents as ordered maps

Reading, writing and removing a field by name.  A written field keeps its place, a new one goes last:

    get? (insert d k v) k = some v                                    (get?_insert_self)
    k ≠ j → get? (insert d k v) j = get? d j                          (get?_insert_of_ne)
    keys (insert d k v) = keys d            when k is a field of d,
                        = keys d ++ [k]     otherwise                  (keys_insert)
-/

namespace DocQuery.Document

open DocQuery

/-! ## Algorithm -/

def keys (d : Document) : List String := d.map Prod.fst

/-- The value of the first field of that name. -/
def get? : Document → String → Option Value
  | [], _ => none
  | (k, v) :: rest, name => if k = name then some v else get? rest name

def contains (d : Document) (name : String) : Bool := (get? d name).isSome

/-- Writes a field: in its place when the name is there, at the end when it is new. -/
def insert : Document → String → Value → Document
  | [], name, v => [(name, v)]
  | (k, w) :: rest, name, v => if k = name then (k, v) :: rest else (k, w) :: insert rest name v

/-- Removes a field and keeps the order of the others. -/
def erase : Document → String → Document
  | [], _ => []
  | (k, v) :: rest, name => if k = name then rest else (k, v) :: erase rest name

/-- Writes the fields of a list one after the other. -/
def insertAll (d : Document) (fields : List (String × Value)) : Document :=
  fields.foldl (fun d f => insert d f.1 f.2) d

/-- The document of a list of fields, in which a repeated name writes again over the first one. -/
def ofFields (fields : List (String × Value)) : Document := insertAll [] fields

/-- No name occurs twice. -/
def Distinct (d : Document) : Prop := (keys d).Nodup

/-! ## Lemmas -/

@[simp] theorem keys_nil : keys [] = [] := rfl

@[simp] theorem keys_cons (k : String) (v : Value) (rest : Document) :
    keys ((k, v) :: rest) = k :: keys rest := rfl

@[simp] theorem get?_nil (name : String) : get? [] name = none := rfl

theorem get?_cons (k : String) (v : Value) (rest : Document) (name : String) :
    get? ((k, v) :: rest) name = if k = name then some v else get? rest name := rfl

theorem get?_insert_self (d : Document) (name : String) (v : Value) :
    get? (insert d name v) name = some v := by
  induction d with
  | nil => simp [insert, get?]
  | cons f rest ih =>
    obtain ⟨k, w⟩ := f
    by_cases h : k = name <;> simp [insert, get?, h, ih]

theorem get?_insert_of_ne (d : Document) {name other : String} (h : name ≠ other) (v : Value) :
    get? (insert d name v) other = get? d other := by
  induction d with
  | nil => simp [insert, get?, h]
  | cons f rest ih =>
    obtain ⟨k, w⟩ := f
    by_cases hk : k = name
    · subst hk; simp [insert, get?, h]
    · simp [insert, get?, hk, ih]

theorem get?_eq_none_iff (d : Document) (name : String) : get? d name = none ↔ name ∉ keys d := by
  induction d with
  | nil => simp [keys]
  | cons f rest ih =>
    obtain ⟨k, w⟩ := f
    by_cases h : k = name
    · simp [get?, keys, h]
    · have h' : name ≠ k := fun e => h e.symm
      simpa [get?, keys, h, h'] using ih

theorem mem_of_get? {d : Document} {name : String} {v : Value} (h : get? d name = some v) : (name, v) ∈ d := by
  induction d with
  | nil => cases h
  | cons f rest ih =>
    obtain ⟨k, w⟩ := f
    rw [get?_cons] at h
    by_cases hk : k = name
    · rw [if_pos hk] at h
      cases h
      rw [hk]
      exact List.mem_cons_self
    · rw [if_neg hk] at h
      exact List.mem_cons_of_mem _ (ih h)

theorem get?_of_mem {d : Document} (hd : Distinct d) {name : String} {v : Value} (h : (name, v) ∈ d) :
    get? d name = some v := by
  induction d with
  | nil => cases h
  | cons f rest ih =>
    obtain ⟨k, w⟩ := f
    have hn := List.nodup_cons.1 hd
    rw [get?_cons]
    rcases List.mem_cons.1 h with h | h
    · cases h
      rw [if_pos rfl]
    · have hk : k ≠ name := by
        rintro rfl
        exact hn.1 (List.mem_map.2 ⟨(k, v), h, rfl⟩)
      rw [if_neg hk]
      exact ih hn.2 h

theorem get?_erase_of_ne (d : Document) {name other : String} (h : name ≠ other) :
    get? (erase d name) other = get? d other := by
  induction d with
  | nil => rfl
  | cons f rest ih =>
    obtain ⟨k, w⟩ := f
    by_cases hk : k = name
    · subst hk; simp [erase, get?, h]
    · simp [erase, get?, hk, ih]

theorem contains_iff (d : Document) (name : String) : contains d name = true ↔ name ∈ keys d := by
  have h := get?_eq_none_iff d name
  unfold contains
  cases hg : get? d name with
  | none => simp [h.1 hg]
  | some v =>
    have : ¬ (name ∉ keys d) := fun hn => by simp [h.2 hn] at hg
    simpa using this

theorem keys_insert (d : Document) (name : String) (v : Value) :
    keys (insert d name v) = if name ∈ keys d then keys d else keys d ++ [name] := by
  induction d with
  | nil => simp [insert]
  | cons f rest ih =>
    obtain ⟨k, w⟩ := f
    by_cases h : k = name
    · simp [insert, h]
    · have h' : name ≠ k := fun e => h e.symm
      simp only [insert, h, if_false, keys_cons, ih, List.mem_cons, h', false_or]
      split <;> simp

theorem Distinct.insert {d : Document} (h : Distinct d) (name : String) (v : Value) :
    Distinct (insert d name v) := by
  unfold Distinct at *
  rw [keys_insert]
  split
  · exact h
  · rename_i hn
    rw [List.nodup_append]
    refine ⟨h, by simp, ?_⟩
    intro a ha b hb hab
    simp at hb
    subst hb
    subst hab
    exact hn ha

end DocQuery.Document
