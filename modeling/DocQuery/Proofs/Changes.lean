import DocQuery.Proofs.FieldOrder

/-!
# Changes at paths

An update writes a value at the end of a path, or removes what is there (`Change`).  Paths of which neither runs along
the other do not get in each other's way:

    a change at p keeps what is read at q, also through arrays                           (Change.resolve_on)
    a change at q that was possible stays so behind one at p                             (Change.on_of_on)
    changes at p and at q commute up to the order of fields, or fail both ways           (Change.on_comm)

So steps at such paths, each with a change of its own, end in the same fields whatever their order
(`Step.runAll_perm`).
-/

namespace DocQuery

open Outcome

/-- What is done at the end of a path. -/
inductive Change where
  | write (v : Value)
  | remove

/-- Neither path runs along the other. -/
def Path.Apart (p q : Path) : Prop := ¬ p.IsPrefixOf q ∧ ¬ q.IsPrefixOf p

instance (p q : Path) : Decidable (p.Apart q) :=
  inferInstanceAs (Decidable (¬ p.names <+: q.names ∧ ¬ q.names <+: p.names))

theorem Path.Apart.symm {p q : Path} (h : p.Apart q) : q.Apart p := ⟨h.2, h.1⟩

/-- Paths part where their first names do. -/
theorem Path.apart_of_head_ne {p q : Path} (h : p.head ≠ q.head) : p.Apart q :=
  ⟨fun hpq => h (List.cons_prefix_cons.1 hpq).1, fun hqp => h (List.cons_prefix_cons.1 hqp).1.symm⟩

/-! ## Along names -/

namespace Change

/-- The document with the change made. -/
def on (c : Change) (p : Path) (d : Document) : Outcome Document :=
  match c with
  | write v => lift (Path.set d p v)
  | remove => .ok ((Path.unset? d p).getD d)

/-- What is there after the change. -/
def result : Change → Option Value
  | write v => some v
  | remove => none

/-- What a change at the end of the names makes of a value, or of a missing one; none where the way is blocked. -/
def along (c : Change) : List String → Option Value → Option (Option Value)
  | [], _ => some c.result
  | name :: rest, some (.document d) =>
    (c.along rest (Document.get? d name)).map fun o => some (.document (Document.put d name o))
  | name :: rest, none =>
    match c with
    | write _ => (c.along rest none).map fun o => some (.document (Document.put [] name o))
    | remove => some none
  | _ :: _, some v =>
    match c with
    | write _ => none
    | remove => some (some v)

variable {c other : Change} {p q : List String} {o : Option Value} {d e : Document}

theorem along_document (name : String) (rest : List String) (d : Document) :
    c.along (name :: rest) (some (.document d)) =
      (c.along rest (d.get? name)).map fun o => some (.document (d.put name o)) := rfl

theorem along_remove_none (p : List String) : remove.along p none = some none := by
  cases p <;> rfl

/-- Below a value that is no document there is nothing to remove, and nothing is written. -/
theorem along_other {v : Value} (hv : v.isDocument = false) (name : String) (rest : List String) :
    c.along (name :: rest) (some v) = match c with
      | write _ => none
      | remove => some (some v) := by
  cases v with
  | document d => cases hv
  | _ => rfl

/-- Only at its own end does a change remove what is there. -/
theorem eq_none_of_along {name : String} {rest : List String} (h : c.along (name :: rest) o = some none) :
    o = none := by
  cases o with
  | none => rfl
  | some v =>
    by_cases hv : v.isDocument = true
    · cases v with
      | document d =>
        obtain ⟨x, -, hx⟩ := Option.map_eq_some_iff.1 h
        cases hx
      | _ => cases hv
    · rw [along_other (by simpa using hv)] at h
      cases c <;> cases h

/-- Where a value is missing, a write makes documents, and a removal nothing. -/
theorem along_none (name : String) (rest : List String) :
    c.along (name :: rest) none = match c with
      | write v => (write v).along (name :: rest) (some (.document []))
      | remove => some none := by
  cases c <;> rfl

/-! ## Reading elsewhere -/

theorem ne_nil_of_apart {name : String} (h : ¬ name :: p <+: name :: q) : p ≠ [] := by
  rintro rfl
  exact h (List.cons_prefix_cons.2 ⟨rfl, List.nil_prefix⟩)

theorem not_prefix_of_cons {name : String} (h : ¬ name :: p <+: name :: q) : ¬ p <+: q :=
  fun hpq => h (List.cons_prefix_cons.2 ⟨rfl, hpq⟩)

/-- What stands below a field after a change there, and below the other fields. -/
theorem get?_put_along (hp : p ≠ []) {name : String} {x : Option Value} (h : c.along p (d.get? name) = some x) :
    (d.put name x).get? name = x := by
  refine Document.get?_put_self fun hx => ?_
  obtain ⟨next, rest, rfl⟩ := List.exists_cons_of_ne_nil hp
  rw [hx] at h
  exact eq_none_of_along h

/-- A change is not seen along names that leave those of the change. -/
theorem descend_along (hp : ¬ p <+: q) (hq : ¬ q <+: p) {x : Option Value} (h : c.along p o = some x) :
    x.bind (Path.descend q) = o.bind (Path.descend q) := by
  induction p generalizing q o x with
  | nil => exact absurd List.nil_prefix hp
  | cons name p ih =>
    cases q with
    | nil => exact absurd List.nil_prefix hq
    | cons next q =>
      have hdocument : ∀ (d : Document) x, c.along (name :: p) (some (.document d)) = some x →
          x.bind (Path.descend (next :: q)) = (some (Value.document d)).bind (Path.descend (next :: q)) := by
        intro d x h
        obtain ⟨y, hy, rfl⟩ := Option.map_eq_some_iff.1 h
        show ((d.put name y).get? next).bind (Path.descend q) = (d.get? next).bind (Path.descend q)
        by_cases hn : name = next
        · subst hn
          rw [get?_put_along (ne_nil_of_apart hp) hy]
          exact ih (not_prefix_of_cons hp) (not_prefix_of_cons hq) hy
        · rw [Document.get?_put_of_ne hn]
      cases o with
      | none =>
        rw [along_none] at h
        cases c with
        | write v =>
          rw [hdocument [] x h]
          rfl
        | remove =>
          cases h
          rfl
      | some v =>
        by_cases hv : v.isDocument = true
        · cases v with
          | document d => exact hdocument d x h
          | _ => cases hv
        · rw [along_other (by simpa using hv)] at h
          cases c <;> cases h
          rfl

/-! ## Two changes -/

theorem rel_map {α β : Type} {R : α → α → Prop} {S : β → β → Prop} {f g : α → β} {a b : Option α}
    (h : Option.Rel R a b) (hfg : ∀ x y, R x y → S (f x) (g y)) : Option.Rel S (a.map f) (b.map g) := by
  cases h with
  | none => exact .none
  | some h => exact .some (hfg _ _ h)

/-- Both ways are blocked, or both give the same up to the order of fields. -/
def SameResult (a b : Option (Option Value)) : Prop := Option.Rel (Option.Rel Value.Reordered) a b

theorem SameResult.refl (a : Option (Option Value)) : SameResult a a := by
  cases a with
  | none => exact .none
  | some o => exact .some (Value.reordered_refl o)

/-- A change does not see the order of fields. -/
theorem along_congr {o' : Option Value} (h : Option.Rel Value.Reordered o o') (c : Change) (p : List String) :
    SameResult (c.along p o) (c.along p o') := by
  induction p generalizing o o' with
  | nil => exact .refl _
  | cons name rest ih =>
    cases h with
    | none => exact .refl _
    | some h =>
      cases h with
      | self => exact .refl _
      | document h => exact rel_map (ih (h.get? name)) fun x y hxy => .some (.document (h.put name hxy))

/-- Two changes below one field are changes of what the field holds. -/
theorem along_along_same (hp : p ≠ []) (hq : q ≠ []) (name : String) (d : Document) :
    (c.along (name :: p) (some (.document d))).bind (other.along (name :: q)) =
      ((c.along p (d.get? name)).bind (other.along q)).map fun o => some (.document (d.put name o)) := by
  rw [along_document]
  cases hx : c.along p (d.get? name) with
  | none => rfl
  | some x =>
    show (other.along q ((d.put name x).get? name)).map _ = (other.along q x).map _
    rw [get?_put_along hp hx]
    cases hy : other.along q x with
    | none => rfl
    | some y =>
      have hx' : x = none → d.get? name = none := by
        rintro rfl
        obtain ⟨next, rest, rfl⟩ := List.exists_cons_of_ne_nil hp
        exact eq_none_of_along hx
      have hy' : y = none → x = none := by
        rintro rfl
        obtain ⟨next, rest, rfl⟩ := List.exists_cons_of_ne_nil hq
        exact eq_none_of_along hy
      show some (some (Value.document ((d.put name x).put name y))) = _
      rw [Document.put_put hx' hy']
      rfl

/-- Two changes below different fields are made each on the document as it came. -/
theorem along_along_other {name next : String} (h : name ≠ next) (d : Document) :
    (c.along (name :: p) (some (.document d))).bind (other.along (next :: q)) =
      (c.along p (d.get? name)).bind fun x =>
        (other.along q (d.get? next)).map fun y => some (.document ((d.put name x).put next y)) := by
  rw [along_document]
  cases c.along p (d.get? name) with
  | none => rfl
  | some x =>
    show (other.along q ((d.put name x).get? next)).map _ = _
    rw [Document.get?_put_of_ne h]
    rfl

/-- Changes along names that part commute. -/
theorem along_comm (hp : ¬ p <+: q) (hq : ¬ q <+: p) (c other : Change) (o : Option Value) :
    SameResult ((c.along p o).bind (other.along q)) ((other.along q o).bind (c.along p)) := by
  induction p generalizing q o with
  | nil => exact absurd List.nil_prefix hp
  | cons name p ih =>
    cases q with
    | nil => exact absurd List.nil_prefix hq
    | cons next q =>
      have hdocument : ∀ d : Document, SameResult ((c.along (name :: p) (some (.document d))).bind (other.along (next :: q)))
          ((other.along (next :: q) (some (.document d))).bind (c.along (name :: p))) := by
        intro d
        by_cases hn : name = next
        · subst hn
          have hp' := ne_nil_of_apart hp
          have hq' := ne_nil_of_apart hq
          rw [along_along_same hp' hq', along_along_same hq' hp']
          refine rel_map (ih (not_prefix_of_cons hp) (not_prefix_of_cons hq) _) fun x y hxy => ?_
          exact .some (.document ((Document.Reordered.refl d).put name hxy))
        · rw [along_along_other hn, along_along_other (Ne.symm hn)]
          cases c.along p (d.get? name) with
          | none =>
            cases other.along q (d.get? next) <;> exact .none
          | some x =>
            cases other.along q (d.get? next) with
            | none => exact .none
            | some y => exact .some (.some (.document (Document.put_comm hn d x y)))
      cases o with
      | none =>
        -- A write meets the empty document, which a removal before it leaves too.
        have hempty := hdocument []
        cases c with
        | write v =>
          cases other with
          | write w => exact hempty
          | remove =>
            rw [along_document (c := remove), Document.get?_nil, along_remove_none] at hempty
            exact hempty
        | remove =>
          cases other with
          | write w =>
            rw [along_document (c := remove), Document.get?_nil, along_remove_none] at hempty
            exact hempty
          | remove => exact .refl _
      | some v =>
        by_cases hv : v.isDocument = true
        · cases v with
          | document d => exact hdocument d
          | _ => cases hv
        · have hother : ∀ (c : Change) (name : String) (rest : List String), c.along (name :: rest) (some v) = _ :=
            fun c => along_other (c := c) (by simpa using hv)
          cases c <;> cases other <;> simp only [hother, Option.bind_none, Option.bind_some] <;> exact .refl _

/-- A change along names that part from those of another stays possible behind it. -/
theorem along_of_along (hp : ¬ p <+: q) (hq : ¬ q <+: p) {x y : Option Value} (hx : c.along p o = some x)
    (hy : other.along q o = some y) : ∃ z, other.along q x = some z := by
  induction p generalizing q o x y with
  | nil => exact absurd List.nil_prefix hp
  | cons name p ih =>
    cases q with
    | nil => exact absurd List.nil_prefix hq
    | cons next q =>
      have hdocument : ∀ (d : Document) x y, c.along (name :: p) (some (.document d)) = some x →
          other.along (next :: q) (some (.document d)) = some y → ∃ z, other.along (next :: q) x = some z := by
        intro d x y hx hy
        obtain ⟨u, hu, rfl⟩ := Option.map_eq_some_iff.1 hx
        obtain ⟨w, hw, rfl⟩ := Option.map_eq_some_iff.1 hy
        by_cases hn : name = next
        · subst hn
          obtain ⟨z, hz⟩ := ih (not_prefix_of_cons hp) (not_prefix_of_cons hq) hu hw
          rw [along_document, get?_put_along (ne_nil_of_apart hp) hu, hz]
          exact ⟨_, rfl⟩
        · rw [along_document, Document.get?_put_of_ne hn, hw]
          exact ⟨_, rfl⟩
      cases o with
      | none =>
        cases c with
        | remove =>
          cases hx
          exact ⟨y, hy⟩
        | write v =>
          cases other with
          | write w => exact hdocument [] x y hx hy
          | remove =>
            -- From the empty document nothing is removed either.
            refine hdocument [] x (some (.document (Document.put [] next none))) hx ?_
            rw [along_document, Document.get?_nil, along_remove_none]
            rfl
      | some v =>
        by_cases hv : v.isDocument = true
        · cases v with
          | document d => exact hdocument d x y hx hy
          | _ => cases hv
        · rw [along_other (by simpa using hv)] at hx
          cases c with
          | write v => cases hx
          | remove =>
            cases hx
            exact ⟨y, hy⟩

/-! ## In documents -/

theorem along_set (v : Value) (head : String) (tail : List String) (d : Document) :
    (write v).along (head :: tail) (some (.document d)) =
      (Path.setFrom v head tail d).toOption.map fun e => some (.document e) := by
  induction tail generalizing head d with
  | nil => rfl
  | cons next rest ih =>
    rw [along_document, Path.setFrom]
    split
    · rename_i hd
      have hempty : (write v).along (next :: rest) none = _ := ih next []
      rw [hd, hempty]
      cases Path.setFrom v next rest [] <;> rfl
    · rename_i e hd
      rw [hd, ih]
      cases Path.setFrom v next rest e <;> rfl
    · rename_i u hne hd
      have hu : u.isDocument = false := by
        cases u with
        | document e => exact absurd rfl (hne e)
        | _ => rfl
      rw [hd, along_other hu]
      rfl

theorem along_unset (head : String) (tail : List String) (d : Document) :
    remove.along (head :: tail) (some (.document d)) =
      some (some (.document ((Path.unsetFrom? head tail d).getD d))) := by
  induction tail generalizing head d with
  | nil =>
    rw [along_document, Path.unsetFrom?]
    split
    · rfl
    · rename_i hc
      have hd : d.get? head = none := by
        rw [Document.get?_eq_none_iff]
        exact fun hk => hc ((Document.contains_iff d head).2 hk)
      show some (some (Value.document (d.erase head))) = _
      rw [Document.erase_of_get?_eq_none hd]
      rfl
  | cons next rest ih =>
    rw [along_document, Path.unsetFrom?]
    split
    · rename_i e hd
      rw [hd, ih]
      cases Path.unsetFrom? next rest e with
      | none =>
        show some (some (Value.document (d.insert head (.document e)))) = _
        rw [Document.insert_of_get? hd]
        rfl
      | some e' => rfl
    · rename_i hne
      cases hd : d.get? head with
      | none =>
        rw [along_remove_none]
        show some (some (Value.document (d.erase head))) = _
        rw [Document.erase_of_get?_eq_none hd]
        rfl
      | some u =>
        have hu : u.isDocument = false := by
          cases u with
          | document e => exact absurd hd (hne e)
          | _ => rfl
        rw [along_other hu]
        show some (some (Value.document (d.insert head u))) = _
        rw [Document.insert_of_get? hd]
        rfl

/-- A change of a document is the change along the names of its path. -/
theorem along_on (c : Change) (p : Path) (d : Document) :
    c.along p.names (some (.document d)) = (c.on p d).toOption.map fun e => some (.document e) := by
  cases c with
  | remove => exact along_unset p.head p.tail d
  | write v =>
    refine (along_set v p.head p.tail d).trans ?_
    show (Path.set d p v).toOption.map _ = (lift (Path.set d p v)).toOption.map _
    cases Path.set d p v <;> rfl

/-- What is read at a path that parts from the changed one stays. -/
theorem resolve_on {p q : Path} (h : p.Apart q) {c : Change} (hc : c.on p d = .ok e) :
    Path.resolve e q = Path.resolve d q := by
  have halong : c.along p.names (some (.document d)) = some (some (.document e)) := by
    rw [along_on, hc]
    rfl
  exact descend_along h.1 h.2 halong

/-- A change at a path that parts from another stays possible behind it. -/
theorem on_of_on {p q : Path} (h : p.Apart q) {c other : Change} {f : Document} (hc : c.on p d = .ok e)
    (ho : other.on q d = .ok f) : ∃ g, other.on q e = .ok g := by
  have hx : c.along p.names (some (.document d)) = some (some (.document e)) := by
    rw [along_on, hc]
    rfl
  have hy : other.along q.names (some (.document d)) = some (some (.document f)) := by
    rw [along_on, ho]
    rfl
  obtain ⟨z, hz⟩ := along_of_along h.1 h.2 hx hy
  rw [along_on] at hz
  cases hg : other.on q e with
  | ok g => exact ⟨g, rfl⟩
  | error f =>
    rw [hg] at hz
    cases hz

end Change

/-! ## Results up to the order of fields -/

/-- Both fail, or both give the same fields in some order. -/
inductive Outcome.Agree : Outcome Document → Outcome Document → Prop where
  | fail (f g : Failure) : Agree (.error f) (.error g)
  | give {d e : Document} (h : d.Reordered e) : Agree (.ok d) (.ok e)

namespace Outcome

theorem Agree.refl (a : Outcome Document) : Agree a a := by
  cases a with
  | error f => exact .fail f f
  | ok d => exact .give (.refl d)

theorem Agree.trans {a b c : Outcome Document} (h : Agree a b) (k : Agree b c) : Agree a c := by
  cases h with
  | fail f g =>
    cases k with
    | fail _ g' => exact .fail f g'
  | give h =>
    cases k with
    | give k => exact .give (h.trans k)

theorem Agree.bind {a b : Outcome Document} {f g : Document → Outcome Document} (h : Agree a b)
    (hfg : ∀ d e : Document, d.Reordered e → Agree (f d) (g e)) : Agree (a >>= f) (b >>= g) := by
  cases h with
  | fail x y => exact .fail x y
  | give h => exact hfg _ _ h

theorem agree_iff {a b : Outcome Document} :
    Agree a b ↔ Change.SameResult (a.toOption.map fun e => some (.document e))
      (b.toOption.map fun e => some (.document e)) := by
  constructor
  · rintro (_ | h)
    · exact .none
    · exact .some (.some (.document h))
  · intro h
    cases a with
    | error f =>
      cases b with
      | error g => exact .fail f g
      | ok e => cases h
    | ok d =>
      cases b with
      | error g => cases h
      | ok e =>
        cases h with
        | some h =>
          cases h with
          | some h => exact .give (Value.reordered_document_iff.1 h)

end Outcome

namespace Change

theorem on_congr (c : Change) (p : Path) {d e : Document} (h : d.Reordered e) : Agree (c.on p d) (c.on p e) := by
  rw [agree_iff, ← along_on, ← along_on]
  exact along_congr (.some (.document h)) c p.names

/-- Changes at paths that part commute. -/
theorem on_comm {p q : Path} (h : p.Apart q) (c other : Change) (d : Document) :
    Agree (c.on p d >>= other.on q) (other.on q d >>= c.on p) := by
  have hbind : ∀ (c other : Change) (p q : Path),
      ((c.on p d >>= other.on q).toOption.map fun e => some (Value.document e)) =
        (c.along p.names (some (.document d))).bind (other.along q.names) := by
    intro c other p q
    rw [along_on]
    cases c.on p d with
    | error f => rfl
    | ok e => exact (along_on other q e).symm
  rw [agree_iff, hbind, hbind]
  exact along_comm h.1 h.2 c other _

end Change

/-! ## Runs of steps -/

/-- A change at a path, or none, or a failure. -/
structure Step where
  path : Path
  change : Outcome (Option Change)

namespace Step

def run (d : Document) (s : Step) : Outcome Document := do
  match ← s.change with
  | some c => c.on s.path d
  | none => pure d

theorem run_congr {d e : Document} (h : d.Reordered e) (s : Step) : Agree (s.run d) (s.run e) := by
  obtain ⟨p, change⟩ := s
  rcases change with f | (_ | c)
  · exact .fail f f
  · exact .give h
  · exact c.on_congr p h

theorem resolve_run {s : Step} {q : Path} (h : s.path.Apart q) {d e : Document} (hs : run d s = .ok e) :
    Path.resolve e q = Path.resolve d q := by
  obtain ⟨p, change⟩ := s
  rcases change with f | (_ | c)
  · cases hs
  · cases hs
    rfl
  · exact Change.resolve_on h hs

theorem run_comm {s t : Step} (h : s.path.Apart t.path) (d : Document) :
    Agree (run d s >>= fun e => run e t) (run d t >>= fun e => run e s) := by
  obtain ⟨p, change⟩ := s
  obtain ⟨q, other⟩ := t
  rcases change with f | (_ | c)
  · -- A failure of the one is one of both, whatever the other does before.
    cases hd : run d ⟨q, other⟩ with
    | error g => exact .fail f g
    | ok e => exact .fail f f
  · cases hd : run d ⟨q, other⟩ with
    | error g =>
      show Agree (run d ⟨q, other⟩) _
      rw [hd]
      exact .fail g g
    | ok e =>
      show Agree (run d ⟨q, other⟩) _
      rw [hd]
      exact .refl _
  · rcases other with g | (_ | o)
    · cases hd : run d ⟨p, .ok (some c)⟩ with
      | error f => exact .fail f g
      | ok e => exact .fail g g
    · show Agree (c.on p d >>= fun e => pure e) (c.on p d)
      rw [bind_pure]
      exact .refl _
    · exact Change.on_comm h c o d

/-- All steps, one after the other. -/
def runAll (steps : List Step) (d : Document) : Outcome Document := steps.foldlM run d

theorem runAll_cons (s : Step) (rest : List Step) (d : Document) :
    runAll (s :: rest) d = run d s >>= runAll rest := List.foldlM_cons

theorem runAll_congr {d e : Document} (h : d.Reordered e) (steps : List Step) :
    Agree (runAll steps d) (runAll steps e) := by
  induction steps generalizing d e with
  | nil => exact .give h
  | cons s rest ih =>
    rw [runAll_cons, runAll_cons]
    exact (run_congr h s).bind fun _ _ hde => ih hde

/-- Steps at paths that part give the same fields in any order. -/
theorem runAll_perm {steps others : List Step} (h : steps.Perm others)
    (hp : steps.Pairwise fun s t => s.path.Apart t.path) (d : Document) :
    Agree (runAll steps d) (runAll others d) := by
  induction h generalizing d with
  | nil => exact .refl _
  | cons s _ ih =>
    rw [runAll_cons, runAll_cons]
    cases run d s with
    | error f => exact .fail f f
    | ok e => exact ih (List.pairwise_cons.1 hp).2 e
  | swap s t rest =>
    have hts : t.path.Apart s.path := (List.pairwise_cons.1 hp).1 s List.mem_cons_self
    have htwo : ∀ s t : Step, runAll (s :: t :: rest) d = (run d s >>= fun e => run e t) >>= runAll rest := by
      intro s t
      rw [runAll_cons, bind_assoc]
      exact bind_congr (runAll_cons t rest)
    rw [htwo, htwo]
    exact (run_comm hts d).bind fun _ _ hde => runAll_congr hde rest
  | trans h _ ihs ihr =>
    have hp' := (h.pairwise_iff fun hst => Path.Apart.symm hst).1 hp
    exact (ihs hp d).trans (ihr hp' d)

end Step

end DocQuery
