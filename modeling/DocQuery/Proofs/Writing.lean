import DocQuery.Proofs.SameValues
import DocQuery.Proofs.Updates

/-!
# Reading what was written at a path

A path leads to a value where all but the last of its names hold embedded documents (`Leads`).  There, writing and
reading are a lens:

    set d p v = ok e → Leads e p v                                             (leads_set)
    Leads d p v → set d p v = ok d                                             (Leads.set_self)
    set d p v = ok e → set e p w = set d p w                                   (set_set)

and a write changes what is read at no path but those that the written one runs through or ends at
(`resolve_set`).  Strict equality of documents is strict equality at every path (`Leads.same`).
-/

namespace DocQuery

open Outcome

namespace Document

theorem insert_insert (d : Document) (name : String) (v w : Value) :
    (d.insert name v).insert name w = d.insert name w := by
  induction d with
  | nil => simp [insert]
  | cons f rest ih =>
    obtain ⟨k, u⟩ := f
    by_cases h : k = name
    · simp [insert, h]
    · simp [insert, h, ih]

theorem insert_of_get? {d : Document} {name : String} {v : Value} (h : d.get? name = some v) :
    d.insert name v = d := by
  induction d with
  | nil => cases h
  | cons f rest ih =>
    obtain ⟨k, w⟩ := f
    rw [get?_cons] at h
    by_cases hk : k = name
    · rw [if_pos hk] at h
      cases h
      rw [insert, if_pos hk]
    · rw [if_neg hk] at h
      rw [insert, if_neg hk, ih h]

end Document

namespace Path

/-! ## Paths through embedded documents -/

/-- The names lead through embedded documents to a value. -/
inductive Reaches : String → List String → Document → Value → Prop where
  | field {head : String} {d : Document} {v : Value} (h : d.get? head = some v) : Reaches head [] d v
  | within {head next : String} {rest : List String} {d e : Document} {v : Value}
      (h : d.get? head = some (.document e)) (inner : Reaches next rest e v) : Reaches head (next :: rest) d v

/-- A path leads through embedded documents to a value. -/
def Leads (d : Document) (p : Path) (v : Value) : Prop := Reaches p.head p.tail d v

theorem Reaches.descend {head : String} {tail : List String} {d : Document} {v : Value}
    (h : Reaches head tail d v) : descend (head :: tail) (.document d) = some v := by
  induction h with
  | field h =>
    show (Document.get? _ _).bind (Path.descend []) = _
    rw [h]
    rfl
  | within h _ ih =>
    show (Document.get? _ _).bind (Path.descend _) = _
    rw [h]
    exact ih

theorem Leads.resolve {d : Document} {p : Path} {v : Value} (h : Leads d p v) : resolve d p = some v :=
  Reaches.descend h

theorem Leads.unique {d : Document} {p : Path} {v w : Value} (hv : Leads d p v) (hw : Leads d p w) : v = w :=
  Option.some.inj (hv.resolve.symm.trans hw.resolve)

/-! ## Writing -/

theorem reaches_setFrom {v : Value} {head : String} {tail : List String} {d e : Document}
    (h : setFrom v head tail d = .ok e) : Reaches head tail e v := by
  induction tail generalizing head d e with
  | nil =>
    cases h
    exact .field (Document.get?_insert_self d head v)
  | cons next rest ih =>
    obtain ⟨inner, written, -, hwritten, rfl⟩ := setFrom_cons_eq_ok h
    exact .within (Document.get?_insert_self d head _) (ih hwritten)

theorem setFrom_below {head next : String} {rest : List String} {d e : Document}
    (h : d.get? head = some (.document e)) (v : Value) :
    setFrom v head (next :: rest) d = (setFrom v next rest e).map fun e => d.insert head (.document e) := by
  rw [setFrom, h]

/-- The second of two writes counts. -/
theorem setFrom_setFrom {v w : Value} {head : String} {tail : List String} {d e : Document}
    (h : setFrom v head tail d = .ok e) : setFrom w head tail e = setFrom w head tail d := by
  induction tail generalizing head d e with
  | nil =>
    cases h
    exact congrArg Except.ok (Document.insert_insert d head v w)
  | cons next rest ih =>
    have hagain : ∀ inner : Document, (fun e => (d.insert head (.document inner)).insert head (.document e)) =
        fun e => d.insert head (.document e) :=
      fun inner => funext fun e => Document.insert_insert d head _ _
    rw [setFrom] at h
    split at h
    · rename_i hd
      obtain ⟨inner, hi, rfl⟩ := (map_eq_ok_iff _ _ _).1 h
      rw [setFrom_below (Document.get?_insert_self d head _), ih hi, hagain, setFrom, hd]
    · rename_i hd
      obtain ⟨inner, hi, rfl⟩ := (map_eq_ok_iff _ _ _).1 h
      rw [setFrom_below (Document.get?_insert_self d head _), ih hi, hagain, setFrom_below hd]
    · cases h

/-- Where a path leads to a value, another one can be written in its place. -/
theorem Reaches.setFrom {head : String} {tail : List String} {d : Document} {v : Value} (h : Reaches head tail d v)
    (w : Value) : ∃ e, Path.setFrom w head tail d = .ok e := by
  induction h with
  | field h => exact ⟨_, rfl⟩
  | within h _ ih =>
    obtain ⟨inner, hi⟩ := ih
    exact ⟨_, by rw [setFrom_below h, hi]; rfl⟩

theorem Reaches.setFrom_self {head : String} {tail : List String} {d : Document} {v : Value}
    (h : Reaches head tail d v) : Path.setFrom v head tail d = .ok d := by
  induction h with
  | field h => exact congrArg Except.ok (Document.insert_of_get? h)
  | within h _ ih =>
    rw [setFrom_below h, ih]
    exact congrArg Except.ok (Document.insert_of_get? h)

/-- A write is not seen on a way that leaves the written path, nor on one that goes on where nothing is below. -/
theorem Reaches.descend_setFrom {head : String} {tail : List String} {d e : Document} {v w : Value}
    (h : Reaches head tail d v) (hbelow : ∀ name, step name v = none ∧ step name w = none)
    (he : Path.setFrom w head tail d = .ok e) {names : List String} (hn : ¬ names <+: head :: tail) :
    Path.descend names (.document e) = Path.descend names (.document d) := by
  cases names with
  | nil => exact absurd List.nil_prefix hn
  | cons name rest =>
    show (e.get? name).bind (Path.descend rest) = (d.get? name).bind (Path.descend rest)
    by_cases hname : head = name
    · subst hname
      rw [List.prefix_cons_inj] at hn
      induction h generalizing e rest with
      | @field head d v h =>
        cases he
        rw [Document.get?_insert_self, h]
        cases rest with
        | nil => exact absurd List.nil_prefix hn
        | cons next rest =>
          show (step next w).bind _ = (step next v).bind _
          rw [(hbelow next).1, (hbelow next).2]
      | @within head next tail d inner v h hr ih =>
        rw [setFrom_below h] at he
        obtain ⟨e', he', rfl⟩ := (map_eq_ok_iff _ _ _).1 he
        rw [Document.get?_insert_self, h]
        show Path.descend rest (.document e') = Path.descend rest (.document inner)
        cases rest with
        | nil => exact absurd List.nil_prefix hn
        | cons name rest =>
          show (Document.get? e' name).bind (Path.descend rest) = (Document.get? inner name).bind (Path.descend rest)
          by_cases hname : next = name
          · subst hname
            rw [List.prefix_cons_inj] at hn
            exact ih hbelow he' rest hn
          · rw [get?_setFrom he' hname]
    · rw [get?_setFrom he hname]

variable {d e : Document} {p : Path} {v w : Value}

theorem leads_set (h : set d p v = .ok e) : Leads e p v := reaches_setFrom h

theorem set_set (h : set d p v = .ok e) (w : Value) : set e p w = set d p w := setFrom_setFrom h

theorem Leads.set (h : Leads d p v) (w : Value) : ∃ e, set d p w = .ok e := Reaches.setFrom h w

theorem Leads.set_self (h : Leads d p v) : Path.set d p v = .ok d := Reaches.setFrom_self h

/-- A write of one value without parts for another is seen at no path but those that run along the written one. -/
theorem Leads.resolve_set (h : Leads d p v) (hbelow : ∀ name, step name v = none ∧ step name w = none)
    (he : Path.set d p w = .ok e) {q : Path} (hq : ¬ q.IsPrefixOf p) : Path.resolve e q = Path.resolve d q :=
  Reaches.descend_setFrom h hbelow he hq

/-! ## Strict equality -/

/-- A document that is the same as one where names lead to a value has a value like it there. -/
theorem Reaches.of_sameFields {head : String} {tail : List String} (he : Reaches head tail e w)
    (h : Value.sameFields e d = true) : ∃ v, Reaches head tail d v ∧ Value.same w v = true := by
  induction he generalizing d with
  | field hw =>
    obtain ⟨v, hv, hsame⟩ := (Value.sameFields_iff _ _).1 h _ (Document.mem_of_get? hw)
    exact ⟨v, .field hv, hsame⟩
  | within hw _ ih =>
    obtain ⟨x, hx, hsame⟩ := (Value.sameFields_iff _ _).1 h _ (Document.mem_of_get? hw)
    cases x with
    | document inner =>
      obtain ⟨v, hv, hvsame⟩ := ih (Bool.and_eq_true_iff.1 hsame).2
      exact ⟨v, .within hx hv, hvsame⟩
    | _ => cases hsame

theorem Leads.of_sameDocument (he : Leads e p w) (h : Value.sameDocument e d = true) :
    ∃ v, Leads d p v ∧ Value.same w v = true :=
  Reaches.of_sameFields he (Bool.and_eq_true_iff.1 h).2

/-- Documents that are the same have the same value at a path. -/
theorem Leads.same (hd : Leads d p v) (he : Leads e p w) (h : Value.sameDocument e d = true) :
    Value.same w v = true := by
  obtain ⟨v', hv', hsame⟩ := he.of_sameDocument h
  rw [hd.unique hv']
  exact hsame

end Path

end DocQuery
