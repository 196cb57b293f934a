import DocQuery.Proofs.Outcomes
import DocQuery.Store.Update

/-!
# What an update does not touch

Every operator changes one path of a document, and so nothing but the field that the path starts with:

    op.apply d path v = ok e → name ≠ (parse path).head → e.get? name = d.get? name      (get?_apply)

An update refuses every path that starts with the identifier, so that no update changes it
(`get?_id_of_changed?`).  One with a single operator changes its fields from the left (`changed?_operator`).
-/

namespace DocQuery

open Outcome

/-! ## Writing and removing at a path -/

namespace Path

/-- A write below a field goes on in the document that is there, or in a new one. -/
theorem setFrom_cons_eq_ok {v : Value} {head next : String} {rest : List String} {d e : Document}
    (h : setFrom v head (next :: rest) d = .ok e) : ∃ inner written,
      (d.get? head = some (.document inner) ∨ d.get? head = none ∧ inner = []) ∧
      setFrom v next rest inner = .ok written ∧ e = d.insert head (.document written) := by
  rw [setFrom] at h
  split at h
  · rename_i hnone
    obtain ⟨written, hwritten, rfl⟩ := (map_eq_ok_iff _ _ _).1 h
    exact ⟨[], written, .inr ⟨hnone, rfl⟩, hwritten, rfl⟩
  · rename_i inner hinner
    obtain ⟨written, hwritten, rfl⟩ := (map_eq_ok_iff _ _ _).1 h
    exact ⟨inner, written, .inl hinner, hwritten, rfl⟩
  · cases h

theorem get?_setFrom {v : Value} {head : String} {tail : List String} {d e : Document}
    (h : setFrom v head tail d = .ok e) {name : String} (hn : head ≠ name) : e.get? name = d.get? name := by
  cases tail with
  | nil =>
    cases h
    exact Document.get?_insert_of_ne d hn v
  | cons next rest =>
    obtain ⟨inner, written, -, -, rfl⟩ := setFrom_cons_eq_ok h
    exact Document.get?_insert_of_ne d hn _

theorem get?_set {d e : Document} {p : Path} {v : Value} (h : set d p v = .ok e) {name : String}
    (hn : p.head ≠ name) : e.get? name = d.get? name :=
  get?_setFrom h hn

theorem get?_unsetFrom? {head : String} {tail : List String} {d e : Document}
    (h : unsetFrom? head tail d = some e) {name : String} (hn : head ≠ name) : e.get? name = d.get? name := by
  cases tail with
  | nil =>
    rw [unsetFrom?] at h
    split at h
    · cases h
      exact Document.get?_erase_of_ne d hn
    · cases h
  | cons next rest =>
    rw [unsetFrom?] at h
    split at h
    · obtain ⟨inner, -, rfl⟩ := Option.map_eq_some_iff.1 h
      exact Document.get?_insert_of_ne d hn _
    · cases h

theorem get?_unset? (d : Document) (p : Path) {name : String} (hn : p.head ≠ name) :
    ((unset? d p).getD d).get? name = d.get? name := by
  cases h : unset? d p with
  | none => rfl
  | some e => exact get?_unsetFrom? h hn

end Path

/-! ## Operators -/

namespace Update

/-- A result of writing at a path, whatever has been computed before. -/
theorem get?_lift_set {d e : Document} {p : Path} {v : Value} (h : lift (Path.set d p v) = .ok e)
    {name : String} (hn : p.head ≠ name) : e.get? name = d.get? name :=
  Path.get?_set ((lift_eq_ok_iff _ _).1 h) hn

theorem get?_increment {d e : Document} {path : String} {amount : Value}
    (h : increment d path amount = .ok e) {name : String} (hn : (Path.parse path).head ≠ name) :
    e.get? name = d.get? name := by
  rw [increment] at h
  split at h
  · cases h
  · dsimp only at h
    split at h
    · exact get?_lift_set h hn
    · exact get?_lift_set h hn
    · split at h
      · exact get?_lift_set h hn
      · cases h

theorem get?_push {unique : Bool} {d e : Document} {path : String} {argument : Value}
    (h : push unique d path argument = .ok e) {name : String} (hn : (Path.parse path).head ≠ name) :
    e.get? name = d.get? name := by
  rw [push, bind_eq_ok_iff] at h
  obtain ⟨values, -, h⟩ := h
  obtain ⟨items, -, h⟩ := (bind_eq_ok_iff _ _ _).1 h
  exact get?_lift_set h hn

theorem get?_pull {d e : Document} {path : String} {argument : Value}
    (h : pull d path argument = .ok e) {name : String} (hn : (Path.parse path).head ≠ name) :
    e.get? name = d.get? name := by
  rw [pull] at h
  split at h
  · cases h; rfl
  · obtain ⟨items, -, h⟩ := (bind_eq_ok_iff _ _ _).1 h
    obtain ⟨kept, -, h⟩ := (bind_eq_ok_iff _ _ _).1 h
    exact get?_lift_set h hn

theorem get?_pullAll {d e : Document} {path : String} {argument : Value}
    (h : pullAll d path argument = .ok e) {name : String} (hn : (Path.parse path).head ≠ name) :
    e.get? name = d.get? name := by
  cases argument with
  | array values =>
    rw [pullAll] at h
    split at h
    · cases h; rfl
    · obtain ⟨items, -, h⟩ := (bind_eq_ok_iff _ _ _).1 h
      exact get?_lift_set h hn
  | _ => cases h

theorem get?_apply {op : Operator} {d e : Document} {path : String} {argument : Value}
    (h : op.apply d path argument = .ok e) {name : String} (hn : (Path.parse path).head ≠ name) :
    e.get? name = d.get? name := by
  cases op with
  | set => exact get?_lift_set h hn
  | unset =>
    cases h
    exact Path.get?_unset? d _ hn
  | increment => exact get?_increment h hn
  | push unique => exact get?_push h hn
  | pull => exact get?_pull h hn
  | pullAll => exact get?_pullAll h hn

/-! ## Whole updates -/

/-- What an update reports: the changed document, none when it is as before. -/
def reported (d e : Document) : Option Document := if Value.sameDocument e d then none else some e

theorem changed?_operator (name : String) (d fields : Document) :
    changed? d [(name, .document fields)] = (fields.foldlM (applyField name) d).map (reported d) := by
  show (List.foldlM applyOperator d [(name, Value.document fields)] >>= fun out => _) = _
  rw [List.foldlM_cons, applyOperator]
  cases fields.foldlM (applyField name) d <;> rfl

theorem changed?_field (name : String) (d : Document) (path : String) (argument : Value) :
    changed? d [(name, .document [(path, argument)])] = (applyField name d (path, argument)).map (reported d) := by
  rw [changed?_operator, List.foldlM_cons]
  cases applyField name d (path, argument) <;> rfl

theorem get?_id_of_applyField {name : String} {d e : Document} {field : String × Value}
    (h : applyField name d field = .ok e) : e.get? "_id" = d.get? "_id" := by
  obtain ⟨path, argument⟩ := field
  rw [applyField] at h
  split at h
  · cases h
  · rename_i hn
    split at h
    · exact get?_apply h hn
    · split at h
      · cases h
      · cases h

theorem get?_id_of_applyOperator {d e : Document} {field : String × Value}
    (h : applyOperator d field = .ok e) : e.get? "_id" = d.get? "_id" := by
  obtain ⟨name, argument⟩ := field
  cases argument with
  | document fields =>
    rw [applyOperator] at h
    exact foldlM_induction (P := fun e => e.get? "_id" = d.get? "_id")
      (fun b a _ c hb hc => (get?_id_of_applyField hc).trans hb) rfl h
  | _ => cases h

/-- No update changes the identifier. -/
theorem get?_id_of_changed? {d update e : Document} (h : changed? d update = .ok (some e)) :
    e.get? "_id" = d.get? "_id" := by
  rw [changed?] at h
  split at h
  · cases h
  · obtain ⟨out, hout, h⟩ := (bind_eq_ok_iff _ _ _).1 h
    have hid : out.get? "_id" = d.get? "_id" :=
      foldlM_induction (P := fun e => e.get? "_id" = d.get? "_id")
        (fun b a _ c hb hc => (get?_id_of_applyOperator hc).trans hb) rfl hout
    split at h
    · cases h
    · cases h
      exact hid

end Update

end DocQuery
