import DocQuery.Proofs.ArrayFields
import DocQuery.Proofs.Inclusions
import DocQuery.Proofs.Integers

/-!
# Pushing values

A push reads the elements at a column, which are none where it is null or missing, and writes them with the values
behind:

    appendNew items values = items ++ the marked values                                        (appendNew_eq)
    a value is marked exactly where no element before its turn is equal to it                    (marked_iff)
    where every value has its equal among the elements, none is appended                         (appendNew_of_present)

A unique push appends a part of the values, in their order; where each value is equal to itself, a second one finds all of
them there and appends none (`push_spec`).
-/

namespace DocQuery

open Outcome

/-! ## Columns with elements -/

namespace Path

variable {head : String} {tail : List String} {d e : Document} {p : Path} {v : Value} {items : List Value}

/-- The names lead through embedded documents to where a field is missing. -/
inductive Misses : String → List String → Document → Prop where
  | here {head : String} {tail : List String} {d : Document} (h : d.get? head = none) : Misses head tail d
  | within {head next : String} {rest : List String} {d e : Document} (h : d.get? head = some (.document e))
      (inner : Misses next rest e) : Misses head (next :: rest) d

/-- A path goes through embedded documents only, and an array with these elements is at its end; null and nothing have
none. -/
inductive HoldsItems (d : Document) (p : Path) : List Value → Prop where
  | array {items : List Value} (h : Leads d p (.array items)) : HoldsItems d p items
  | null (h : Leads d p .null) : HoldsItems d p []
  | missing (h : Misses p.head p.tail d) : HoldsItems d p []

theorem Misses.descend (h : Misses head tail d) : Path.descend (head :: tail) (.document d) = none := by
  induction h with
  | here h =>
    show (Document.get? _ _).bind (Path.descend _) = none
    rw [h]
    rfl
  | within h _ ih =>
    show (Document.get? _ _).bind (Path.descend _) = none
    rw [h]
    exact ih

theorem Misses.setFrom (h : Misses head tail d) (v : Value) : ∃ e, Path.setFrom v head tail d = .ok e := by
  induction h with
  | here h => exact Pipeline.setFrom_of_absent h
  | within h _ ih =>
    obtain ⟨e, he⟩ := ih
    exact ⟨_, by rw [setFrom_below h, he]; rfl⟩

theorem HoldsItems.elementsAt {column : String} (h : HoldsItems d (Path.parse column) items) :
    Update.elementsAt d column = .ok items := by
  rw [Update.elementsAt]
  cases h with
  | array h => rw [h.resolve]
  | null h => rw [h.resolve]
  | missing h => rw [show resolve d (Path.parse column) = none from h.descend]

theorem HoldsItems.set (h : HoldsItems d p items) (v : Value) : ∃ e, Path.set d p v = .ok e := by
  cases h with
  | array h => exact h.set v
  | null h => exact h.set v
  | missing h => exact h.setFrom v

/-- Only the array itself is the same as one that is written over it and goes on with other elements. -/
theorem HoldsItems.eq_of_same {added : List Value} (h : HoldsItems d p items) (hv : Leads d p v)
    (hs : Value.same (.array (items ++ added)) v = true) : v = .array (items ++ added) := by
  obtain ⟨ys, rfl, hlength⟩ := Value.array_of_same hs
  cases h with
  | array h =>
    cases h.unique hv
    rw [List.length_append] at hlength
    have hnone : added = [] := List.eq_nil_of_length_eq_zero (by omega)
    rw [hnone, List.append_nil]
  | null h => cases h.unique hv
  | missing h =>
    have hread := hv.resolve
    rw [show resolve d p = none from h.descend] at hread
    cases hread

end Path

namespace Update

open Value

variable {d e : Document} {column : String} {items values : List Value} {v : Value}

/-! ## Which values are appended -/

/-- The marked ones. -/
def marked (marks : List (Value × Bool)) : List Value := (marks.filter Prod.snd).map Prod.fst

/-- Each value with whether it is appended. -/
def marks (items : List Value) : List Value → List (Value × Bool)
  | [] => []
  | v :: rest =>
    if items.any fun w => equal w v then (v, false) :: marks items rest else (v, true) :: marks (items ++ [v]) rest

theorem map_fst_marks (items values : List Value) : (marks items values).map Prod.fst = values := by
  induction values generalizing items with
  | nil => rfl
  | cons v rest ih =>
    rw [marks]
    split
    · rw [List.map_cons, ih]
    · rw [List.map_cons, ih]

theorem marked_sublist (ms : List (Value × Bool)) : (marked ms).Sublist (ms.map Prod.fst) :=
  List.filter_sublist.map _

theorem appendNew_eq (items values : List Value) : appendNew items values = items ++ marked (marks items values) := by
  induction values generalizing items with
  | nil => rw [appendNew, marks, marked, List.filter_nil, List.map_nil, List.append_nil]
  | cons v rest ih =>
    rw [appendNew, marks]
    by_cases hany : (items.any fun w => equal w v) = true
    · rw [if_pos hany, if_pos hany, ih]
      rfl
    · rw [if_neg hany, if_neg hany, ih, List.append_assoc]
      rfl

example : appendNew [.int32 1, .string "x"] [.int64 1, .null, .string "x", .null] = [.int32 1, .string "x", .null] := rfl

/-- A value is appended exactly where no element before its turn is equal to it. -/
theorem marked_iff {before after : List (Value × Bool)} {taken : Bool}
    (h : marks items values = before ++ (v, taken) :: after) :
    taken = true ↔ ∀ w ∈ items ++ marked before, equal w v = false := by
  induction before generalizing items values with
  | nil =>
    cases values with
    | nil => cases h
    | cons u rest =>
      rw [marks] at h
      show _ ↔ ∀ w ∈ items ++ [], _
      rw [List.append_nil]
      by_cases hany : (items.any fun w => equal w u) = true
      · rw [if_pos hany] at h
        cases h
        obtain ⟨w, hw, hwu⟩ := List.any_eq_true.1 hany
        refine iff_of_false Bool.false_ne_true fun hnone => ?_
        rw [hnone w hw] at hwu
        cases hwu
      · rw [if_neg hany] at h
        cases h
        exact iff_of_true rfl fun w hw => by simpa using List.any_eq_false.1 (Bool.eq_false_iff.2 hany) w hw
  | cons m before ih =>
    cases values with
    | nil => cases h
    | cons u rest =>
      rw [marks] at h
      by_cases hany : (items.any fun w => equal w u) = true
      · rw [if_pos hany] at h
        obtain ⟨rfl, hrest⟩ := List.cons.inj h
        exact ih hrest
      · rw [if_neg hany] at h
        obtain ⟨rfl, hrest⟩ := List.cons.inj h
        rw [ih hrest, List.append_assoc]
        rfl

/-- Values that are all there change nothing. -/
theorem appendNew_of_present (h : ∀ v ∈ values, ∃ w ∈ items, equal w v = true) : appendNew items values = items := by
  induction values with
  | nil => rfl
  | cons v rest ih =>
    obtain ⟨hv, hrest⟩ := List.forall_mem_cons.1 h
    rw [appendNew, if_pos (List.any_eq_true.2 hv)]
    exact ih hrest

theorem appendNew_appendNew (hself : ∀ v ∈ values, equal v v = true) :
    appendNew (appendNew items values) values = appendNew items values := by
  refine appendNew_of_present fun v hv => ?_
  have hmem : v ∈ items ++ values := List.mem_append_right _ hv
  obtain ⟨w, hw, hwv⟩ := mem_appendNew hmem
  rcases hwv with rfl | hwv
  · exact ⟨w, hw, hself w hv⟩
  · exact ⟨w, hw, hwv⟩

/-! ## The update -/

/-- The elements that a push leaves. -/
def pushed (unique : Bool) (items values : List Value) : List Value :=
  if unique then appendNew items values else items ++ values

theorem exists_pushed_eq (unique : Bool) (items values : List Value) :
    ∃ added, pushed unique items values = items ++ added := by
  cases unique with
  | true => exact ⟨_, appendNew_eq items values⟩
  | false => exact ⟨values, rfl⟩

theorem push_each (unique : Bool) (h : Path.HoldsItems d (Path.parse column) items) (values : List Value) :
    push unique d column (.document [("$each", .array values)]) =
      lift (Path.set d (Path.parse column) (.array (pushed unique items values))) := by
  have hvalues : appended (.document [("$each", .array values)]) = .ok values := rfl
  rw [push, hvalues, h.elementsAt]
  rfl

end Update

/-- The update that a push of a list hands over. -/
def Query.pushUpdate (column : String) (values : List Value) (unique : Bool) : Document :=
  [(if unique then "$addToSet" else "$push", .document [(column, .document [("$each", .array values)])])]

theorem Query.compilePush_list (q : Query) (column : String) (values : List Value) (unique : Bool) :
    q.compilePush column (.array values) unique =
      q.filter.map fun filter => .updateMany q.collection filter (pushUpdate column values unique) := by
  rw [compilePush]
  cases q.filter <;> rfl

namespace Update

variable {d : Document} {column : String} {items : List Value}

/-- A push succeeds, and then the elements and those appended are at the column. -/
theorem changed?_push (hid : (Path.parse column).head ≠ "_id") (h : Path.HoldsItems d (Path.parse column) items)
    (values : List Value) (unique : Bool) :
    ∃ r, changed? d (Query.pushUpdate column values unique) = .ok r ∧
      Path.Leads (r.getD d) (Path.parse column) (.array (pushed unique items values)) := by
  obtain ⟨e, he⟩ := h.set (.array (pushed unique items values))
  have hfield : applyField (if unique then "$addToSet" else "$push") d
      (column, .document [("$each", .array values)]) = .ok e := by
    have hpush : push unique d column (.document [("$each", .array values)]) = .ok e := by
      rw [push_each unique h, he]
      rfl
    rw [applyField, if_neg hid]
    cases unique <;> exact hpush
  refine ⟨reported d e, ?_, ?_⟩
  · rw [Query.pushUpdate, changed?_field, hfield]
    rfl
  · obtain ⟨added, hadded⟩ := exists_pushed_eq unique items values
    rw [reported]
    by_cases hs : Value.sameDocument e d = true
    -- Where the document counts as unchanged, its array was no shorter, so nothing has been appended.
    · obtain ⟨v, hv, hsame⟩ := (Path.leads_set he).of_sameDocument hs
      rw [hadded] at hsame ⊢
      rw [if_pos hs]
      exact h.eq_of_same hv hsame ▸ hv
    · rw [if_neg hs]
      exact Path.leads_set he

/-- A unique push of values that are all there leaves the document as it is. -/
theorem changed?_push_again (hid : (Path.parse column).head ≠ "_id")
    (h : Path.Leads d (Path.parse column) (.array items)) {values : List Value}
    (hsame : appendNew items values = items) :
    ∃ r, changed? d (Query.pushUpdate column values true) = .ok r ∧ r.getD d = d := by
  have hpush : push true d column (.document [("$each", .array values)]) = .ok d := by
    rw [push_each true (.array h)]
    show lift (Path.set d _ (.array (appendNew items values))) = _
    rw [hsame, h.set_self]
    rfl
  have hfield : applyField "$addToSet" d (column, .document [("$each", .array values)]) = .ok d := by
    rw [applyField, if_neg hid]
    exact hpush
  refine ⟨reported d d, ?_, ?_⟩
  · show changed? d [("$addToSet", _)] = _
    rw [changed?_field, hfield]
    rfl
  · rw [reported]
    split <;> rfl

end Update

/-- A push of a list onto a column that embedded documents lead to, with an array, null or nothing there.  It succeeds,
and the elements that were there stay in front, in order.

  * Not unique, all values come behind them, in order.
  * Unique, the marked values come behind them, in order; a value is marked exactly where no element before its turn,
    old or appended, is equal to it.  Where each value is equal to itself, a second push leaves the document as it is. -/
theorem Query.push_spec {column : String} (hid : (Path.parse column).head ≠ "_id") {d : Document} {items : List Value}
    (h : Path.HoldsItems d (Path.parse column) items) (values : List Value) (unique : Bool) :
    ∃ update r,
      (∀ q : Query, q.compilePush column (.array values) unique =
        q.filter.map fun filter => .updateMany q.collection filter update) ∧
      Update.changed? d update = .ok r ∧
      (unique = false → Path.Leads (r.getD d) (Path.parse column) (.array (items ++ values))) ∧
      (unique = true →
        (∃ marks : List (Value × Bool), marks.map Prod.fst = values ∧
          Path.Leads (r.getD d) (Path.parse column) (.array (items ++ (marks.filter Prod.snd).map Prod.fst)) ∧
          ((marks.filter Prod.snd).map Prod.fst).Sublist values ∧
          ∀ before v taken after, marks = before ++ (v, taken) :: after →
            (taken = true ↔ ∀ w ∈ items ++ (before.filter Prod.snd).map Prod.fst, Value.equal w v = false)) ∧
        ((∀ v ∈ values, Value.equal v v = true) →
          ∃ again, Update.changed? (r.getD d) update = .ok again ∧ again.getD (r.getD d) = r.getD d)) := by
  obtain ⟨r, hr, hleads⟩ := Update.changed?_push hid h values unique
  refine ⟨pushUpdate column values unique, r, fun q => q.compilePush_list column values unique, hr, ?_, ?_⟩
  · rintro rfl
    exact hleads
  · rintro rfl
    have hpushed : Update.pushed true items values = Update.appendNew items values := rfl
    rw [hpushed] at hleads
    refine ⟨⟨Update.marks items values, Update.map_fst_marks items values, ?_, ?_, ?_⟩, fun hself => ?_⟩
    · rw [Update.appendNew_eq] at hleads
      exact hleads
    · have hpart := Update.marked_sublist (Update.marks items values)
      rwa [Update.map_fst_marks] at hpart
    · exact fun before v taken after hmarks => Update.marked_iff hmarks
    · exact Update.changed?_push_again hid hleads (Update.appendNew_appendNew hself)

/-- A number that is there in another kind, a string that is there, and a new value twice. -/
theorem Query.push_spec_nested :
    let d : Document := [("_id", .int32 1), ("a", .document [("tags", .array [.int32 1, .string "x"])])]
    let items : List Value := [.int32 1, .string "x"]
    let values : List Value := [.int64 1, .null, .string "x", .null]
    (Path.parse "a.tags").head ≠ "_id" ∧ Path.HoldsItems d (Path.parse "a.tags") items ∧
      (∀ v ∈ values, Value.equal v v = true) ∧
      ∃ update r,
        (∀ q : Query, q.compilePush "a.tags" (.array values) true =
          q.filter.map fun filter => .updateMany q.collection filter update) ∧
        Update.changed? d update = .ok r ∧
        (∃ marks : List (Value × Bool), marks.map Prod.fst = values ∧
          Path.Leads (r.getD d) (Path.parse "a.tags") (.array (items ++ (marks.filter Prod.snd).map Prod.fst)) ∧
          ((marks.filter Prod.snd).map Prod.fst).Sublist values ∧
          ∀ before v taken after, marks = before ++ (v, taken) :: after →
            (taken = true ↔ ∀ w ∈ items ++ (before.filter Prod.snd).map Prod.fst, Value.equal w v = false)) ∧
        ∃ again, Update.changed? (r.getD d) update = .ok again ∧ again.getD (r.getD d) = r.getD d := by
  intro d items values
  have hid : (Path.parse "a.tags").head ≠ "_id" := by decide +kernel
  have hitems : Path.HoldsItems d (Path.parse "a.tags") items := .array (.within rfl (.field rfl))
  have hself : ∀ v ∈ values, Value.equal v v = true := by
    have hint : Value.equal (.int64 1) (.int64 1) = true := by decide +kernel
    have hstring : Value.equal (.string "x") (.string "x") = true := by decide +kernel
    simp only [values, List.forall_mem_cons]
    exact ⟨hint, rfl, hstring, rfl, fun v hv => nomatch hv⟩
  obtain ⟨update, r, hcompile, hr, -, hunique⟩ := push_spec hid hitems values true
  obtain ⟨hmarks, hagain⟩ := hunique rfl
  exact ⟨hid, hitems, hself, update, r, hcompile, hr, hmarks, hagain hself⟩

end DocQuery
