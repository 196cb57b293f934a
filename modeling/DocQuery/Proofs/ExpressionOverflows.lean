import DocQuery.Proofs.Expressions
import DocQuery.Proofs.Overflows
import DocQuery.Proofs.SameValues

/-!
# Expressions that overflow

An evaluation that overflows has come to an operator whose operands overflow:

    evaluate e root = error overflow → HasOverflow e root                                (Expression.traced)

An operator looks more than one level into its argument (a branch of a condition, a date inside a document), so the
induction is over all parts of an expression and not its items and fields only.
-/

namespace DocQuery

open Outcome

/-! ## Parts of a value -/

/-- A value inside another one, or that one. -/
inductive Value.IsPart : Value → Value → Prop where
  | self (v : Value) : IsPart v v
  | item {x v : Value} {items : List Value} (hv : v ∈ items) (h : IsPart x v) : IsPart x (.array items)
  | field {x : Value} {f : String × Value} {d : Document} (hf : f ∈ d) (h : IsPart x f.2) : IsPart x (.document d)

namespace Value

theorem IsPart.trans {x y z : Value} (hxy : IsPart x y) (hyz : IsPart y z) : IsPart x z := by
  induction hyz with
  | self => exact hxy
  | item hv _ ih => exact .item hv ih
  | field hf _ ih => exact .field hf ih

theorem IsPart.of_get? {d : Document} {name : String} {v : Value} (h : d.get? name = some v) :
    IsPart v (.document d) :=
  .field (Document.mem_of_get? h) (.self v)

theorem isPart_array_iff {x : Value} {items : List Value} :
    IsPart x (.array items) ↔ x = .array items ∨ ∃ v ∈ items, IsPart x v := by
  constructor
  · intro h
    cases h with
    | self => exact .inl rfl
    | item hv h => exact .inr ⟨_, hv, h⟩
  · rintro (rfl | ⟨v, hv, h⟩)
    · exact .self _
    · exact .item hv h

theorem isPart_document_iff {x : Value} {d : Document} :
    IsPart x (.document d) ↔ x = .document d ∨ ∃ f ∈ d, IsPart x f.2 := by
  constructor
  · intro h
    cases h with
    | self => exact .inl rfl
    | field hf h => exact .inr ⟨_, hf, h⟩
  · rintro (rfl | ⟨f, hf, h⟩)
    · exact .self _
    · exact .field hf h

theorem isPart_leaf_iff {x v : Value} (ha : v.isArray = false) (hd : v.isDocument = false) :
    IsPart x v ↔ x = v := by
  constructor
  · intro h
    cases h with
    | self => rfl
    | item => cases ha
    | field => cases hd
  · rintro rfl
    exact .self _

/-- Whatever holds of a value once it holds of the parts of its items and fields holds of all its parts. -/
theorem forall_parts {P : Value → Prop} (leaf : ∀ v, v.isArray = false → v.isDocument = false → P v)
    (array : ∀ items, (∀ v ∈ items, ∀ x, IsPart x v → P x) → P (.array items))
    (document : ∀ d, (∀ f ∈ d, ∀ x, IsPart x f.2 → P x) → P (.document d)) (v : Value) : P v := by
  have hall : ∀ x, IsPart x v → P x := by
    induction v using Value.induction with
    | leaf v hv =>
      have ha : v.isArray = false := by cases v <;> first | rfl | exact hv.elim
      have hd : v.isDocument = false := by cases v <;> first | rfl | exact hv.elim
      intro x hx
      obtain rfl := (isPart_leaf_iff ha hd).1 hx
      exact leaf x ha hd
    | array items ih =>
      intro x hx
      rcases isPart_array_iff.1 hx with rfl | ⟨v, hv, h⟩
      · exact array items ih
      · exact ih v hv x h
    | document d ih =>
      intro x hx
      rcases isPart_document_iff.1 hx with rfl | ⟨f, hf, h⟩
      · exact document d ih
      · exact ih f hf x h
    | scopedCode s d _ =>
      intro x hx
      obtain rfl := (isPart_leaf_iff rfl rfl).1 hx
      exact leaf _ rfl rfl
  exact hall v (.self v)

end Value

open Value (IsPart)

theorem Outcome.OverflowOnly.imp {α : Type} {cause other : Prop} {a : Outcome α} (h : OverflowOnly cause a)
    (hi : cause → other) : OverflowOnly other a := fun ho => hi (h ho)

/-! ## Subexpressions -/

namespace Expression

/-- An expression that the evaluation of another one can come to: any part that is not below a literal. -/
inductive IsSubexpression : Value → Value → Prop where
  | self (e : Value) : IsSubexpression e e
  | item {x e : Value} {items : List Value} (he : e ∈ items) (h : IsSubexpression x e) :
      IsSubexpression x (.array items)
  | field {x : Value} {f : String × Value} {d : Document} (hf : f ∈ d) (hl : d.keys ≠ ["$literal"])
      (h : IsSubexpression x f.2) : IsSubexpression x (.document d)

/-- Somewhere in the expression stands an operator whose operands have values that it overflows on. -/
def HasOverflow (e : Value) (root : Document) : Prop :=
  ∃ name argument op vs, IsSubexpression (.document [(name, argument)]) e ∧ operator? name = some op ∧
    operands argument root = .ok vs ∧ op.Overflows vs

/-- An overflow of the expression comes from an operator in it. -/
def Traced (e : Value) : Prop := ∀ root, OverflowOnly (HasOverflow e root) (evaluate e root)

variable {root : Document}

theorem HasOverflow.item {e : Value} {items : List Value} (he : e ∈ items) (h : HasOverflow e root) :
    HasOverflow (.array items) root := by
  obtain ⟨name, argument, op, vs, hsub, h⟩ := h
  exact ⟨name, argument, op, vs, .item he hsub, h⟩

theorem HasOverflow.field {f : String × Value} {d : Document} (hf : f ∈ d) (hl : d.keys ≠ ["$literal"])
    (h : HasOverflow f.2 root) : HasOverflow (.document d) root := by
  obtain ⟨name, argument, op, vs, hsub, h⟩ := h
  exact ⟨name, argument, op, vs, .field hf hl hsub, h⟩

theorem HasOverflow.of_get? {d : Document} {name : String} (hn : name ≠ "$literal") {e : Value}
    (he : d.get? name = some e) (h : HasOverflow e root) : HasOverflow (.document d) root := by
  have hmem := Document.mem_of_get? he
  refine .field hmem ?_ h
  intro hkeys
  have hname : name ∈ d.keys := List.mem_map_of_mem hmem
  rw [hkeys, List.mem_singleton] at hname
  exact hn hname

theorem HasOverflow.of_dateSource {e : Value} (h : HasOverflow (dateSource e) root) : HasOverflow e root := by
  cases e with
  | document d =>
    rw [dateSource] at h
    cases hd : Document.get? d "date" with
    | none =>
      rw [hd] at h
      exact h
    | some date =>
      rw [hd] at h
      exact .of_get? (by decide) hd h
  | array items =>
    rcases items with _ | ⟨v, _ | ⟨w, rest⟩⟩
    · exact h
    · exact .item List.mem_cons_self h
    · exact h
  | _ => exact h

theorem isPart_dateSource (e : Value) : IsPart (dateSource e) e := by
  cases e with
  | document d =>
    rw [dateSource]
    cases hd : Document.get? d "date" with
    | none => exact .self _
    | some date => exact .of_get? hd
  | array items =>
    rcases items with _ | ⟨v, _ | ⟨w, rest⟩⟩
    · exact .self _
    · exact .item List.mem_cons_self (.self v)
    · exact .self _
  | _ => exact .self _

theorem instant?_only {cause : Prop} (op : String) (v : Value) : OverflowOnly cause (DateFormat.instant? op v) := by
  cases v <;> first | exact .of_ok _ | exact .of_error _

theorem format_only {cause : Prop} (t : Int) (format : List Char) : OverflowOnly cause (DateFormat.format t format) := by
  fun_induction DateFormat.format t format with
  | case1 => exact .of_ok _
  | case2 => exact .of_error _
  | case3 c rest s hs ih => exact ih.map _
  | case4 c rest hs => exact .of_error _
  | case5 c rest hnext hlast ih => exact ih.map _

theorem dateField_only {cause : Prop} (op : String) (field : Int → Int) (v : Value) :
    OverflowOnly cause (dateField op field v) := by
  refine (instant?_only op v).bind fun instant _ => ?_
  cases instant <;> exact .of_ok _

theorem dateText_only {cause : Prop} (format : String) (otherwise v : Value) :
    OverflowOnly cause (dateText format otherwise v) := by
  refine (instant?_only _ v).bind fun instant _ => ?_
  cases instant with
  | none => exact .of_ok _
  | some t => exact (format_only t _).map _

theorem formatOf_only {cause : Prop} (spec : Document) : OverflowOnly cause (formatOf spec) := by
  unfold formatOf
  split
  · exact .of_ok _
  · exact .of_ok _
  · exact .of_error _

theorem reference_only {cause : Prop} (s : String) (root : Document) : OverflowOnly cause (reference s root) := by
  unfold reference
  split
  · exact .of_ok _
  · split
    · exact .of_error _
    · exact .of_ok _
    · exact .of_ok _

theorem traced_array {items : List Value} (h : ∀ e ∈ items, Traced e) : Traced (.array items) := by
  intro root
  rw [evaluate_array]
  exact (OverflowOnly.traverse fun e he => (h e he root).imp (.item he)).map _

/-- A document that applies no operator. -/
theorem traced_fields {d : Document} (hd : ∀ name argument, d = [(name, argument)] → isOperatorName name = false)
    (h : ∀ f ∈ d, Traced f.2) : Traced (.document d) := by
  intro root
  have hl : d.keys ≠ ["$literal"] := by
    intro hkeys
    match d with
    | [] => cases hkeys
    | [(name, argument)] =>
      have hname : name = "$literal" := by simpa using hkeys
      subst hname
      exact absurd (hd _ argument rfl) (by decide)
    | f :: g :: rest => simp [Document.keys] at hkeys
  rw [evaluate_fields hd]
  refine (OverflowOnly.traverse fun f hf => ?_).map _
  exact ((h f hf root).imp (.field hf hl)).map _

theorem traced_choose {c t e : Value} {cause : Prop} (hc : OverflowOnly cause (evaluate c root))
    (ht : OverflowOnly cause (evaluate t root)) (he : OverflowOnly cause (evaluate e root)) :
    OverflowOnly cause (choose c t e root) := by
  refine hc.bind fun v _ => ?_
  split
  · exact ht
  · exact he

theorem conditional_only {argument : Value} (h : ∀ x, IsPart x argument → Traced x) :
    OverflowOnly (HasOverflow argument root) (conditional argument root) := by
  cases argument with
  | document d =>
    have hfield : ∀ {name : String} {x : Value}, name ≠ "$literal" → Document.get? d name = some x →
        OverflowOnly (HasOverflow (.document d) root) (evaluate x root) :=
      fun hn hx => (h _ (.of_get? hx) root).imp (.of_get? hn hx)
    dsimp only [conditional]
    split
    · rename_i hc ht he
      exact traced_choose (hfield (by decide) hc) (hfield (by decide) ht) (hfield (by decide) he)
    · exact .of_error _
  | array items =>
    have hitem : ∀ x ∈ items, OverflowOnly (HasOverflow (.array items) root) (evaluate x root) :=
      fun x hx => (h x (.item hx (.self x)) root).imp (.item hx)
    unfold conditional
    split
    · rename_i c t e he
      cases he
      exact traced_choose (hitem c (by simp)) (hitem t (by simp)) (hitem e (by simp))
    · rename_i d hd
      cases hd
    · exact .of_error _
  | _ => exact .of_error _

theorem evaluate_dateSource_only {e : Value} (h : ∀ x, IsPart x e → Traced x) :
    OverflowOnly (HasOverflow e root) (evaluate (dateSource e) root) :=
  (h _ (isPart_dateSource e) root).imp .of_dateSource

theorem renderedDate_only {argument : Value} (h : ∀ x, IsPart x argument → Traced x) :
    OverflowOnly (HasOverflow argument root) (renderedDate argument root) := by
  cases argument with
  | document spec =>
    refine (formatOf_only spec).bind fun format _ => ?_
    split
    · rename_i date hdate
      have hd : OverflowOnly (HasOverflow date root) (evaluate (dateSource date) root) :=
        evaluate_dateSource_only fun x hx => h x (hx.trans (.of_get? hdate))
      exact (hd.imp (.of_get? (by decide) hdate)).bind fun v _ => dateText_only _ _ _
    · exact .of_error _
  | _ => exact .of_error _

theorem operands_only {argument : Value} (h : ∀ x, IsPart x argument → Traced x) :
    OverflowOnly (HasOverflow argument root) (operands argument root) := by
  have hself := h argument (.self argument) root
  cases argument with
  | array items =>
    exact OverflowOnly.traverse fun e he => (h e (.item he (.self e)) root).imp (.item he)
  | _ => exact hself.map fun v => [v]

/-- A document that applies an operator: its argument overflows, or its operands do. -/
theorem traced_applied {name : String} (hop : isOperatorName name = true) {argument : Value}
    (h : ∀ x, IsPart x argument → Traced x) : Traced (.document [(name, argument)]) := by
  intro root
  rw [evaluate_applied hop]
  unfold applied
  split_ifs with hliteral hcond htext
  · exact .of_ok _
  all_goals
    have hup : HasOverflow argument root → HasOverflow (.document [(name, argument)]) root :=
      .of_get? hliteral (by simp [Document.get?_cons])
  · exact (conditional_only h).imp hup
  · exact (renderedDate_only h).imp hup
  · cases hfield : DateFormat.field? name with
    | some field => exact ((evaluate_dateSource_only h).imp hup).bind fun v _ => dateField_only _ _ _
    | none =>
      cases ho : operator? name with
      | none => exact .of_error _
      | some op =>
        -- the one place where an overflow begins; above, one of a part is handed on
        refine ((operands_only h).imp hup).bind fun vs hvs happly => ?_
        exact ⟨name, argument, op, vs, .self _, ho, hvs, (op.apply_eq_overflow_iff name vs).1 happly⟩

theorem traced (e : Value) : Traced e := by
  induction e using Value.forall_parts with
  | leaf e ha hd =>
    intro root
    cases e with
    | string s => exact reference_only s root
    | array items => cases ha
    | document d => cases hd
    | _ => exact .of_ok _
  | array items ih => exact traced_array fun e he => ih e he e (.self e)
  | document d ih =>
    by_cases hop : ∃ name argument, d = [(name, argument)] ∧ isOperatorName name = true
    · obtain ⟨name, argument, rfl, hname⟩ := hop
      exact traced_applied hname (ih _ List.mem_cons_self)
    · refine traced_fields ?_ fun f hf => ih f hf f.2 (.self f.2)
      intro name argument hd
      exact Bool.eq_false_iff.2 fun hname => hop ⟨name, argument, hd, hname⟩

end Expression

end DocQuery
