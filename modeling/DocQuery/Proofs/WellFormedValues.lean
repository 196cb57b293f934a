import DocQuery.Proofs.ExpressionOverflows

/-!
# Expressions give well-formed values

Where no document has a name twice, in the expression and in the document that it is evaluated on, none has in the
value:

    e.WellFormed → (document root).WellFormed → evaluate e root = ok v → v.WellFormed        (wellFormed_of_evaluate)

Nearly all operators give values that hold no others; the rest hand on what they are given.
-/

namespace DocQuery

open Outcome

/-! ## Results of a computation -/

namespace Outcome

variable {α β : Type} {P : α → Prop} {Q : β → Prop}

/-- The result, when there is one, has the property. -/
def Always (P : α → Prop) (a : Outcome α) : Prop := ∀ x, a = .ok x → P x

namespace Always

theorem of_ok {x : α} (h : P x) : Always P (.ok x) := by
  rintro y ⟨⟩
  exact h

theorem of_error (f : Failure) : Always P (.error f) := nofun

theorem bind {a : Outcome α} {f : α → Outcome β} (ha : Always P a) (hf : ∀ x, P x → Always Q (f x)) :
    Always Q (a >>= f) := by
  intro y h
  obtain ⟨x, hx, hy⟩ := (bind_eq_ok_iff _ _ _).1 h
  exact hf x (ha x hx) y hy

theorem map {a : Outcome α} {f : α → β} (ha : Always P a) (hf : ∀ x, P x → Q (f x)) : Always Q (a.map f) := by
  intro y h
  obtain ⟨x, hx, rfl⟩ := (map_eq_ok_iff _ _ _).1 h
  exact hf x (ha x hx)

/-- A computation whose result nothing is known of. -/
theorem trivial (a : Outcome α) : Always (fun _ => True) a := fun _ _ => True.intro

theorem imp {R : α → Prop} {a : Outcome α} (ha : Always P a) (h : ∀ x, P x → R x) : Always R a :=
  fun x hx => h x (ha x hx)

theorem traverse {f : α → Outcome β} {as : List α} (h : ∀ a ∈ as, Always Q (f a)) :
    Always (fun bs => ∀ b ∈ bs, Q b) (Outcome.traverse f as) := by
  intro bs hbs b hb
  obtain ⟨a, ha, hab⟩ := mem_of_traverse hbs hb
  exact h a ha b hab

end Always

end Outcome

/-! ## Parts of well-formed values -/

namespace Value

theorem wellFormed_of_isLeaf {v : Value} (h : v.IsLeaf) : v.WellFormed := by
  cases v <;> first | exact True.intro | cases h

theorem WellFormed.of_isPart {x v : Value} (h : v.WellFormed) (hx : IsPart x v) : x.WellFormed := by
  induction hx with
  | self => exact h
  | item hv _ ih => exact ih ((wellFormedItems_iff _).1 h _ hv)
  | field hf _ ih => exact ih ((wellFormedFields_iff _).1 h.2 _ hf)

theorem WellFormed.of_get? {d : Document} (h : (document d).WellFormed) {name : String} {v : Value}
    (hv : d.get? name = some v) : v.WellFormed :=
  h.of_isPart (.of_get? hv)

theorem WellFormed.of_fieldOf? {v w : Value} {name : String} (h : v.WellFormed)
    (hw : Path.fieldOf? name v = some w) : w.WellFormed := by
  cases v with
  | document d => exact h.of_get? hw
  | _ => cases hw

theorem WellFormed.of_step {v w : Value} {name : String} (h : v.WellFormed) (hw : Path.step name v = some w) :
    w.WellFormed := by
  cases v with
  | document d => exact h.of_get? hw
  | array items =>
    rw [WellFormed, wellFormedItems_iff] at h
    rw [Path.step] at hw
    split at hw
    · exact h w (List.mem_of_getElem? hw)
    · -- an array of the fields of that name
      split at hw
      · cases hw
      · cases hw
        rw [WellFormed, wellFormedItems_iff]
        intro field hfield
        obtain ⟨item, hitem, hof⟩ := List.mem_filterMap.1 hfield
        exact (h item hitem).of_fieldOf? hof
  | _ => cases hw

theorem WellFormed.of_descend {names : List String} {v w : Value} (h : v.WellFormed)
    (hw : Path.descend names v = some w) : w.WellFormed := by
  induction names generalizing v with
  | nil =>
    cases hw
    exact h
  | cons name rest ih =>
    obtain ⟨below, hbelow, hrest⟩ := Option.bind_eq_some_iff.1 hw
    exact ih (h.of_step hbelow) hrest

theorem WellFormed.of_resolve {d : Document} (h : (document d).WellFormed) {p : Path} {v : Value}
    (hv : Path.resolve d p = some v) : v.WellFormed := by
  obtain ⟨first, hfirst, hrest⟩ := Option.bind_eq_some_iff.1 hv
  exact (h.of_get? hfirst).of_descend hrest

/-! ## Fields written and removed -/

theorem WellFormed.insert {d : Document} (hd : (document d).WellFormed) (name : String) {v : Value}
    (hv : v.WellFormed) : (document (d.insert name v)).WellFormed := by
  obtain ⟨hdistinct, hfields⟩ := hd
  refine ⟨hdistinct.insert name v, ?_⟩
  clear hdistinct
  induction d with
  | nil => exact ⟨hv, trivial⟩
  | cons f rest ih =>
    obtain ⟨k, w⟩ := f
    obtain ⟨hw, hrest⟩ := hfields
    by_cases h : k = name
    · simp only [Document.insert, h, if_true]
      exact ⟨hv, hrest⟩
    · simp only [Document.insert, h, if_false]
      exact ⟨hw, ih hrest⟩

theorem WellFormed.erase {d : Document} (hd : (document d).WellFormed) (name : String) :
    (document (d.erase name)).WellFormed := by
  have hsub : (d.erase name).Sublist d := by
    clear hd
    induction d with
    | nil => exact .slnil
    | cons f rest ih =>
      obtain ⟨k, w⟩ := f
      by_cases h : k = name
      · simp [Document.erase, h]
      · simp [Document.erase, h, ih]
  obtain ⟨hdistinct, hfields⟩ := hd
  rw [wellFormedFields_iff] at hfields
  refine ⟨hdistinct.sublist (hsub.map Prod.fst), ?_⟩
  rw [wellFormedFields_iff]
  intro f hf
  exact hfields f (hsub.subset hf)

end Value

/-! ## Results of operators -/

namespace Arithmetic

open Value

theorem isLeaf_ofInt64 (n : Int64) : (ofInt64 n).IsLeaf := by
  unfold ofInt64
  split <;> exact True.intro

theorem isLeaf_numericResult (vs : List Value) (whole : Option Int64) (x : Float) :
    (numericResult vs whole x).IsLeaf := by
  rcases numericResult_cases vs whole x with h | ⟨n, h⟩
  · rw [h]
    exact True.intro
  · rw [h]
    exact isLeaf_ofInt64 n

theorem add_isLeaf (vs : List Value) : Always IsLeaf (add vs) := by
  unfold add
  split
  · exact .of_ok True.intro
  · refine (Always.trivial _).bind fun parts _ => ?_
    obtain ⟨date, numbers⟩ := parts
    cases date with
    | none => exact .of_ok (isLeaf_numericResult _ _ _)
    | some millis => exact (Always.trivial _).map fun _ _ => True.intro

theorem subtract_isLeaf (a b : Value) : Always IsLeaf (subtract a b) := by
  unfold subtract
  split
  · exact .of_ok True.intro
  · exact .of_ok True.intro
  · exact (Always.trivial _).map fun _ _ => True.intro
  · split
    · exact (Always.trivial _).map fun _ _ => True.intro
    · refine (Always.trivial _).bind fun _ _ => (Always.trivial _).bind fun _ _ => ?_
      exact .of_ok (isLeaf_numericResult _ _ _)

theorem multiply_isLeaf (vs : List Value) : Always IsLeaf (multiply vs) := by
  unfold multiply
  split
  · exact .of_ok True.intro
  · exact (Always.trivial _).bind fun _ _ => .of_ok (isLeaf_numericResult _ _ _)

theorem divide_isLeaf (a b : Value) : Always IsLeaf (divide a b) := by
  unfold divide
  split
  · exact .of_ok True.intro
  · refine (Always.trivial _).bind fun _ _ => (Always.trivial _).bind fun _ _ => ?_
    dsimp only
    split
    · exact .of_error _
    · exact .of_ok True.intro

theorem modulo_isLeaf (a b : Value) : Always IsLeaf (modulo a b) := by
  unfold modulo
  split
  · exact .of_ok True.intro
  · refine (Always.trivial _).bind fun _ _ => (Always.trivial _).bind fun _ _ => ?_
    dsimp only
    split
    · exact .of_error _
    · split
      · exact .of_ok True.intro
      · exact (Always.trivial _).map fun n _ => isLeaf_ofInt64 n
    · exact .of_ok True.intro

theorem concatOrNull_isLeaf (vs : List Value) : Always IsLeaf (concatOrNull vs) := by
  unfold concatOrNull
  split
  · split
    · exact .of_ok True.intro
    · exact (Always.trivial _).map fun _ _ => True.intro
  · exact (Always.trivial _).map fun _ _ => True.intro

theorem changeCase_isLeaf (op : String) (change : List Char → List Char) (v : Value) :
    Always IsLeaf (changeCase op change v) := by
  unfold changeCase
  dsimp only
  split
  · exact .of_ok True.intro
  · exact .of_ok True.intro
  · exact .of_ok True.intro
  · split
    · exact .of_ok True.intro
    · exact .of_error _

/-- A fold that takes the value at hand or keeps what it has ends in one of the values, or in what it began with. -/
theorem foldl_mem {step : Option Value → Value → Option Value}
    (hstep : ∀ best v, step best v = some v ∨ step best v = best) {vs : List Value} {best : Option Value} {b : Value}
    (h : vs.foldl step best = some b) : best = some b ∨ b ∈ vs := by
  induction vs generalizing best with
  | nil => exact .inl h
  | cons v rest ih =>
    rcases ih h with hb | hrest
    · rcases hstep best v with htaken | hkept
      · cases htaken.symm.trans hb
        exact .inr List.mem_cons_self
      · exact .inl (hkept.symm.trans hb)
    · exact .inr (List.mem_cons_of_mem v hrest)

/-- The greatest or the least of some values is one of them, or null. -/
theorem extreme_mem (wanted : Ordering) (vs : List Value) : extreme wanted vs = .null ∨ extreme wanted vs ∈ vs := by
  unfold extreme
  generalize hbest : List.foldl _ none (vs.filter fun v => !v.isNothing) = best
  cases best with
  | none => exact .inl rfl
  | some b =>
    refine .inr ((foldl_mem (fun best v => ?_) hbest).elim nofun fun hb => (List.mem_filter.1 hb).1)
    cases best with
    | none => exact .inl rfl
    | some old =>
      dsimp only
      split
      · exact .inl rfl
      · exact .inr rfl

end Arithmetic

namespace Expression

open Value Arithmetic

theorem unary_always {P : Value → Prop} {name : String} {f : Value → Outcome Value}
    (h : ∀ a, Always P (f a)) (vs : List Value) : Always P (unary name f vs) := by
  unfold unary
  split
  · exact h _
  · exact .of_error _

theorem binary_always {P : Value → Prop} {name : String} {f : Value → Value → Outcome Value}
    (h : ∀ a b, Always P (f a b)) (vs : List Value) : Always P (binary name f vs) := by
  unfold binary
  split
  · exact h _ _
  · exact .of_error _

theorem sizeOf_isLeaf (v : Value) : Always IsLeaf (sizeOf v) := by
  cases v <;> first | exact .of_ok (isLeaf_ofInt64 _) | exact .of_error _

/-- What a comparison says is a number or a boolean. -/
theorem isLeaf_of_comparison {name : String} {holds : Ordering → Value}
    (h : operator? name = some (.comparison holds)) (o : Ordering) : (holds o).IsLeaf := by
  rw [operator?.eq_def] at h
  split at h <;> cases h
  · cases o <;> exact True.intro
  all_goals exact True.intro

theorem wellFormed_spread {vs : List Value} (h : ∀ v ∈ vs, v.WellFormed) : ∀ v ∈ spread vs, v.WellFormed := by
  unfold spread
  split
  · exact (wellFormedItems_iff _).1 (h _ List.mem_cons_self)
  · exact h

theorem wellFormed_extreme {vs : List Value} (h : ∀ v ∈ vs, v.WellFormed) (wanted : Ordering) :
    (extreme wanted (spread vs)).WellFormed := by
  rcases extreme_mem wanted (spread vs) with hnull | hmem
  · rw [hnull]
    exact True.intro
  · exact wellFormed_spread h _ hmem

theorem wellFormed_firstGivenOf {vs : List Value} (h : ∀ v ∈ vs, v.WellFormed) : (firstGivenOf vs).WellFormed := by
  unfold firstGivenOf
  split
  · rename_i v hv
    exact h v (List.mem_of_find?_eq_some hv)
  · cases hlast : vs.getLast? with
    | none => exact True.intro
    | some v => exact h v (List.mem_of_getLast? hlast)

theorem apply_wellFormed {name : String} {op : Operator} (hop : operator? name = some op) {vs : List Value}
    (h : ∀ v ∈ vs, v.WellFormed) : Always WellFormed (op.apply name vs) := by
  have hleaf : ∀ {a : Outcome Value}, Always IsLeaf a → Always WellFormed a := fun ha =>
    ha.imp fun _ => wellFormed_of_isLeaf
  cases op with
  | add => exact hleaf (add_isLeaf vs)
  | subtract => exact hleaf (binary_always subtract_isLeaf vs)
  | multiply => exact hleaf (multiply_isLeaf vs)
  | divide => exact hleaf (binary_always divide_isLeaf vs)
  | modulo => exact hleaf (binary_always modulo_isLeaf vs)
  | maximum => exact .of_ok (wellFormed_extreme h .gt)
  | minimum => exact .of_ok (wellFormed_extreme h .lt)
  | comparison holds => exact hleaf (binary_always (fun _ _ => .of_ok (isLeaf_of_comparison hop _)) vs)
  | conjunction => exact .of_ok True.intro
  | disjunction => exact .of_ok True.intro
  | negation => exact hleaf (unary_always (fun _ => .of_ok True.intro) vs)
  | concatenation => exact hleaf (concatOrNull_isLeaf vs)
  | lowerCase => exact hleaf (unary_always (changeCase_isLeaf name _) vs)
  | upperCase => exact hleaf (unary_always (changeCase_isLeaf name _) vs)
  | firstGiven => exact .of_ok (wellFormed_firstGivenOf h)
  | size => exact hleaf (unary_always sizeOf_isLeaf vs)

/-! ## Evaluation -/

/-- On a well-formed document the expression, well-formed itself, gives a well-formed value. -/
def KeepsShape (e : Value) : Prop :=
  ∀ root, e.WellFormed → (document root).WellFormed → Always WellFormed (evaluate e root)

variable {root : Document}

theorem reference_wellFormed (hroot : (document root).WellFormed) (s : String) :
    Always WellFormed (reference s root) := by
  unfold reference
  split
  · exact .of_ok hroot
  · split
    · exact .of_error _
    · refine .of_ok ?_
      cases hv : Path.resolve root _ with
      | none => exact True.intro
      | some v => exact hroot.of_resolve hv
    · exact .of_ok True.intro

/-- A field keeps its name. -/
theorem keys_of_evaluateField {d e : Document} (h : Outcome.traverse (evaluateField root) d = .ok e) :
    e.keys = d.keys := by
  have hnames : List.Forall₂ (fun f g => g.1 = f.1) d e := by
    refine (traverse_eq_ok_iff.1 h).imp fun f g hfg => ?_
    obtain ⟨v, -, rfl⟩ := (map_eq_ok_iff _ _ _).1 hfg
    rfl
  clear h
  induction hnames with
  | nil => rfl
  | cons hname _ ih =>
    rw [Document.keys, List.map_cons, hname]
    exact congrArg _ ih

theorem keepsShape_array {items : List Value} (h : ∀ e ∈ items, KeepsShape e) : KeepsShape (.array items) := by
  intro root he hroot
  rw [WellFormed, wellFormedItems_iff] at he
  rw [evaluate_array]
  exact (Always.traverse fun e hmem => h e hmem root (he e hmem) hroot).map fun vs => (wellFormedItems_iff vs).2

/-- A document that applies no operator. -/
theorem keepsShape_fields {d : Document} (hd : ∀ name argument, d = [(name, argument)] → isOperatorName name = false)
    (h : ∀ f ∈ d, KeepsShape f.2) : KeepsShape (.document d) := by
  intro root he hroot v hv
  rw [WellFormed, wellFormedFields_iff] at he
  rw [evaluate_fields hd] at hv
  obtain ⟨e, hfields, rfl⟩ := (map_eq_ok_iff _ _ _).1 hv
  rw [WellFormed, wellFormedFields_iff, Document.Distinct, keys_of_evaluateField hfields]
  refine ⟨he.1, Always.traverse (fun f hf => ?_) e hfields⟩
  exact (h f hf root (he.2 f hf) hroot).map fun _ hw => hw

theorem choose_wellFormed {c t e : Value} (ht : Always WellFormed (evaluate t root))
    (he : Always WellFormed (evaluate e root)) : Always WellFormed (choose c t e root) := by
  refine (Always.trivial _).bind fun v _ => ?_
  split
  · exact ht
  · exact he

theorem conditional_wellFormed {argument : Value} (ha : argument.WellFormed) (hroot : (document root).WellFormed)
    (h : ∀ x, IsPart x argument → KeepsShape x) : Always WellFormed (conditional argument root) := by
  have hpart : ∀ x, IsPart x argument → Always WellFormed (evaluate x root) := fun x hx =>
    h x hx root (ha.of_isPart hx) hroot
  cases argument with
  | document d =>
    dsimp only [conditional]
    split
    · rename_i hc ht he
      exact choose_wellFormed (hpart _ (.of_get? ht)) (hpart _ (.of_get? he))
    · exact .of_error _
  | array items =>
    unfold conditional
    split
    · rename_i c t e he
      cases he
      exact choose_wellFormed (hpart t (.item (by simp) (.self t))) (hpart e (.item (by simp) (.self e)))
    · rename_i d hd
      cases hd
    · exact .of_error _
  | _ => exact .of_error _

theorem dateField_isLeaf (op : String) (field : Int → Int) (v : Value) : Always IsLeaf (dateField op field v) := by
  refine (Always.trivial _).bind fun instant _ => ?_
  cases instant with
  | none => exact .of_ok True.intro
  | some t => exact .of_ok (isLeaf_ofInt64 _)

theorem renderedDate_wellFormed {argument : Value} (ha : argument.WellFormed) :
    Always WellFormed (renderedDate argument root) := by
  cases argument with
  | document spec =>
    refine (Always.trivial _).bind fun format _ => ?_
    split
    · refine (Always.trivial _).bind fun v _ => (Always.trivial _).bind fun instant _ => ?_
      cases instant with
      | none =>
        refine .of_ok ?_
        cases hnull : Document.get? spec "onNull" with
        | none => exact True.intro
        | some otherwise => exact ha.of_get? hnull
      | some t => exact (Always.trivial _).map fun _ _ => True.intro
    · exact .of_error _
  | _ => exact .of_error _

theorem operands_wellFormed {argument : Value} (ha : argument.WellFormed) (hroot : (document root).WellFormed)
    (h : ∀ x, IsPart x argument → KeepsShape x) :
    Always (fun vs => ∀ v ∈ vs, v.WellFormed) (operands argument root) := by
  have hpart : ∀ x, IsPart x argument → Always WellFormed (evaluate x root) := fun x hx =>
    h x hx root (ha.of_isPart hx) hroot
  have hone : Always (fun vs => ∀ v ∈ vs, v.WellFormed) ((evaluate argument root).map fun v => [v]) :=
    (hpart argument (.self argument)).map fun v hv => List.forall_mem_singleton.2 hv
  cases argument with
  | array items => exact Always.traverse fun e he => hpart e (.item he (.self e))
  | _ => exact hone

/-- A document that applies an operator. -/
theorem keepsShape_applied {name : String} (hop : isOperatorName name = true) {argument : Value}
    (h : ∀ x, IsPart x argument → KeepsShape x) : KeepsShape (.document [(name, argument)]) := by
  intro root he hroot
  have ha : argument.WellFormed := he.2.1
  rw [evaluate_applied hop]
  unfold applied
  split_ifs with hliteral hcond htext
  · exact .of_ok ha
  · exact conditional_wellFormed ha hroot h
  · exact renderedDate_wellFormed ha
  · split
    · exact (Always.trivial _).bind fun v _ => (dateField_isLeaf _ _ v).imp fun _ => wellFormed_of_isLeaf
    · split
      · rename_i op ho
        exact (operands_wellFormed ha hroot h).bind fun vs hvs => apply_wellFormed ho hvs
      · exact .of_error _

theorem keepsShape (e : Value) : KeepsShape e := by
  induction e using Value.forall_parts with
  | leaf e ha hd =>
    intro root he hroot
    cases e with
    | string s => exact reference_wellFormed hroot s
    | array items => cases ha
    | document d => cases hd
    | _ => exact .of_ok he
  | array items ih => exact keepsShape_array fun e he => ih e he e (.self e)
  | document d ih =>
    by_cases hop : ∃ name argument, d = [(name, argument)] ∧ isOperatorName name = true
    · obtain ⟨name, argument, rfl, hname⟩ := hop
      exact keepsShape_applied hname (ih _ List.mem_cons_self)
    · refine keepsShape_fields ?_ fun f hf => ih f hf f.2 (.self f.2)
      intro name argument hd
      exact Bool.eq_false_iff.2 fun hname => hop ⟨name, argument, hd, hname⟩

theorem wellFormed_of_evaluate {e v : Value} (he : e.WellFormed) (hroot : (document root).WellFormed)
    (h : evaluate e root = .ok v) : v.WellFormed :=
  keepsShape e root he hroot v h

end Expression

end DocQuery
