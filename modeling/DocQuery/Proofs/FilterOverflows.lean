import DocQuery.Proofs.ExpressionOverflows
import DocQuery.Proofs.Filters
import DocQuery.Store.Update

/-!
# Filters and updates that overflow

A filter overflows where an expression in it does, or where a division test by -1 comes to the least integer; an
update where the condition of a `$pull` is such a filter.  Increments fall back to doubles.

    accepts f d  = error overflow → Filter.HasOverflow f d                               (Filter.accepts_only)
    changed? d u = error overflow → Update.HasOverflow u d                               (Update.changed?_only)
-/

namespace DocQuery

open Outcome

open Value (IsPart)

namespace Filter

/-! ## Tested values -/

/-- Somewhere in the filter stands an expression that overflows on a document inside the tested value, or a division
test by -1, and the least integer is inside the tested value. -/
def HasOverflow (filter tested : Value) : Prop :=
  (∃ fields e d, IsPart (.document fields) filter ∧ ("$expr", e) ∈ fields ∧ IsPart (.document d) tested ∧
    Expression.HasOverflow e d) ∨
  ∃ fields argument remainder x, IsPart (.document fields) filter ∧ ("$mod", argument) ∈ fields ∧
    divisionOf argument = .ok (-1, remainder) ∧ IsPart x tested ∧ x.toInt64? = some Int64.minValue

theorem HasOverflow.of_part {part filter tested : Value} (hp : IsPart part filter) (h : HasOverflow part tested) :
    HasOverflow filter tested := by
  rcases h with ⟨fields, e, d, hf, h⟩ | ⟨fields, argument, remainder, x, hf, h⟩
  · exact .inl ⟨fields, e, d, hf.trans hp, h⟩
  · exact .inr ⟨fields, argument, remainder, x, hf.trans hp, h⟩

/-- All parts of a value are parts of the tested one, but for arrays, which a path can have collected. -/
def Covers (tested v : Value) : Prop := ∀ x : Value, x.isArray = false → IsPart x v → IsPart x tested

theorem covers_of_isPart {tested v : Value} (h : IsPart v tested) : Covers tested v := fun _ _ hx => hx.trans h

theorem Covers.of_isPart {tested v w : Value} (h : Covers tested v) (hw : IsPart w v) : Covers tested w :=
  fun x hx hxw => h x hx (hxw.trans hw)

theorem covers_step {tested v w : Value} {name : String} (h : Covers tested v) (hs : Path.step name v = some w) :
    Covers tested w := by
  cases v with
  | document d => exact h.of_isPart (.of_get? hs)
  | array items =>
    rw [Path.step.eq_def] at hs
    dsimp only at hs
    split at hs
    · exact h.of_isPart (.item (List.mem_of_getElem? hs) (.self w))
    · have hw : w = .array (items.filterMap (Path.fieldOf? name)) := by
        split at hs
        · cases hs
        · exact (Option.some.inj hs).symm
      subst hw
      -- the array itself is new, but its items are fields of the documents of the one before
      intro x hx hpart
      cases hpart with
      | self => cases hx
      | item hv hxv =>
        obtain ⟨item, hitem, hfield⟩ := List.mem_filterMap.1 hv
        refine h x hx ?_
        cases item with
        | document d => exact .item hitem (hxv.trans (.of_get? hfield))
        | _ => cases hfield
  | _ => cases hs

theorem covers_descend {tested v w : Value} {names : List String} (h : Covers tested v)
    (hd : Path.descend names v = some w) : Covers tested w := by
  induction names generalizing v with
  | nil =>
    cases hd
    exact h
  | cons name rest ih =>
    obtain ⟨next, hs, hr⟩ := Option.bind_eq_some_iff.1 hd
    exact ih (covers_step h hs) hr

theorem covers_resolve {tested : Value} {d : Document} (h : IsPart (.document d) tested) {p : Path} {v : Value}
    (hv : Path.resolve d p = some v) : Covers tested v := by
  obtain ⟨first, hf, hr⟩ := Option.bind_eq_some_iff.1 hv
  exact covers_descend (covers_of_isPart ((IsPart.of_get? hf).trans h)) hr

/-! ## Conditions -/

theorem accepts_only_of_fields {cause : Prop} {fields d : Document}
    (h : ∀ f ∈ fields, OverflowOnly cause (acceptsField f.1 f.2 d)) : OverflowOnly cause (accepts fields d) := by
  induction fields with
  | nil => exact .of_ok true
  | cons f rest ih =>
    obtain ⟨hf, hr⟩ := List.forall_mem_cons.1 h
    rw [accepts_cons]
    exact hf.both (ih hr)

theorem passes_only_of_operators {cause : Prop} {whole operators : Document} {v : Option Value}
    (h : ∀ f ∈ operators, OverflowOnly cause (passesOperator whole f.1 f.2 v)) :
    OverflowOnly cause (passes whole operators v) := by
  induction operators with
  | nil => exact .of_ok true
  | cons f rest ih =>
    obtain ⟨hf, hr⟩ := List.forall_mem_cons.1 h
    rw [passes_cons]
    exact hf.both (ih hr)

theorem acceptsAll_only {cause : Prop} {items : List Value} {d : Document}
    (h : ∀ filter, .document filter ∈ items → OverflowOnly cause (accepts filter d)) :
    OverflowOnly cause (acceptsAll items d) := by
  induction items with
  | nil => exact .of_ok true
  | cons item rest ih =>
    have hr := ih fun filter hf => h filter (List.mem_cons_of_mem _ hf)
    cases item with
    | document filter => exact (h filter List.mem_cons_self).both hr
    | _ => exact hr

theorem acceptsAny_only {cause : Prop} {items : List Value} {d : Document}
    (h : ∀ filter, .document filter ∈ items → OverflowOnly cause (accepts filter d)) :
    OverflowOnly cause (acceptsAny items d) := by
  induction items with
  | nil => exact .of_ok false
  | cons item rest ih =>
    have hr := ih fun filter hf => h filter (List.mem_cons_of_mem _ hf)
    cases item with
    | document filter => exact (h filter List.mem_cons_self).either hr
    | _ => exact hr

theorem checkFilters_only {cause : Prop} (name : String) (items : List Value) :
    OverflowOnly cause (checkFilters name items) := by
  unfold checkFilters
  split_ifs
  · exact .of_error _
  · exact .of_ok ()
  · exact .of_error _

theorem matchesPattern_only {cause : Prop} (p : Pattern) (v : Option Value) :
    OverflowOnly cause (matchesPattern p v) := by
  rw [matchesPattern.eq_def]
  split
  · exact .of_error _
  · split <;> exact .of_ok _

/-- A division test overflows by -1 on the least integer. -/
theorem leaves_eq_overflow_iff (divisor remainder : Int64) (v : Value) :
    leaves divisor remainder v = .error .overflow ↔ divisor = -1 ∧ v.toInt64? = some Int64.minValue := by
  unfold leaves
  cases v.toInt64? with
  | none => simp
  | some n =>
    rw [map_eq_overflow_iff, Arithmetic.integerRemainder_eq_overflow_iff, Option.some.injEq]
    exact and_comm

theorem divisionOf_only {cause : Prop} (argument : Value) : OverflowOnly cause (divisionOf argument) := by
  rw [divisionOf.eq_def]
  split
  · split
    · exact .of_error _
    · exact .of_error _
    · split
      · exact .of_error _
      · exact .of_ok _
  · exact .of_error _

theorem dividesWith_only {tested argument : Value} {v : Option Value} (hv : ∀ w ∈ v, Covers tested w) :
    OverflowOnly (∃ remainder x, divisionOf argument = .ok (-1, remainder) ∧ IsPart x tested ∧
      x.toInt64? = some Int64.minValue) (dividesWith v argument) := by
  refine (divisionOf_only argument).bind fun division hd => ?_
  obtain ⟨divisor, remainder⟩ := division
  have hleaves : ∀ x, Covers tested x → OverflowOnly (∃ remainder x, divisionOf argument = .ok (-1, remainder) ∧
      IsPart x tested ∧ x.toInt64? = some Int64.minValue) (leaves divisor remainder x) := by
    intro x hx h
    obtain ⟨rfl, hmin⟩ := (leaves_eq_overflow_iff divisor remainder x).1 h
    have harray : x.isArray = false := by
      cases x <;> first | rfl | cases hmin
    exact ⟨remainder, x, hd, hx x harray (.self x), hmin⟩
  dsimp only
  split
  · rename_i items
    exact OverflowOnly.any fun x hx => hleaves x ((hv _ rfl).of_isPart (.item hx (.self x)))
  · rename_i w _
    exact hleaves w (hv w rfl)
  · exact .of_ok _

/-- An overflow of the filter comes from an expression or a division test in it, whichever way it is read: as a
condition on a value, as a filter on a document, or as operators. -/
structure Traced (filter : Value) : Prop where
  meets {tested : Value} {v : Option Value} (hv : ∀ w ∈ v, Covers tested w) :
    OverflowOnly (HasOverflow filter tested) (meets filter v)
  accepts {fields d : Document} {tested : Value} (hf : filter = .document fields) (hd : IsPart (.document d) tested) :
    OverflowOnly (HasOverflow filter tested) (accepts fields d)
  passes {fields : Document} {tested : Value} {v : Option Value} (hf : filter = .document fields)
    (hv : ∀ w ∈ v, Covers tested w) : OverflowOnly (HasOverflow filter tested) (passes fields fields v)

section

variable {fields : Document} {name : String} {condition tested : Value}

theorem acceptsField_only (hf : (name, condition) ∈ fields) (ih : ∀ x, IsPart x condition → Traced x) {d : Document}
    (hd : IsPart (.document d) tested) :
    OverflowOnly (HasOverflow (.document fields) tested) (acceptsField name condition d) := by
  unfold acceptsField
  cases logical? name with
  | some op =>
    cases condition with
    | array items =>
      have hjoined : ∀ filter, .document filter ∈ items →
          OverflowOnly (HasOverflow (.document fields) tested) (accepts filter d) := by
        intro filter hfilter
        have hpart : IsPart (.document filter) (.array items) := .item hfilter (.self _)
        exact ((ih _ hpart).accepts rfl hd).imp (.of_part (.field hf hpart))
      refine (checkFilters_only name items).bind fun _ _ => ?_
      cases op with
      | conjunction => exact acceptsAll_only hjoined
      | disjunction => exact acceptsAny_only hjoined
      | joint => exact (acceptsAny_only hjoined).map _
    | _ => exact .of_error _
  | none =>
    dsimp only
    split_ifs with hexpr hop
    · subst hexpr
      refine ((Expression.traced condition d).imp fun h => ?_).map _
      exact .inl ⟨fields, condition, d, .self _, hf, hd, h⟩
    · exact .of_error _
    · have hpart : IsPart condition condition := .self condition
      exact ((ih _ hpart).meets fun v hv => covers_resolve hd hv).imp (.of_part (.field hf hpart))

theorem isAmong_only {cause : Prop} (name : String) (v : Option Value) (argument : Value) :
    OverflowOnly cause (isAmong name v argument) := by
  cases argument with
  | array candidates =>
    refine .any fun candidate _ => ?_
    cases candidate with
    | regex p => exact matchesPattern_only p v
    | _ => exact .of_ok _
  | _ => exact .of_error _

theorem hasSomeKind_only {cause : Prop} (v : Option Value) (argument : Value) :
    OverflowOnly cause (hasSomeKind v argument) := by
  have hkind : ∀ w spec, OverflowOnly cause (hasKind w spec) := by
    intro w spec
    unfold hasKind
    split
    · exact .of_error _
    · split <;> exact .of_ok _
  unfold hasSomeKind
  split
  · exact .of_ok false
  · split
    · exact .any fun spec _ => hkind _ spec
    · exact hkind _ _

theorem hasLength_only {cause : Prop} (v : Option Value) (argument : Value) :
    OverflowOnly cause (hasLength v argument) := by
  unfold hasLength
  split
  · exact .of_error _
  · split <;> exact .of_ok _

theorem hasAll_only {cause : Prop} (v : Option Value) (argument : Value) : OverflowOnly cause (hasAll v argument) := by
  cases argument <;> first | exact .of_ok _ | exact .of_error _

theorem patternOf_only {cause : Prop} (options : Option String) (argument : Value) :
    OverflowOnly cause (patternOf options argument) := by
  cases argument <;> first | exact .of_ok _ | exact .of_error _

theorem operator?_eq_remainder {name : String} (h : operator? name = some .remainder) : name = "$mod" := by
  unfold operator? at h
  split at h <;> first | rfl | cases h

theorem passesOperator_only (hf : (name, condition) ∈ fields) (ih : ∀ x, IsPart x condition → Traced x)
    {v : Option Value} (hv : ∀ w ∈ v, Covers tested w) :
    OverflowOnly (HasOverflow (.document fields) tested) (passesOperator fields name condition v) := by
  have hself : IsPart condition condition := .self condition
  have hup : HasOverflow condition tested → HasOverflow (.document fields) tested := .of_part (.field hf hself)
  rw [passesOperator.eq_def]
  -- a division test overflows by itself; a negation and a test of elements hand on what their own conditions do
  cases hop : operator? name with
  | none => exact .of_error _
  | some op =>
    cases op with
    | equal => exact .of_ok _
    | notEqual => exact .of_ok _
    | comparison wanted => exact .of_ok _
    | among => exact isAmong_only _ _ _
    | notAmong => exact (isAmong_only _ _ _).map _
    | present => exact .of_ok _
    | kind => exact hasSomeKind_only _ _
    | remainder =>
      have hname : name = "$mod" := operator?_eq_remainder hop
      subst hname
      refine (dividesWith_only hv).imp ?_
      rintro ⟨remainder, x, h⟩
      exact .inr ⟨fields, condition, remainder, x, .self _, hf, h⟩
    | pattern => exact (patternOf_only _ _).bind fun p _ => matchesPattern_only p v
    | patternOptions =>
      dsimp only
      split
      · exact .of_ok _
      · exact .of_error _
    | negation =>
      cases condition with
      | regex p => exact (matchesPattern_only p v).map _
      | document operators =>
        dsimp only
        split
        · exact (((ih _ hself).passes rfl hv).imp hup).map _
        · exact .of_error _
      | _ => exact .of_error _
    | containsAll => exact hasAll_only _ _
    | length => exact hasLength_only _ _
    | someElement =>
      cases condition with
      | document inner =>
        dsimp only
        split
        · rename_i items
          have hitem : ∀ item ∈ items, Covers tested item :=
            fun item hi => (hv _ rfl).of_isPart (.item hi (.self item))
          split
          · refine .any fun item hi => ((ih _ hself).passes rfl ?_).imp hup
            rintro w ⟨⟩
            exact hitem item hi
          · refine .any fun item hi => ?_
            cases item with
            | document d => exact ((ih _ hself).accepts rfl (hitem _ hi _ rfl (.self _))).imp hup
            | _ => exact .of_ok _
        · exact .of_ok _
      | _ => exact .of_error _

end

theorem traced (filter : Value) : Traced filter := by
  induction filter using Value.forall_parts with
  | leaf c ha hd =>
    refine ⟨fun hv => ?_, ?_, ?_⟩
    · cases c with
      | regex p => exact matchesPattern_only p _
      | array items => cases ha
      | document d => cases hd
      | _ => exact .of_ok _
    · rintro fields d tested rfl
      cases hd
    · rintro fields tested v rfl
      cases hd
  | array items ih => exact ⟨fun _ => .of_ok _, nofun, nofun⟩
  | document fields ih =>
    have hpasses : ∀ {tested v}, (∀ w ∈ v, Covers tested w) →
        OverflowOnly (HasOverflow (.document fields) tested) (passes fields fields v) :=
      fun hv => passes_only_of_operators fun f hf => passesOperator_only hf (ih f hf) hv
    refine ⟨fun hv => ?_, ?_, ?_⟩
    · rw [Filter.meets.eq_1]
      split
      · exact hpasses hv
      · exact .of_ok _
    · rintro fields' d tested ⟨⟩ hd
      exact accepts_only_of_fields fun f hf => acceptsField_only hf (ih f hf) hd
    · rintro fields' tested v ⟨⟩ hv
      exact hpasses hv

/-- A filter overflows on a document only where something in it does on something in the document. -/
theorem accepts_only (filter d : Document) :
    OverflowOnly (HasOverflow (.document filter) (.document d)) (accepts filter d) :=
  (traced (.document filter)).accepts rfl (.self _)

end Filter

/-! ## Updates -/

namespace Update

variable {cause : Prop}

/-- All changes of an update before one field of one operator succeed, and lead from the document to `mid`. -/
def Reaches (update d : Document) (name : String) (mid : Document) (path : String) (argument : Value) : Prop :=
  ∃ before earlier later after start,
    update = before ++ (name, .document (earlier ++ (path, argument) :: later)) :: after ∧
      before.foldlM applyOperator d = .ok start ∧ earlier.foldlM (applyField name) start = .ok mid

/-- The update comes to a `$pull` whose condition overflows on an element. -/
def HasOverflow (update d : Document) : Prop :=
  ∃ mid path condition items item, Reaches update d "$pull" mid path condition ∧ elementsAt mid path = .ok items ∧
    item ∈ items ∧ Filter.HasOverflow condition item

theorem elementsAt_only (d : Document) (path : String) : OverflowOnly cause (elementsAt d path) := by
  unfold elementsAt
  split
  · exact .of_ok _
  · exact .of_ok _
  · exact .of_ok _
  · exact .of_error _

theorem appended_only (argument : Value) : OverflowOnly cause (appended argument) := by
  unfold appended
  split
  · split
    · exact .of_ok _
    · exact .of_error _
    · exact .of_ok _
  · exact .of_ok _

/-- Sums of integers that 64 bits do not hold become doubles. -/
theorem increment_only (d : Document) (path : String) (amount : Value) :
    OverflowOnly cause (increment d path amount) := by
  unfold increment
  dsimp only
  split
  · exact .of_error _
  · split
    · exact .of_lift _
    · exact .of_lift _
    · split
      · exact .of_lift _
      · exact .of_error _

theorem push_only (unique : Bool) (d : Document) (path : String) (argument : Value) :
    OverflowOnly cause (push unique d path argument) :=
  (appended_only argument).bind fun _ _ => (elementsAt_only d path).bind fun _ _ => .of_lift _

theorem pullAll_only (d : Document) (path : String) (argument : Value) :
    OverflowOnly cause (pullAll d path argument) := by
  cases argument with
  | array values =>
    unfold pullAll
    dsimp only
    split
    · exact .of_ok _
    · exact (elementsAt_only d path).bind fun _ _ => .of_lift _
  | _ => exact .of_error _

theorem isPulled_only (argument item : Value) :
    OverflowOnly (Filter.HasOverflow argument item) (isPulled argument item) := by
  cases argument with
  | document condition =>
    have hfilter := Filter.traced (.document condition)
    unfold isPulled
    dsimp only
    split
    · refine hfilter.meets ?_
      rintro w ⟨⟩
      exact Filter.covers_of_isPart (.self item)
    · split
      · exact hfilter.accepts rfl (.self _)
      · exact .of_ok _
  | _ => exact .of_ok _

theorem pull_only (d : Document) (path : String) (argument : Value) :
    OverflowOnly (∃ items item, elementsAt d path = .ok items ∧ item ∈ items ∧ Filter.HasOverflow argument item)
      (pull d path argument) := by
  unfold pull
  split
  · exact .of_ok _
  · refine (elementsAt_only d path).bind fun items hitems => ?_
    refine OverflowOnly.bind (.keep fun item hi => ?_) fun _ _ => .of_lift _
    exact ((isPulled_only argument item).imp fun h => ⟨items, item, hitems, hi, h⟩).map _

theorem apply_only (op : Operator) (d : Document) (path : String) (argument : Value) :
    OverflowOnly (op = .pull ∧ ∃ items item, elementsAt d path = .ok items ∧ item ∈ items ∧
      Filter.HasOverflow argument item) (op.apply d path argument) := by
  cases op with
  | set => exact .of_lift _
  | unset => exact .of_ok _
  | increment => exact increment_only d path argument
  | push unique => exact push_only unique d path argument
  | pull => exact (pull_only d path argument).imp fun h => ⟨rfl, h⟩
  | pullAll => exact pullAll_only d path argument

theorem operator?_eq_pull {name : String} (h : operator? name = some .pull) : name = "$pull" := by
  unfold operator? at h
  split at h <;> first | rfl | cases h

theorem applyField_only (name : String) (d : Document) (path : String) (argument : Value) :
    OverflowOnly (name = "$pull" ∧ ∃ items item, elementsAt d path = .ok items ∧ item ∈ items ∧
      Filter.HasOverflow argument item) (applyField name d (path, argument)) := by
  unfold applyField
  dsimp only
  split
  · exact .of_error _
  · cases hop : operator? name with
    | none =>
      dsimp only
      split
      · exact .of_error _
      · exact .of_error _
    | some op =>
      refine (apply_only op d path argument).imp ?_
      rintro ⟨rfl, h⟩
      exact ⟨operator?_eq_pull hop, h⟩

/-- An update overflows on a document only where a `$pull` that it comes to does. -/
theorem changed?_only (d update : Document) : OverflowOnly (HasOverflow update d) (changed? d update) := by
  unfold changed?
  split
  · exact .of_error _
  · refine OverflowOnly.bind ?_ fun _ _ => .of_ok _
    intro h
    obtain ⟨before, ⟨name, fields⟩, after, start, rfl, hbefore, hoperator⟩ := exists_of_foldlM_error h
    cases fields with
    | document fields =>
      obtain ⟨earlier, ⟨path, condition⟩, later, mid, rfl, hearlier, hfield⟩ := exists_of_foldlM_error hoperator
      obtain ⟨rfl, items, item, hitems, hi, ho⟩ := applyField_only name mid path condition hfield
      exact ⟨mid, path, condition, items, item, ⟨before, earlier, later, after, start, rfl, hbefore, hearlier⟩,
        hitems, hi, ho⟩
    | _ => cases hoperator

end Update

end DocQuery
