import DocQuery.Proofs.ArrayFields
import DocQuery.Proofs.UniqueMatches

/-!
# Pulling one value

A value to pull goes to one of two operators: a scalar to the one that takes the elements that meet it as a filter would,
a list to the one that takes those equal to one of its values.

    pull d column v leaves the items that do not meet v                                        (pull_scalar)
    pull d column [v] leaves the items that are not equal to v                                  (pullAll_singleton)

An element meets a scalar when it is an array that holds it, too.  So the two calls do the same exactly where no element
is an array with an element equal to the value (`pull_one_eq_list`).
-/

namespace DocQuery

open Outcome

/-! ## What is left -/

namespace Update

variable {d : Document} {column : String} {v : Value}

/-- The elements that do not meet a value. -/
def unmet (v : Value) (items : List Value) : List Value := items.filter fun x => !Filter.equals (some x) v

/-- The elements that are not equal to a value. -/
def unequal (v : Value) (items : List Value) : List Value := items.filter fun x => !Value.equal x v

theorem equals_of_equal {x : Value} (h : Value.equal x v = true) : Filter.equals (some x) v = true := by
  cases x with
  | array items =>
    show (Value.equal (.array items) v || _) = true
    rw [h, Bool.true_or]
  | _ => exact h

theorem equal_array_scalar (hv : v.IsScalar) (inner : List Value) : Value.equal (.array inner) v = false := by
  cases v <;> first | exact hv.elim | rfl

/-- An element that meets a scalar and is not equal to it is an array that holds it. -/
theorem equals_iff (hv : v.IsScalar) (x : Value) :
    Filter.equals (some x) v = true ↔
      Value.equal x v = true ∨ ∃ inner, x = .array inner ∧ ∃ y ∈ inner, Value.equal y v = true := by
  rw [Value.equals_scalar_iff hv]
  cases x with
  | array inner => simp [Value.candidates, equal_array_scalar hv]
  | _ => simp [Value.candidates]

theorem unmet_sublist (v : Value) (items : List Value) : (unmet v items).Sublist (unequal v items) := by
  have hboth : unmet v items = (unequal v items).filter fun x => !Filter.equals (some x) v := by
    rw [unmet, unequal, List.filter_filter]
    refine List.filter_congr fun x _ => ?_
    cases h : Value.equal x v with
    | false => simp
    | true => simp [equals_of_equal h]
  rw [hboth]
  exact List.filter_sublist

/-- As many are left both ways exactly where no element is an array that holds the value. -/
theorem unmet_eq_unequal_iff (hv : v.IsScalar) (items : List Value) :
    unmet v items = unequal v items ↔
      ∀ inner, Value.array inner ∈ items → ∀ y ∈ inner, Value.equal y v = false := by
  constructor
  · intro h inner hinner y hy
    by_contra hyv
    have hmet : Filter.equals (some (.array inner)) v = true :=
      (equals_iff hv _).2 (.inr ⟨inner, rfl, y, hy, by simpa using hyv⟩)
    have hleft : Value.array inner ∈ unequal v items :=
      List.mem_filter.2 ⟨hinner, by rw [equal_array_scalar hv]; rfl⟩
    rw [← h] at hleft
    have hunmet := (List.mem_filter.1 hleft).2
    rw [hmet] at hunmet
    cases hunmet
  · intro h
    refine List.filter_congr fun x hx => congrArg (!·) (Bool.eq_iff_iff.2 ?_)
    rw [equals_iff hv]
    constructor
    · rintro (hequal | ⟨inner, rfl, y, hy, hyv⟩)
      · exact hequal
      · rw [h inner hx y hy] at hyv
        cases hyv
    · exact .inl

/-! ## The two operators -/

theorem isPulled_scalar (hv : v.IsScalar) (x : Value) : isPulled v x = .ok (Filter.equals (some x) v) := by
  cases v <;> first | exact hv.elim | rfl

theorem pull_scalar (hv : v.IsScalar) (d : Document) (column : String) :
    pull d column v = if (Path.resolve d (Path.parse column)).isNone then .ok d
      else elementsAt d column >>= fun items => lift (Path.set d (Path.parse column) (.array (unmet v items))) := by
  have hkeep : ∀ items, keep (fun x => (isPulled v x).map (!·)) items = .ok (unmet v items) := by
    intro items
    have hdecided : ∀ x ∈ items, Decides ((isPulled v x).map (!·)) := by
      intro x _
      rw [isPulled_scalar hv]
      exact ⟨_, rfl⟩
    rw [keep_of_decided hdecided]
    refine congrArg Except.ok (List.filter_congr fun x _ => ?_)
    rw [isPulled_scalar hv]
    cases Filter.equals (some x) v <;> simp [Except.map]
  rw [pull]
  simp only [hkeep]
  rfl

theorem pullAll_singleton (v : Value) (d : Document) (column : String) :
    pullAll d column (.array [v]) = if (Path.resolve d (Path.parse column)).isNone then .ok d
      else elementsAt d column >>= fun items => lift (Path.set d (Path.parse column) (.array (unequal v items))) := by
  have hone : ∀ items : List Value, (items.filter fun x => !([v].any fun w => Value.equal x w)) = unequal v items :=
    fun items => List.filter_congr fun x _ => by simp
  rw [pullAll]
  simp only [hone]

/-- The two do the same where writing does not come to an array. -/
theorem pull_eq_pullAll (hv : v.IsScalar) (h : ∀ items, ¬ Path.Leads d (Path.parse column) (.array items)) :
    pull d column v = pullAll d column (.array [v]) := by
  rw [pull_scalar hv, pullAll_singleton]
  by_cases hnone : (Path.resolve d (Path.parse column)).isNone = true
  · rw [if_pos hnone, if_pos hnone]
  · rw [if_neg hnone, if_neg hnone, elementsAt]
    cases hread : Path.resolve d (Path.parse column) with
    | none => rfl
    | some x =>
      cases x with
      | array items =>
        show lift (Path.set d _ (.array (unmet v items))) = lift (Path.set d _ (.array (unequal v items)))
        cases hset : Path.set d (Path.parse column) (.array (unmet v items)) with
        | ok e => exact absurd (Path.leads_of_set hset hread) (h items)
        | error f => rw [Path.set_error hset]
      | _ => rfl

end Update

/-! ## The calls -/

/-- The update that a pull hands over. -/
def Query.pullUpdate (column : String) (v : Value) : Document :=
  [(if v.isArray then "$pullAll" else "$pull", .document [(column, v)])]

theorem Query.compilePull_eq (q : Query) (column : String) (v : Value) :
    q.compilePull column v = q.filter.map fun filter => .updateMany q.collection filter (pullUpdate column v) := by
  rw [compilePull]
  cases q.filter <;> rfl

namespace Update

variable {d : Document} {column : String} {v : Value}

theorem changed?_pull (hid : (Path.parse column).head ≠ "_id") (hv : v.IsScalar) :
    changed? d (Query.pullUpdate column v) = (pull d column v).map (reported d) := by
  have hone : v.isArray = false := by
    cases v <;> first | exact hv.elim | rfl
  rw [Query.pullUpdate, hone, if_neg Bool.false_ne_true, changed?_field, applyField, if_neg hid]
  rfl

theorem changed?_pullAll (hid : (Path.parse column).head ≠ "_id") :
    changed? d (Query.pullUpdate column (.array [v])) = (pullAll d column (.array [v])).map (reported d) := by
  show changed? d [("$pullAll", _)] = _
  rw [changed?_field, applyField, if_neg hid]
  rfl

/-- Over an array both write what they leave. -/
theorem writes_of_leads {items : List Value} (hl : Path.Leads d (Path.parse column) (.array items))
    (hv : v.IsScalar) :
    ∃ e f, Path.set d (Path.parse column) (.array (unmet v items)) = .ok e ∧
      Path.set d (Path.parse column) (.array (unequal v items)) = .ok f ∧
      pull d column v = .ok e ∧ pullAll d column (.array [v]) = .ok f := by
  obtain ⟨e, he⟩ := hl.set (.array (unmet v items))
  obtain ⟨f, hf⟩ := hl.set (.array (unequal v items))
  refine ⟨e, f, he, hf, ?_, ?_⟩
  · rw [pull_scalar hv, elementsAt, hl.resolve]
    show lift (Path.set d _ _) = _
    rw [he]
    rfl
  · rw [pullAll_singleton, elementsAt, hl.resolve]
    show lift (Path.set d _ _) = _
    rw [hf]
    rfl

end Update

/-- Pulling a scalar, alone and as a list of one, over whatever the document holds at the column.  Of the list, exactly
the elements that are not equal to the scalar stay, in order.  The two calls have the same effect, be it a change,
none or a failure, exactly where no element of the array at the column is an array that holds the scalar. -/
theorem Query.pull_one_eq_list (column : String) {v : Value} (hv : v.IsScalar) :
    ∃ one list : Document,
      (∀ q : Query,
        q.compilePull column v = q.filter.map (fun filter => .updateMany q.collection filter one) ∧
        q.compilePull column (.array [v]) = q.filter.map fun filter => .updateMany q.collection filter list) ∧
      ∀ d : Document,
        ((Path.parse column).head ≠ "_id" → ∀ items, Path.Leads d (Path.parse column) (.array items) →
          ∃ e, Path.set d (Path.parse column) (.array (items.filter fun x => !Value.equal x v)) = .ok e ∧
            Update.changed? d list = .ok (if Value.sameDocument e d then none else some e)) ∧
        (Update.changed? d one = Update.changed? d list ↔
          ((Path.parse column).head ≠ "_id" → ∀ items, Path.Leads d (Path.parse column) (.array items) →
            ∀ inner, .array inner ∈ items → ∀ x ∈ inner, Value.equal x v = false)) := by
  refine ⟨pullUpdate column v, pullUpdate column (.array [v]),
    fun q => ⟨q.compilePull_eq column v, q.compilePull_eq column _⟩, fun d => ⟨fun hid items hl => ?_, ?_⟩⟩
  · obtain ⟨-, f, -, hf, -, hlist⟩ := Update.writes_of_leads hl hv
    refine ⟨f, hf, ?_⟩
    rw [Update.changed?_pullAll hid, hlist]
    rfl
  · by_cases hid : (Path.parse column).head = "_id"
    · have hrefused : ∀ w, Update.changed? d (pullUpdate column w) = Outcome.invalid "the _id field is immutable" := by
        intro w
        rw [pullUpdate, Update.changed?_field, Update.applyField, if_pos hid]
        rfl
      rw [hrefused, hrefused]
      simp [hid]
    · rw [Update.changed?_pull hid hv, Update.changed?_pullAll hid]
      by_cases hany : ∃ items, Path.Leads d (Path.parse column) (.array items)
      · obtain ⟨items, hl⟩ := hany
        obtain ⟨e, f, he, hf, hone, hlist⟩ := Update.writes_of_leads hl hv
        have hstays : Update.unmet v items = Update.unequal v items ↔
            ((Path.parse column).head ≠ "_id" → ∀ others, Path.Leads d (Path.parse column) (.array others) →
              ∀ inner, .array inner ∈ others → ∀ x ∈ inner, Value.equal x v = false) := by
          rw [Update.unmet_eq_unequal_iff hv]
          constructor
          · rintro h - others hothers
            cases hl.unique hothers
            exact h
          · exact fun h => h hid items hl
        rw [hone, hlist, ← hstays]
        constructor
        -- Of two reports that agree the arrays are as long, and the one is a part of the other.
        · intro h
          have hlength := Update.length_eq_of_reported hl (Path.leads_set he) (Path.leads_set hf) (Except.ok.inj h)
          exact (Update.unmet_sublist v items).eq_of_length hlength
        · intro h
          rw [h, hf] at he
          cases he
          rfl
      · have hnone := not_exists.1 hany
        rw [Update.pull_eq_pullAll hv hnone]
        exact iff_of_true rfl fun _ items hl => absurd hl (hnone items)

/-- A number, among numbers of another kind and beside an array that does not hold it. -/
theorem Query.pull_one_eq_list_int :
    let items : List Value := [.int64 1, .int32 3, .array [.int32 2]]
    let d : Document := [("_id", .int32 1), ("a", .document [("tags", .array items)])]
    let left : Document := [("_id", .int32 1), ("a", .document [("tags", .array [.int32 3, .array [.int32 2]])])]
    (Value.int32 1).IsScalar ∧ (Path.parse "a.tags").head ≠ "_id" ∧
      Path.Leads d (Path.parse "a.tags") (.array items) ∧ ∃ one list : Document,
        (Builder.on "t").query.compilePull "a.tags" (.int32 1) = .ok (.updateMany "t" [] one) ∧
        (Builder.on "t").query.compilePull "a.tags" (.array [.int32 1]) = .ok (.updateMany "t" [] list) ∧
        Update.changed? d one = .ok (some left) ∧ Update.changed? d list = .ok (some left) := by
  intro items d left
  have hid : (Path.parse "a.tags").head ≠ "_id" := by decide
  have hl : Path.Leads d (Path.parse "a.tags") (.array items) := .within rfl (.field rfl)
  obtain ⟨one, list, hcalls, hdocs⟩ := pull_one_eq_list "a.tags" (v := .int32 1) trivial
  obtain ⟨hlist, hone⟩ := hdocs d
  have hleft : Update.changed? d list = .ok (some left) := by
    obtain ⟨e, he, hchanged⟩ := hlist hid items hl
    cases he.symm.trans (rfl : _ = Except.ok left)
    rw [hchanged, if_neg (by decide)]
  have hsame : Update.changed? d one = Update.changed? d list := by
    refine hone.2 fun _ others ho inner hinner x hx => ?_
    cases Option.some.inj (ho.resolve.symm.trans hl.resolve)
    simp only [items, List.mem_cons, Value.array.injEq, reduceCtorEq, false_or, List.not_mem_nil, or_false] at hinner
    subst hinner
    cases List.mem_singleton.1 hx
    rfl
  exact ⟨trivial, hid, hl, one, list, (hcalls _).1, (hcalls _).2, hsame.trans hleft, hleft⟩

/-- Alone the number takes the array that holds it along; as a list of one it does not. -/
theorem Query.pull_one_ne_list :
    let d : Document := [("_id", .int32 1), ("tags", .array [.array [.int32 1, .int32 2], .int32 3])]
    ∃ one list : Document,
      (Builder.on "t").query.compilePull "tags" (.int32 1) = .ok (.updateMany "t" [] one) ∧
      (Builder.on "t").query.compilePull "tags" (.array [.int32 1]) = .ok (.updateMany "t" [] list) ∧
      Update.changed? d one = .ok (some [("_id", .int32 1), ("tags", .array [.int32 3])]) ∧
      Update.changed? d list = .ok none :=
  ⟨_, _, rfl, rfl, rfl, rfl⟩

end DocQuery
