import DocQuery.Proofs.Equality
import DocQuery.Proofs.Updates

/-!
# Operators that are not known

A filter reports an operator that it does not know where evaluation comes to it.  What stands in front of it is tested
first and may decide: a condition or an operator that is not met, a filter of `$and` that does not hold, one of `$or` or
`$nor` that does.  `Behind name filter gate certain` says that the operator stands in the filter, and `gate` is all that
is tested in front of it:

    gate d = ok true  → accepts filter d = unsupported name                                        (Behind.gated)
    gate d = error e  → accepts filter d = error e
    gate d = ok false → something in front of the operator has decided

Where every list around the operator is a conjunction (`certain`), the last of these leaves only the answer no.

An update has no such gate.  Every operator is tried, unless there is no field to try it on (`changed?_unknown`).
-/

namespace DocQuery

/-! ## Failures behind a gate -/

namespace Outcome

/-- What comes of a test with a failure behind a gate: the failure where the gate is passed, the gate's own where it
fails, and where it is certain that the gate is on the way to yes, never yes. -/
structure Gated (f : Failure) (certain : Bool) (gate result : Outcome Bool) : Prop where
  passed : gate = .ok true → result = .error f
  failed : ∀ e, gate = .error e → result = .error e
  never : certain = true → result ≠ .ok true

namespace Gated

variable {f : Failure} {certain : Bool} {gate result : Outcome Bool}

theorem start (f : Failure) (certain : Bool) : Gated f certain (.ok true) (.error f) := by
  refine ⟨fun _ => rfl, ?_, ?_⟩
  · rintro e ⟨⟩
  · rintro - ⟨⟩

/-- A gate that fails fails the test. -/
theorem stopped (e : Failure) : Gated f certain (.error e) (.error e) := by
  refine ⟨?_, fun e he => he, ?_⟩
  · rintro ⟨⟩
  · rintro - ⟨⟩

/-- A gate that has decided leaves the answer open, but for yes where this is certain not to come. -/
theorem decided (h : certain = true → result ≠ .ok true) : Gated f certain (.ok false) result := by
  refine ⟨?_, ?_, h⟩
  · rintro ⟨⟩
  · rintro e ⟨⟩

theorem behind (h : Gated f certain gate result) (a : Outcome Bool) :
    Gated f certain (both a gate) (both a result) := by
  cases a with
  | error e => exact stopped e
  | ok b =>
    cases b with
    | true => exact h
    | false => exact decided fun _ hyes => by cases hyes

theorem both_right (h : Gated f certain gate result) (b : Outcome Bool) : Gated f certain gate (both result b) := by
  refine ⟨fun hg => by rw [h.passed hg]; rfl, fun e he => by rw [h.failed e he]; rfl, fun hc hyes => ?_⟩
  exact h.never hc ((both_eq_true_iff result b).1 hyes).1

/-- A failure behind a test is reported where the test holds, whatever comes after it. -/
theorem reached (f : Failure) (certain : Bool) (a b : Outcome Bool) :
    Gated f certain a (both a (both (.error f) b)) := by
  have h := ((start f certain).both_right b).behind a
  rwa [both_true_right] at h

theorem either_right (h : Gated f certain gate result) (b : Outcome Bool) : Gated f false gate (either result b) := by
  refine ⟨fun hg => by rw [h.passed hg]; rfl, fun e he => by rw [h.failed e he]; rfl, ?_⟩
  rintro ⟨⟩

theorem map_not (h : Gated f certain gate result) : Gated f false gate (result.map (!·)) := by
  refine ⟨fun hg => by rw [h.passed hg]; rfl, fun e he => by rw [h.failed e he]; rfl, ?_⟩
  rintro ⟨⟩

theorem otherwise (h : Gated f certain gate result) (a : Outcome Bool) :
    Gated f false (both (a.map (!·)) gate) (either a result) := by
  cases a with
  | error e => exact stopped e
  | ok b =>
    cases b with
    | true => exact decided fun hc => by cases hc
    | false => exact ⟨h.passed, h.failed, fun hc => by cases hc⟩

theorem after (h : Gated f certain gate result) (check : Outcome Unit) :
    Gated f certain (both (check.map fun _ => true) gate) (check >>= fun _ => result) := by
  cases check with
  | error e => exact stopped e
  | ok u => exact h

end Gated

end Outcome

open Outcome

/-! ## Filters -/

namespace Filter

theorem acceptsAll_append (fs gs : List Value) (d : Document) :
    acceptsAll (fs ++ gs) d = both (acceptsAll fs d) (acceptsAll gs d) := by
  induction fs with
  | nil => rfl
  | cons f rest ih =>
    cases f with
    | document f =>
      rw [List.cons_append, acceptsAll.eq_2, acceptsAll.eq_2, ih]
      exact (both_assoc (accepts f d) (acceptsAll rest d) (acceptsAll gs d)).symm
    | _ => exact ih

theorem acceptsAny_append (fs gs : List Value) (d : Document) :
    acceptsAny (fs ++ gs) d = either (acceptsAny fs d) (acceptsAny gs d) := by
  induction fs with
  | nil => rfl
  | cons f rest ih =>
    cases f with
    | document f =>
      rw [List.cons_append, acceptsAny.eq_2, acceptsAny.eq_2, ih]
      exact (either_assoc (accepts f d) (acceptsAny rest d) (acceptsAny gs d)).symm
    | _ => exact ih

/-- What the filters of a list come to. -/
def Logical.joined (op : Logical) (filters : List Value) (d : Document) : Outcome Bool :=
  match op with
  | .conjunction => acceptsAll filters d
  | .disjunction => acceptsAny filters d
  | .joint => (acceptsAny filters d).map (!·)

/-- What the filters in front of another one in a list have to come to: in a conjunction all of them hold, else none. -/
def Logical.goesOn (op : Logical) (earlier : List Value) (d : Document) : Outcome Bool :=
  match op with
  | .conjunction => acceptsAll earlier d
  | _ => (acceptsAny earlier d).map (!·)

/-- An operator that is not known stands among the operators of a condition or of a negation in them, and `gate` is
what is tested in front of it. -/
inductive OperatorBehind (name : String) : Document → (Option Value → Outcome Bool) → Bool → Prop where
  | here {earlier later : Document} {argument : Value} (hname : operator? name = none)
      (hd : isOperatorDocument (earlier ++ (name, argument) :: later) = true) :
      OperatorBehind name (earlier ++ (name, argument) :: later)
        (passes (earlier ++ (name, argument) :: later) earlier) true
  | negated {earlier operators later : Document} {gate : Option Value → Outcome Bool} {certain : Bool}
      (h : OperatorBehind name operators gate certain)
      (hd : isOperatorDocument (earlier ++ ("$not", .document operators) :: later) = true) :
      OperatorBehind name (earlier ++ ("$not", .document operators) :: later)
        (fun v => both (passes (earlier ++ ("$not", .document operators) :: later) earlier v) (gate v)) false

/-- An operator that is not known stands in a filter: as a condition, among the operators of a column, or in a filter
that a condition joins.  What is tested in front of it is `gate`, and `certain` says that only conjunctions are around
it. -/
inductive Behind (name : String) : Document → (Document → Outcome Bool) → Bool → Prop where
  | condition {before after : Document} {argument : Value} (hname : Expression.isOperatorName name = true)
      (hlogical : logical? name = none) (hexpr : name ≠ "$expr") :
      Behind name (before ++ (name, argument) :: after) (accepts before) true
  | column {before operators after : Document} {column : String} {gate : Option Value → Outcome Bool} {certain : Bool}
      (hc : Expression.isOperatorName column = false) (h : OperatorBehind name operators gate certain) :
      Behind name (before ++ (column, .document operators) :: after)
        (fun d => both (accepts before d) (gate (Path.resolve d (Path.parse column)))) certain
  | joined {before filter after : Document} {key : String} {op : Logical} {earlier later : List Value}
      {gate : Document → Outcome Bool} {certain : Bool} (hop : logical? key = some op)
      (h : Behind name filter gate certain) :
      Behind name (before ++ (key, .array (earlier ++ .document filter :: later)) :: after)
        (fun d => both (accepts before d)
          (both ((checkFilters key (earlier ++ .document filter :: later)).map fun _ => true)
            (both (op.goesOn earlier d) (gate d))))
        (certain && op == .conjunction)

variable {name : String} {operators filter : Document} {certain : Bool}

/-- Any operator document reads its operators from the left. -/
theorem passes_append (whole earlier later : Document) (v : Option Value) :
    passes whole (earlier ++ later) v = both (passes whole earlier v) (passes whole later v) := by
  rw [passes_eq_all, passes_eq_all, passes_eq_all, all_append]

theorem OperatorBehind.reads_operators {gate : Option Value → Outcome Bool}
    (h : OperatorBehind name operators gate certain) : isOperatorDocument operators = true := by
  cases h with
  | here _ hd => exact hd
  | negated _ hd => exact hd

theorem OperatorBehind.gated {gate : Option Value → Outcome Bool} (h : OperatorBehind name operators gate certain)
    (v : Option Value) :
    Gated (.error (.unsupportedOperator name)) certain (gate v) (passes operators operators v) := by
  induction h with
  | @here earlier later argument hname hd =>
    have hop : passesOperator (earlier ++ (name, argument) :: later) name argument v = unsupported name := by
      rw [passesOperator.eq_def, hname]
    rw [passes_append, passes_cons, hop]
    exact Gated.reached _ _ _ _
  | @negated earlier operators later gate certain h hd ih =>
    have hop : passesOperator (earlier ++ ("$not", .document operators) :: later) "$not" (.document operators) v =
        (passes operators operators v).map (!·) := by
      rw [passesOperator.eq_def]
      show (if isOperatorDocument operators then _ else _) = _
      rw [h.reads_operators]
      rfl
    rw [passes_append, passes_cons, hop]
    exact (ih.map_not.both_right _).behind _

theorem acceptsField_joined {key : String} {op : Logical} (hop : logical? key = some op) (items : List Value)
    (d : Document) :
    acceptsField key (.array items) d = checkFilters key items >>= fun _ => op.joined items d := by
  rw [acceptsField, hop]
  cases op <;> rfl

theorem Behind.gated {gate : Document → Outcome Bool} (h : Behind name filter gate certain) (d : Document) :
    Gated (.error (.unsupportedOperator name)) certain (gate d) (accepts filter d) := by
  induction h with
  | @condition before after argument hname hlogical hexpr =>
    have hfield : acceptsField name argument d = unsupported name := by
      rw [acceptsField, hlogical]
      dsimp only
      rw [if_neg hexpr, if_pos hname]
    rw [accepts_append, accepts_cons, hfield]
    exact Gated.reached _ _ _ _
  | @column before operators after column gate certain hc h =>
    have hfield : acceptsField column (.document operators) d =
        passes operators operators (Path.resolve d (Path.parse column)) := by
      rw [← accepts_singleton, accepts_column hc, meets_operators (h.reads_operators)]
    rw [accepts_append, accepts_cons, hfield]
    exact ((h.gated _).both_right _).behind _
  | @joined before filter after key op earlier later gate certain hop h ih =>
    rw [accepts_append, accepts_cons, acceptsField_joined hop]
    refine (Gated.both_right (Gated.after ?_ _) _).behind _
    have hany := (ih.either_right (acceptsAny later d)).otherwise (acceptsAny earlier d)
    cases op with
    | conjunction =>
      have hall := (ih.both_right (acceptsAll later d)).behind (acceptsAll earlier d)
      rw [show (certain && Logical.conjunction == .conjunction) = certain from Bool.and_true _, Logical.joined,
        acceptsAll_append]
      exact hall
    | disjunction =>
      rw [show (certain && Logical.disjunction == .conjunction) = false from Bool.and_false _, Logical.joined,
        acceptsAny_append]
      exact hany
    | joint =>
      rw [show (certain && Logical.joint == .conjunction) = false from Bool.and_false _, Logical.joined,
        acceptsAny_append]
      exact hany.map_not

end Filter

/-! ## Updates -/

namespace Update

/-- How an operator that is not known is refused, by the first field that it is tried on. -/
def refusal (name : String) : Value → Failure
  | .document ((path, _) :: _) =>
    if (Path.parse path).head = "_id" then .error (.invalidDocument "the _id field is immutable")
    else if Expression.isOperatorName name then .error (.unsupportedOperator name)
    else .error (.invalidDocument "update documents may only contain operators")
  | _ => .error (.invalidDocument (name ++ " needs a document"))

variable {name : String} {argument : Value}

theorem applyField_unknown (hname : operator? name = none) (d : Document) (path : String) (v : Value)
    (rest : List (String × Value)) :
    applyField name d (path, v) = .error (refusal name (.document ((path, v) :: rest))) := by
  rw [applyField, hname, refusal]
  split
  · rfl
  · dsimp only
    split
    · rfl
    · rfl

theorem applyOperator_unknown (hname : operator? name = none) (ha : argument ≠ .document []) (d : Document) :
    applyOperator d (name, argument) = .error (refusal name argument) := by
  cases argument with
  | document fields =>
    cases fields with
    | nil => exact absurd rfl ha
    | cons field rest =>
      obtain ⟨path, v⟩ := field
      rw [applyOperator, List.foldlM_cons, applyField_unknown hname d path v rest]
      rfl
  | _ => rfl

/-- The entries in front of an operator that is not known are made, and then it is refused. -/
theorem changed?_unknown (hname : operator? name = none) (ha : argument ≠ .document []) (d before after : Document) :
    changed? d (before ++ (name, argument) :: after) =
      before.foldlM applyOperator d >>= fun _ => .error (refusal name argument) := by
  have hempty : (before ++ (name, argument) :: after).isEmpty = false := by
    cases before <;> rfl
  rw [changed?, hempty, List.foldlM_append]
  cases before.foldlM applyOperator d with
  | error e => rfl
  | ok out =>
    show (List.foldlM applyOperator out ((name, argument) :: after) >>= fun out => _) = _
    rw [List.foldlM_cons, applyOperator_unknown hname ha]
    rfl

end Update

/-- An operator that is not known is reported by a filter where nothing in front of it has decided, and by an update
wherever it has something to be tried on. -/
theorem unknown_operators_reported :
    (∀ {name : String} {filter : Document} {gate : Document → Outcome Bool} {certain : Bool},
      Filter.Behind name filter gate certain → ∀ d : Document,
        (gate d = .ok true → Filter.accepts filter d = unsupported name) ∧
        (∀ e, gate d = .error e → Filter.accepts filter d = .error e) ∧
        ∀ answer, Filter.accepts filter d = .ok answer →
          gate d = .ok false ∧ (certain = true → answer = false)) ∧
      ∀ {name : String} {argument : Value}, Update.operator? name = none → argument ≠ .document [] →
        ∀ d before after : Document,
          Update.changed? d (before ++ (name, argument) :: after) =
            (before.foldlM Update.applyOperator d >>= fun _ => .error (Update.refusal name argument)) ∧
          ∀ result, Update.changed? d (before ++ (name, argument) :: after) ≠ .ok result := by
  constructor
  · intro name filter gate certain h d
    have hgated := h.gated d
    refine ⟨hgated.passed, hgated.failed, fun answer hanswer => ?_⟩
    constructor
    · cases hgate : gate d with
      | error e => cases (hgated.failed e hgate).symm.trans hanswer
      | ok b =>
        cases b with
        | true => cases (hgated.passed hgate).symm.trans hanswer
        | false => rfl
    · intro hc
      cases answer with
      | true => exact absurd hanswer (hgated.never hc)
      | false => rfl
  · intro name argument hname ha d before after
    have heq := Update.changed?_unknown hname ha d before after
    refine ⟨heq, fun result hresult => ?_⟩
    obtain ⟨out, -, h⟩ := (bind_eq_ok_iff _ _ _).1 (heq.symm.trans hresult)
    cases h

/-- Behind a filter of `$and` and an operator that are met, and behind an operator of an update that is known. -/
theorem unknown_operators_reported_behind :
    let d : Document := [("name", .string "lid"), ("size", .int32 3)]
    let inner : Document := [("size", .document [("$gt", .int32 1), ("$near", .int32 2)])]
    let filter : Document := [("$and", .array [.document [("name", .string "lid")], .document inner])]
    (∃ gate, Filter.Behind "$near" filter gate true ∧ gate d = .ok true) ∧
      Filter.accepts filter d = unsupported "$near" ∧
      Update.operator? "$rename" = none ∧ Value.document [("size", .string "width")] ≠ .document [] ∧
      Update.changed? d ([("$set", .document [("name", .string "box")])] ++
        ("$rename", .document [("size", .string "width")]) :: []) = unsupported "$rename" := by
  intro d inner filter
  have hoperator : Filter.OperatorBehind "$near" ([("$gt", .int32 1)] ++ ("$near", .int32 2) :: []) _ true :=
    .here rfl rfl
  have hinner : Filter.Behind "$near"
      ([] ++ ("size", .document [("$gt", .int32 1), ("$near", .int32 2)]) :: []) _ true :=
    .column rfl hoperator
  have hbehind : Filter.Behind "$near"
      ([] ++ ("$and", .array ([.document [("name", .string "lid")]] ++ .document inner :: [])) :: []) _
      (true && Filter.Logical.conjunction == .conjunction) :=
    .joined rfl hinner
  have hname : Update.operator? "$rename" = none := rfl
  have hargument : Value.document [("size", .string "width")] ≠ .document [] := by
    intro h
    cases h
  refine ⟨⟨_, hbehind, by decide +kernel⟩, ?_, hname, hargument, ?_⟩
  · exact (unknown_operators_reported.1 hbehind d).1 (by decide +kernel)
  · have hset : (List.foldlM Update.applyOperator d [("$set", .document [("name", .string "box")])]).isOk = true := by
      decide +kernel
    have hpath : (Path.parse "size").head ≠ "_id" := by decide +kernel
    rw [(unknown_operators_reported.2 hname hargument d [("$set", .document [("name", .string "box")])] []).1]
    cases hout : List.foldlM Update.applyOperator d [("$set", .document [("name", .string "box")])] with
    | error e => rw [hout] at hset; cases hset
    | ok out =>
      show Except.error (Update.refusal "$rename" (.document [("size", .string "width")])) = _
      rw [Update.refusal, if_neg hpath]
      rfl

/-- Behind a condition that is not met, in a filter that another one stands in for, and with nothing to be tried on. -/
theorem unknown_operators_passed_over :
    let missed : Document := [("size", .int32 1), ("$near", .int32 1)]
    let inner : Document := [("size", .document [("$near", .int32 1)])]
    let joined : Document := [("$or", .array [.document [("size", .int32 1)], .document inner])]
    (∃ gate, Filter.Behind "$near" missed gate true) ∧ Filter.accepts missed [] = .ok false ∧
      (∃ gate, Filter.Behind "$near" joined gate false) ∧ Filter.accepts joined [("size", .int32 1)] = .ok true ∧
      Update.operator? "$rename" = none ∧
      Update.changed? [("size", .int32 1)] [("$rename", .document [])] = .ok none := by
  intro missed inner joined
  have hmissed : Filter.Behind "$near" ([("size", .int32 1)] ++ ("$near", .int32 1) :: []) _ true :=
    .condition rfl rfl (by decide)
  have hoperator : Filter.OperatorBehind "$near" ([] ++ ("$near", .int32 1) :: []) _ true := .here rfl rfl
  have hinner : Filter.Behind "$near" ([] ++ ("size", .document [("$near", .int32 1)]) :: []) _ true :=
    .column rfl hoperator
  have hjoined : Filter.Behind "$near"
      ([] ++ ("$or", .array ([.document [("size", .int32 1)]] ++ .document inner :: [])) :: []) _
      (true && Filter.Logical.disjunction == .conjunction) :=
    .joined rfl hinner
  exact ⟨⟨_, hmissed⟩, by decide +kernel, ⟨_, hjoined⟩, by decide +kernel, rfl, rfl⟩

end DocQuery
