import DocQuery.Proofs.Progress

/-!
# Ranges

A range is one document with two bounds, and its negation an `$or` of two documents with one bound each.  On a
value that is ordered to both bounds they are opposite, also where the bounds are the wrong way round:

    within? v low = lo, within? v high = hi  →  between      says  lo ≥ and hi ≤
                                                not between  says  lo < or hi >           (between_spec)

In a list, whatever stands before and after it, a range adds this answer to the answers of the other clauses, which
are read And before Or (`ofClauses_insert`).
-/

namespace DocQuery

open Outcome

/-! ## Bounds -/

namespace Filter

variable {v low high bound : Value} {o lo hi : Ordering}

theorem compares_of_within (ha : v.isArray = false) (h : Value.within? v bound = some o)
    (wanted : Ordering → Bool) : compares wanted bound (some v) = wanted o := by
  have hordered : isOrdered wanted bound v = wanted o := by rw [isOrdered, h]
  cases v with
  | array items => cases ha
  | _ => exact hordered

/-- Whether a value is where a range wants it, by its orders to the two bounds. -/
def inRange (negated : Bool) (lo hi : Ordering) : Bool :=
  if negated then lo.isLT || hi.isGT else lo.isGE && hi.isLE

theorem inRange_true (lo hi : Ordering) : inRange true lo hi = !inRange false lo hi := by
  cases lo <;> cases hi <;> rfl

theorem meetsRange_of_within (ha : v.isArray = false) (hlow : Value.within? v low = some lo)
    (hhigh : Value.within? v high = some hi) (negated : Bool) :
    FilterDocument.meetsRange low high negated (some v) = .ok (inRange negated lo hi) := by
  have hcompares : ∀ {bound o}, Value.within? v bound = some o → ∀ wanted : Ordering → Bool,
      compares wanted bound (some v) = wanted o := compares_of_within ha
  cases negated with
  | false =>
    show meets (.document [("$gte", low), ("$lte", high)]) (some v) = _
    have hgte : passesOperator [("$gte", low), ("$lte", high)] "$gte" low (some v) = .ok lo.isGE := by
      rw [passesOperator.eq_def, ← hcompares hlow Ordering.isGE]
      rfl
    have hlte : passesOperator [("$gte", low), ("$lte", high)] "$lte" high (some v) = .ok hi.isLE := by
      rw [passesOperator.eq_def, ← hcompares hhigh Ordering.isLE]
      rfl
    rw [meets_operators rfl, passes_cons, passes_cons, passes_nil, both_true_right, hgte, hlte, inRange]
    cases lo.isGE <;> rfl
  | true =>
    have hlt : meets (FilterDocument.operator "lt" low) (some v) = .ok lo.isLT := by
      rw [meets_operator, passesOperator.eq_def, ← hcompares hlow Ordering.isLT]
      rfl
    have hgt : meets (FilterDocument.operator "gt" high) (some v) = .ok hi.isGT := by
      rw [meets_operator, passesOperator.eq_def, ← hcompares hhigh Ordering.isGT]
      rfl
    rw [FilterDocument.meetsRange, if_pos rfl, hlt, hgt, inRange]
    cases lo.isLT <;> rfl

end Filter

/-! ## Lists of clauses -/

/-- What a list of answers says, And before Or: some run holds throughout.  No answers hold. -/
def Outcome.joined (answers : List (Connective × Outcome Bool)) : Outcome Bool :=
  if answers.isEmpty then .ok true else any (all id) (FilterDocument.runs answers)

namespace Clause

/-- How a clause is joined, and its answer. -/
def answer (c : Clause) (d : Document) : Connective × Outcome Bool := (c.connective, test d c)

theorem testAll_eq_joined (cs : List Clause) (d : Document) : testAll cs d = joined (cs.map (·.answer d)) := by
  have hruns : FilterDocument.runs (cs.map (·.answer d)) = (andRuns cs).map (List.map (test d)) :=
    FilterDocument.runs_map (test d) cs
  rw [testAll, joined, hruns, any_map]
  simp only [all_map, id_eq, List.isEmpty_map]

end Clause

namespace FilterDocument

open DocQuery.Filter

theorem fragments_insert_eq_error_iff {c : Clause} (hc : c.Compiles) (front rest : List Clause) (e : CompileError) :
    fragments (front ++ c :: rest) = .error e ↔ fragments (front ++ rest) = .error e := by
  induction front with
  | nil =>
    rw [List.nil_append, List.nil_append, fragments, ofPredicate_eq_fragment hc]
    cases fragments rest with
    | error e' => exact Iff.rfl
    | ok ds => simp [bind, Except.bind, pure, Except.pure]
  | cons b front ih =>
    rw [List.cons_append, List.cons_append, fragments, fragments]
    cases ofPredicate b.predicate with
    | error e' => exact Iff.rfl
    | ok f =>
      have hstep : ∀ out : Compiled (List (Connective × Document)),
          (out >>= fun ds => pure ((b.connective, f) :: ds)) = .error e ↔ out = .error e := by
        intro out
        cases out <;> simp [bind, Except.bind, pure, Except.pure]
      exact (hstep _).trans (ih.trans (hstep _).symm)

theorem ofClauses_eq_error_iff (cs : List Clause) (e : CompileError) :
    ofClauses cs = .error e ↔ fragments cs = .error e := by
  rw [ofClauses]
  cases fragments cs <;> simp [Except.map]

theorem compiles_of_ofClauses {cs : List Clause} {f : Document} (h : ofClauses cs = .ok f) : ∀ c ∈ cs, c.Compiles := by
  rw [ofClauses, map_eq_ok_iff] at h
  obtain ⟨ds, hds, -⟩ := h
  exact compiles_of_fragments hds

/-- A clause that has a filter fails no list, and its answer stands among those of the other clauses. -/
theorem ofClauses_insert {c : Clause} (hc : c.Compiles) (front rest : List Clause) :
    (∀ e, ofClauses (front ++ rest) = .error e → ofClauses (front ++ c :: rest) = .error e) ∧
      ∀ g, ofClauses (front ++ rest) = .ok g → ∃ f, ofClauses (front ++ c :: rest) = .ok f ∧
        ∀ d, accepts f d = joined (front.map (·.answer d) ++ c.answer d :: rest.map (·.answer d)) := by
  refine ⟨fun e he => ?_, fun g hg => ?_⟩
  · rw [ofClauses_eq_error_iff] at he ⊢
    exact (fragments_insert_eq_error_iff hc front rest e).2 he
  · have hothers := compiles_of_ofClauses hg
    have hall : ∀ b ∈ front ++ c :: rest, b.Compiles := by
      intro b hb
      rcases List.mem_append.1 hb with hb | hb
      · exact hothers b (List.mem_append_left _ hb)
      · rcases List.mem_cons.1 hb with rfl | hb
        · exact hc
        · exact hothers b (List.mem_append_right _ hb)
    obtain ⟨f, hf, haccepts⟩ := ofClauses_of_compiles hall
    refine ⟨f, hf, fun d => ?_⟩
    rw [haccepts, Clause.testAll_eq_joined, List.map_append, List.map_cons]

end FilterDocument

/-! ## Main result -/

namespace Predicate

open FilterDocument DocQuery.Filter

/-- A column with a value that is no array and that both bounds are ordered to, in any order of the bounds.  The
range holds where the value is at least the low bound and at most the high one, and its negation where the value is
below the low bound or above the high one; so exactly one of them holds.  Each of them, anywhere in a list of
clauses, leaves the list without a filter where the others have none, and otherwise adds just this answer to
theirs. -/
theorem between_spec {d : Document} {column : String} {v low high : Value} {lo hi : Ordering}
    (hc : Expression.isOperatorName column = false) (hv : Path.resolve d (Path.parse column) = some v)
    (ha : v.isArray = false) (hlow : Value.within? v low = some lo) (hhigh : Value.within? v high = some hi) :
    (∃ f g, ofPredicate (.between column low high false) = .ok f ∧ accepts f d = .ok (lo.isGE && hi.isLE) ∧
      ofPredicate (.between column low high true) = .ok g ∧ accepts g d = .ok (lo.isLT || hi.isGT)) ∧
    (lo.isLT || hi.isGT) = !(lo.isGE && hi.isLE) ∧
    ∀ (front rest : List Clause) (connective : Connective) (negated : Bool),
      (∀ e, ofClauses (front ++ rest) = .error e →
        ofClauses (front ++ ⟨connective, .between column low high negated⟩ :: rest) = .error e) ∧
      ∀ g, ofClauses (front ++ rest) = .ok g → ∃ f,
        ofClauses (front ++ ⟨connective, .between column low high negated⟩ :: rest) = .ok f ∧
        accepts f d = joined (front.map (·.answer d) ++
          (connective, .ok (if negated then lo.isLT || hi.isGT else lo.isGE && hi.isLE)) ::
            rest.map (·.answer d)) := by
  have haccepts : ∀ negated, accepts (FilterDocument.between column low high negated) d =
      .ok (inRange negated lo hi) := by
    intro negated
    rw [accepts_between hc, hv, meetsRange_of_within ha hlow hhigh]
  refine ⟨⟨_, _, rfl, haccepts false, rfl, haccepts true⟩, inRange_true lo hi, ?_⟩
  intro front rest connective negated
  obtain ⟨herror, hok⟩ :=
    ofClauses_insert (c := ⟨connective, .between column low high negated⟩) ⟨_, rfl⟩ front rest
  refine ⟨herror, fun g hg => ?_⟩
  obtain ⟨f, hf, hd⟩ := hok g hg
  refine ⟨f, hf, ?_⟩
  have hanswer : Clause.answer ⟨connective, .between column low high negated⟩ d =
      (connective, .ok (inRange negated lo hi)) := congrArg (Prod.mk connective) (haccepts negated)
  rw [hd, hanswer]
  rfl

/-- Bounds of other kinds and the wrong way round: the negation holds, also beside another `$or`. -/
theorem between_spec_reversed :
    let d : Document := [("a", .document [("b", .int32 5)])]
    let outside : Clause := ⟨.and, .between "a.b" (.int64 7) (.int32 3) true⟩
    (∃ f, ofPredicate (.between "a.b" (.int64 7) (.int32 3) false) = .ok f ∧ accepts f d = .ok false) ∧
      ∃ f, ofClauses [outside, outside, ⟨.or, .null "a"⟩] = .ok f ∧ accepts f d = .ok true := by
  intro d outside
  have hv : Path.resolve d (Path.parse "a.b") = some (.int32 5) := by rfl
  have hlow : Value.within? (.int32 5) (.int64 7) = some .lt := by decide +kernel
  have hhigh : Value.within? (.int32 5) (.int32 3) = some .gt := by decide +kernel
  obtain ⟨⟨f, -, hf, hd, -⟩, -, hlist⟩ := between_spec (by decide) hv rfl hlow hhigh
  obtain ⟨g, hg, hgd⟩ := (hlist [outside] [⟨.or, .null "a"⟩] .and true).2 _ rfl
  exact ⟨⟨f, hf, hd⟩, g, hg, hgd.trans (by rfl)⟩

end Predicate

end DocQuery
