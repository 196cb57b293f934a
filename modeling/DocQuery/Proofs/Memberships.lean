import DocQuery.Builder.Basic
import DocQuery.Proofs.Complements

/-!
# Lists of candidates and chains of clauses

A list of candidates is one condition, tested in a loop.  A chain of clauses on the same column is one filter for each
value, joined again by the compiler.  Both come to the same test:

    meets { $in: vs } x  = any (fun v => meets v x) vs             for vs that begin with no operator   (meets_in)
    meets { $nin: vs } x = all (fun v => meets { $ne: v } x) vs    for vs that are no patterns          (meets_nin)
    clauses joined by Or  say  any (test d)                                                            (testAll_of_or)
    clauses joined by And say  all (test d)                                                            (testAll_of_and)

So membership is the chain of equalities, with the same answers and the same failures (`membership_eq_chain`).
-/

namespace DocQuery

open Outcome

/-! ## Negations of lists of tests -/

namespace Outcome

variable {α : Type}

theorem map_not_either (a b : Outcome Bool) : (either a b).map (!·) = both (a.map (!·)) (b.map (!·)) := by
  cases a with
  | error e => rfl
  | ok answer => cases answer <;> rfl

/-- That no test passes is that every test fails to, up to the first failure. -/
theorem map_not_any (test : α → Outcome Bool) (as : List α) :
    (any test as).map (!·) = all (fun a => (test a).map (!·)) as := by
  induction as with
  | nil => rfl
  | cons a rest ih => rw [any_cons, all_cons, map_not_either, ih]

end Outcome

/-! ## Chains of one connective -/

namespace Clause

variable {c : Clause} {cs : List Clause}

theorem andRuns_of_or (h : ∀ b ∈ cs, b.connective = .or) : andRuns (c :: cs) = (c :: cs).map fun b => [b] := by
  induction cs generalizing c with
  | nil => rfl
  | cons b rest ih =>
    obtain ⟨hb, hrest⟩ := List.forall_mem_cons.1 h
    rw [andRuns_cons_of_or c hb, ih hrest]
    rfl

theorem andRuns_of_and (h : ∀ b ∈ cs, b.connective = .and) : andRuns (c :: cs) = [c :: cs] := by
  induction cs generalizing c with
  | nil => rfl
  | cons b rest ih =>
    obtain ⟨hb, hrest⟩ := List.forall_mem_cons.1 h
    rw [andRuns_cons_of_and c hb, ih hrest]
    rfl

/-- Clauses joined by Or: one of them has to hold. -/
theorem testAll_of_or (h : ∀ b ∈ cs, b.connective = .or) (d : Document) :
    testAll (c :: cs) d = any (test d) (c :: cs) := by
  rw [testAll, andRuns_of_or h, any_map]
  exact any_congr fun b _ => all_singleton (test d) b

/-- Clauses joined by And: all of them have to hold, also when there are none. -/
theorem testAll_of_and (h : ∀ b ∈ cs, b.connective = .and) (d : Document) : testAll cs d = all (test d) cs := by
  cases cs with
  | nil => rfl
  | cons c rest =>
    rw [testAll, andRuns_of_and (List.forall_mem_cons.1 h).2]
    exact any_singleton (all (test d)) (c :: rest)

/-- The clause of a condition on a column is a test of the value at its path. -/
theorem test_of_field {column : String} (hc : Expression.isOperatorName column = false) {condition : Value}
    (hp : FilterDocument.ofPredicate c.predicate = .ok (FilterDocument.field column condition)) (d : Document) :
    test d c = Filter.meets condition (Path.resolve d (Path.parse column)) := by
  rw [test_of_compiles hp, FilterDocument.field, Filter.accepts_column hc]

end Clause

/-! ## Conditions on candidates -/

namespace Filter

open FilterDocument (operator)

/-- A value that begins with no operator is tested as a candidate of a list is. -/
theorem meets_eq_meetsCandidate {v : Value}
    (h : ∀ operators, v = .document operators → isOperatorDocument operators = false) (x : Option Value) :
    meets v x = meetsCandidate x v := by
  cases v with
  | document operators =>
    rw [meets.eq_1, h operators rfl]
    rfl
  | _ => rfl

theorem meets_in {values : List Value}
    (h : ∀ operators, Value.document operators ∈ values → isOperatorDocument operators = false) (x : Option Value) :
    meets (operator "in" (.array values)) x = any (fun v => meets v x) values := by
  have hcandidates : meets (operator "in" (.array values)) x = any (meetsCandidate x) values := by
    rw [meets_operator]
    rfl
  rw [hcandidates]
  refine any_congr fun v hv => (meets_eq_meetsCandidate ?_ x).symm
  rintro operators rfl
  exact h operators hv

theorem meets_ne (v : Value) (x : Option Value) : meets (operator "ne" v) x = .ok (!equals x v) := by
  rw [meets_operator, passesOperator.eq_def]
  rfl

theorem meets_nin {values : List Value} (h : ∀ p, Value.regex p ∉ values) (x : Option Value) :
    meets (operator "nin" (.array values)) x = all (fun v => meets (operator "ne" v) x) values := by
  have hcandidates : meets (operator "nin" (.array values)) x = (any (meetsCandidate x) values).map (!·) := by
    rw [meets_operator]
    rfl
  rw [hcandidates, map_not_any]
  refine all_congr fun v hv => ?_
  rw [meets_ne]
  cases v with
  | regex p => exact absurd hv (h p)
  | _ => rfl

end Filter

/-! ## Builders of nothing but clauses -/

namespace Builder

/-- Both compile to filters, and these give the same result on every document. -/
def SameFilter (b c : Builder) : Prop :=
  ∃ f g, FilterDocument.ofClauses b.query.clauses = .ok f ∧ FilterDocument.ofClauses c.query.clauses = .ok g ∧
    ∀ d, Filter.accepts f d = Filter.accepts g d

/-- Compiles to a filter that gives the same answer on every document. -/
def AlwaysSays (b : Builder) (answer : Bool) : Prop :=
  ∃ f, FilterDocument.ofClauses b.query.clauses = .ok f ∧ ∀ d, Filter.accepts f d = .ok answer

theorem clauses_modify (b : Builder) (cs : List Clause) :
    (b.modify (cs.map Modifier.clause)).query.clauses = b.query.clauses ++ cs := by
  induction cs generalizing b with
  | nil => exact (List.append_nil _).symm
  | cons c rest ih =>
    refine (ih _).trans ?_
    show (b.query.clauses ++ [c]) ++ rest = _
    rw [List.append_assoc, List.singleton_append]

theorem filter_of_clauses (name : String) {cs : List Clause} (h : ∀ c ∈ cs, c.Compiles) :
    ∃ f, FilterDocument.ofClauses ((on name).modify (cs.map Modifier.clause)).query.clauses = .ok f ∧
      ∀ d, Filter.accepts f d = Clause.testAll cs d := by
  rw [clauses_modify]
  exact FilterDocument.ofClauses_of_compiles h

theorem sameFilter_of_testAll (name : String) {bs cs : List Clause} (hb : ∀ b ∈ bs, b.Compiles)
    (hc : ∀ c ∈ cs, c.Compiles) (h : ∀ d, Clause.testAll bs d = Clause.testAll cs d) :
    SameFilter ((on name).modify (bs.map Modifier.clause)) ((on name).modify (cs.map Modifier.clause)) := by
  obtain ⟨f, hf, hfd⟩ := filter_of_clauses name hb
  obtain ⟨g, hg, hgd⟩ := filter_of_clauses name hc
  exact ⟨f, g, hf, hg, fun d => by rw [hfd, hgd, h]⟩

/-! ## Membership -/

variable {column : String} {values : List Value}

theorem ofPredicate_eq (column : String) (v : Value) :
    FilterDocument.ofPredicate (.basic column "=" v) = .ok (FilterDocument.field column v) := by
  have hop : Operator.parse? "=" = some .equals := by decide +kernel
  rw [FilterDocument.ofPredicate, FilterDocument.basic, hop]

theorem ofPredicate_ne (column : String) (v : Value) :
    FilterDocument.ofPredicate (.basic column "<>" v) =
      .ok (FilterDocument.field column (FilterDocument.operator "ne" v)) := by
  have hop : Operator.parse? "<>" = some (.native "ne") := by decide +kernel
  rw [FilterDocument.ofPredicate, FilterDocument.basic, hop]

/-- One of a list and a chain of equalities joined by Or. -/
theorem sameFilter_isIn (hc : Expression.isOperatorName column = false) (name : String) (v : Value) (rest : List Value)
    (h : ∀ operators, Value.document operators ∈ v :: rest → Filter.isOperatorDocument operators = false) :
    SameFilter ((on name).modify [.whereIn column (v :: rest)])
      ((on name).modify (.whereEq column v :: rest.map (.orWhereEq column))) := by
  let equality (k : Connective) (w : Value) : Clause := ⟨k, .basic column "=" w⟩
  have hchain : Modifier.whereEq column v :: rest.map (.orWhereEq column) =
      (equality .and v :: rest.map (equality .or)).map .clause := by
    rw [List.map_cons, List.map_map]
    rfl
  have hor : ∀ c ∈ rest.map (equality .or), c.connective = .or := by
    intro c hmem
    obtain ⟨w, -, rfl⟩ := List.mem_map.1 hmem
    rfl
  have hcompiles : ∀ c ∈ equality .and v :: rest.map (equality .or), c.Compiles := by
    refine List.forall_mem_cons.2 ⟨⟨_, ofPredicate_eq column v⟩, fun c hmem => ?_⟩
    obtain ⟨w, -, rfl⟩ := List.mem_map.1 hmem
    exact ⟨_, ofPredicate_eq column w⟩
  have htest : ∀ k w d, Clause.test d (equality k w) = Filter.meets w (Path.resolve d (Path.parse column)) :=
    fun k w d => Clause.test_of_field hc (ofPredicate_eq column w) d
  rw [hchain]
  show SameFilter ((on name).modify ([⟨.and, .isIn column (v :: rest)⟩].map Modifier.clause)) _
  refine sameFilter_of_testAll name ?_ hcompiles fun d => ?_
  · exact List.forall_mem_singleton.2 ⟨_, rfl⟩
  · rw [Clause.testAll_of_or hor, Clause.testAll_of_and (by simp), all_singleton,
      Clause.test_of_field hc rfl, Filter.meets_in h, any_cons, any_cons, any_map, htest]
    simp only [htest]

/-- None of a list and a chain of inequalities joined by And. -/
theorem sameFilter_notIn (hc : Expression.isOperatorName column = false) (name : String)
    (h : ∀ p, Value.regex p ∉ values) :
    SameFilter ((on name).modify [.whereNotIn column values])
      ((on name).modify (values.map (.whereOp column "<>"))) := by
  let inequality (w : Value) : Clause := ⟨.and, .basic column "<>" w⟩
  have hchain : values.map (Modifier.whereOp column "<>") = (values.map inequality).map .clause := by
    rw [List.map_map]
    rfl
  have hand : ∀ c ∈ values.map inequality, c.connective = .and := by
    intro c hmem
    obtain ⟨w, -, rfl⟩ := List.mem_map.1 hmem
    rfl
  have hcompiles : ∀ c ∈ values.map inequality, c.Compiles := by
    intro c hmem
    obtain ⟨w, -, rfl⟩ := List.mem_map.1 hmem
    exact ⟨_, ofPredicate_ne column w⟩
  rw [hchain]
  show SameFilter ((on name).modify ([⟨.and, .notIn column values⟩].map Modifier.clause)) _
  refine sameFilter_of_testAll name ?_ hcompiles fun d => ?_
  · exact List.forall_mem_singleton.2 ⟨_, rfl⟩
  · rw [Clause.testAll_of_and hand, Clause.testAll_of_and (by simp), all_singleton,
      Clause.test_of_field hc rfl, Filter.meets_nin h, all_map]
    exact all_congr fun w _ => (Clause.test_of_field hc (ofPredicate_ne column w) d).symm

/-! ## Main result -/

/-- A column and a list of values, none of them a document that begins with an operator.  Being one of the list, when
it has values, is the chain of equalities joined by Or: the same answer or the same failure on every document, patterns
in the list included.  Being none of the list, when it has no patterns, is the chain of inequalities joined by And.
Of the empty list no document is one, and every document is none. -/
theorem membership_eq_chain (hc : Expression.isOperatorName column = false) (name : String)
    (h : ∀ operators, Value.document operators ∈ values → Filter.isOperatorDocument operators = false) :
    (∀ v rest, values = v :: rest → SameFilter ((on name).modify [.whereIn column values])
      ((on name).modify (.whereEq column v :: rest.map (.orWhereEq column)))) ∧
    ((∀ p, Value.regex p ∉ values) → SameFilter ((on name).modify [.whereNotIn column values])
      ((on name).modify (values.map (.whereOp column "<>")))) ∧
    AlwaysSays ((on name).modify [.whereIn column []]) false ∧
    AlwaysSays ((on name).modify [.whereNotIn column []]) true := by
  refine ⟨?_, sameFilter_notIn hc name, ?_, ?_⟩
  · rintro v rest rfl
    exact sameFilter_isIn hc name v rest h
  · refine ⟨_, rfl, fun d => ?_⟩
    show Filter.accepts [(column, FilterDocument.operator "in" (.array []))] d = _
    rw [Filter.accepts_column hc, Filter.meets_in (by simp)]
    rfl
  · refine ⟨_, rfl, fun d => ?_⟩
    show Filter.accepts [(column, FilterDocument.operator "nin" (.array []))] d = _
    rw [Filter.accepts_column hc, Filter.meets_nin (by simp)]
    rfl

/-- A path, with null, a document, an array and a pattern that does not compile among the candidates. -/
theorem membership_eq_chain_mixed :
    let document : Value := .document [("a", .int32 1), ("$gt", .int32 2)]
    let plain : List Value := [.null, document, .array [.int32 1, .null]]
    let broken : Value := .regex ⟨"(", ""⟩
    Expression.isOperatorName "tags.name" = false ∧
      SameFilter ((on "users").modify [.whereIn "tags.name" (broken :: plain)])
        ((on "users").modify (.whereEq "tags.name" broken :: plain.map (.orWhereEq "tags.name"))) ∧
      SameFilter ((on "users").modify [.whereNotIn "tags.name" plain])
        ((on "users").modify (plain.map (.whereOp "tags.name" "<>"))) := by
  intro document plain broken
  have hc : Expression.isOperatorName "tags.name" = false := by decide
  have hplain : ∀ operators, Value.document operators ∈ plain → Filter.isOperatorDocument operators = false := by
    intro operators hmem
    simp only [plain, document, List.mem_cons, List.not_mem_nil, reduceCtorEq, Value.document.injEq, false_or,
      or_false] at hmem
    subst hmem
    decide
  have hbroken : ∀ operators, Value.document operators ∈ broken :: plain →
      Filter.isOperatorDocument operators = false := by
    intro operators hmem
    rcases List.mem_cons.1 hmem with heq | hmem
    · simp only [broken, reduceCtorEq] at heq
    · exact hplain operators hmem
  have hpatterns : ∀ p, Value.regex p ∉ plain := by
    intro p hmem
    simp only [plain, document, List.mem_cons, List.not_mem_nil, reduceCtorEq, or_self] at hmem
  exact ⟨hc, (membership_eq_chain hc "users" hbroken).1 broken plain rfl,
    (membership_eq_chain hc "users" hplain).2.1 hpatterns⟩

end Builder

end DocQuery
