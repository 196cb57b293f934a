import DocQuery.Proofs.Filters
import DocQuery.Statement.Filter
import Mathlib.Data.List.SplitBy

/-!
# What a list of clauses says

A list of clauses has a meaning of its own, read clause by clause with And before Or.  The compiled filter has
the same one, whatever keys the fragments share:

    Clause.test d c       the answer of the clause's own filter
    Clause.andRuns cs     the list, cut before each clause that is joined by Or
    Clause.testAll cs d   some run of which every clause holds, from the left

    ofClauses cs = error e ↔ the first clause without a filter says e
    ofClauses cs = ok f    → accepts f d = testAll cs d                          (ofClauses_spec)
-/

namespace DocQuery

/-! ## The meaning of clauses -/

namespace Clause

/-- A clause that has a filter. -/
def Compiles (c : Clause) : Prop := ∃ f, FilterDocument.ofPredicate c.predicate = .ok f

/-- The first clause without a filter, and what is said about it. -/
def FirstRefused (cs : List Clause) (e : CompileError) : Prop :=
  ∃ before c after, cs = before ++ c :: after ∧ (∀ b ∈ before, b.Compiles) ∧
    FilterDocument.ofPredicate c.predicate = .error e

/-- The answer of one clause; a clause without a filter holds of nothing. -/
def test (d : Document) (c : Clause) : Outcome Bool :=
  match FilterDocument.ofPredicate c.predicate with
  | .ok f => Filter.accepts f d
  | .error _ => .ok false

/-- The runs of And: how the first clause of a run is joined to the ones before it is left aside. -/
def andRuns (cs : List Clause) : List (List Clause) :=
  cs.splitBy fun _ c => c.connective != .or

/-- Some run of which every clause holds, from the left up to what decides; no clauses hold of everything. -/
def testAll (cs : List Clause) (d : Document) : Outcome Bool :=
  if cs.isEmpty then .ok true else Outcome.any (Outcome.all (test d)) (andRuns cs)

theorem test_of_compiles {c : Clause} {f : Document} (h : FilterDocument.ofPredicate c.predicate = .ok f)
    (d : Document) : test d c = Filter.accepts f d := by
  rw [test, h]

theorem mem_of_mem_andRuns {cs run : List Clause} (hr : run ∈ andRuns cs) {c : Clause} (hc : c ∈ run) : c ∈ cs := by
  rw [← List.flatten_splitBy (fun _ c => c.connective != .or) cs]
  exact List.mem_flatten.2 ⟨run, hr, hc⟩

/-- Documents of which every clause says the same are told apart by no list of them. -/
theorem testAll_congr {cs : List Clause} {d e : Document} (h : ∀ c ∈ cs, test d c = test e c) :
    testAll cs d = testAll cs e := by
  rw [testAll, testAll]
  refine congrArg _ (Outcome.any_congr fun run hr => Outcome.all_congr fun c hc => ?_)
  exact h c (mem_of_mem_andRuns hr hc)

/-! ## Runs -/

open FilterDocument (continueRun)

/-- The loop of `splitBy` has gathered whole runs and the start of one; the rest continues that one. -/
theorem splitBy_loop_eq (cs : List Clause) (c : Clause) (run : List Clause) (done : List (List Clause)) :
    List.splitBy.loop (fun _ c => c.connective != .or) cs c run done =
      done.reverse ++ (run.reverse ++ c :: (continueRun (cs.map fun c => (c.connective, c))).1)
        :: (continueRun (cs.map fun c => (c.connective, c))).2 := by
  induction cs generalizing c run done with
  | nil => simp [List.splitBy.loop, continueRun]
  | cons b rest ih =>
    rw [List.splitBy.loop]
    cases hb : b.connective with
    | and =>
      show List.splitBy.loop _ rest b (c :: run) done = _
      simp [ih, hb, continueRun]
    | or =>
      show List.splitBy.loop _ rest b [] ((c :: run).reverse :: done) = _
      simp [ih, hb, continueRun]

theorem andRuns_cons (c : Clause) (cs : List Clause) :
    andRuns (c :: cs) =
      (c :: (continueRun (cs.map fun c => (c.connective, c))).1)
        :: (continueRun (cs.map fun c => (c.connective, c))).2 := by
  rw [andRuns, List.splitBy, splitBy_loop_eq]
  rfl

theorem andRuns_cons_of_or (c : Clause) {b : Clause} (hb : b.connective = .or) (rest : List Clause) :
    andRuns (c :: b :: rest) = [c] :: andRuns (b :: rest) := by
  rw [andRuns_cons, andRuns_cons, List.map_cons, hb]
  rfl

theorem andRuns_cons_of_and (c : Clause) {b : Clause} (hb : b.connective = .and) (rest : List Clause) :
    andRuns (c :: b :: rest) = (c :: (andRuns (b :: rest)).headD []) :: (andRuns (b :: rest)).tail := by
  rw [andRuns_cons, andRuns_cons, List.map_cons, hb]
  rfl

-- How the first clause is joined does not matter.
example (p q r : Predicate) :
    andRuns [⟨.or, p⟩, ⟨.and, q⟩, ⟨.or, r⟩] = [[⟨.or, p⟩, ⟨.and, q⟩], [⟨.or, r⟩]] := rfl

end Clause

namespace FilterDocument

open DocQuery.Filter

theorem continueRun_map {α β : Type} (g : α → β) (ps : List (Connective × α)) :
    continueRun (ps.map fun p => (p.1, g p.2)) =
      ((continueRun ps).1.map g, (continueRun ps).2.map (List.map g)) := by
  induction ps with
  | nil => rfl
  | cons p rest ih =>
    obtain ⟨connective, a⟩ := p
    cases connective <;> simp [continueRun, ih]

/-- The runs of fragments are the fragments of the runs. -/
theorem runs_map {α : Type} (g : Clause → α) (cs : List Clause) :
    runs (cs.map fun c => (c.connective, g c)) = (Clause.andRuns cs).map (List.map g) := by
  cases cs with
  | nil => rfl
  | cons c rest =>
    have hm : (rest.map fun c => (c.connective, g c)) =
        (rest.map fun c => (c.connective, c)).map fun p => (p.1, g p.2) := by
      rw [List.map_map]; rfl
    rw [List.map_cons, runs, hm, continueRun_map, Clause.andRuns_cons]
    rfl

/-! ## Conjunctions and disjunctions -/

theorem accepts_merge? {fs : List Document} {start merged : Document} (h : merge? start fs = some merged)
    (d : Document) :
    accepts merged d = Outcome.both (accepts start d) (Outcome.all (fun f => accepts f d) fs) := by
  induction fs generalizing start with
  | nil =>
    rw [merge?] at h
    cases h
    exact (Outcome.both_true_right _).symm
  | cons f rest ih =>
    rw [merge?] at h
    split at h
    · cases h
    · rw [ih h, accepts_append, Outcome.both_assoc, Outcome.all_cons]

/-- Empty documents hold of everything, so leaving them out changes no conjunction. -/
theorem all_accepts_nonempty (fs : List Document) (d : Document) :
    Outcome.all (fun f => accepts f d) (fs.filter fun f => !f.isEmpty) =
      Outcome.all (fun f => accepts f d) fs := by
  induction fs with
  | nil => rfl
  | cons f rest ih =>
    cases f with
    | nil => exact ih
    | cons field others =>
      show Outcome.all _ ((field :: others) :: rest.filter _) = _
      rw [Outcome.all_cons, ih, Outcome.all_cons]

/-- A conjunction of filters holds as they do one after the other, merged or kept apart. -/
theorem accepts_conjoin (fs : List Document) (d : Document) :
    accepts (conjoin fs) d = Outcome.all (fun f => accepts f d) fs := by
  rw [← all_accepts_nonempty, conjoin]
  generalize fs.filter (fun f => !f.isEmpty) = kept
  cases h : merge? [] kept with
  | some merged => exact accepts_merge? h d
  | none =>
    have hk : kept ≠ [] := by
      rintro rfl
      cases h
    exact accepts_and hk d

/-- A disjunction of filters holds as they do one after the other. -/
theorem accepts_disjoin {fs : List Document} (h : fs ≠ []) (d : Document) :
    accepts (disjoin fs) d = Outcome.any (fun f => accepts f d) fs := by
  match fs, h with
  | [f], _ => exact (Outcome.any_singleton (fun f => accepts f d) f).symm
  | f :: g :: rest, h => exact accepts_or h d

/-! ## Whole lists -/

theorem fragments_eq_error_iff (cs : List Clause) (e : CompileError) :
    fragments cs = .error e ↔ Clause.FirstRefused cs e := by
  induction cs with
  | nil =>
    constructor
    · intro h; cases h
    · rintro ⟨before, c, after, h, -, -⟩
      cases before <;> cases h
  | cons c rest ih =>
    rw [fragments]
    cases hc : ofPredicate c.predicate with
    | error e' =>
      constructor
      · intro h
        cases h
        exact ⟨[], c, rest, rfl, by simp, hc⟩
      · rintro ⟨before, c', after, h, hb, he⟩
        cases before with
        | nil =>
          cases h
          rw [hc] at he
          cases he
          rfl
        | cons b later =>
          cases h
          obtain ⟨f, hf⟩ := hb c List.mem_cons_self
          rw [hc] at hf
          cases hf
    | ok f =>
      constructor
      · intro h
        cases hr : fragments rest with
        | ok ds => rw [hr] at h; cases h
        | error e' =>
          rw [hr] at h
          cases h
          obtain ⟨before, c', after, h, hb, he⟩ := ih.1 hr
          exact ⟨c :: before, c', after, by rw [h]; rfl, List.forall_mem_cons.2 ⟨⟨f, hc⟩, hb⟩, he⟩
      · rintro ⟨before, c', after, h, hb, he⟩
        cases before with
        | nil =>
          cases h
          rw [hc] at he
          cases he
        | cons b later =>
          cases h
          rw [ih.2 ⟨later, c', after, rfl, (List.forall_mem_cons.1 hb).2, he⟩]
          rfl

/-- The filter of a clause that has one. -/
def fragment (c : Clause) : Document :=
  match ofPredicate c.predicate with
  | .ok f => f
  | .error _ => []

theorem ofPredicate_eq_fragment {c : Clause} (h : c.Compiles) : ofPredicate c.predicate = .ok (fragment c) := by
  obtain ⟨f, hf⟩ := h
  rw [fragment, hf]

theorem fragments_of_compiles {cs : List Clause} (h : ∀ c ∈ cs, c.Compiles) :
    fragments cs = .ok (cs.map fun c => (c.connective, fragment c)) := by
  induction cs with
  | nil => rfl
  | cons c rest ih =>
    obtain ⟨hc, hr⟩ := List.forall_mem_cons.1 h
    rw [fragments, ofPredicate_eq_fragment hc, ih hr]
    rfl

theorem accepts_runs {cs : List Clause} (h : ∀ c ∈ cs, c.Compiles) (d : Document) :
    accepts (disjoin ((runs (cs.map fun c => (c.connective, fragment c))).map conjoin)) d =
      Clause.testAll cs d := by
  cases cs with
  | nil => rfl
  | cons c rest =>
    have hn : Clause.andRuns (c :: rest) ≠ [] := List.splitBy_ne_nil.2 (List.cons_ne_nil c rest)
    rw [runs_map, accepts_disjoin (by simpa using hn), Clause.testAll, List.map_map, Outcome.any_map]
    refine Outcome.any_congr fun run hrun => ?_
    show accepts (conjoin (run.map fragment)) d = _
    rw [accepts_conjoin, Outcome.all_map]
    refine Outcome.all_congr fun b hb => ?_
    exact (Clause.test_of_compiles (ofPredicate_eq_fragment (h b (Clause.mem_of_mem_andRuns hrun hb))) d).symm

theorem compiles_of_fragments {cs : List Clause} {ds : List (Connective × Document)}
    (h : fragments cs = .ok ds) : ∀ c ∈ cs, c.Compiles := by
  induction cs generalizing ds with
  | nil => simp
  | cons c rest ih =>
    rw [fragments] at h
    cases hc : ofPredicate c.predicate with
    | error e => rw [hc] at h; cases h
    | ok f =>
      cases hr : fragments rest with
      | error e => rw [hc, hr] at h; cases h
      | ok later => exact List.forall_mem_cons.2 ⟨⟨f, hc⟩, ih hr⟩

theorem ofClauses_of_compiles {cs : List Clause} (h : ∀ c ∈ cs, c.Compiles) :
    ∃ f, ofClauses cs = .ok f ∧ ∀ d, accepts f d = Clause.testAll cs d :=
  ⟨_, by rw [ofClauses, fragments_of_compiles h]; rfl, accepts_runs h⟩

theorem accepts_ofClauses {cs : List Clause} {f : Document} (h : ofClauses cs = .ok f) (d : Document) :
    accepts f d = Clause.testAll cs d := by
  rw [ofClauses] at h
  cases hf : fragments cs with
  | error e => rw [hf] at h; cases h
  | ok ds =>
    obtain ⟨g, hg, hd⟩ := ofClauses_of_compiles (compiles_of_fragments hf)
    rw [ofClauses, hf] at hg
    rw [hf] at h
    rw [← hd d, Except.ok.inj (h.symm.trans hg)]

/-- A list of clauses has a filter unless one of them has none, and then the first such clause gives the
error; the filter answers of every document as the clauses do, And before Or. -/
theorem ofClauses_spec (cs : List Clause) :
    (∀ e, ofClauses cs = .error e ↔ Clause.FirstRefused cs e) ∧
      ((∀ c ∈ cs, c.Compiles) →
        ∃ f, ofClauses cs = .ok f ∧ ∀ d, accepts f d = Clause.testAll cs d) := by
  refine ⟨fun e => ?_, ofClauses_of_compiles⟩
  rw [← fragments_eq_error_iff, ofClauses]
  cases fragments cs with
  | error e' => simp [Except.map]
  | ok ds => simp [Except.map]

end FilterDocument

end DocQuery
