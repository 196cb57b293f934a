import DocQuery.Proofs.FilterOverflows
import DocQuery.Proofs.Progress

/-!
# Predicates and their negations

A negation compiles to a condition of another shape.  On every value, and on none, it gives the opposite answer, or
fails as the predicate does:

    meets { $ne: null } v  = not (meets null v)                    (meets_notNull)
    meets { $nin: [..] } v = not (meets { $in: [..] } v)           (meets_notIn)
    meets { $not: /p/ } v  = not (meets /p/ v)                     (meets_negate)

So a predicate and its negation part the documents of a collection, as far as they can be told
(`negations_complementary`).
-/

namespace DocQuery

open Outcome

/-! ## Conditions -/

namespace Filter

open FilterDocument (operator negate)

theorem meets_notNull (v : Option Value) : meets (.document [("$ne", .null)]) v = (meets .null v).map (!·) := by
  rw [meets_operators rfl, passes_cons, passes_nil, both_true_right]
  rfl

theorem meets_notIn (values : List Value) (v : Option Value) :
    meets (operator "nin" (.array values)) v = (meets (operator "in" (.array values)) v).map (!·) := by
  rw [meets_operator, meets_operator]
  rfl

theorem meets_negate (p : Pattern) (v : Option Value) :
    meets (negate true p) v = (meets (negate false p) v).map (!·) := by
  show meets (operator "not" (.regex p)) v = _
  rw [meets_operator]
  rfl

end Filter

/-! ## Predicates -/

/-- Two answers that are opposite, or one error of the store for both. -/
inductive Outcome.Opposite : Outcome Bool → Outcome Bool → Prop where
  | fails (e : StoreError) : Opposite (.error (.error e)) (.error (.error e))
  | answers (answer : Bool) : Opposite (.ok answer) (.ok (!answer))

theorem Outcome.opposite_map_not {a : Outcome Bool} (h : OverflowOnly False a) : Opposite a (a.map (!·)) := by
  cases a with
  | ok answer => exact .answers answer
  | error e =>
    cases e with
    | error e => exact .fails e
    | overflow => exact (h rfl).elim

theorem Outcome.Opposite.of_ok {a : Bool} {b : Outcome Bool} (h : Opposite (.ok a) b) : b = .ok (!a) := by
  cases h with
  | answers => rfl

namespace Predicate

open FilterDocument DocQuery.Filter

/-- Both have a filter, and these are opposite on every document. -/
def Complementary (p q : Predicate) : Prop :=
  ∃ f g, ofPredicate p = .ok f ∧ ofPredicate q = .ok g ∧ ∀ d, Opposite (accepts f d) (accepts g d)

/-- Both have a filter, and of every document exactly one of these holds. -/
def Parting (p q : Predicate) : Prop :=
  ∃ f g, ofPredicate p = .ok f ∧ ofPredicate q = .ok g ∧
    ∀ d, ∃ answer, accepts f d = .ok answer ∧ accepts g d = .ok (!answer)

variable {column : String} {p q : Predicate}

/-- Opposite conditions on a column make opposite filters. -/
theorem complementary_of_meets (hc : Expression.isOperatorName column = false) {c notC : Value}
    (hp : ofPredicate p = .ok (field column c)) (hq : ofPredicate q = .ok (field column notC))
    (ho : ∀ v, OverflowOnly False (meets c v)) (h : ∀ v, meets notC v = (meets c v).map (!·)) :
    Complementary p q := by
  refine ⟨_, _, hp, hq, fun d => ?_⟩
  rw [field, field, accepts_column hc, accepts_column hc, h]
  exact opposite_map_not (ho _)

/-- Where the filter of the one decides, the filter of the other does. -/
theorem Complementary.parting (h : Complementary p q) {f : Document} (hp : ofPredicate p = .ok f)
    (hd : ∀ d, (accepts f d).Decides) : Parting p q := by
  obtain ⟨f', g, hp', hq, ho⟩ := h
  obtain rfl : f = f' := Except.ok.inj (hp.symm.trans hp')
  refine ⟨f, g, hp, hq, fun d => ?_⟩
  obtain ⟨answer, ha⟩ := hd d
  exact ⟨answer, ha, (ha ▸ ho d).of_ok⟩

theorem complementary_null (hc : Expression.isOperatorName column = false) :
    Complementary (.null column) (.notNull column) :=
  complementary_of_meets hc rfl rfl (fun _ => .of_ok _) meets_notNull

theorem complementary_isIn (hc : Expression.isOperatorName column = false) (values : List Value) :
    Complementary (.isIn column values) (.notIn column values) := by
  refine complementary_of_meets hc rfl rfl (fun v => ?_) (meets_notIn values)
  rw [meets_operator]
  exact isAmong_only "$in" v (.array values)

theorem ofPredicate_like {op : String} {negated : Bool} (ho : Operator.parse? op = some (.like negated))
    (column pattern : String) : ofPredicate (.basic column op (.string pattern)) =
      .ok (field column (negate negated (Like.toPattern pattern))) := by
  rw [ofPredicate, FilterDocument.basic, ho]

theorem ofPredicate_regex {op : String} {negated : Bool} (ho : Operator.parse? op = some (.regex negated))
    (column : String) (value : Value) : ofPredicate (.basic column op value) =
      (toPattern column value).map fun p => field column (negate negated p) := by
  rw [ofPredicate, FilterDocument.basic, ho]

variable {op notOp : String}

theorem complementary_like (hc : Expression.isOperatorName column = false)
    (ho : Operator.parse? op = some (.like false)) (hn : Operator.parse? notOp = some (.like true))
    (pattern : String) :
    Complementary (.basic column op (.string pattern)) (.basic column notOp (.string pattern)) :=
  complementary_of_meets hc (ofPredicate_like ho column pattern) (ofPredicate_like hn column pattern)
    (matchesPattern_only (Like.toPattern pattern)) (meets_negate (Like.toPattern pattern))

/-- Whether a value gives a pattern does not depend on the negation. -/
theorem complementary_regex (hc : Expression.isOperatorName column = false)
    (ho : Operator.parse? op = some (.regex false)) (hn : Operator.parse? notOp = some (.regex true)) {value : Value}
    {p : Pattern} (hp : toPattern column value = .ok p) :
    Complementary (.basic column op value) (.basic column notOp value) := by
  have hfilter : ofPredicate (.basic column op value) = .ok (field column (negate false p)) := by
    rw [ofPredicate_regex ho, hp]
    rfl
  have hopposite : ofPredicate (.basic column notOp value) = .ok (field column (negate true p)) := by
    rw [ofPredicate_regex hn, hp]
    rfl
  exact complementary_of_meets hc hfilter hopposite (matchesPattern_only p) (meets_negate p)

/-! ## Main result -/

/-- Of a column, null and not null part all documents, and so do a like pattern and its negation.  A list, or a
regular expression where the value gives one, is opposite to its negation on all documents; where it fails, both fail
with the same error. -/
theorem negations_complementary (hc : Expression.isOperatorName column = false) :
    Parting (.null column) (.notNull column) ∧
    (∀ values, Complementary (.isIn column values) (.notIn column values)) ∧
    (∀ op notOp, Operator.parse? op = some (.like false) → Operator.parse? notOp = some (.like true) → ∀ pattern,
      Complementary (.basic column op (.string pattern)) (.basic column notOp (.string pattern)) ∧
      (Like.HasRoom pattern → Parting (.basic column op (.string pattern)) (.basic column notOp (.string pattern)))) ∧
    ∀ op notOp, Operator.parse? op = some (.regex false) → Operator.parse? notOp = some (.regex true) → ∀ value f,
      ofPredicate (.basic column op value) = .ok f ∨ ofPredicate (.basic column notOp value) = .ok f →
        Complementary (.basic column op value) (.basic column notOp value) := by
  refine ⟨?_, complementary_isIn hc, fun op notOp ho hn pattern => ?_, fun op notOp ho hn value f hf => ?_⟩
  · obtain ⟨f, hf, hd⟩ := decides_of_plain (p := .null column) hc
    exact (complementary_null hc).parting hf hd
  · have hcomplementary := complementary_like hc ho hn pattern
    refine ⟨hcomplementary, fun hroom => ?_⟩
    obtain ⟨f, hf, hd⟩ := decides_of_plain (p := .basic column op (.string pattern)) ⟨hc, _, ho, _, rfl, hroom⟩
    exact hcomplementary.parting hf hd
  · rw [ofPredicate_regex ho, ofPredicate_regex hn] at hf
    obtain ⟨p, hp⟩ : ∃ p, toPattern column value = .ok p := by
      rcases hf with hf | hf
      · obtain ⟨p, hp, -⟩ := (map_eq_ok_iff _ _ _).1 hf
        exact ⟨p, hp⟩
      · obtain ⟨p, hp, -⟩ := (map_eq_ok_iff _ _ _).1 hf
        exact ⟨p, hp⟩
    exact complementary_regex hc ho hn hp

/-- A path with a dot; a list with a pattern that does not compile, a pattern with an escaped percent sign, and a text
that gives a pattern with a flag. -/
theorem negations_complementary_of_path :
    Expression.isOperatorName "a.b" = false ∧ Parting (.null "a.b") (.notNull "a.b") ∧
    Complementary (.isIn "a.b" [.null, .regex ⟨"(", ""⟩]) (.notIn "a.b" [.null, .regex ⟨"(", ""⟩]) ∧
    Parting (.basic "a.b" "like" (.string "5\\% (%")) (.basic "a.b" "NOT  LIKE" (.string "5\\% (%")) ∧
    Complementary (.basic "a.b" "regexp" (.string "/^x/i")) (.basic "a.b" "not regex" (.string "/^x/i")) := by
  have hc : Expression.isOperatorName "a.b" = false := by decide
  obtain ⟨hnull, hlist, hlike, hregex⟩ := negations_complementary hc
  have hregexp : Operator.parse? "regexp" = some (.regex false) := by decide +kernel
  have hpattern : toPattern "a.b" (.string "/^x/i") = .ok ⟨"^x", "i"⟩ := by decide +kernel
  refine ⟨hc, hnull, hlist _, (hlike _ _ ?_ ?_ _).2 (Like.hasRoom_of_length (by decide)),
    hregex _ _ hregexp ?_ _ (field "a.b" (.regex ⟨"^x", "i"⟩)) (.inl ?_)⟩
  · decide +kernel
  · decide +kernel
  · decide +kernel
  · rw [ofPredicate_regex hregexp, hpattern]
    rfl

end Predicate

end DocQuery
