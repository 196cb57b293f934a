import DocQuery.Proofs.ClauseLists
import DocQuery.Proofs.Updates
import DocQuery.Store.Pipeline

/-!
# What a clause looks at

Most predicates test one column, and see of a document only the value at the column's path:

    accepts f d = g (resolve d (parse column))      for the filter f of such a predicate   (accepts_of_column)

So a clause says the same of two documents with the same value there (`test_congr`); fields computed under other
names change nothing (`testAll_addFields`).
-/

namespace DocQuery

open Outcome

/-! ## Predicates of one column -/

/-- The column that a predicate tests by itself. -/
def Predicate.column? : Predicate → Option String
  | basic column _ _ => some column
  | isIn column _ => some column
  | notIn column _ => some column
  | null column => some column
  | notNull column => some column
  | between column _ _ _ => some column
  | _ => none

namespace FilterDocument

open DocQuery.Filter

theorem basic_eq_ok {column op : String} {v : Value} {f : Document} (h : basic column op v = .ok f) :
    ∃ condition, f = field column condition := by
  rw [basic] at h
  split at h
  · cases h
  · cases h
    exact ⟨_, rfl⟩
  · split at h
    · cases h
      exact ⟨_, rfl⟩
    · cases h
  · obtain ⟨p, -, rfl⟩ := (map_eq_ok_iff _ _ _).1 h
    exact ⟨_, rfl⟩
  · cases h
    exact ⟨_, rfl⟩

/-- Whether a value is in a closed range, or in one of the tails outside of it. -/
def meetsRange (low high : Value) (negated : Bool) (v : Option Value) : Outcome Bool :=
  if negated then either (meets (operator "lt" low) v) (meets (operator "gt" high) v)
  else meets (.document [("$gte", low), ("$lte", high)]) v

theorem accepts_between {column : String} (h : Expression.isOperatorName column = false) (low high : Value)
    (negated : Bool) (d : Document) :
    accepts (between column low high negated) d =
      meetsRange low high negated (Path.resolve d (Path.parse column)) := by
  cases negated with
  | false => exact accepts_column h _ d
  | true =>
    show accepts [("$or", .array ([field column (operator "lt" low),
      field column (operator "gt" high)].map .document))] d = _
    rw [accepts_or (List.cons_ne_nil _ _), any_cons, any_singleton, field, field, accepts_column h, accepts_column h]
    rfl

/-- The filter of such a predicate sees the value at its column, and nothing else of a document. -/
theorem accepts_of_column {p : Predicate} {column : String} (hc : p.column? = some column)
    (hn : Expression.isOperatorName column = false) {f : Document} (hf : ofPredicate p = .ok f) :
    ∃ g : Option Value → Outcome Bool, ∀ d, accepts f d = g (Path.resolve d (Path.parse column)) := by
  have hfield : ∀ condition, f = field column condition →
      ∃ g : Option Value → Outcome Bool, ∀ d, accepts f d = g (Path.resolve d (Path.parse column)) := by
    rintro condition rfl
    exact ⟨meets condition, accepts_column hn condition⟩
  cases p with
  | basic name op v =>
    cases hc
    rw [ofPredicate] at hf
    obtain ⟨condition, rfl⟩ := basic_eq_ok hf
    exact hfield condition rfl
  | between name low high negated =>
    cases hc
    cases hf
    exact ⟨_, accepts_between hn low high negated⟩
  | isIn name values => cases hc; cases hf; exact hfield _ rfl
  | notIn name values => cases hc; cases hf; exact hfield _ rfl
  | null name => cases hc; cases hf; exact hfield _ rfl
  | notNull name => cases hc; cases hf; exact hfield _ rfl
  | _ => cases hc

end FilterDocument

namespace Clause

theorem test_congr {c : Clause} {column : String} (hc : c.predicate.column? = some column)
    (hn : Expression.isOperatorName column = false) {d e : Document}
    (h : Path.resolve d (Path.parse column) = Path.resolve e (Path.parse column)) : test d c = test e c := by
  rw [test, test]
  cases hf : FilterDocument.ofPredicate c.predicate with
  | error e => rfl
  | ok f =>
    obtain ⟨g, hg⟩ := FilterDocument.accepts_of_column hc hn hf
    show Filter.accepts f d = Filter.accepts f e
    rw [hg, hg, h]

end Clause

/-! ## Computed fields -/

namespace Pipeline

theorem get?_addFields {fields : List (String × Value)} {d e : Document} (h : addFields fields d = .ok e)
    {name : String} (hn : ∀ f ∈ fields, (Path.parse f.1).head ≠ name) : e.get? name = d.get? name := by
  refine foldlM_induction (P := fun e => e.get? name = d.get? name) (fun out f hf next hout hnext => ?_) rfl h
  obtain ⟨v, -, hset⟩ := (bind_eq_ok_iff _ _ _).1 hnext
  exact (Update.get?_lift_set hset (hn f hf)).trans hout

end Pipeline

namespace Clause

/-- Clauses on columns say the same of a document with fields computed elsewhere. -/
theorem testAll_addFields {cs : List Clause} {fields : List (String × Value)}
    (h : ∀ c ∈ cs, ∃ column, c.predicate.column? = some column ∧ Expression.isOperatorName column = false ∧
      ∀ f ∈ fields, (Path.parse f.1).head ≠ (Path.parse column).head)
    {d e : Document} (he : Pipeline.addFields fields d = .ok e) : testAll cs e = testAll cs d := by
  refine testAll_congr fun c hc => ?_
  obtain ⟨column, hcolumn, hn, hfields⟩ := h c hc
  refine test_congr hcolumn hn ?_
  rw [Path.resolve, Path.resolve, Pipeline.get?_addFields he hfields]

end Clause

end DocQuery
