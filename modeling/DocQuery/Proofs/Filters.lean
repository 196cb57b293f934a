import DocQuery.Proofs.Outcomes
import DocQuery.Store.Filter

/-!
# Filters, field by field

A filter document is the conjunction of its fields, tested from the left:

    accepts ((name, c) :: rest) d = both (acceptsField name c d) (accepts rest d)    (accepts_cons)
    accepts (f ++ g) d            = both (accepts f d) (accepts g d)                 (accepts_append)

Joined filters are tested as the list of them is:

    accepts [("$and", fs)] d = all (accepts · d) fs     for fs that are not empty    (accepts_and)
    accepts [("$or", fs)] d  = any (accepts · d) fs     for fs that are not empty    (accepts_or)
-/

namespace DocQuery.Filter

/-! ## One field -/

/-- Whether a document meets one field of a filter: other filters joined, an expression, or the condition on
the value at a path. -/
def acceptsField (name : String) (condition : Value) (d : Document) : Outcome Bool :=
  match logical? name with
  | some op =>
    match condition with
    | .array items => do
      checkFilters name items
      match op with
      | .conjunction => acceptsAll items d
      | .disjunction => acceptsAny items d
      | .joint => (acceptsAny items d).map (!·)
    | _ => Outcome.invalid (name ++ " needs a non-empty array of filters")
  | none =>
    if name = "$expr" then (Expression.evaluate condition d).map Value.truthy
    else if Expression.isOperatorName name then Outcome.unsupported name
    else meets condition (Path.resolve d (Path.parse name))

theorem accepts_nil (d : Document) : accepts [] d = .ok true := rfl

theorem accepts_cons (name : String) (condition : Value) (rest d : Document) :
    accepts ((name, condition) :: rest) d = Outcome.both (acceptsField name condition d) (accepts rest d) := by
  rw [accepts.eq_2, acceptsField]
  cases logical? name with
  | some op =>
    cases condition with
    | array items =>
      dsimp only
      cases checkFilters name items with
      | error e => rfl
      | ok u => cases op <;> rfl
    | _ => rfl
  | none =>
    dsimp only
    by_cases h : name = "$expr"
    · rw [if_pos h, if_pos h]; rfl
    · rw [if_neg h, if_neg h]
      by_cases ho : Expression.isOperatorName name = true
      · rw [if_pos ho, if_pos ho]; rfl
      · rw [if_neg ho, if_neg ho]; rfl

theorem accepts_singleton (name : String) (condition : Value) (d : Document) :
    accepts [(name, condition)] d = acceptsField name condition d := by
  rw [accepts_cons, accepts_nil, Outcome.both_true_right]

/-- The condition of a column is one on the value at its path. -/
theorem accepts_column {column : String} (h : Expression.isOperatorName column = false) (condition : Value)
    (d : Document) :
    accepts [(column, condition)] d = meets condition (Path.resolve d (Path.parse column)) := by
  have hlogical : logical? column = none := by
    rw [logical?.eq_def]
    split
    · exact absurd h (by decide)
    · exact absurd h (by decide)
    · exact absurd h (by decide)
    · rfl
  have hexpr : column ≠ "$expr" := by
    rintro rfl
    exact absurd h (by decide)
  rw [accepts_singleton, acceptsField, hlogical]
  dsimp only
  rw [if_neg hexpr, h]
  rfl

theorem accepts_append (f g d : Document) :
    accepts (f ++ g) d = Outcome.both (accepts f d) (accepts g d) := by
  induction f with
  | nil => rfl
  | cons field rest ih =>
    obtain ⟨name, condition⟩ := field
    rw [List.cons_append, accepts_cons, accepts_cons, ih, Outcome.both_assoc]

/-! ## Operators -/

theorem passes_nil (whole : Document) (v : Option Value) : passes whole [] v = .ok true := rfl

theorem passes_cons (whole : Document) (name : String) (argument : Value) (rest : List (String × Value))
    (v : Option Value) :
    passes whole ((name, argument) :: rest) v =
      Outcome.both (passesOperator whole name argument v) (passes whole rest v) := by
  rw [passes.eq_2]
  rfl

theorem meets_operators {operators : Document} (h : isOperatorDocument operators = true) (v : Option Value) :
    meets (.document operators) v = passes operators operators v := by
  rw [meets.eq_1, h]
  rfl

/-! ## Joined filters -/

theorem acceptsAll_documents (fs : List Document) (d : Document) :
    acceptsAll (fs.map .document) d = Outcome.all (fun f => accepts f d) fs := by
  induction fs with
  | nil => rfl
  | cons f rest ih =>
    rw [List.map_cons, acceptsAll.eq_2, Outcome.all_cons, ih]
    rfl

theorem acceptsAny_documents (fs : List Document) (d : Document) :
    acceptsAny (fs.map .document) d = Outcome.any (fun f => accepts f d) fs := by
  induction fs with
  | nil => rfl
  | cons f rest ih =>
    rw [List.map_cons, acceptsAny.eq_2, Outcome.any_cons, ih]
    rfl

theorem checkFilters_documents (name : String) {fs : List Document} (h : fs ≠ []) :
    checkFilters name (fs.map .document) = .ok () := by
  have he : (fs.map Value.document).isEmpty = false := by
    cases fs with
    | nil => exact absurd rfl h
    | cons f rest => rfl
  have hd : (fs.map Value.document).all Value.isDocument = true := by
    rw [List.all_map, List.all_eq_true]
    intro f hf
    rfl
  rw [checkFilters, he, hd]
  rfl

theorem accepts_and {fs : List Document} (h : fs ≠ []) (d : Document) :
    accepts [("$and", .array (fs.map .document))] d = Outcome.all (fun f => accepts f d) fs := by
  rw [accepts_singleton, acceptsField, show logical? "$and" = some .conjunction from rfl]
  dsimp only
  rw [checkFilters_documents _ h, ← acceptsAll_documents]
  rfl

theorem accepts_or {fs : List Document} (h : fs ≠ []) (d : Document) :
    accepts [("$or", .array (fs.map .document))] d = Outcome.any (fun f => accepts f d) fs := by
  rw [accepts_singleton, acceptsField, show logical? "$or" = some .disjunction from rfl]
  dsimp only
  rw [checkFilters_documents _ h, ← acceptsAny_documents]
  rfl

end DocQuery.Filter
