import DocQuery.Proofs.Columns
import DocQuery.Proofs.Deletes
import DocQuery.Proofs.Expressions
import DocQuery.Proofs.Patterns

/-!
# Queries that cannot fail

A query of plain predicates compiles, and no document makes its filter, its order or its aggregate fail.  Every
part is total by itself, from the conditions up to the terminals:

    p.Plain  → p compiles, and its filter decides every document                   (decides_of_plain)
    cs plain → the clauses decide every document, And before Or                    (decides_testAll)
    q.Plain  → the terminals that read, count, aggregate or delete succeed         (run_of_plain)
-/

namespace DocQuery

open Outcome

/-! ## Conditions that decide -/

namespace Filter

open FilterDocument (operator)

theorem meets_of_plain {v : Value} (hr : ∀ p, v ≠ .regex p) (hd : ∀ d, v ≠ .document d) (w : Option Value) :
    meets v w = .ok (equals w v) := by
  cases v with
  | regex p => exact absurd rfl (hr p)
  | document d => exact absurd rfl (hd d)
  | _ => rfl

theorem decides_matchesPattern {p : Pattern} {r : Regex} (h : p.compile? = some r) (v : Option Value) :
    (matchesPattern p v).Decides := by
  rw [matchesPattern, h]
  cases v with
  | none => exact decides_ok _
  | some v => cases v <;> exact decides_ok _

theorem meets_operator (name : String) (argument : Value) (v : Option Value) :
    meets (operator name argument) v = passesOperator [("$" ++ name, argument)] ("$" ++ name) argument v := by
  have hname : isOperatorDocument [("$" ++ name, argument)] = true := by
    simp [isOperatorDocument, Expression.isOperatorName]
  rw [operator, meets_operators hname, passes_cons, passes_nil, both_true_right]

theorem decides_comparison {name : String} (h : name ∈ Operator.comparisonNames) (whole : Document)
    (argument : Value) (v : Option Value) : (passesOperator whole ("$" ++ name) argument v).Decides := by
  simp only [Operator.comparisonNames, List.mem_cons, List.not_mem_nil, or_false] at h
  rw [passesOperator.eq_def]
  rcases h with rfl | rfl | rfl | rfl | rfl | rfl <;> exact decides_ok _

theorem decides_isAmong {values : List Value} (h : ∀ p, Value.regex p ∉ values) (name : String) (v : Option Value) :
    (isAmong name v (.array values)).Decides := by
  refine decides_any fun candidate hc => ?_
  cases candidate with
  | regex p => exact absurd hc (h p)
  | _ => exact decides_ok _

theorem decides_range (low high : Value) (negated : Bool) (v : Option Value) :
    (FilterDocument.meetsRange low high negated v).Decides := by
  cases negated with
  | true =>
    refine Decides.either ?_ ?_
    · rw [meets_operator]
      exact decides_comparison (by decide) _ low v
    · rw [meets_operator]
      exact decides_comparison (by decide) _ high v
  | false =>
    show (meets (.document [("$gte", low), ("$lte", high)]) v).Decides
    rw [meets_operators rfl, passes_cons, passes_cons, passes_nil, both_true_right]
    have hlow : "gte" ∈ Operator.comparisonNames := by decide
    have hhigh : "lte" ∈ Operator.comparisonNames := by decide
    exact (decides_comparison hlow _ low v).both (decides_comparison hhigh _ high v)

end Filter

/-! ## Plain predicates -/

/-- The values that an operator takes whatever it is compared with; of a like pattern, the expression must not be
too large to compile. -/
def Operator.Takes : Operator → Value → Prop
  | equals, v => (∀ p, v ≠ .regex p) ∧ ∀ d, v ≠ .document d
  | like _, v => ∃ s, v = .string s ∧ Like.HasRoom s
  | regex _, _ => False
  | native name, _ => name ∈ comparisonNames

/-- The operators that take values, by their relational names. -/
def Operator.relational : List (String × Operator) :=
  [("=", equals), ("<>", native "ne"), ("!=", native "ne"), ("<", native "lt"), ("<=", native "lte"),
    (">", native "gt"), (">=", native "gte"), ("like", like false), ("not like", like true)]

theorem Operator.parse?_relational : ∀ p ∈ relational, parse? p.1 = some p.2 := by decide +kernel

/-- A predicate on a column, with values that no document makes its operator fail on. -/
def Predicate.Plain : Predicate → Prop
  | basic column op v => Expression.isOperatorName column = false ∧ ∃ o, Operator.parse? op = some o ∧ o.Takes v
  | isIn column values => Expression.isOperatorName column = false ∧ ∀ p, Value.regex p ∉ values
  | notIn column values => Expression.isOperatorName column = false ∧ ∀ p, Value.regex p ∉ values
  | null column => Expression.isOperatorName column = false
  | notNull column => Expression.isOperatorName column = false
  | between column _ _ _ => Expression.isOperatorName column = false
  | _ => False

namespace FilterDocument

open DocQuery.Filter

theorem decides_basic {column op : String} {v : Value} (hn : Expression.isOperatorName column = false)
    {o : Operator} (ho : Operator.parse? op = some o) (ht : o.Takes v) :
    ∃ f, basic column op v = .ok f ∧ ∀ d, (accepts f d).Decides := by
  rw [basic, ho]
  cases o with
  | equals =>
    refine ⟨_, rfl, fun d => ?_⟩
    rw [field, accepts_column hn, meets_of_plain ht.1 ht.2]
    exact decides_ok _
  | like negated =>
    obtain ⟨s, rfl, hroom⟩ := ht
    refine ⟨_, rfl, fun d => ?_⟩
    have hmatch := decides_matchesPattern (Like.compile?_toPattern hroom) (Path.resolve d (Path.parse column))
    rw [field, accepts_column hn]
    cases negated with
    | false => exact hmatch
    | true =>
      rw [negate, if_pos rfl, meets_operator]
      exact hmatch.map_not
  | regex negated => exact ht.elim
  | native name =>
    refine ⟨_, rfl, fun d => ?_⟩
    rw [field, accepts_column hn, meets_operator]
    exact decides_comparison ht _ v _

theorem decides_notNull {column : String} (h : Expression.isOperatorName column = false) (d : Document) :
    (accepts (notNull column) d).Decides := by
  rw [notNull, field, accepts_column h]
  show (meets (operator "ne" .null) _).Decides
  rw [meets_operator]
  exact decides_comparison (by decide) _ _ _

/-- A plain predicate compiles, and its filter decides every document. -/
theorem decides_of_plain {p : Predicate} (h : p.Plain) :
    ∃ f, ofPredicate p = .ok f ∧ ∀ d, (accepts f d).Decides := by
  cases p with
  | basic column op v =>
    obtain ⟨hn, o, ho, ht⟩ := h
    rw [ofPredicate]
    exact decides_basic hn ho ht
  | isIn column values =>
    refine ⟨_, rfl, fun d => ?_⟩
    rw [field, accepts_column h.1, meets_operator]
    exact decides_isAmong h.2 "$in" _
  | notIn column values =>
    refine ⟨_, rfl, fun d => ?_⟩
    rw [field, accepts_column h.1, meets_operator]
    exact (decides_isAmong h.2 "$nin" _).map_not
  | null column =>
    refine ⟨_, rfl, fun d => ?_⟩
    rw [field, accepts_column h]
    exact decides_ok _
  | notNull column => exact ⟨_, rfl, decides_notNull h⟩
  | between column low high negated =>
    refine ⟨_, rfl, fun d => ?_⟩
    rw [accepts_between h]
    exact decides_range low high negated _
  | _ => exact h.elim

end FilterDocument

namespace Clause

/-- Plain clauses have a filter, and decide every document, And before Or. -/
theorem decides_testAll {cs : List Clause} (h : ∀ c ∈ cs, c.predicate.Plain) :
    (∃ f, FilterDocument.ofClauses cs = .ok f) ∧ ∀ d, (testAll cs d).Decides := by
  constructor
  · obtain ⟨f, hf, -⟩ := FilterDocument.ofClauses_of_compiles fun c hc => by
      obtain ⟨f, hf, -⟩ := FilterDocument.decides_of_plain (h c hc)
      exact ⟨f, hf⟩
    exact ⟨f, hf⟩
  · intro d
    rw [testAll]
    split
    · exact decides_ok true
    · refine decides_any fun run hrun => decides_all fun c hc => ?_
      obtain ⟨f, hf, hd⟩ := FilterDocument.decides_of_plain (h c (mem_of_mem_andRuns hrun hc))
      rw [test_of_compiles hf]
      exact hd d

end Clause

/-! ## Orders -/

namespace Document

theorem mem_insert {d : Document} {name : String} {v : Value} {f : String × Value} (h : f ∈ insert d name v) :
    f = (name, v) ∨ f ∈ d := by
  induction d with
  | nil => exact .inl (List.mem_singleton.1 h)
  | cons g rest ih =>
    obtain ⟨k, w⟩ := g
    rw [insert] at h
    split at h
    · rename_i hk
      rcases List.mem_cons.1 h with rfl | h
      · exact .inl (by rw [hk])
      · exact .inr (List.mem_cons_of_mem _ h)
    · rcases List.mem_cons.1 h with rfl | h
      · exact .inr List.mem_cons_self
      · exact (ih h).imp id (List.mem_cons_of_mem _)

theorem mem_of_mem_ofFields {fields : List (String × Value)} {f : String × Value} (h : f ∈ ofFields fields) :
    f ∈ fields := by
  have hrest : ∀ d : Document, f ∈ insertAll d fields → f ∈ d ∨ f ∈ fields := by
    clear h
    induction fields with
    | nil => exact fun d h => .inl h
    | cons g rest ih =>
      intro d h
      rcases ih _ h with h | h
      · rcases mem_insert h with rfl | h
        · exact .inr List.mem_cons_self
        · exact .inl h
      · exact .inr (List.mem_cons_of_mem _ h)
  rcases hrest [] h with h | h
  · cases h
  · exact h

end Document

namespace Query

theorem sortKeys_of_columns {orders : List Order} (h : ∀ o ∈ orders, ∃ name direction, o = .column name direction) :
    ∃ keys, sortKeys orders = .ok keys ∧ ∀ k ∈ keys, ∃ direction : SortDirection, k.2 = .int32 direction.sign := by
  induction orders with
  | nil => exact ⟨[], rfl, by simp⟩
  | cons o rest ih =>
    obtain ⟨⟨name, direction, rfl⟩, hr⟩ := List.forall_mem_cons.1 h
    obtain ⟨keys, hk, hall⟩ := ih hr
    refine ⟨(if name = "natural" then "$natural" else name, .int32 direction.sign) :: keys, ?_,
      List.forall_mem_cons.2 ⟨⟨direction, rfl⟩, hall⟩⟩
    rw [sortKeys, hk]
    rfl

/-- Orders by columns are orders that a sort stage takes. -/
theorem sorts_of_columns {orders : List Order} (h : ∀ o ∈ orders, ∃ name direction, o = .column name direction) :
    ∃ keys ks, sortKeys orders = .ok keys ∧ Outcome.traverse Pipeline.SortKey.of (Document.ofFields keys) = .ok ks := by
  obtain ⟨keys, hk, hall⟩ := sortKeys_of_columns h
  have htotal : ∀ f ∈ Document.ofFields keys, ∃ k, Pipeline.SortKey.of f = .ok k := by
    intro f hf
    obtain ⟨direction, hd⟩ := hall f (Document.mem_of_mem_ofFields hf)
    obtain ⟨name, v⟩ := f
    cases hd
    cases direction <;> exact ⟨_, rfl⟩
  obtain ⟨ks, hks⟩ := traverse_of_total htotal
  exact ⟨keys, ks, hk, hks⟩

end Query

/-! ## Aggregates -/

namespace Pipeline

/-- The accumulators of the aggregates over a column. -/
theorem accumulate_total {name : String} (h : name ∈ ["sum", "avg", "min", "max"]) {argument : Value}
    (ha : ∀ d, ∃ v, Expression.evaluate argument d = .ok v) (members : List Document) :
    ∃ v, accumulate ("$" ++ name) argument members = .ok v := by
  obtain ⟨values, hv⟩ := traverse_of_total fun d (_ : d ∈ members) => ha d
  simp only [List.mem_cons, List.not_mem_nil, or_false] at h
  rw [accumulate, hv]
  rcases h with rfl | rfl | rfl | rfl <;> exact ⟨_, rfl⟩

/-- A stage that groups all documents gives one row or none. -/
theorem run_group_total {name : String} {argument : Value}
    (h : ∀ members, ∃ v, accumulate name argument members = .ok v) (docs : List Document) :
    ∃ rows, run ([Stage.group [("_id", .null), ("aggregate", .document [(name, argument)])]].map Stage.toDocument)
      docs = .ok rows := by
  obtain ⟨v, hv⟩ := h docs
  rw [List.map_singleton, run_singleton]
  show ∃ rows, group [("_id", .null), ("aggregate", .document [(name, argument)])] docs = .ok rows
  rw [group_all, hv]
  split <;> exact ⟨_, rfl⟩

end Pipeline

/-! ## Plain queries -/

/-- A column that a function is taken over: not all columns, and none that reads as an operator. -/
structure Aggregate.Over (column : String) : Prop where
  nonempty : column ≠ ""
  notAll : column ≠ "*"
  notOperator : Expression.isOperatorName column = false

/-- A count of all documents, or a function over a column. -/
def Aggregate.Plain (a : Aggregate) : Prop :=
  a = ⟨"count", []⟩ ∨ ∃ column, Over column ∧
    (a = ⟨"count", [column]⟩ ∨ ∃ name ∈ ["sum", "avg", "min", "max"], a = ⟨name, [column]⟩)

/-- A query of plain predicates with any order by columns, offset and limit: nothing that is computed, taken or
shown, and nothing that only a relational database has. -/
structure Query.Plain (q : Query) : Prop where
  clauses : ∀ c ∈ q.clauses, c.predicate.Plain
  orders : ∀ o ∈ q.orders, ∃ name direction, o = .column name direction
  columns : q.columns = []
  computed : q.computed = []
  projections : q.projections = []
  aggregate : ∀ a, q.aggregate = some a → a.Plain
  supported : q.refused? = none

namespace Query

theorem Plain.withLimit {q : Query} (h : q.Plain) (n : UInt64) : { q with limit := some n }.Plain :=
  ⟨h.clauses, h.orders, h.columns, h.computed, h.projections, h.aggregate, h.supported⟩

theorem Plain.withAggregate {q : Query} (h : q.Plain) {a : Aggregate} (ha : a.Plain) :
    { q with columns := [], aggregate := some a }.Plain :=
  ⟨h.clauses, h.orders, rfl, h.computed, h.projections, fun _ he => Option.some.inj he ▸ ha, h.supported⟩

/-- Documents pass a filter that decides them. -/
theorem Plain.passed {q : Query} (h : q.Plain) {filter : Document} (hf : ∀ d, (Filter.accepts filter d).Decides)
    (docs : List Document) : ∃ rows, q.passed filter docs = .ok rows := by
  refine passed_of_decided h.columns fun d _ => ?_
  rw [h.computed]
  exact hf d

theorem column?_singleton {column : String} (h : Aggregate.Over column) (function : String) :
    Aggregate.column? ⟨function, [column]⟩ = some column := by
  simp [Aggregate.column?, h.nonempty, h.notAll]

/-- The names of functions over a column are in lower case as they stand. -/
theorem lowerCase_eq {name : String} (h : name ∈ ["count", "sum", "avg", "min", "max"]) :
    String.ofList ((Blank.trim name.toList).map Case.lowerLatin) = name := by
  simp only [List.mem_cons, List.not_mem_nil, or_false] at h
  rcases h with rfl | rfl | rfl | rfl | rfl <;> decide +kernel

/-- A count of a column counts the rows that the filter finds and where the column is not null. -/
theorem accumulator_countColumn {column : String} (h : Aggregate.Over column) (own : Document) :
    accumulator ⟨"count", [column]⟩ own = .ok (.document [("$sum", .int32 1)],
      FilterDocument.conjoin [own, FilterDocument.notNull column]) := by
  rw [accumulator, column?_singleton h, lowerCase_eq List.mem_cons_self]
  exact if_pos rfl

/-- The filter of an aggregate decides where the query's own does, and its groups can be made. -/
theorem Plain.grouped {q : Query} (h : q.Plain) {own : Document} (hown : ∀ d, (Filter.accepts own d).Decides) :
    ∃ filter groups, q.grouped own = .ok (filter, groups) ∧ (∀ d, (Filter.accepts filter d).Decides) ∧
      ∀ docs, ∃ rows, Pipeline.run (groups.map Stage.toDocument) docs = .ok rows := by
  have hsum : "sum" ∈ ["sum", "avg", "min", "max"] := List.mem_cons_self
  have hone : ∀ members, ∃ v, Pipeline.accumulate "$sum" (.int32 1) members = .ok v :=
    Pipeline.accumulate_total hsum fun d => ⟨_, rfl⟩
  rw [Query.grouped]
  cases ha : q.aggregate with
  | none => exact ⟨own, [], rfl, hown, fun docs => ⟨docs, rfl⟩⟩
  | some a =>
    rcases h.aggregate a ha with rfl | ⟨column, hover, rfl | ⟨name, hname, rfl⟩⟩
    · exact ⟨own, _, rfl, hown, Pipeline.run_group_total hone⟩
    · dsimp only
      rw [accumulator_countColumn hover]
      refine ⟨_, _, rfl, fun d => ?_, Pipeline.run_group_total hone⟩
      rw [FilterDocument.accepts_conjoin]
      refine decides_all fun f hf => ?_
      rcases List.mem_pair.1 hf with rfl | rfl
      · exact hown d
      · exact FilterDocument.decides_notNull hover.notOperator d
    · have hacc : accumulator ⟨name, [column]⟩ own =
          .ok (.document [("$" ++ name, .string ("$" ++ column))], own) := by
        have hcount : name ≠ "count" := by
          rintro rfl
          exact absurd hname (by decide)
        rw [accumulator, column?_singleton hover, lowerCase_eq (List.mem_cons_of_mem _ hname)]
        exact if_neg hcount
      dsimp only
      rw [hacc]
      exact ⟨own, _, rfl, hown,
        Pipeline.run_group_total (Pipeline.accumulate_total hname fun d =>
          ⟨_, Expression.evaluate_columnPath hover.notOperator d⟩)⟩

end Query

namespace Builder

/-- A plain query compiles, and has rows wherever a store answers. -/
theorem result_of_plain {q : Query} (h : q.Plain) : (∃ st, q.compileSelect = .ok st) ∧
    ∀ (b : Builder) (s : Session), s.deployment.Open (s.connection.readHandle (!b.usesWriteHandle)) →
      ∃ rows, b.result s q = .ok rows := by
  obtain ⟨⟨own, hf⟩, hall⟩ := Clause.decides_testAll h.clauses
  have hown : ∀ d, (Filter.accepts own d).Decides := fun d => by
    rw [FilterDocument.accepts_ofClauses hf]
    exact hall d
  obtain ⟨filter, groups, hg, hfilter, hgroups⟩ := h.grouped hown
  obtain ⟨keys, ks, hk, hks⟩ := Query.sorts_of_columns h.orders
  have hstages : q.stages = .ok _ :=
    Query.stages_eq_ok_iff.2 ⟨h.supported, own, filter, groups, keys, hf, hg, hk, rfl⟩
  refine ⟨⟨_, by rw [Query.compileSelect, hstages]; rfl⟩, fun b s ho => ?_⟩
  cases hp : s.connection.pretending with
  | true => exact ⟨[], result_eq_ok_iff.2 ⟨_, hstages, Session.rows_of_pretending hp _ _ _⟩⟩
  | false =>
    obtain ⟨passed, hpassed⟩ := h.passed hfilter
      (s.deployment.documents (s.connection.readHandle (!b.usesWriteHandle)) q.collection)
    obtain ⟨grouped, hgrouped⟩ := hgroups passed
    obtain ⟨rows, hrows⟩ := Query.shown_of_sorted h.projections hks grouped
    refine ⟨rows, result_eq_ok_iff.2 ⟨_, hstages, ?_⟩⟩
    rw [Session.rows_of_open hp ho, Query.run_stages, hpassed]
    show (Pipeline.run (groups.map Stage.toDocument) passed >>= q.shown keys) = _
    rw [hgrouped]
    exact hrows

/-- A plain query compiles to a delete, which succeeds wherever a store answers. -/
theorem delete_of_plain {b : Builder} (h : b.query.Plain) : (∃ st, b.query.compileDelete = .ok st) ∧
    ∀ s : Session, s.deployment.Open s.connection.write → ∃ n t, (b.delete none).on s = (.ok n, t) := by
  obtain ⟨⟨own, hf⟩, hall⟩ := Clause.decides_testAll h.clauses
  refine ⟨⟨.deleteMany b.query.collection own, ?_⟩, fun s hw => ?_⟩
  · rw [Query.compileDelete, Query.filter, (Query.checkRelational_eq_ok_iff _).2 h.supported, hf]
    rfl
  · obtain ⟨t, ht⟩ := delete_none_of_decided h.supported hf fun _ => ⟨hw, fun d _ => hall d⟩
    exact ⟨_, t, ht⟩

end Builder

/-! ## Main result -/

/-- The terminals that read, count, aggregate over a column or delete without an identifier. -/
def Terminal.Plain : Terminal → Prop
  | get => True
  | first => True
  | count => True
  | countColumn column | sum column | avg column | min column | max column => Aggregate.Over column
  | delete none => True
  | _ => False

namespace Terminal

theorem succeeds_of_gives {α : Type} {a : Action α} {s : Session} {x : α} (h : a.Gives s (.ok x)) :
    ∃ x t, a.on s = (.ok x, t) := by
  obtain ⟨t, -, ht⟩ := h
  exact ⟨x, t, ht⟩

/-- A plain query compiles as a read and as a delete, and every plain terminal succeeds on it, whatever the
stores behind the two handles hold: no error and no overflow. -/
theorem run_of_plain {b : Builder} (h : b.query.Plain) :
    (∃ st, b.query.compileSelect = .ok st) ∧ (∃ st, b.query.compileDelete = .ok st) ∧
      ∀ s : Session, s.deployment.Open (s.connection.readHandle (!b.usesWriteHandle)) →
        s.deployment.Open s.connection.write →
        ∀ t : Terminal, t.Plain → ∃ a u, (t.run b).on s = (.ok a, u) := by
  refine ⟨(Builder.result_of_plain h).1, (Builder.delete_of_plain h).1, fun s hr hw t ht => ?_⟩
  have haggregate : ∀ function columns, Aggregate.Plain ⟨function, columns⟩ →
      ∃ v, (b.aggregate function columns).Gives s (.ok v) := by
    intro function columns ha
    obtain ⟨rows, hrows⟩ := (Builder.result_of_plain (h.withAggregate ha)).2 b s hr
    have hgives := b.aggregate_gives function columns s
    rw [Builder.aggregateQuery, hrows] at hgives
    exact ⟨_, hgives⟩
  have hcolumn : ∀ name ∈ ["sum", "avg", "min", "max"], ∀ column, Aggregate.Over column →
      ∃ v, (b.aggregate name [column]).Gives s (.ok v) :=
    fun name hname column hc => haggregate name [column] (.inr ⟨column, hc, .inr ⟨name, hname, rfl⟩⟩)
  cases t with
  | get =>
    obtain ⟨rows, hrows⟩ := (Builder.result_of_plain h).2 b s hr
    have hgives := b.get_gives s
    rw [hrows] at hgives
    exact succeeds_of_gives (hgives.map Answer.rows)
  | first =>
    obtain ⟨rows, hrows⟩ := (Builder.result_of_plain (h.withLimit 1)).2 b s hr
    have hgives := b.first_gives s
    rw [hrows] at hgives
    exact succeeds_of_gives (hgives.map Answer.row)
  | count =>
    obtain ⟨v, hv⟩ := haggregate "count" [] (.inl rfl)
    exact succeeds_of_gives ((hv.map Builder.countOf).map Answer.count)
  | countColumn column =>
    obtain ⟨v, hv⟩ := haggregate "count" [column] (.inr ⟨column, ht, .inl rfl⟩)
    exact succeeds_of_gives ((hv.map Builder.countOf).map Answer.count)
  | sum column =>
    obtain ⟨v, hv⟩ := hcolumn "sum" (by decide) column ht
    exact succeeds_of_gives ((hv.bind_pure _).map (Answer.value ∘ some))
  | avg column =>
    obtain ⟨v, hv⟩ := hcolumn "avg" (by decide) column ht
    exact succeeds_of_gives (hv.map (Answer.value ∘ some))
  | min column =>
    obtain ⟨v, hv⟩ := hcolumn "min" (by decide) column ht
    exact succeeds_of_gives (hv.map (Answer.value ∘ some))
  | max column =>
    obtain ⟨v, hv⟩ := hcolumn "max" (by decide) column ht
    exact succeeds_of_gives (hv.map (Answer.value ∘ some))
  | delete id =>
    cases id with
    | some id => exact ht.elim
    | none =>
      obtain ⟨n, u, hn⟩ := (Builder.delete_of_plain h).2 s hw
      exact ⟨.count n, u, by rw [run, ← bind_pure_comp, Action.on_bind_of_ok hn]; rfl⟩
  | _ => exact ht.elim

/-- A pattern, a list and a range over documents that have some of the columns, of some kinds. -/
theorem run_of_plain_mixed :
    let docs : List Document :=
      [[("_id", .string "1"), ("name", .string "a.b")], [("_id", .string "2"), ("age", .array [.null])]]
    let s : Session := { Session.inMemory "app" with
      deployment := { backends := [.memory { collections := [("t", docs)] }] } }
    let b := (Builder.on "t").modify [.whereNotLike "name" "a.%", .orWhereIn "kind" [.null, .document []],
      .whereNotBetween "age" (.string "1") .null, .orderBy "age" .descending, .limit 5]
    b.query.Plain ∧ ∃ a u, ((Terminal.sum "age").run b).on s = (.ok a, u) := by
  intro docs s b
  have hparse : Operator.parse? "not like" = some (.like true) :=
    Operator.parse?_relational ("not like", .like true) (by simp [Operator.relational])
  have hlike : (Operator.like true).Takes (.string "a.%") := ⟨_, rfl, Like.hasRoom_of_length (by decide)⟩
  have hplain : b.query.Plain := by
    refine ⟨?_, ?_, rfl, rfl, rfl, (fun a ha => nomatch ha), rfl⟩
    · refine List.forall_mem_cons.2 ⟨⟨rfl, _, hparse, hlike⟩,
        List.forall_mem_cons.2 ⟨⟨rfl, fun p hp => ?_⟩, List.forall_mem_singleton.2 rfl⟩⟩
      rcases List.mem_pair.1 hp with hp | hp <;> cases hp
    · exact List.forall_mem_singleton.2 ⟨_, _, rfl⟩
  have hopen : s.deployment.Open 0 := ⟨_, rfl, rfl⟩
  exact ⟨hplain, (run_of_plain hplain).2.2 s hopen hopen (.sum "age") ⟨by decide, by decide, rfl⟩⟩

end Terminal

end DocQuery
