import DocQuery.Proofs.Counts
import DocQuery.Proofs.Progress

/-!
# Counting the rows that have a column

A count of a column puts one more condition to the filter of the query: that the column is not null.  The filter may
be empty, may be on the same column and may be an Or of runs; the condition joins it as a whole, so all of it still
has to hold:

    accepts (conjoin [own, notNull c]) d  =  both (testAll cs d) (c is not null in d)     (accepts_countColumn)
    b.filled s c    =  the documents that a count finds, less those where c is null
    b.countColumn c gives n, and n is the number of b.filled s c                           (countColumn_spec)

The condition only asks for the value at the column and answers of every document (`decides_notNull`), so where the
clauses decide all documents, the count cannot fail.
-/

namespace DocQuery

open Outcome

/-! ## The filter of a count -/

namespace FilterDocument

/-- The own filter and the condition on the column: the clauses keep And before Or among themselves. -/
theorem accepts_countColumn {cs : List Clause} {own : Document} (h : ofClauses cs = .ok own) (column : String)
    (d : Document) : Filter.accepts (conjoin [own, notNull column]) d =
      both (Clause.testAll cs d) (Clause.test d ⟨.and, .notNull column⟩) := by
  rw [accepts_conjoin, all_cons, all_singleton, accepts_ofClauses h]
  rfl

end FilterDocument

namespace Query

/-- Orders that compile are orders by columns. -/
theorem columns_of_sortKeys {orders : List Order} {keys : List (String × Value)} (h : sortKeys orders = .ok keys) :
    ∀ o ∈ orders, ∃ name direction, o = .column name direction := by
  induction orders generalizing keys with
  | nil => exact fun o ho => nomatch ho
  | cons o rest ih =>
    obtain ⟨k, hk, h⟩ := (bind_eq_ok_iff _ _ _).1 h
    obtain ⟨ks, hks, -⟩ := (bind_eq_ok_iff _ _ _).1 h
    refine List.forall_mem_cons.2 ⟨?_, ih hks⟩
    cases o with
    | column name direction => exact ⟨name, direction, rfl⟩
    | random seed => cases hk

end Query

/-- Where the clauses decide a document with its computed fields, they do with the condition on the column. -/
theorem Clause.decides_countColumn {cs : List Clause} {fields d : Document}
    (h : (Pipeline.addFields fields d >>= testAll cs).Decides) {column : String}
    (hn : Expression.isOperatorName column = false) :
    (Pipeline.addFields fields d >>= fun whole =>
      both (testAll cs whole) (test whole ⟨.and, .notNull column⟩)).Decides := by
  obtain ⟨r, hr⟩ := h
  obtain ⟨whole, hw, ht⟩ := (bind_eq_ok_iff _ _ _).1 hr
  rw [hw]
  exact Decides.both ⟨r, ht⟩ (FilterDocument.decides_notNull hn whole)

/-! ## Main result -/

namespace Builder

/-- The stored documents that a count of a column finds: of those that a count finds, the ones where the column is
not null. -/
def filled (b : Builder) (s : Session) (column : String) : List Document :=
  (b.matched s).filter fun d =>
    (Pipeline.addFields (Document.ofFields b.query.computed) d >>= fun whole =>
      Clause.test whole ⟨.and, .notNull column⟩) = .ok true

/-- Behind an open handle they are those that the clauses and the condition on the column hold of. -/
theorem filled_eq_filter {b : Builder} {s : Session} (h : s.connection.pretending = false) (column : String) :
    b.filled s column =
      (s.deployment.documents (s.connection.readHandle (!b.usesWriteHandle)) b.query.collection).filter fun d =>
        (Pipeline.addFields (Document.ofFields b.query.computed) d >>= fun whole =>
          both (Clause.testAll b.query.clauses whole) (Clause.test whole ⟨.and, .notNull column⟩)) = .ok true := by
  rw [filled, matched, h, if_neg Bool.false_ne_true, List.filter_filter]
  refine List.filter_congr fun d _ => ?_
  rw [← Bool.decide_and, decide_eq_decide]
  cases Pipeline.addFields (Document.ofFields b.query.computed) d with
  | error e => exact ⟨fun h => h.1, fun h => ⟨h, h⟩⟩
  | ok whole => exact and_comm.trans (both_eq_true_iff _ _).symm

section

variable {b : Builder} {s : Session} {column : String} (hover : Aggregate.Over column)
  (hopen : s.connection.pretending = false → s.deployment.Open (s.connection.readHandle (!b.usesWriteHandle)))
  (hdecided : ∀ d ∈ s.deployment.documents (s.connection.readHandle (!b.usesWriteHandle)) b.query.collection,
    (Pipeline.addFields (Document.ofFields b.query.computed) d >>= Clause.testAll b.query.clauses).Decides)

include hover hopen hdecided

/-- What passes the filter of a count of a column is what the clauses and the condition hold of. -/
theorem finds_filled {own : Document} (hown : FilterDocument.ofClauses b.query.clauses = .ok own)
    {keys : List (String × Value)} (hshown : ∃ docs rows, b.query.shown keys docs = .ok rows) :
    ∃ found, found.length = (b.filled s column).length ∧
      b.Finds s [column] (FilterDocument.conjoin [own, FilterDocument.notNull column]) keys found := by
  cases hdry : s.connection.pretending with
  | true =>
    refine ⟨[], ?_, .inl ⟨hdry, rfl⟩⟩
    rw [filled, matched, if_pos hdry]
    rfl
  | false =>
    have hfilter := FilterDocument.accepts_countColumn hown column
    have hall : ∀ d ∈ s.deployment.documents (s.connection.readHandle (!b.usesWriteHandle)) b.query.collection,
        (Pipeline.addFields (Document.ofFields b.query.computed) d >>=
          Filter.accepts (FilterDocument.conjoin [own, FilterDocument.notNull column])).Decides := by
      intro d hd
      rw [funext hfilter]
      exact Clause.decides_countColumn (hdecided d hd) hover.notOperator
    obtain ⟨found, hpassed⟩ := Query.passed_of_decided (q := b.aggregateQuery "count" [column]) rfl hall
    refine ⟨found, ?_, .inr ⟨hdry, hopen hdry, hpassed, hshown⟩⟩
    rw [filled_eq_filter hdry]
    exact Query.length_of_passed_whole hfilter hpassed

/-- A builder without an offset and output fields that compiles, whatever its clauses, computed fields, columns,
orders and limit.  Where the clauses decide every stored document with its computed fields, a count of a column
succeeds, and is the number of the documents that the clauses hold of and where the column is not null.  The sum of
ones is exact for as many documents as a store can hold. -/
theorem countColumn_spec (ho : b.query.offset = none) (hp : b.query.projections = []) {st : Statement}
    (hcompile : b.query.compileSelect = .ok st) (hn : (b.filled s column).length < 2 ^ 63) :
    ∃ n : UInt64, (b.countColumn column).Gives s (.ok n) ∧ n.toNat = (b.filled s column).length := by
  obtain ⟨stages, hstages, -⟩ := (bind_eq_ok_iff _ _ _).1 hcompile
  obtain ⟨hrefused, own, -, -, keys, hown, -, hk, -⟩ := Query.stages_eq_ok_iff.1 hstages
  have hshows : b.query.ShowsCount := Query.showsCount_of_dropped fun f hf => by
    rw [hp] at hf
    cases hf
  have hshown : ∃ docs rows, b.query.shown keys docs = .ok rows := by
    obtain ⟨keys', ks, hk', hks⟩ := Query.sorts_of_columns (Query.columns_of_sortKeys hk)
    cases hk.symm.trans hk'
    exact ⟨[], Query.shown_of_sorted hp hks []⟩
  obtain ⟨found, hlen, hfound⟩ := finds_filled hover hopen hdecided hown hshown
  rw [← hlen] at hn ⊢
  obtain ⟨counted, hcounted, hvalue⟩ := result_counted ho hshows hrefused hown
    (Query.accumulator_countColumn hover own) hk hfound hn
  have hgives := counted_gives b [column] s
  rw [hcounted] at hgives
  refine ⟨UInt64.ofNat found.length, ?_, ?_⟩
  · rw [← hvalue]
    exact hgives
  · have hsize : UInt64.size = 2 ^ 64 := rfl
    exact UInt64.toNat_ofNat_of_lt' (by omega)

end

/-- A range on the counted column or a computed label, over a document that matches by each, two that match without
the column and one that does not match: two are counted, though the limit is one. -/
theorem countColumn_spec_five :
    let docs : List Document :=
      [[("_id", .string "1"), ("age", .string "m")], [("_id", .string "2"), ("age", .null), ("name", .string "x")],
       [("_id", .string "3"), ("name", .string "x")], [("_id", .string "4"), ("age", .string "z")],
       [("_id", .string "5"), ("age", .string "z"), ("name", .string "x")]]
    let s : Session := { Session.inMemory "app" with
      deployment := { backends := [.memory { collections := [("t", docs)] }] } }
    let b := (Builder.on "t").modify [.addField "label" (.string "$name"), .select ["name"],
      .whereBetween "age" (.string "k") (.string "p"), .orWhereEq "label" (.string "x"),
      .orderBy "age" .descending, .limit 1]
    (b.filled s "age").length = 2 ∧
      ∃ n : UInt64, (b.countColumn "age").Gives s (.ok n) ∧ n.toNat = (b.filled s "age").length := by
  intro docs s b
  have hdecided : ∀ d ∈ docs,
      (Pipeline.addFields (Document.ofFields b.query.computed) d >>= Clause.testAll b.query.clauses).Decides := by
    simp only [docs, List.forall_mem_cons]
    exact ⟨⟨true, by decide +kernel⟩, ⟨true, by decide +kernel⟩, ⟨true, by decide +kernel⟩,
      ⟨false, by decide +kernel⟩, ⟨true, by decide +kernel⟩, fun d hd => nomatch hd⟩
  have hopen : s.deployment.Open 0 := ⟨_, rfl, rfl⟩
  have hlen : (b.filled s "age").length = 2 := by decide +kernel
  exact ⟨hlen, countColumn_spec ⟨by decide, by decide, rfl⟩ (fun _ => hopen) hdecided rfl rfl rfl (by omega)⟩

end Builder

end DocQuery
