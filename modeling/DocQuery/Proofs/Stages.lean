import DocQuery.Proofs.Pipelines
import DocQuery.Statement.Compile
import Mathlib.Algebra.Order.Ring.Nat

/-!
# What the stages of a read do

A read compiles to stages in a fixed order, each left out where the query does not ask for it.  Leaving a stage
out is the same as running it on nothing to do, so every query runs all of them:

    run (addFields fs) docs       = traverse (addFields fs) docs                   (run_addFields)
    run (project spec) docs       = projectAll spec docs                           (run_project)
    run (filter f) docs           = keep (accepts f) docs                          (run_filter)
    run (sort keys) docs          = the documents in the order of the keys         (run_sort)
    run (skip o ++ limit l) docs  = ok (page o l docs)                             (run_page)

    q.stages = ok st  ↔  nothing in q is refused, its clauses, aggregate and orders compile, and
                         st = before ++ filter ++ groups ++ behind ++ page         (stages_eq_ok_iff)
-/

namespace DocQuery

open Outcome

/-! ## Single stages -/

namespace Pipeline

open Query (stageUnlessEmpty stageUnlessZero)

theorem run_singleton (s : Stage) (docs : List Document) :
    run [s.toDocument] docs = runStage s.name s.argument docs := by
  rw [run_cons]
  exact bind_pure _

theorem run_addFields (fields : Document) (docs : List Document) :
    run ((stageUnlessEmpty .addFields fields).map Stage.toDocument) docs =
      Outcome.traverse (addFields fields) docs := by
  cases fields with
  | nil => exact (traverse_pure docs).symm
  | cons field rest => exact run_singleton (.addFields (field :: rest)) docs

/-- All documents, each with the output fields. -/
def projectAll (spec : Document) (docs : List Document) : Outcome (List Document) := do
  let projection ← Projection.of spec
  Outcome.traverse projection.apply docs

theorem projectAll_nil (docs : List Document) : projectAll [] docs = .ok docs := traverse_pure docs

theorem run_project (spec : Document) (docs : List Document) :
    run ((stageUnlessEmpty .project spec).map Stage.toDocument) docs = projectAll spec docs := by
  cases spec with
  | nil => exact (projectAll_nil docs).symm
  | cons field rest => exact run_singleton (.project (field :: rest)) docs

theorem run_filter (f : Document) (docs : List Document) :
    run ((stageUnlessEmpty .filter f).map Stage.toDocument) docs = keep (Filter.accepts f) docs := by
  cases f with
  | nil => exact (keep_true docs).symm
  | cons field rest => exact run_singleton (.filter (field :: rest)) docs

/-- Without keys all documents are ties. -/
theorem sortBy_nil (docs : List Document) : sortBy [] docs = docs := by
  have hloop : ∀ sorted : List Document,
      docs.foldl (fun sorted d => insertSorted (compareBy []) d sorted) sorted = docs.reverse ++ sorted := by
    induction docs with
    | nil => exact fun sorted => rfl
    | cons d rest ih =>
      intro sorted
      have hd : insertSorted (compareBy []) d sorted = d :: sorted := by
        cases sorted <;> rfl
      rw [List.foldl_cons, hd, ih, List.reverse_cons, List.append_assoc]
      rfl
  show (docs.foldl (fun sorted d => insertSorted (compareBy []) d sorted) []).reverse = docs
  rw [hloop, List.append_nil, List.reverse_reverse]

theorem run_sort (keys : Document) (docs : List Document) :
    run ((stageUnlessEmpty .sort keys).map Stage.toDocument) docs =
      (Outcome.traverse SortKey.of keys).map fun ks => sortBy ks docs := by
  cases keys with
  | nil => exact congrArg Except.ok (sortBy_nil docs).symm
  | cons key rest =>
    refine (run_singleton (.sort (key :: rest)) docs).trans ?_
    show (Outcome.traverse SortKey.of (key :: rest) >>= fun ks => pure (sortBy ks docs)) = _
    cases Outcome.traverse SortKey.of (key :: rest) <;> rfl

/-! ## Groups -/

/-- Without a key all documents are one group, and no documents are none. -/
theorem groupBy_null (docs : List Document) :
    groupBy .null docs = .ok (if docs.isEmpty then [] else [(.null, docs)]) := by
  have hrest : ∀ rest members : List Document, rest.foldlM (fun groups d => do
      let k ← Expression.evaluate .null d
      pure (addMember k d groups)) [(Value.null, members)] = (.ok [(.null, members ++ rest)] : Outcome _) := by
    intro rest
    induction rest with
    | nil =>
      intro members
      rw [List.append_nil]
      rfl
    | cons d rest ih =>
      intro members
      rw [List.append_cons, ← ih]
      rfl
  cases docs with
  | nil => rfl
  | cons d rest => exact hrest rest [d]

/-- The row of an aggregate over all documents; no documents have none. -/
theorem group_all (name : String) (argument : Value) (docs : List Document) :
    group [("_id", .null), ("aggregate", .document [(name, argument)])] docs =
      if docs.isEmpty then .ok []
      else (accumulate name argument docs).map fun v => [[("_id", .null), ("aggregate", v)]] := by
  show (groupBy .null docs >>= Outcome.traverse (groupRow _)) = _
  rw [groupBy_null]
  cases docs with
  | nil => rfl
  | cons d rest =>
    show (groupRow _ (.null, d :: rest) >>= _) = _
    show ((accumulate name argument (d :: rest) >>= _) >>= _) >>= _ = _
    cases accumulate name argument (d :: rest) <;> rfl

/-! ## Pages -/

/-- A count of rows as a store reads it back: at most the largest of 64 signed bits. -/
def clamped (n : UInt64) : Nat := min n.toNat (2 ^ 63 - 1)

theorem countOf_countValue (name : String) (n : UInt64) :
    countOf name (Stage.countValue n) = .ok (clamped n) := by
  have hmax : Int64.maxValue.toInt = 2 ^ 63 - 1 := rfl
  have hn : 0 ≤ (n.toNat : Int) := Int.natCast_nonneg _
  have hvalue : (Int64.ofInt (min n.toNat Int64.maxValue.toInt)).toInt = clamped n := by
    rw [hmax, clamped, Int64.toInt_ofInt_of_le (by omega) (by omega)]
    omega
  rw [countOf, Stage.countValue]
  show (if 0 ≤ (Int64.ofInt (min n.toNat Int64.maxValue.toInt)).toInt then _ else _) = _
  rw [hvalue, if_pos (Int.natCast_nonneg _)]
  rfl

/-- The rows that are left behind an offset, up to a limit; zero counts as not given. -/
def page (offset limit : Option UInt64) (rows : List Document) : List Document :=
  let rest := rows.drop (clamped (offset.getD 0))
  match limit with
  | some n => if n = 0 then rest else rest.take (clamped n)
  | none => rest

@[simp] theorem page_none (rows : List Document) : page none none rows = rows := rfl

theorem page_nil (offset limit : Option UInt64) : page offset limit [] = [] := by
  rw [page.eq_def]
  cases limit <;> simp

theorem run_skip (offset : Option UInt64) (docs : List Document) :
    run ((stageUnlessZero .skip offset).map Stage.toDocument) docs =
      .ok (docs.drop (clamped (offset.getD 0))) := by
  cases offset with
  | none => rfl
  | some n =>
    rw [stageUnlessZero]
    split
    · rename_i hn
      rw [hn]
      rfl
    · refine (run_singleton (.skip n) docs).trans ?_
      show (countOf "$skip" (Stage.countValue n)).map docs.drop = _
      rw [countOf_countValue]
      rfl

theorem clamped_ne_zero {n : UInt64} (h : n ≠ 0) : clamped n ≠ 0 := by
  have hn : n.toNat ≠ 0 := fun h0 => h (UInt64.toNat_inj.1 h0)
  rw [clamped]
  omega

/-- Without an offset a single row stays, whatever the limit. -/
theorem page_singleton (limit : Option UInt64) (row : Document) : page none limit [row] = [row] := by
  cases limit with
  | none => rfl
  | some n =>
    by_cases hn : n = 0
    · rw [hn]
      rfl
    · have hpos : 1 ≤ clamped n := Nat.one_le_iff_ne_zero.2 (clamped_ne_zero hn)
      show (if n = 0 then [row] else [row].take (clamped n)) = [row]
      rw [if_neg hn, List.take_of_length_le hpos]

theorem run_page (offset limit : Option UInt64) (docs : List Document) :
    run ((stageUnlessZero .skip offset ++ stageUnlessZero .limit limit).map Stage.toDocument) docs =
      .ok (page offset limit docs) := by
  rw [List.map_append, run_append, run_skip, page.eq_def]
  show run ((stageUnlessZero .limit limit).map Stage.toDocument) (docs.drop (clamped (offset.getD 0))) = _
  cases limit with
  | none => rfl
  | some n =>
    rw [stageUnlessZero]
    dsimp only
    split
    · rfl
    · rename_i hn
      refine (run_singleton (.limit n) _).trans ?_
      show (countOf "$limit" (Stage.countValue n) >>= _) = _
      rw [countOf_countValue]
      show (if clamped n = 0 then _ else _) = _
      rw [if_neg (clamped_ne_zero hn)]
      rfl

end Pipeline

/-! ## All stages of a query -/

namespace Query

/-- The filter that a read runs with, and the stage that groups what it leaves, where there is an aggregate. -/
def grouped (q : Query) (own : Document) : Compiled (Document × List Stage) :=
  match q.aggregate with
  | some a => do
    let (acc, filter) ← accumulator a own
    pure (filter, [Stage.group [("_id", .null), ("aggregate", acc)]])
  | none => pure (own, [])

def stagesBefore (q : Query) : List Stage :=
  stageUnlessEmpty .addFields (Document.ofFields q.computed) ++ stageUnlessEmpty .project (columnFields q.columns)

def stagesBehind (q : Query) (keys : List (String × Value)) : List Stage :=
  stageUnlessEmpty .project (Document.ofFields q.projections) ++ stageUnlessEmpty .sort (Document.ofFields keys)

def pageStages (q : Query) : List Stage := stageUnlessZero .skip q.offset ++ stageUnlessZero .limit q.limit

theorem checkRelational_eq_ok_iff (q : Query) : q.checkRelational = .ok () ↔ q.refused? = none := by
  rw [checkRelational]
  cases q.refused? <;> simp

/-- The stages of a query, part by part. -/
theorem stages_eq_parts (q : Query) : q.stages = (do
    q.checkRelational
    let own ← FilterDocument.ofClauses q.clauses
    let (filter, groups) ← q.grouped own
    let keys ← sortKeys q.orders
    pure (q.stagesBefore ++ stageUnlessEmpty .filter filter ++ groups ++ q.stagesBehind keys
      ++ q.pageStages)) := by
  rw [Query.stages]
  simp only [stagesBefore, stagesBehind, pageStages, grouped, List.append_assoc]
  cases q.aggregate with
  | none => rfl
  | some a => simp only [bind_assoc, pure_bind]

theorem stages_eq_ok_iff {q : Query} {stages : List Stage} :
    q.stages = .ok stages ↔ q.refused? = none ∧ ∃ own filter groups keys,
      FilterDocument.ofClauses q.clauses = .ok own ∧ q.grouped own = .ok (filter, groups) ∧
      sortKeys q.orders = .ok keys ∧
      stages = q.stagesBefore ++ stageUnlessEmpty .filter filter ++ groups ++ q.stagesBehind keys
        ++ q.pageStages := by
  rw [stages_eq_parts, bind_eq_ok_iff, ← checkRelational_eq_ok_iff]
  constructor
  · rintro ⟨⟨⟩, hc, h⟩
    obtain ⟨own, ho, h⟩ := (bind_eq_ok_iff _ _ _).1 h
    obtain ⟨⟨filter, groups⟩, hg, h⟩ := (bind_eq_ok_iff _ _ _).1 h
    obtain ⟨keys, hk, h⟩ := (bind_eq_ok_iff _ _ _).1 h
    cases h
    exact ⟨hc, own, filter, groups, keys, ho, hg, hk, rfl⟩
  · rintro ⟨hc, own, filter, groups, keys, ho, hg, hk, rfl⟩
    refine ⟨(), hc, ?_⟩
    rw [ho]
    show (q.grouped own >>= _) = _
    rw [hg]
    show (sortKeys q.orders >>= _) = _
    rw [hk]
    rfl

/-! ## Runs of all stages -/

open Pipeline (run projectAll addFields sortBy page SortKey run_append run_addFields run_project run_filter run_sort
  run_page)

/-- The documents behind the filter: the fields are computed first, then the columns are taken. -/
def passed (q : Query) (filter : Document) (docs : List Document) : Outcome (List Document) := do
  let computed ← Outcome.traverse (addFields (Document.ofFields q.computed)) docs
  let taken ← projectAll (columnFields q.columns) computed
  keep (Filter.accepts filter) taken

/-- The rows that documents give: their output fields, in order and cut to the page. -/
def shown (q : Query) (keys : List (String × Value)) (docs : List Document) : Outcome (List Document) := do
  let projected ← projectAll (Document.ofFields q.projections) docs
  let keys ← Outcome.traverse SortKey.of (Document.ofFields keys)
  pure (page q.offset q.limit (sortBy keys projected))

theorem projectAll_eq_ok_iff {spec : Document} {docs rows : List Document} :
    projectAll spec docs = .ok rows ↔
      ∃ p, Pipeline.Projection.of spec = .ok p ∧ Outcome.traverse p.apply docs = .ok rows :=
  bind_eq_ok_iff _ _ _

theorem passed_eq_ok_iff {q : Query} {filter : Document} {docs rows : List Document} :
    q.passed filter docs = .ok rows ↔ ∃ computed taken,
      Outcome.traverse (addFields (Document.ofFields q.computed)) docs = .ok computed ∧
      projectAll (columnFields q.columns) computed = .ok taken ∧ keep (Filter.accepts filter) taken = .ok rows := by
  rw [passed, bind_eq_ok_iff]
  simp only [bind_eq_ok_iff, exists_and_left]

theorem shown_eq_ok_iff {q : Query} {keys : List (String × Value)} {docs rows : List Document} :
    q.shown keys docs = .ok rows ↔ ∃ projected sortKeys,
      projectAll (Document.ofFields q.projections) docs = .ok projected ∧
      Outcome.traverse SortKey.of (Document.ofFields keys) = .ok sortKeys ∧
      rows = page q.offset q.limit (sortBy sortKeys projected) := by
  rw [shown]
  constructor
  · intro h
    obtain ⟨projected, hp, h⟩ := (bind_eq_ok_iff _ _ _).1 h
    obtain ⟨sortKeys, hk, h⟩ := (bind_eq_ok_iff _ _ _).1 h
    cases h
    exact ⟨projected, sortKeys, hp, hk, rfl⟩
  · rintro ⟨projected, sortKeys, hp, hk, rfl⟩
    rw [hp]
    show (Outcome.traverse SortKey.of (Document.ofFields keys) >>= _) = _
    rw [hk]
    rfl

/-- Without columns, documents pass a filter that decides each of them with its computed fields. -/
theorem passed_of_decided {q : Query} (hc : q.columns = []) {filter : Document} {docs : List Document}
    (h : ∀ d ∈ docs, (addFields (Document.ofFields q.computed) d >>= Filter.accepts filter).Decides) :
    ∃ rows, q.passed filter docs = .ok rows := by
  have hfields : ∀ d ∈ docs, ∃ e, addFields (Document.ofFields q.computed) d = .ok e := by
    intro d hd
    obtain ⟨r, hr⟩ := h d hd
    obtain ⟨e, he, -⟩ := (bind_eq_ok_iff _ _ _).1 hr
    exact ⟨e, he⟩
  obtain ⟨computed, hcomputed⟩ := traverse_of_total hfields
  have hdecides : ∀ e ∈ computed, (Filter.accepts filter e).Decides := by
    intro e he
    obtain ⟨d, hd, hde⟩ := mem_of_traverse hcomputed he
    have hd := h d hd
    rw [hde] at hd
    exact hd
  refine ⟨_, passed_eq_ok_iff.2 ⟨computed, computed, hcomputed, ?_, keep_of_decided hdecides⟩⟩
  rw [hc]
  exact Pipeline.projectAll_nil computed

/-- Without output fields, all documents are shown. -/
theorem shown_of_sorted {q : Query} (hp : q.projections = []) {keys : List (String × Value)} {ks : List SortKey}
    (hk : Outcome.traverse SortKey.of (Document.ofFields keys) = .ok ks) (docs : List Document) :
    ∃ rows, q.shown keys docs = .ok rows := by
  refine ⟨_, shown_eq_ok_iff.2 ⟨docs, ks, ?_, hk, rfl⟩⟩
  rw [hp]
  exact Pipeline.projectAll_nil docs

theorem run_stages (q : Query) (filter : Document) (groups : List Stage) (keys : List (String × Value))
    (docs : List Document) :
    run ((q.stagesBefore ++ stageUnlessEmpty .filter filter ++ groups ++ q.stagesBehind keys
      ++ q.pageStages).map Stage.toDocument) docs =
      (q.passed filter docs >>= run (groups.map Stage.toDocument)) >>= q.shown keys := by
  have hpassed : run ((q.stagesBefore ++ stageUnlessEmpty .filter filter).map Stage.toDocument) docs =
      q.passed filter docs := by
    rw [stagesBefore, List.map_append, List.map_append, run_append, run_append, run_addFields, bind_assoc, passed]
    refine bind_congr fun computed => ?_
    rw [run_project]
    exact bind_congr (run_filter filter)
  have hshown : ∀ ds, run ((q.stagesBehind keys ++ q.pageStages).map Stage.toDocument) ds = q.shown keys ds := by
    intro ds
    rw [stagesBehind, List.map_append, List.map_append, run_append, run_append, run_project, bind_assoc, shown]
    refine bind_congr fun projected => ?_
    rw [run_sort]
    cases Outcome.traverse SortKey.of (Document.ofFields keys) with
    | error e => rfl
    | ok ks => exact run_page q.offset q.limit (sortBy ks projected)
  rw [List.append_assoc _ (q.stagesBehind keys), List.map_append, List.map_append, run_append, run_append, hpassed]
  exact bind_congr hshown

/-- An offset and a limit are the last two stages, whatever the query. -/
theorem stages_page_eq_ok_iff {q : Query} (ho : q.offset = none) (hl : q.limit = none)
    {offset limit : Option UInt64} {stages : List Stage} :
    { q with offset, limit }.stages = .ok stages ↔ ∃ whole, q.stages = .ok whole ∧
      stages = whole ++ (stageUnlessZero .skip offset ++ stageUnlessZero .limit limit) := by
  have hp : q.pageStages = [] := by
    rw [pageStages, ho, hl]
    rfl
  constructor
  · intro h
    obtain ⟨hr, own, filter, groups, keys, hown, hg, hk, rfl⟩ := stages_eq_ok_iff.1 h
    refine ⟨_, stages_eq_ok_iff.2 ⟨hr, own, filter, groups, keys, hown, hg, hk, rfl⟩, ?_⟩
    rw [hp, List.append_nil]
    rfl
  · rintro ⟨whole, h, rfl⟩
    obtain ⟨hr, own, filter, groups, keys, hown, hg, hk, rfl⟩ := stages_eq_ok_iff.1 h
    refine stages_eq_ok_iff.2 ⟨hr, own, filter, groups, keys, hown, hg, hk, ?_⟩
    rw [hp, List.append_nil]
    rfl

end Query

end DocQuery
