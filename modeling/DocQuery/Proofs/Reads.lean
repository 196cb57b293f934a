import DocQuery.Proofs.ClauseLists
import DocQuery.Proofs.Collections
import DocQuery.Proofs.Pipelines

/-!
# Rows of reads

A read computes fields, filters, and then orders and cuts the rows.  Without columns and output fields the rows
come out as the filter has seen them, so all of them answer the clauses:

    (b.read q).on s = (ok rows, t) → testAll q.clauses row = ok true for each of them     (testAll_of_read)
-/

namespace DocQuery

open Outcome

namespace Query

/-- The stages of a read without an aggregate. -/
theorem stages_eq {q : Query} (ha : q.aggregate = none) {stages : List Stage} (h : q.stages = .ok stages) :
    ∃ filter keys, FilterDocument.ofClauses q.clauses = .ok filter ∧ sortKeys q.orders = .ok keys ∧
      stages = stageUnlessEmpty .addFields (Document.ofFields q.computed)
        ++ stageUnlessEmpty .project (columnFields q.columns)
        ++ stageUnlessEmpty .filter filter
        ++ stageUnlessEmpty .project (Document.ofFields q.projections)
        ++ stageUnlessEmpty .sort (Document.ofFields keys)
        ++ stageUnlessZero .skip q.offset
        ++ stageUnlessZero .limit q.limit := by
  rw [Query.stages, bind_eq_ok_iff] at h
  obtain ⟨-, -, h⟩ := h
  obtain ⟨filter, hf, h⟩ := (bind_eq_ok_iff _ _ _).1 h
  rw [ha] at h
  obtain ⟨grouped, hg, h⟩ := (bind_eq_ok_iff _ _ _).1 h
  cases hg
  obtain ⟨keys, hk, h⟩ := (bind_eq_ok_iff _ _ _).1 h
  cases h
  exact ⟨filter, keys, hf, hk, by rw [List.append_nil]⟩

theorem selects_of_mem {keys : Document} {offset limit : Option UInt64} {s : Stage}
    (h : s ∈ stageUnlessEmpty .sort keys ++ stageUnlessZero .skip offset ++ stageUnlessZero .limit limit) :
    s.Selects := by
  have hz : ∀ {stage : UInt64 → Stage} {n : Option UInt64}, s ∈ stageUnlessZero stage n → ∃ k, s = stage k := by
    intro stage n hs
    cases n with
    | none => cases hs
    | some k =>
      rw [stageUnlessZero] at hs
      split at hs
      · cases hs
      · exact ⟨k, List.mem_singleton.1 hs⟩
  rcases List.mem_append.1 h with h | h
  · rcases List.mem_append.1 h with h | h
    · rw [stageUnlessEmpty] at h
      split at h
      · cases h
      · cases List.mem_singleton.1 h
        trivial
    · obtain ⟨k, rfl⟩ := hz h
      trivial
  · obtain ⟨k, rfl⟩ := hz h
    trivial

/-- Without columns and output fields nothing behind the filter changes a document. -/
theorem stages_of_whole {q : Query} (ha : q.aggregate = none) (hc : q.columns = []) (hp : q.projections = [])
    {stages : List Stage} (h : q.stages = .ok stages) :
    ∃ filter after, FilterDocument.ofClauses q.clauses = .ok filter ∧ (∀ s ∈ after, s.Selects) ∧
      stages = stageUnlessEmpty .addFields (Document.ofFields q.computed)
        ++ stageUnlessEmpty .filter filter ++ after := by
  obtain ⟨filter, keys, hf, -, rfl⟩ := stages_eq ha h
  refine ⟨filter, stageUnlessEmpty .sort (Document.ofFields keys) ++ stageUnlessZero .skip q.offset
    ++ stageUnlessZero .limit q.limit, hf, fun s hs => selects_of_mem hs, ?_⟩
  have hcolumns : stageUnlessEmpty .project (columnFields q.columns) = [] := by
    rw [hc]
    rfl
  have hprojections : stageUnlessEmpty .project (Document.ofFields q.projections) = [] := by
    rw [hp]
    rfl
  rw [hcolumns, hprojections]
  simp only [List.append_nil, List.append_assoc]

theorem compileSelect_eq {q : Query} {st : Statement} (h : q.compileSelect = .ok st) :
    ∃ stages, q.stages = .ok stages ∧ st = .aggregate q.collection stages q.effectiveOptions := by
  obtain ⟨stages, hs, h⟩ := (bind_eq_ok_iff _ _ _).1 h
  cases h
  exact ⟨stages, hs, rfl⟩

end Query

namespace Pipeline

/-- A filter that accepts everything need not run. -/
theorem accepted_of_run_stageUnlessEmpty {f : Document} {docs rows : List Document}
    (h : run ((Query.stageUnlessEmpty .filter f).map Stage.toDocument) docs = .ok rows) :
    ∀ d ∈ rows, Filter.accepts f d = .ok true := by
  cases f with
  | nil => exact fun d _ => Filter.accepts_nil d
  | cons field rest =>
    replace h : run [(Stage.filter (field :: rest)).toDocument] docs = .ok rows := h
    rw [run_cons, bind_eq_ok_iff] at h
    obtain ⟨kept, hk, h⟩ := h
    cases h
    exact fun d hd => (accepted_of_run_filter hk d hd).2

/-- What a filter has left through stays accepted behind stages that change no document. -/
theorem accepted_of_run {before after : List Stage} {f : Document} (ha : ∀ s ∈ after, s.Selects)
    {docs rows : List Document}
    (h : run ((before ++ Query.stageUnlessEmpty .filter f ++ after).map Stage.toDocument) docs = .ok rows) :
    ∀ d ∈ rows, Filter.accepts f d = .ok true := by
  rw [List.map_append, List.map_append, run_append, run_append, bind_eq_ok_iff] at h
  obtain ⟨filtered, hf, h⟩ := h
  obtain ⟨computed, -, hf⟩ := (bind_eq_ok_iff _ _ _).1 hf
  exact fun d hd => accepted_of_run_stageUnlessEmpty hf d (subset_of_run ha h hd)

end Pipeline

namespace Builder

/-- Every row answers the clauses, read with And before Or. -/
theorem testAll_of_read {b : Builder} {q : Query} (ha : q.aggregate = none) (hc : q.columns = [])
    (hp : q.projections = []) {s t : Session} {rows : List Document}
    (h : (b.read q).on s = (.ok rows, t)) : ∀ row ∈ rows, Clause.testAll q.clauses row = .ok true := by
  obtain ⟨st, hq, h⟩ := Session.compiled_bind_ok h
  obtain ⟨stages, hs, rfl⟩ := Query.compileSelect_eq hq
  obtain ⟨filter, after, hf, hafter, rfl⟩ := Query.stages_of_whole ha hc hp hs
  rcases Session.select_aggregate_ok h with rfl | hr
  · simp
  · intro row hrow
    rw [← FilterDocument.accepts_ofClauses hf]
    exact Pipeline.accepted_of_run hafter hr row hrow

end Builder

end DocQuery
