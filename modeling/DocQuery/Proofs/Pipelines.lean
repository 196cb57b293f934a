import DocQuery.Proofs.Outcomes
import DocQuery.Statement.Basic
import DocQuery.Store.Pipeline

/-!
# Pipelines, stage by stage

The stages behind a filter take whole documents: they order them or leave some out, but change none.

    run (as ++ bs) docs = run as docs >>= run bs                                   (run_append)
    sortBy keys docs is a permutation of docs                                      (sortBy_perm)
    rows of filters, sorts, skips and limits are among the documents               (subset_of_run)
-/

namespace DocQuery

open Outcome

namespace Pipeline

/-! ## Order -/

theorem insertSorted_perm {α : Type} (order : α → α → Ordering) (a : α) (as : List α) :
    (insertSorted order a as).Perm (a :: as) := by
  induction as with
  | nil => exact List.Perm.refl _
  | cons b rest ih =>
    rw [insertSorted]
    split
    · exact (ih.cons b).trans (List.Perm.swap a b rest)
    · exact List.Perm.refl _

/-- What has been sorted, and what is still to come, are the elements. -/
theorem foldl_insertSorted_perm {α : Type} (order : α → α → Ordering) (as sorted : List α) :
    (as.foldl (fun sorted a => insertSorted order a sorted) sorted).Perm (as ++ sorted) := by
  induction as generalizing sorted with
  | nil => exact List.Perm.refl _
  | cons a rest ih =>
    refine (ih _).trans (((insertSorted_perm order a sorted).append_left rest).trans ?_)
    exact List.perm_middle

theorem stableSort_perm {α : Type} (order : α → α → Ordering) (as : List α) :
    (stableSort order as).Perm as := by
  have h := foldl_insertSorted_perm order as []
  rw [List.append_nil] at h
  exact (List.reverse_perm _).trans h

theorem sortBy_perm (keys : List SortKey) (docs : List Document) : (sortBy keys docs).Perm docs := by
  rw [sortBy.eq_def]
  split
  · split
    · split
      · exact List.reverse_perm docs
      · exact List.Perm.refl docs
    · exact stableSort_perm _ docs
  · exact stableSort_perm _ docs

/-! ## Stages in sequence -/

theorem run_append (as bs docs : List Document) : run (as ++ bs) docs = run as docs >>= run bs := by
  induction as generalizing docs with
  | nil => rfl
  | cons stage rest ih =>
    rw [List.cons_append, run, run]
    cases stageOf stage with
    | error e => rfl
    | ok s =>
      show (runStage s.1 s.2 docs >>= run (rest ++ bs)) = (runStage s.1 s.2 docs >>= run rest) >>= run bs
      cases runStage s.1 s.2 docs with
      | error e => rfl
      | ok docs' => exact ih docs'

theorem run_cons (s : Stage) (rest docs : List Document) :
    run (s.toDocument :: rest) docs = runStage s.name s.argument docs >>= run rest := rfl

theorem runStage_filter (f : Document) (docs : List Document) :
    runStage "$match" (.document f) docs = keep (Filter.accepts f) docs := rfl

/-- The documents that a filter leaves through are among the ones before it, and it accepts them. -/
theorem accepted_of_run_filter {f : Document} {docs rows : List Document}
    (h : runStage (Stage.filter f).name (Stage.filter f).argument docs = .ok rows) :
    ∀ d ∈ rows, d ∈ docs ∧ Filter.accepts f d = .ok true := by
  obtain ⟨rfl, -⟩ := eq_filter_of_keep ((runStage_filter f docs).symm.trans h)
  intro d hd
  obtain ⟨hm, ht⟩ := List.mem_filter.1 hd
  exact ⟨hm, of_decide_eq_true ht⟩

end Pipeline

/-! ## Stages that change no document -/

/-- A stage that orders documents, or leaves some out. -/
def Stage.Selects : Stage → Prop
  | filter _ => True
  | sort _ => True
  | skip _ => True
  | limit _ => True
  | _ => False

namespace Pipeline

theorem subset_of_runStage {s : Stage} (hs : s.Selects) {docs rows : List Document}
    (h : runStage s.name s.argument docs = .ok rows) : rows ⊆ docs := by
  cases s with
  | filter f => exact fun d hd => (accepted_of_run_filter h d hd).1
  | sort keys =>
    obtain ⟨fields, -, h⟩ := (bind_eq_ok_iff _ _ _).1 h
    obtain ⟨sortKeys, -, h⟩ := (bind_eq_ok_iff _ _ _).1 h
    cases h
    exact (sortBy_perm sortKeys docs).subset
  | skip n =>
    obtain ⟨k, -, rfl⟩ := (map_eq_ok_iff _ _ _).1 h
    exact List.drop_subset k docs
  | limit n =>
    obtain ⟨k, -, h⟩ := (bind_eq_ok_iff _ _ _).1 h
    split at h
    · cases h
    · cases h
      exact List.take_subset k docs
  | _ => exact hs.elim

theorem subset_of_run {stages : List Stage} (hs : ∀ s ∈ stages, s.Selects) {docs rows : List Document}
    (h : run (stages.map Stage.toDocument) docs = .ok rows) : rows ⊆ docs := by
  induction stages generalizing docs with
  | nil =>
    cases h
    exact List.Subset.refl _
  | cons s rest ih =>
    obtain ⟨hs, hr⟩ := List.forall_mem_cons.1 hs
    rw [List.map_cons, run_cons, bind_eq_ok_iff] at h
    obtain ⟨next, hn, h⟩ := h
    exact fun d hd => subset_of_runStage hs hn (ih hr h hd)

end Pipeline

end DocQuery
