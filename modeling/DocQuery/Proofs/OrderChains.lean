import DocQuery.Builder.Basic
import DocQuery.Proofs.Progress
import DocQuery.Proofs.Sorting

/-!
# Chains of orders

A chain of orders becomes one document, whose fields are the columns.  A column named again keeps the place where it
first stands and takes the direction that it is last given:

    ofFields (chain.fields) = chain.settled.fields                                    (ofFields_fields)

As keys, a column named again never decides, for it is reached by ties only; so a chain orders documents as its first
directions do:

    compareBy chain.keys = compareBy chain.leading.keys                               (compareBy_leading)

The rows of a query are sorted stably by the settled chain, and by the chain itself where no column is turned round
(`orders_sorted`); a chain that turns a field round is not what some documents are sorted by (`exists_not_sorted`).
-/

namespace DocQuery

open Outcome

/-! ## Documents of fields -/

namespace Document

theorem ofFields_concat (fields : List (String × Value)) (f : String × Value) :
    ofFields (fields ++ [f]) = insert (ofFields fields) f.1 f.2 := by
  rw [ofFields, insertAll, List.foldl_append]
  rfl

theorem eraseDups_concat (names : List String) (name : String) :
    (names ++ [name]).eraseDups = if name ∈ names then names.eraseDups else names.eraseDups ++ [name] := by
  rw [List.eraseDups_append]
  by_cases h : name ∈ names
  · rw [if_pos h]
    simp [List.removeAll, h]
  · rw [if_neg h]
    simp [List.removeAll, h, List.eraseDups_cons]

theorem keys_ofFields (fields : List (String × Value)) : keys (ofFields fields) = (fields.map Prod.fst).eraseDups := by
  induction fields using List.reverseRecOn with
  | nil => rfl
  | append_singleton fields f ih =>
    rw [ofFields_concat, keys_insert, ih, List.map_append, List.map_singleton, eraseDups_concat]
    simp only [List.mem_eraseDups]

theorem distinct_ofFields (fields : List (String × Value)) : Distinct (ofFields fields) := by
  induction fields using List.reverseRecOn with
  | nil => exact List.nodup_nil
  | append_singleton fields f ih =>
    rw [ofFields_concat]
    exact ih.insert f.1 f.2

/-- A field has the value that it is last given. -/
theorem get?_ofFields (fields : List (String × Value)) (name : String) :
    get? (ofFields fields) name = fields.reverse.lookup name := by
  induction fields using List.reverseRecOn with
  | nil => rfl
  | append_singleton fields f ih =>
    rw [ofFields_concat, List.reverse_append, List.reverse_singleton, List.singleton_append]
    by_cases h : f.1 = name
    · subst h
      rw [get?_insert_self, List.lookup_cons_self]
    · rw [get?_insert_of_ne _ h, ih, List.lookup_cons, beq_false_of_ne (Ne.symm h)]

/-- A document of distinct names, given by the values that they have. -/
theorem eq_map_of_distinct {d : Document} (h : Distinct d) {f : String → Value}
    (hf : ∀ name ∈ keys d, get? d name = some (f name)) : d = (keys d).map fun name => (name, f name) := by
  have hfield : ∀ p ∈ d, (p.1, f p.1) = p := by
    intro p hp
    have hget := hf p.1 (List.mem_map_of_mem hp)
    rw [get?_of_mem h hp] at hget
    rw [← Option.some.inj hget]
  rw [keys, List.map_map]
  exact (List.map_id d).symm.trans (List.map_congr_left fun p hp => (hfield p hp).symm)

end Document

/-! ## Chains -/

/-- Orders by columns, from the first. -/
abbrev OrderChain := List (String × SortDirection)

namespace OrderChain

/-- The columns, each where it first stands. -/
def columns (chain : OrderChain) : List String := (chain.map Prod.fst).eraseDups

/-- Each column where it first stands, with the direction it has there. -/
def leading (chain : OrderChain) : OrderChain :=
  (columns chain).map fun c => (c, (chain.lookup c).getD .ascending)

/-- Each column where it first stands, with the direction that it is last given. -/
def settled (chain : OrderChain) : OrderChain :=
  (columns chain).map fun c => (c, (chain.reverse.lookup c).getD .ascending)

/-- No column ends in another direction than it is first given. -/
def Steady (chain : OrderChain) : Prop := ∀ o ∈ chain, chain.lookup o.1 = chain.reverse.lookup o.1

instance (chain : OrderChain) : Decidable (Steady chain) := inferInstanceAs (Decidable (∀ o ∈ chain, _))

/-- The fields of the sort stage that each order gives. -/
def fields (chain : OrderChain) : List (String × Value) := chain.map fun o => (o.1, .int32 o.2.sign)

/-- The keys that documents are compared by. -/
def keys (chain : OrderChain) : List Pipeline.SortKey := chain.map fun o => ⟨o.1, o.2 = .descending⟩

variable {chain : OrderChain}

theorem mem_columns {c : String} : c ∈ columns chain ↔ ∃ o ∈ chain, o.1 = c := by
  rw [columns, List.mem_eraseDups, List.mem_map]

theorem columns_concat (chain : OrderChain) (o : String × SortDirection) :
    columns (chain ++ [o]) = if o.1 ∈ columns chain then columns chain else columns chain ++ [o.1] := by
  rw [columns, List.map_append, List.map_singleton, Document.eraseDups_concat]
  simp only [columns, List.mem_eraseDups]

/-- A column of the chain has a direction. -/
theorem exists_lookup {c : String} (h : c ∈ columns chain) : ∃ direction, chain.lookup c = some direction := by
  rw [← Option.ne_none_iff_exists', Ne, List.lookup_eq_none_iff]
  intro hnone
  obtain ⟨o, ho, rfl⟩ := mem_columns.1 h
  simpa using hnone o ho

theorem mem_columns_reverse {c : String} (h : c ∈ columns chain) : c ∈ columns chain.reverse := by
  obtain ⟨o, ho, hc⟩ := mem_columns.1 h
  exact mem_columns.2 ⟨o, List.mem_reverse.2 ho, hc⟩

theorem lookup_fields (chain : OrderChain) (c : String) :
    (fields chain).lookup c = (chain.lookup c).map fun direction => .int32 direction.sign := by
  induction chain with
  | nil => rfl
  | cons o rest ih =>
    rw [fields, List.map_cons, List.lookup_cons, List.lookup_cons, ← fields, ih]
    split <;> rfl

/-- The settled chain names no other columns. -/
theorem exists_of_mem_settled {p : String × SortDirection} (h : p ∈ settled chain) : ∃ o ∈ chain, o.1 = p.1 := by
  obtain ⟨c, hc, rfl⟩ := List.mem_map.1 h
  exact mem_columns.1 hc

/-- The document of a chain is the one of the settled chain. -/
theorem ofFields_fields (chain : OrderChain) : Document.ofFields (fields chain) = fields (settled chain) := by
  have hkeys : Document.keys (Document.ofFields (fields chain)) = columns chain := by
    rw [Document.keys_ofFields, fields, List.map_map]
    rfl
  have hvalue : ∀ c ∈ Document.keys (Document.ofFields (fields chain)),
      Document.get? (Document.ofFields (fields chain)) c =
        some (.int32 ((chain.reverse.lookup c).getD .ascending).sign) := by
    intro c hc
    rw [hkeys] at hc
    obtain ⟨direction, hd⟩ := exists_lookup (mem_columns_reverse hc)
    rw [Document.get?_ofFields, fields, ← List.map_reverse, ← fields, lookup_fields, hd]
    rfl
  rw [Document.eq_map_of_distinct (Document.distinct_ofFields _) hvalue, hkeys, settled, fields, List.map_map]
  rfl

/-! ## Columns named again -/

theorem settled_of_steady (h : Steady chain) : settled chain = leading chain := by
  refine List.map_congr_left fun c hc => ?_
  obtain ⟨o, ho, rfl⟩ := mem_columns.1 hc
  rw [h o ho]

theorem leading_concat (chain : OrderChain) (o : String × SortDirection) :
    leading (chain ++ [o]) = if o.1 ∈ columns chain then leading chain else leading chain ++ [o] := by
  have hfirst : ∀ c ∈ columns chain, (chain ++ [o]).lookup c = chain.lookup c := by
    intro c hc
    obtain ⟨direction, hd⟩ := exists_lookup hc
    rw [List.lookup_append, hd]
    rfl
  have hsame : (columns chain).map (fun c => (c, ((chain ++ [o]).lookup c).getD .ascending)) = leading chain :=
    List.map_congr_left fun c hc => by rw [hfirst c hc]
  rw [leading, columns_concat]
  split
  · exact hsame
  · rename_i hnew
    have hnone : chain.lookup o.1 = none := by
      rw [List.lookup_eq_none_iff]
      intro p hp
      exact bne_iff_ne.2 fun h => hnew (mem_columns.2 ⟨p, hp, h.symm⟩)
    rw [List.map_append, hsame, List.map_singleton, List.lookup_append, hnone, Option.none_or,
      List.lookup_cons_self]
    rfl

end OrderChain

namespace Pipeline

theorem compareBy_append (front behind : List SortKey) (a b : Document) :
    compareBy (front ++ behind) a b = (compareBy front a b).then (compareBy behind a b) := by
  induction front with
  | nil => rfl
  | cons k rest ih => rw [List.cons_append, compareBy, compareBy, ih, Ordering.then_assoc]

/-- A key on a path that has been looked at decides nothing. -/
theorem compareBy_concat_of_path {keys : List SortKey} {k j : SortKey} (hk : k ∈ keys) (hp : k.path = j.path)
    (a b : Document) : compareBy (keys ++ [j]) a b = compareBy keys a b := by
  rw [compareBy_append]
  cases h : compareBy keys a b with
  | eq =>
    have htie := compareBy_eq_eq_iff.1 h k hk
    rw [SortKey.valueOf, SortKey.valueOf, hp] at htie
    show (j.compare a b).then .eq = .eq
    rw [(j.compare_eq_eq_iff a b).2 htie]
    rfl
  | lt => rfl
  | gt => rfl

/-! ## Sorted documents -/

/-- Documents in the order of some keys: none comes before one that stands in front of it, and those that tie stand
as they stood. -/
structure StablySorted (keys : List SortKey) (docs sorted : List Document) : Prop where
  perm : sorted.Perm docs
  ordered : sorted.Pairwise fun a b => ¬ Precedes keys b a
  ties : ∀ d ∈ docs, sorted.filter (Ties keys d) = docs.filter (Ties keys d)

theorem stablySorted_stableSort {keys : List SortKey} {docs : List Document} (h : Comparable keys docs) :
    StablySorted keys docs (stableSort (compareBy keys) docs) where
  perm := stableSort_perm _ docs
  ordered := by
    refine (stableSort_pairwise h.orders fun _ hd => hd).imp fun hlt => ?_
    rwa [← compareBy_eq_lt_iff]
  ties := by
    intro d hd
    have hfilter := filter_stableSort h.orders (fun _ hd => hd) hd
    simpa only [compareBy_eq_eq_iff] using hfilter

end Pipeline

namespace OrderChain

open Pipeline (compareBy compareBy_append compareBy_concat_of_path StablySorted stablySorted_stableSort)

theorem keys_concat (chain : OrderChain) (o : String × SortDirection) :
    keys (chain ++ [o]) = keys chain ++ [⟨o.1, o.2 = .descending⟩] := List.map_append

/-- A chain compares documents as its first directions do. -/
theorem compareBy_leading (chain : OrderChain) (a b : Document) :
    compareBy (keys (leading chain)) a b = compareBy (keys chain) a b := by
  induction chain using List.reverseRecOn with
  | nil => rfl
  | append_singleton chain o ih =>
    rw [leading_concat, keys_concat]
    split
    · rename_i h
      obtain ⟨p, hp, hpath⟩ := mem_columns.1 h
      have hk : (⟨p.1, p.2 = .descending⟩ : Pipeline.SortKey) ∈ keys chain := List.mem_map_of_mem hp
      rw [compareBy_concat_of_path hk hpath, ih]
    · rw [keys_concat, compareBy_append, compareBy_append, ih]

/-! ## Sorted rows -/

/-- The settled chain looks at the same paths. -/
theorem comparable_settled {docs : List Document} (h : Pipeline.Comparable (keys chain) docs) :
    Pipeline.Comparable (keys (settled chain)) docs := by
  intro k hk
  obtain ⟨p, hp, rfl⟩ := List.mem_map.1 hk
  obtain ⟨o, ho, hpath⟩ := exists_of_mem_settled hp
  have ho' := h ⟨o.1, o.2 = .descending⟩ (List.mem_map_of_mem ho)
  rwa [hpath] at ho'

theorem compareBy_settled (h : Steady chain) : compareBy (keys (settled chain)) = compareBy (keys chain) := by
  funext a b
  rw [settled_of_steady h, compareBy_leading]

theorem traverse_fields (chain : OrderChain) :
    Outcome.traverse Pipeline.SortKey.of (fields chain) = .ok (keys chain) := by
  rw [traverse_eq_ok_iff, fields, keys, List.forall₂_map_left_iff, List.forall₂_map_right_iff, List.forall₂_same]
  intro o _
  obtain ⟨c, direction⟩ := o
  cases direction <;> rfl

/-! ## Columns turned round -/

/-- Each column is the name of a field, and no longer path. -/
def Named (chain : OrderChain) : Prop := ∀ o ∈ chain, Path.parse o.1 = ⟨o.1, []⟩

/-- A document with one answer. -/
def single (column : String) (b : Bool) : Document := [(column, .boolean b)]

theorem valueOf_single {name : String} (hn : Path.parse name = ⟨name, []⟩) (descending : Bool) (column : String)
    (b : Bool) : Pipeline.SortKey.valueOf ⟨name, descending⟩ (single column b) =
      if column = name then .boolean b else .null := by
  rw [Pipeline.SortKey.valueOf, hn, Path.resolve_of_tail_nil _ rfl, single, Document.get?_cons]
  split <;> rfl

/-- Two documents that differ under one column are compared by the first order on it. -/
theorem compareBy_single (hnamed : Named chain) (column : String) :
    compareBy (keys chain) (single column false) (single column true) =
      (chain.lookup column).elim .eq fun direction => if direction = .descending then .gt else .lt := by
  induction chain with
  | nil => rfl
  | cons o rest ih =>
    obtain ⟨ho, hrest⟩ := List.forall_mem_cons.1 hnamed
    obtain ⟨name, direction⟩ := o
    have hless : Value.compare (.boolean false) (.boolean true) = .lt := by decide +kernel
    have hgreater : Value.compare (.boolean true) (.boolean false) = .gt := by decide +kernel
    rw [keys, List.map_cons, compareBy, ← keys, ih hrest, Pipeline.SortKey.compare_eq, valueOf_single ho,
      valueOf_single ho, List.lookup_cons]
    by_cases h : column = name
    · rw [if_pos h, if_pos h, beq_iff_eq.2 h, hless, hgreater]
      cases direction <;> rfl
    · rw [if_neg h, if_neg h, beq_false_of_ne h, Value.compare_self, ite_self]
      rfl

/-- Of two documents, the second comes first where it is less. -/
theorem stableSort_pair (order : Document → Document → Ordering) (a b : Document) :
    Pipeline.stableSort order [a, b] = if order b a = .lt then [b, a] else [a, b] := by
  show (Pipeline.insertSorted order b [a]).reverse = _
  rw [Pipeline.insertSorted]
  split <;> rfl

theorem lookup_map {c : String} {names : List String} (h : c ∈ names) (f : String → SortDirection) :
    (names.map fun c => (c, f c)).lookup c = some (f c) := by
  induction names with
  | nil => cases h
  | cons name rest ih =>
    rw [List.map_cons, List.lookup_cons]
    by_cases hn : c = name
    · rw [beq_iff_eq.2 hn, hn]
    · rw [beq_false_of_ne hn]
      exact ih ((List.mem_cons.1 h).resolve_left hn)

/-- A chain of fields that turns one of them round does not sort all documents as it says. -/
theorem exists_not_sorted (hnamed : Named chain) (h : ¬ Steady chain) :
    ∃ docs, Pipeline.Comparable (keys chain) docs ∧
      ¬ StablySorted (keys chain) docs (Pipeline.stableSort (compareBy (keys (settled chain))) docs) := by
  obtain ⟨o, ho, hturned⟩ : ∃ o ∈ chain, chain.lookup o.1 ≠ chain.reverse.lookup o.1 := by
    simpa [Steady] using h
  have hc : o.1 ∈ columns chain := mem_columns.2 ⟨o, ho, rfl⟩
  obtain ⟨first, hfirst⟩ := exists_lookup hc
  obtain ⟨last, hlast⟩ := exists_lookup (mem_columns_reverse hc)
  have hsettled : (settled chain).lookup o.1 = some last := by
    rw [settled, lookup_map hc, hlast]
    rfl
  have hnamed' : Named (settled chain) := by
    intro p hp
    obtain ⟨q, hq, hpath⟩ := exists_of_mem_settled hp
    exact hpath ▸ hnamed q hq
  have hsays := compareBy_single hnamed o.1
  have hgives := compareBy_single hnamed' o.1
  rw [hfirst] at hsays
  rw [hsettled] at hgives
  rw [hfirst, hlast] at hturned
  refine ⟨[single o.1 false, single o.1 true], ?_, fun hsorted => ?_⟩
  · refine Pipeline.comparable_of_ordered fun k hk d hd => ?_
    obtain ⟨p, hp, rfl⟩ := List.mem_map.1 hk
    have hvalue : ∀ b, (Pipeline.SortKey.valueOf ⟨p.1, p.2 = .descending⟩ (single o.1 b)).Ordered := by
      intro b
      rw [valueOf_single (hnamed p hp)]
      split <;> exact trivial
    rcases List.mem_pair.1 hd with rfl | rfl
    · exact hvalue false
    · exact hvalue true
  · have hordered := hsorted.ordered
    rw [stableSort_pair, Pipeline.compareBy_swap, hgives] at hordered
    -- the two stand as the last direction says, and the first direction has them the other way round
    cases first with
    | ascending =>
      cases last with
      | ascending => exact hturned rfl
      | descending =>
        have hfront := List.rel_of_pairwise_cons hordered List.mem_cons_self
        exact hfront (Pipeline.compareBy_eq_lt_iff.1 hsays)
    | descending =>
      cases last with
      | ascending =>
        have hfront := List.rel_of_pairwise_cons hordered List.mem_cons_self
        refine hfront (Pipeline.compareBy_eq_lt_iff.1 ?_)
        rw [Pipeline.compareBy_swap, hsays]
        rfl
      | descending => exact hturned rfl

/-! ## Queries -/

/-- The calls that record a chain, one after the other. -/
def calls (chain : OrderChain) : List Modifier := chain.map fun o => Modifier.orderBy o.1 o.2

theorem query_calls (b : Builder) (chain : OrderChain) :
    (b.modify (calls chain)).query =
      { b.query with orders := b.query.orders ++ chain.map fun o => .column o.1 o.2 } := by
  induction chain generalizing b with
  | nil => simp [calls, Builder.modify]
  | cons o rest ih =>
    refine (ih (Modifier.apply (.orderBy o.1 o.2) b)).trans ?_
    exact congrArg (fun orders => { b.query with orders })
      (List.append_assoc b.query.orders [.column o.1 o.2] (rest.map fun o => .column o.1 o.2))

/-- Columns that do not name the order of the store are the fields of the sort stage. -/
theorem sortKeys_columns (h : ∀ o ∈ chain, o.1 ≠ "natural") :
    Query.sortKeys (chain.map fun o => .column o.1 o.2) = .ok (fields chain) := by
  induction chain with
  | nil => rfl
  | cons o rest ih =>
    obtain ⟨ho, hrest⟩ := List.forall_mem_cons.1 h
    rw [List.map_cons, Query.sortKeys, Query.sortKey, if_neg ho, ih hrest]
    rfl

/-- A query of nothing but a chain gives the documents sorted by the settled chain. -/
theorem run_calls (collection : String) (h : ∀ o ∈ chain, o.1 ≠ "natural" ∧ o.1 ≠ Pipeline.natural) :
    ∃ stages, ((Builder.on collection).modify (calls chain)).query.stages = .ok stages ∧
      ∀ docs, Pipeline.run (stages.map Stage.toDocument) docs =
        .ok (Pipeline.stableSort (compareBy (keys (settled chain))) docs) := by
  have hquery := query_calls (Builder.on collection) chain
  generalize ((Builder.on collection).modify (calls chain)).query = q at hquery ⊢
  have hstages := Query.stages_eq_ok_iff (q := q).2 ⟨by rw [hquery]; rfl, [], [], [], fields chain, by rw [hquery]; rfl,
    by rw [hquery]; rfl, by rw [hquery]; exact sortKeys_columns fun o ho => (h o ho).1, rfl⟩
  refine ⟨_, hstages, fun docs => ?_⟩
  rw [Query.run_stages]
  have hpassed : q.passed [] docs = .ok docs := by
    rw [hquery]
    exact Query.passed_eq_ok_iff.2 ⟨docs, docs, traverse_pure docs, Pipeline.projectAll_nil docs, keep_true docs⟩
  have hpaths : ∀ k ∈ keys (settled chain), k.path ≠ Pipeline.natural := by
    intro k hk
    obtain ⟨p, hp, rfl⟩ := List.mem_map.1 hk
    obtain ⟨o, ho, hpath⟩ := exists_of_mem_settled hp
    exact hpath ▸ (h o ho).2
  have hshown : q.shown (fields chain) docs = .ok (Pipeline.stableSort (compareBy (keys (settled chain))) docs) := by
    rw [hquery, ← Pipeline.sortBy_of_paths hpaths]
    refine Query.shown_eq_ok_iff.2 ⟨docs, _, Pipeline.projectAll_nil docs, ?_, rfl⟩
    rw [ofFields_fields, traverse_fields]
  rw [hpassed]
  exact hshown

/-! ## Main result -/

/-- A chain of orders by columns, any of them named any number of times, on documents whose values under the columns
compare transitively.  The compiled query gives the documents sorted stably by the settled chain: each column decides
where it first stands, in the direction that it is last given.  So where no column ends in another direction than it is
first given, they are sorted stably by the chain itself: an earlier order goes before a later one, and a later one
decides ties only.  A chain of fields that does turn one round gives some documents in another order. -/
theorem orders_sorted (collection : String) {chain : OrderChain}
    (hn : ∀ o ∈ chain, o.1 ≠ "natural" ∧ o.1 ≠ Pipeline.natural) :
    ∃ stages, ((Builder.on collection).modify (calls chain)).query.stages = .ok stages ∧
      (∀ docs, Pipeline.Comparable (keys chain) docs →
        ∃ sorted, Pipeline.run (stages.map Stage.toDocument) docs = .ok sorted ∧
          StablySorted (keys (settled chain)) docs sorted ∧
          (Steady chain → StablySorted (keys chain) docs sorted)) ∧
      (Named chain → ¬ Steady chain → ∃ docs sorted, Pipeline.Comparable (keys chain) docs ∧
        Pipeline.run (stages.map Stage.toDocument) docs = .ok sorted ∧ ¬ StablySorted (keys chain) docs sorted) := by
  obtain ⟨stages, hstages, hrun⟩ := run_calls collection hn
  refine ⟨stages, hstages, fun docs hc => ?_, fun hnamed hturned => ?_⟩
  · refine ⟨_, hrun docs, stablySorted_stableSort (comparable_settled hc), fun hsteady => ?_⟩
    rw [compareBy_settled hsteady]
    exact stablySorted_stableSort hc
  · obtain ⟨docs, hc, hunsorted⟩ := exists_not_sorted hnamed hturned
    exact ⟨docs, _, hc, hrun docs, hunsorted⟩

/-- Down by a path, up by a column, and down by the path again: the first two decide. -/
theorem orders_sorted_again :
    let chain : OrderChain := [("a.b", .descending), ("n", .ascending), ("a.b", .descending)]
    let docs : List Document := [[("n", .int32 2), ("a", .document [("b", .string "x")])],
      [("n", .int32 1), ("a", .document [("b", .string "x")])], [("n", .int32 3), ("a", .document [("b", .string "y")])]]
    ∃ stages sorted, ((Builder.on "users").modify (calls chain)).query.stages = .ok stages ∧
      Pipeline.run (stages.map Stage.toDocument) docs = .ok sorted ∧ StablySorted (keys chain) docs sorted := by
  intro chain docs
  have hn : ∀ o ∈ chain, o.1 ≠ "natural" ∧ o.1 ≠ Pipeline.natural := by decide
  have hc : Pipeline.Comparable (keys chain) docs := by
    refine Pipeline.comparable_of_ordered fun k hk d hd => ?_
    simp only [keys, chain, docs, List.map_cons, List.map_nil, List.mem_cons, List.not_mem_nil, or_false] at hk hd
    rcases hk with rfl | rfl | rfl <;> rcases hd with rfl | rfl | rfl <;> exact trivial
  obtain ⟨stages, hstages, hall, -⟩ := orders_sorted "users" hn
  obtain ⟨sorted, hrun, -, hsorted⟩ := hall docs hc
  exact ⟨stages, sorted, hstages, hrun, hsorted (by decide)⟩

/-- A column turned round: the first order says up, and the rows come down. -/
theorem turned_round_sorted_down :
    let chain : OrderChain := [("n", .ascending), ("n", .descending)]
    let docs : List Document := [[("_id", .int32 1), ("n", .int32 1)], [("_id", .int32 2), ("n", .int32 2)]]
    (∀ o ∈ chain, o.1 ≠ "natural" ∧ o.1 ≠ Pipeline.natural) ∧ Pipeline.Comparable (keys chain) docs ∧
      ∃ stages, ((Builder.on "users").modify (calls chain)).query.stages = .ok stages ∧
        Pipeline.run (stages.map Stage.toDocument) docs = .ok docs.reverse ∧
        ¬ StablySorted (keys chain) docs docs.reverse := by
  intro chain docs
  have hc : Pipeline.Comparable (keys chain) docs := by
    refine Pipeline.comparable_of_ordered fun k hk d hd => ?_
    simp only [keys, chain, docs, List.map_cons, List.map_nil, List.mem_cons, List.not_mem_nil, or_false] at hk hd
    rcases hk with rfl | rfl <;> rcases hd with rfl | rfl <;> exact trivial
  refine ⟨by decide, hc, _, rfl, by rfl, fun h => ?_⟩
  have hbefore := List.rel_of_pairwise_cons h.ordered List.mem_cons_self
  exact hbefore (Pipeline.compareBy_eq_lt_iff.1 (by rfl))

end OrderChain

end DocQuery
