import DocQuery.Proofs.ById
import DocQuery.Proofs.Sums

/-!
# Counting rows

A count runs the same filter as a read, but on whole documents, and its only row goes through the output fields
like any other.  So it gives the number of rows that the read gives, as long as the columns take nothing away
that the clauses look at and the output fields leave the count where it stands:

    the sum of n ones, read as a count, is n for fewer than 2^63                   (run_count, countOf_ofCount)
    b.count.on s = (ok n, t) → n documents match, with all their columns           (count_ok)
    b.get gives n rows → b.count gives n                                           (count_of_get)
-/

namespace DocQuery

open Outcome

/-! ## The number that is read -/

namespace Builder

theorem countOf_ofCount {n : Nat} (h : n < 2 ^ 63) : countOf (.ofCount n) = UInt64.ofNat n := by
  have hn : (Int64.ofInt n).toInt = n := Int64.toInt_ofInt_of_le (by omega) (by omega)
  have hmin : Int32.minValue.toInt = -2 ^ 31 := rfl
  have hmax : Int32.maxValue.toInt = 2 ^ 31 - 1 := rfl
  rw [Value.ofCount, Value.ofInt64, hn]
  split
  · rename_i hs
    rw [countOf, Int32.toInt_ofInt_of_le (by omega) (by omega), Int.toNat_natCast]
  · rw [countOf, hn, Int.toNat_natCast]

end Builder

/-! ## What stands aside -/

namespace Pipeline

/-- The fields of a projection are those of its specification, each with its mode. -/
theorem Projection.mem_fields {spec : Document} {p : Projection} (h : Projection.of spec = .ok p)
    {f : String × FieldMode} (hf : f ∈ p.fields) : ∃ g ∈ spec, f = (g.1, FieldMode.of g.2) := by
  rw [Projection.of] at h
  dsimp only at h
  split at h
  · cases h
  · cases h
    obtain ⟨g, hg, rfl⟩ := List.mem_map.1 (List.mem_filter.1 hf).1
    exact ⟨g, hg, rfl⟩

/-- A projection of dropped fields drops fields of those names. -/
theorem Projection.of_dropped {spec : Document} (h : ∀ f ∈ spec, FieldMode.of f.2 = .excluded) {p : Projection}
    (hp : Projection.of spec = .ok p) :
    (p.excludes || p.fields.isEmpty) = true ∧ ∀ f ∈ p.fields, ∃ g ∈ spec, g.1 = f.1 := by
  constructor
  · rw [Projection.of] at hp
    dsimp only at hp
    split at hp
    · cases hp
    · cases hp
      by_cases hid : ∃ g ∈ spec, g.1 ≠ "_id"
      · obtain ⟨g, hg, hn⟩ := hid
        rw [Bool.or_eq_true]
        refine .inl (List.any_eq_true.2 ⟨(g.1, FieldMode.of g.2), ?_, ?_⟩)
        · exact List.mem_filter.2 ⟨List.mem_map_of_mem hg, by simpa using hn⟩
        · rw [h g hg]
          rfl
      · rw [Bool.or_eq_true, List.isEmpty_iff, List.filter_eq_nil_iff]
        refine .inr fun f hf => ?_
        obtain ⟨g, hg, rfl⟩ := List.mem_map.1 hf
        have hn : g.1 = "_id" := Classical.not_not.1 fun hn => hid ⟨g, hg, hn⟩
        simp [hn, h g hg, FieldMode.isComputed]
  · intro f hf
    obtain ⟨g, hg, rfl⟩ := Projection.mem_fields hp hf
    exact ⟨g, hg, rfl⟩

end Pipeline

namespace Query

/-- A read without an offset and a limit shows every document that has passed its filter. -/
theorem length_of_shown {q : Query} (ho : q.offset = none) (hl : q.limit = none) {keys : List (String × Value)}
    {docs rows : List Document} (h : q.shown keys docs = .ok rows) : rows.length = docs.length := by
  obtain ⟨projected, sortKeys, hp, -, rfl⟩ := shown_eq_ok_iff.1 h
  obtain ⟨p, -, ht⟩ := projectAll_eq_ok_iff.1 hp
  rw [ho, hl, Pipeline.page_none, (Pipeline.sortBy_perm _ _).length_eq, length_of_traverse ht]

/-- The clauses answer the same of a document with its computed fields, whether the columns are taken from it or
not. -/
def ColumnsAside (q : Query) (d : Document) : Prop :=
  ∀ whole p taken, Pipeline.addFields (Document.ofFields q.computed) d = .ok whole →
    Pipeline.Projection.of (columnFields q.columns) = .ok p → p.apply whole = .ok taken →
    Clause.testAll q.clauses taken = Clause.testAll q.clauses whole

/-- One column under an alias. -/
theorem columnFields_renamed {column name field : String} (h : renamed? column = some (name, field))
    (hs : (Blank.trim column.toList == ['*']) = false) :
    columnFields [column] = [(field, .string ("$" ++ name))] := by
  rw [columnFields, List.any_cons, hs, List.map_singleton, columnField, h]
  rfl

/-- The output fields leave a count where the row of an aggregate has it. -/
def ShowsCount (q : Query) : Prop :=
  ∀ p, Pipeline.Projection.of (Document.ofFields q.projections) = .ok p → ∀ n, ∃ row,
    p.apply [("_id", .null), ("aggregate", .ofCount n)] = .ok row ∧ row.get? "aggregate" = some (.ofCount n)

/-- No output fields, or ones that only drop other fields, leave it there. -/
theorem showsCount_of_dropped {q : Query}
    (h : ∀ f ∈ Document.ofFields q.projections,
      Pipeline.FieldMode.of f.2 = .excluded ∧ (Path.parse f.1).head ≠ "aggregate") : q.ShowsCount := by
  intro p hp n
  obtain ⟨hdrops, hnames⟩ := Pipeline.Projection.of_dropped (fun f hf => (h f hf).1) hp
  have hrest : ∀ out : Document, out.get? "aggregate" = some (.ofCount n) →
      (p.fields.foldl (fun out f => (Path.unset? out (Path.parse f.1)).getD out) out).get? "aggregate" =
        some (.ofCount n) := by
    have hheads : ∀ f ∈ p.fields, (Path.parse f.1).head ≠ "aggregate" := by
      intro f hf
      obtain ⟨g, hg, hname⟩ := hnames f hf
      rw [← hname]
      exact (h g hg).2
    generalize p.fields = fields at hheads
    induction fields with
    | nil => exact fun out hout => hout
    | cons f rest ih =>
      obtain ⟨hf, hrest⟩ := List.forall_mem_cons.1 hheads
      exact fun out hout => ih hrest _ ((Path.get?_unset? out _ hf).trans hout)
  refine ⟨p.drop [("_id", .null), ("aggregate", .ofCount n)], ?_, ?_⟩
  · rw [Pipeline.Projection.apply, hdrops]
    rfl
  · rw [Pipeline.Projection.drop]
    split
    · exact hrest _ rfl
    · exact (Document.get?_erase_of_ne _ (by decide)).trans (hrest _ rfl)

/-- Where the columns stand aside, as many documents pass without them. -/
theorem passed_whole {q : Query} {filter : Document} (hf : FilterDocument.ofClauses q.clauses = .ok filter)
    {docs rows : List Document} (hc : ∀ d ∈ docs, q.ColumnsAside d) (h : q.passed filter docs = .ok rows)
    (a : Option Aggregate) :
    ∃ whole, { q with columns := [], aggregate := a }.passed filter docs = .ok whole ∧
      whole.length = rows.length := by
  obtain ⟨computed, taken, hcomputed, htaken, hkeep⟩ := passed_eq_ok_iff.1 h
  obtain ⟨p, hp, ht⟩ := projectAll_eq_ok_iff.1 htaken
  have hsame : List.Forall₂ (fun e f => True ∧ Filter.accepts filter e = Filter.accepts filter f) computed taken := by
    have hfrom := (List.forall₂_and_left _ _).2
      ⟨fun e (he : e ∈ computed) => mem_of_traverse hcomputed he, traverse_eq_ok_iff.1 ht⟩
    refine hfrom.imp fun e f hef => ⟨trivial, ?_⟩
    obtain ⟨⟨d, hd, he⟩, hef⟩ := hef
    rw [FilterDocument.accepts_ofClauses hf, FilterDocument.accepts_ofClauses hf]
    exact (hc d hd e p f he hp hef).symm
  obtain ⟨whole, hw, hlen⟩ := keep_forall₂ hsame hkeep
  exact ⟨whole, passed_eq_ok_iff.2 ⟨computed, computed, hcomputed, Pipeline.projectAll_nil computed, hw⟩,
    hlen.length_eq⟩

/-- The documents that pass without the columns are those that the filter accepts with their computed fields. -/
theorem length_of_passed_whole {q : Query} {filter : Document} {test : Document → Outcome Bool}
    (hf : ∀ d, Filter.accepts filter d = test d) {docs whole : List Document} {a : Option Aggregate}
    (h : { q with columns := [], aggregate := a }.passed filter docs = .ok whole) :
    whole.length = (docs.filter fun d =>
      (Pipeline.addFields (Document.ofFields q.computed) d >>= test) = .ok true).length := by
  obtain ⟨computed, taken, hcomputed, htaken, hkeep⟩ := passed_eq_ok_iff.1 h
  cases (Pipeline.projectAll_nil computed).symm.trans htaken
  have hsame : List.Forall₂ (fun d e => True ∧
      (Pipeline.addFields (Document.ofFields q.computed) d >>= test) = Filter.accepts filter e) docs computed := by
    refine (traverse_eq_ok_iff.1 hcomputed).imp fun d e hde => ⟨trivial, ?_⟩
    rw [hde, hf]
    rfl
  obtain ⟨found, hfound, hlen⟩ := keep_forall₂ hsame hkeep
  rw [← (eq_filter_of_keep hfound).1]
  exact hlen.length_eq.symm

/-- The row of a count, shown. -/
theorem shown_count {q : Query} (ho : q.offset = none) (hp : q.ShowsCount) {keys : List (String × Value)}
    {docs rows : List Document} (h : q.shown keys docs = .ok rows) (n : Nat) :
    ∃ row, q.shown keys [[("_id", .null), ("aggregate", .ofCount n)]] = .ok [row] ∧
      row.get? "aggregate" = some (.ofCount n) := by
  obtain ⟨projected, sortKeys, hprojected, hk, -⟩ := shown_eq_ok_iff.1 h
  obtain ⟨p, hof, -⟩ := projectAll_eq_ok_iff.1 hprojected
  obtain ⟨row, hrow, hget⟩ := hp p hof n
  have hone : Outcome.traverse p.apply [[("_id", .null), ("aggregate", .ofCount n)]] = .ok [row] :=
    traverse_eq_ok_iff.2 (.cons hrow .nil)
  refine ⟨row, shown_eq_ok_iff.2 ⟨[row], sortKeys, projectAll_eq_ok_iff.2 ⟨p, hof, hone⟩, hk, ?_⟩, hget⟩
  rw [ho, List.perm_singleton.1 (Pipeline.sortBy_perm sortKeys [row]), Pipeline.page_singleton]

/-- No row, shown. -/
theorem shown_nil {q : Query} {keys : List (String × Value)} {docs rows : List Document}
    (h : q.shown keys docs = .ok rows) : q.shown keys [] = .ok [] := by
  obtain ⟨projected, sortKeys, hprojected, hk, -⟩ := shown_eq_ok_iff.1 h
  obtain ⟨p, hof, -⟩ := projectAll_eq_ok_iff.1 hprojected
  refine shown_eq_ok_iff.2 ⟨[], sortKeys, projectAll_eq_ok_iff.2 ⟨p, hof, rfl⟩, hk, ?_⟩
  rw [List.perm_nil.1 (Pipeline.sortBy_perm sortKeys []), Pipeline.page_nil]

/-- The stages of a count over documents of which some number has passed. -/
theorem run_count {docs : List Document} (h : docs.length < 2 ^ 63) :
    Pipeline.run ([Stage.group [("_id", .null), ("aggregate", .document [("$sum", .int32 1)])]].map Stage.toDocument)
      docs = .ok (if docs.isEmpty then [] else [[("_id", .null), ("aggregate", .ofCount docs.length)]]) := by
  refine (Pipeline.run_singleton _ docs).trans ?_
  show Pipeline.group [("_id", .null), ("aggregate", .document [("$sum", .int32 1)])] docs = _
  rw [Pipeline.group_all, Arithmetic.accumulate_sum_one rfl h]
  cases docs <;> rfl

end Query

namespace Builder

/-- What the one group of all documents shows, or none where there are no documents, is their number. -/
theorem shown_groups {q : Query} (ho : q.offset = none) (hp : q.ShowsCount) {keys : List (String × Value)}
    {docs rows : List Document} (h : q.shown keys docs = .ok rows) {whole : List Document}
    (hn : whole.length < 2 ^ 63) :
    ∃ counted, q.shown keys
        (if whole.isEmpty then [] else [[("_id", .null), ("aggregate", .ofCount whole.length)]]) = .ok counted ∧
      countOf (shownAggregate counted) = UInt64.ofNat whole.length := by
  cases whole with
  | nil => exact ⟨[], Query.shown_nil h, rfl⟩
  | cons d rest =>
    obtain ⟨row, hrow, hget⟩ := Query.shown_count ho hp h (d :: rest).length
    refine ⟨[row], hrow, ?_⟩
    rw [shownAggregate, List.head?_cons, Option.bind_some, hget, Option.getD_some, countOf_ofCount hn]

/-- A count compiles where its clauses, its accumulator and its orders do. -/
theorem stages_count {b : Builder} {columns : List String} {own filter : Document} {keys : List (String × Value)}
    (hrefused : b.query.refused? = none) (hown : FilterDocument.ofClauses b.query.clauses = .ok own)
    (hacc : Query.accumulator ⟨"count", columns⟩ own = .ok (.document [("$sum", .int32 1)], filter))
    (hk : Query.sortKeys b.query.orders = .ok keys) : ∃ stages, (b.aggregateQuery "count" columns).stages = .ok stages ∧
      ∀ docs, Pipeline.run (stages.map Stage.toDocument) docs =
        ((b.aggregateQuery "count" columns).passed filter docs >>= fun passed => Pipeline.run
          ([Stage.group [("_id", .null), ("aggregate", .document [("$sum", .int32 1)])]].map Stage.toDocument)
          passed) >>= b.query.shown keys := by
  have hgrouped : (b.aggregateQuery "count" columns).grouped own =
      .ok (filter, [Stage.group [("_id", .null), ("aggregate", .document [("$sum", .int32 1)])]]) := by
    show (Query.accumulator ⟨"count", columns⟩ own >>= _) = _
    rw [hacc]
    rfl
  exact ⟨_, Query.stages_eq_ok_iff.2 ⟨hrefused, own, filter, _, keys, hown, hgrouped, hk, rfl⟩,
    fun docs => Query.run_stages _ _ _ _ _⟩

/-- What a count finds: nothing in a dry run, and behind an open handle the documents that pass its filter; a row of it
can be shown. -/
def Finds (b : Builder) (s : Session) (columns : List String) (filter : Document) (keys : List (String × Value))
    (found : List Document) : Prop :=
  (s.connection.pretending = true ∧ found = []) ∨
    (s.connection.pretending = false ∧ s.deployment.Open (s.connection.readHandle (!b.usesWriteHandle)) ∧
      (b.aggregateQuery "count" columns).passed filter
        (s.deployment.documents (s.connection.readHandle (!b.usesWriteHandle)) b.query.collection) = .ok found ∧
      ∃ docs rows, b.query.shown keys docs = .ok rows)

/-- A count gives the number of the documents that it finds. -/
theorem result_counted {b : Builder} (ho : b.query.offset = none) (hp : b.query.ShowsCount) {columns : List String}
    {own filter : Document} {keys : List (String × Value)} (hrefused : b.query.refused? = none)
    (hown : FilterDocument.ofClauses b.query.clauses = .ok own)
    (hacc : Query.accumulator ⟨"count", columns⟩ own = .ok (.document [("$sum", .int32 1)], filter))
    (hk : Query.sortKeys b.query.orders = .ok keys) {s : Session} {found : List Document}
    (hfound : b.Finds s columns filter keys found) (hn : found.length < 2 ^ 63) :
    ∃ counted, b.result s (b.aggregateQuery "count" columns) = .ok counted ∧
      countOf (shownAggregate counted) = UInt64.ofNat found.length := by
  obtain ⟨stages, hstages, hrun⟩ := stages_count hrefused hown hacc hk
  rcases hfound with ⟨hdry, rfl⟩ | ⟨hdry, hopen, hpassed, docs, rows, hshown⟩
  · exact ⟨[], result_eq_ok_iff.2 ⟨stages, hstages, Session.rows_of_pretending hdry _ _ _⟩, rfl⟩
  · obtain ⟨counted, hcounted, hvalue⟩ := shown_groups ho hp hshown hn
    refine ⟨counted, result_eq_ok_iff.2 ⟨stages, hstages,
      Session.rows_eq_ok_iff.2 (.inr ⟨hdry, hopen, ?_⟩)⟩, hvalue⟩
    show Pipeline.run _ (s.deployment.documents _ b.query.collection) = _
    rw [hrun, hpassed]
    show Pipeline.run _ found >>= _ = _
    rw [Query.run_count hn]
    exact hcounted

/-- A count of what a read without an offset and a limit gives. -/
theorem result_count {b : Builder} (ha : b.query.aggregate = none) (ho : b.query.offset = none)
    (hl : b.query.limit = none) (hp : b.query.ShowsCount) {s : Session}
    (hc : ∀ d ∈ s.deployment.documents (s.connection.readHandle (!b.usesWriteHandle)) b.query.collection,
      b.query.ColumnsAside d)
    {rows : List Document} (h : b.result s b.query = .ok rows) (hn : rows.length < 2 ^ 63) :
    ∃ counted, b.result s (b.aggregateQuery "count" []) = .ok counted ∧
      countOf (shownAggregate counted) = UInt64.ofNat rows.length := by
  obtain ⟨hrefused, own, keys, hown, hk, hrows⟩ := passed_of_result ha h
  rcases hrows with ⟨hpretending, rfl⟩ | ⟨hpretending, hopen, passed, hpassed, hshown⟩
  · exact result_counted ho hp hrefused hown rfl hk (.inl ⟨hpretending, rfl⟩) hn
  · obtain ⟨whole, hwhole, hlen⟩ := Query.passed_whole hown hc hpassed (some ⟨"count", []⟩)
    rw [← Query.length_of_shown ho hl hshown] at hlen
    rw [← hlen] at hn ⊢
    exact result_counted ho hp hrefused hown rfl hk (.inr ⟨hpretending, hopen, hwhole, _, _, hshown⟩) hn

/-- The stored documents that a count finds: those that the clauses hold of with their computed fields, and none in
a dry run. -/
def matched (b : Builder) (s : Session) : List Document :=
  if s.connection.pretending then []
  else (s.deployment.documents (s.connection.readHandle (!b.usesWriteHandle)) b.query.collection).filter fun d =>
    (Pipeline.addFields (Document.ofFields b.query.computed) d >>= Clause.testAll b.query.clauses) = .ok true

/-- A count that succeeds is the number of the documents that it finds, whatever the columns. -/
theorem count_ok {b : Builder} (ho : b.query.offset = none) (hp : b.query.ShowsCount) {s t : Session} {n : UInt64}
    (h : b.count.on s = (.ok n, t)) (hn : (b.matched s).length < 2 ^ 63) :
    n = UInt64.ofNat (b.matched s).length := by
  obtain ⟨hcount, -⟩ := (counted_gives b [] s).eq h
  obtain ⟨v, hv, rfl⟩ := (map_eq_ok_iff _ _ _).1 hcount.symm
  obtain ⟨counted, hcounted, rfl⟩ := (map_eq_ok_iff _ _ _).1 hv
  obtain ⟨stages, hs, hrows⟩ := result_eq_ok_iff.1 hcounted
  obtain ⟨-, own, filter, groups, keys, hf, hg, -, rfl⟩ := Query.stages_eq_ok_iff.1 hs
  cases hg
  rcases Session.rows_eq_ok_iff.1 hrows with ⟨hdry, rfl⟩ | ⟨hdry, -, hrun⟩
  · rw [matched, if_pos hdry]
    rfl
  · rw [Query.run_stages] at hrun
    obtain ⟨grouped, hgrouped, hshown⟩ := (bind_eq_ok_iff _ _ _).1 hrun
    obtain ⟨whole, hwhole, hgroup⟩ := (bind_eq_ok_iff _ _ _).1 hgrouped
    have hlen : whole.length = (b.matched s).length := by
      rw [matched, hdry, if_neg Bool.false_ne_true]
      exact Query.length_of_passed_whole (q := b.query) (FilterDocument.accepts_ofClauses hf) hwhole
    rw [← hlen] at hn ⊢
    cases (Query.run_count hn).symm.trans hgroup
    obtain ⟨found, hfound, hvalue⟩ := shown_groups (q := b.aggregateQuery "count" []) ho hp hshown hn
    cases hfound.symm.trans hshown
    exact hvalue

/-! ## Main result -/

/-- A builder without an offset and a limit gives rows, and its output fields leave a count where it is.  A count
that succeeds is the number of the stored documents that the clauses hold of, with all their columns.  Where the
columns take nothing from a stored document that the clauses look at, the count succeeds and is the number of the
rows. -/
theorem count_of_get (collection : String) (ms : List Modifier) {b : Builder}
    (hb : b = (Builder.on collection).modify ms) (ho : b.query.offset = none) (hl : b.query.limit = none)
    (hp : b.query.ShowsCount) {s t : Session} {rows : List Document} (h : b.get.on s = (.ok rows, t)) :
    s.SameData t ∧ ∀ u, s.SameData u →
      (∀ n v, b.count.on u = (.ok n, v) → (b.matched s).length < 2 ^ 63 →
        n = UInt64.ofNat (b.matched s).length) ∧
      ((∀ d ∈ s.deployment.documents (s.connection.readHandle (!b.usesWriteHandle)) b.query.collection,
          b.query.ColumnsAside d) →
        rows.length < 2 ^ 63 → b.count.Gives u (.ok (UInt64.ofNat rows.length))) := by
  have ha : b.query.aggregate = none := by
    rw [hb, aggregate_modify]
    rfl
  obtain ⟨hrows, ht⟩ := (get_gives b s).eq h
  refine ⟨ht, fun u hu => ⟨fun n v hcount hn => ?_, fun hc hn => ?_⟩⟩
  · have hmatched : b.matched u = b.matched s := by
      simp only [matched, Connection.readHandle, hu.deployment, hu.pretending, hu.write, hu.read]
    rw [← hmatched] at hn ⊢
    exact count_ok ho hp hcount hn
  · obtain ⟨counted, hcounted, hcount⟩ := result_count ha ho hl hp hc hrows.symm hn
    have hgives := counted_gives b [] u
    rw [result_of_sameData hu, hcounted] at hgives
    rw [← hcount]
    exact hgives

/-- One of two documents, with a column that the clause looks at and an output field that is dropped. -/
theorem count_of_get_one :
    let docs : List Document :=
      [[("_id", .string "1"), ("name", .string "a"), ("age", .string "x")],
       [("_id", .string "2"), ("name", .string "b"), ("age", .string "y")]]
    let s : Session := { Session.inMemory "app" with
      deployment := { backends := [.memory { collections := [("t", docs)] }] } }
    let b := (Builder.on "t").modify [.select ["age as age"], .whereEq "age" (.string "x"),
      .project "_id" (.boolean false)]
    b.count.Gives s (.ok 1) ∧ 1 = UInt64.ofNat (b.matched s).length := by
  intro docs s b
  have hrenamed : Query.renamed? "age as age" = some ("age", "age") := by decide +kernel
  have hfields : Query.columnFields b.query.columns = [("age", .string "$age")] :=
    Query.columnFields_renamed hrenamed (by decide +kernel)
  have hstages : b.query.stages = .ok [.project [("age", .string "$age")], .filter [("age", .string "x")],
      .project [("_id", .boolean false)]] :=
    Query.stages_eq_ok_iff.2 ⟨rfl, _, _, _, _, rfl, rfl, rfl, by rw [Query.stagesBefore, hfields]; rfl⟩
  obtain ⟨t, -, hget⟩ := get_gives b s
  rw [show b.result s b.query = .ok [[("age", .string "x")]] from result_eq_ok_iff.2 ⟨_, hstages, rfl⟩] at hget
  have hcolumns : ∀ d ∈ docs, b.query.ColumnsAside d := by
    intro d hd whole p taken hwhole hp htaken
    rw [hfields] at hp
    cases hp
    rcases List.mem_pair.1 hd with rfl | rfl
    · cases hwhole
      cases htaken
      rfl
    · cases hwhole
      cases htaken
      rfl
  have hshows : b.query.ShowsCount := Query.showsCount_of_dropped fun f hf => by
    cases List.mem_singleton.1 hf
    exact ⟨rfl, by decide⟩
  obtain ⟨hcount, hgives⟩ := (count_of_get "t" _ rfl rfl rfl hshows hget).2 s (.refl s)
  obtain ⟨u, hdata, hu⟩ := hgives hcolumns (by decide)
  exact ⟨⟨u, hdata, hu⟩, hcount 1 u hu (by decide)⟩

/-- Without these conditions the two part: the columns go before the filter, so a clause on another field finds
nothing in what is left, while a count takes no columns; and an output field goes behind the count, so its row is
shown without it. -/
theorem counts_other_than_rows :
    let docs : List Document := [[("_id", .string "1"), ("name", .string "a"), ("age", .string "x")]]
    let s : Session := { Session.inMemory "app" with
      deployment := { backends := [.memory { collections := [("t", docs)] }] } }
    let b := (Builder.on "t").modify [.select ["name as label"], .whereEq "age" (.string "x")]
    let c := (Builder.on "t").modify [.project "name" (.boolean true)]
    (b.get.on s).1 = .ok [] ∧ (b.count.on s).1 = .ok 1 ∧
      (c.get.on s).1 = .ok [[("_id", .string "1"), ("name", .string "a")]] ∧ (c.count.on s).1 = .ok 0 := by
  intro docs s b c
  have hrenamed : Query.renamed? "name as label" = some ("name", "label") := by decide +kernel
  have hfields : Query.columnFields b.query.columns = [("label", .string "$name")] :=
    Query.columnFields_renamed hrenamed (by decide +kernel)
  have hstages : b.query.stages = .ok [.project [("label", .string "$name")], .filter [("age", .string "x")]] :=
    Query.stages_eq_ok_iff.2 ⟨rfl, _, _, _, _, rfl, rfl, rfl, by rw [Query.stagesBefore, hfields]; rfl⟩
  obtain ⟨t, -, hget⟩ := get_gives b s
  rw [show b.result s b.query = .ok [] from result_eq_ok_iff.2 ⟨_, hstages, rfl⟩] at hget
  exact ⟨by rw [hget], rfl, rfl, rfl⟩

end Builder

end DocQuery
