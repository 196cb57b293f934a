import DocQuery.Proofs.Counts
import DocQuery.Proofs.Inclusions
import DocQuery.Proofs.OrderChains

/-!
# Which fields a row shows

Selected columns are a projection of kept fields, so behind it a document has the identifier and what is below the first
names of the columns.  The filter, the order and the page change no document, and of the output fields only a
computed one brings a name that was not there:

    name is not the head of a field       → no output of p.pick has it                        (absent_pick)
    d has no such name, nor p computes it → no output of p.apply on d has it                  (absent_apply)
    b.get gives rows → their names are the identifier, the heads of the columns
                       and the heads of the computed output fields                            (shown_of_selected)

The identifier alone does not count as a selection: a projection that names nothing else passes whole documents.
-/

namespace DocQuery

open Outcome

/-! ## Names that do not appear -/

/-- A removal brings no name. -/
theorem Path.absent_unset? {d : Document} {p : Path} {name : String} (h : d.get? name = none) :
    ((Path.unset? d p).getD d).get? name = none := by
  by_cases hn : p.head = name
  · have hnothing : Path.unset? d p = none := by
      obtain ⟨head, tail⟩ := p
      cases hn
      cases tail with
      | nil => rw [Path.unset?, Path.unsetFrom?, Document.contains, h]; rfl
      | cons next rest => rw [Path.unset?, Path.unsetFrom?, h]
    rw [hnothing]
    exact h
  · exact (Path.get?_unset? d p hn).trans h

namespace Pipeline

variable {p : Projection} {d out e : Document} {name : String}

theorem absent_drop (hname : name ≠ "_id") (h : d.get? name = none) : (p.drop d).get? name = none := by
  have hrest : ∀ out : Document, out.get? name = none →
      (p.fields.foldl (fun out f => (Path.unset? out (Path.parse f.1)).getD out) out).get? name = none := by
    induction p.fields with
    | nil => exact fun out hout => hout
    | cons f rest ih => exact fun out hout => ih _ (Path.absent_unset? hout)
  rw [Projection.drop]
  split
  · exact hrest d h
  · exact (Document.get?_erase_of_ne _ hname.symm).trans (hrest d h)

/-- A field brings its first name only, and a kept one only where the document has it. -/
theorem absent_addProjected {f : String × FieldMode} (h : addProjected d out f = .ok e) (hout : out.get? name = none)
    (hf : (Path.parse f.1).head = name → f.2.isComputed = false ∧ d.get? name = none) : e.get? name = none := by
  obtain ⟨field, mode⟩ := f
  cases mode with
  | included =>
    rw [addProjected] at h
    cases hv : Path.resolve d (Path.parse field) with
    | none =>
      rw [hv] at h
      cases h
      exact hout
    | some v =>
      rw [hv] at h
      have hhead : (Path.parse field).head ≠ name := by
        intro hn
        rw [Path.resolve, hn, (hf hn).2] at hv
        cases hv
      exact (Update.get?_lift_set h hhead).trans hout
  | computed expression =>
    obtain ⟨v, -, hset⟩ := (bind_eq_ok_iff _ _ _).1 h
    have hhead : (Path.parse field).head ≠ name := by
      intro hn
      obtain ⟨hkept, -⟩ := hf hn
      cases hkept
    exact (Update.get?_lift_set hset hhead).trans hout
  | excluded =>
    cases h
    exact hout

theorem absent_pick (hname : name ≠ "_id") (h : p.pick d = .ok e)
    (hf : ∀ f ∈ p.fields, (Path.parse f.1).head = name → f.2.isComputed = false ∧ d.get? name = none) :
    e.get? name = none := by
  rw [Projection.pick] at h
  refine foldlM_induction (P := fun out => out.get? name = none)
    (fun out f hmem next hout hnext => absent_addProjected hnext hout (hf f hmem)) ?_ h
  split
  · exact if_neg (Ne.symm hname)
  · rfl

theorem absent_apply (hname : name ≠ "_id") (h : p.apply d = .ok e) (hd : d.get? name = none)
    (hf : ∀ f ∈ p.fields, (Path.parse f.1).head = name → f.2.isComputed = false) : e.get? name = none := by
  rw [Projection.apply] at h
  split at h
  · cases h
    exact absent_drop hname hd
  · exact absent_pick hname h fun f hmem hn => ⟨hf f hmem hn, hd⟩

theorem page_subset (offset limit : Option UInt64) (rows : List Document) : page offset limit rows ⊆ rows := by
  have hdrop := List.drop_subset (clamped (offset.getD 0)) rows
  rw [page.eq_def]
  cases limit with
  | none => exact hdrop
  | some n =>
    dsimp only
    split
    · exact hdrop
    · exact fun d hd => hdrop (List.take_subset _ _ hd)

end Pipeline

/-! ## Columns -/

namespace Query

/-- A column without the blanks around it. -/
def columnName (column : String) : String := String.ofList (Blank.trim column.toList)

/-- A path without an alias, and not that of all columns. -/
structure PlainColumn (column : String) : Prop where
  noAlias : renamed? column = none
  notAll : columnName column ≠ "*"

/-- The names that the columns ask for: the identifier comes with every selection. -/
def Selects (q : Query) (name : String) : Prop :=
  name = "_id" ∨ ∃ c ∈ q.columns, (Path.parse (columnName c)).head = name

theorem columnFields_plain {columns : List String} (h : ∀ c ∈ columns, PlainColumn c) :
    columnFields columns = Document.ofFields (columns.map fun c => (columnName c, .int32 1)) := by
  have hall : (columns.any fun c => Blank.trim c.toList == ['*']) = false := by
    rw [List.any_eq_false]
    intro c hc htrim
    refine (h c hc).notAll ?_
    rw [columnName, beq_iff_eq.1 htrim]
  have hmap : columns.map columnField = columns.map fun c => (columnName c, .int32 1) :=
    List.map_congr_left fun c hc => by rw [columnField, (h c hc).noAlias]; rfl
  rw [columnFields, hall, hmap]
  rfl

/-- Plain columns, not all of them the identifier, keep their fields: nothing else is taken from a document. -/
theorem picks_columns {columns : List String} (hplain : ∀ c ∈ columns, PlainColumn c)
    (hsome : ∃ c ∈ columns, columnName c ≠ "_id") {p : Pipeline.Projection}
    (hp : Pipeline.Projection.of (columnFields columns) = .ok p) :
    (∀ d, p.apply d = p.pick d) ∧ ∀ f ∈ p.fields, ∃ c ∈ columns, f.1 = columnName c := by
  have hspec := columnFields_plain hplain
  have hnames : ∀ f ∈ columnFields columns, ∃ c ∈ columns, f = (columnName c, .int32 1) := by
    intro f hf
    rw [hspec] at hf
    obtain ⟨c, hc, rfl⟩ := List.mem_map.1 (Document.mem_of_mem_ofFields hf)
    exact ⟨c, hc, rfl⟩
  have hkeeps : ∀ f ∈ columnFields columns, f.2.Keeps := by
    intro f hf
    obtain ⟨c, -, rfl⟩ := hnames f hf
    have hone : (1 : Int32) ≠ 0 := by decide
    exact hone
  obtain ⟨p', hp', -, hexcludes, hfields⟩ := Pipeline.Projection.of_kept hkeeps
  cases hp'.symm.trans hp
  constructor
  · obtain ⟨c, hc, hid⟩ := hsome
    have hkey : columnName c ∈ Document.keys (columnFields columns) := by
      rw [hspec, Document.keys_ofFields, List.mem_eraseDups, List.map_map]
      exact List.mem_map_of_mem hc
    obtain ⟨g, hg, hname⟩ := List.mem_map.1 hkey
    have hmem : (g.1, Pipeline.FieldMode.included) ∈ p.fields := by
      rw [hfields]
      refine List.mem_map.2 ⟨g, List.mem_filter.2 ⟨hg, bne_iff_ne.2 ?_⟩, rfl⟩
      rw [hname]
      exact hid
    intro d
    rw [Pipeline.Projection.apply, hexcludes, List.isEmpty_eq_false_iff.2 (List.ne_nil_of_mem hmem)]
    rfl
  · intro f hf
    rw [hfields] at hf
    obtain ⟨g, hg, rfl⟩ := List.mem_map.1 hf
    obtain ⟨c, hc, rfl⟩ := hnames g (List.mem_filter.1 hg).1
    exact ⟨c, hc, rfl⟩

/-- Behind them a document has no name that they do not ask for. -/
theorem absent_of_passed {q : Query} (hplain : ∀ c ∈ q.columns, PlainColumn c)
    (hsome : ∃ c ∈ q.columns, columnName c ≠ "_id") {filter : Document} {docs passed : List Document}
    (h : q.passed filter docs = .ok passed) {name : String} (hname : ¬ q.Selects name) :
    ∀ d ∈ passed, d.get? name = none := by
  intro d hd
  obtain ⟨computed, taken, -, htaken, hkeep⟩ := passed_eq_ok_iff.1 h
  obtain ⟨p, hp, happly⟩ := projectAll_eq_ok_iff.1 htaken
  obtain ⟨hpick, hfields⟩ := picks_columns hplain hsome hp
  have hmem : d ∈ taken := by
    rw [(eq_filter_of_keep hkeep).1] at hd
    exact (List.mem_filter.1 hd).1
  obtain ⟨whole, -, hd⟩ := mem_of_traverse happly hmem
  rw [hpick] at hd
  refine Pipeline.absent_pick (fun hid => hname (.inl hid)) hd fun f hf hhead => ?_
  obtain ⟨c, hc, hf⟩ := hfields f hf
  rw [hf] at hhead
  exact absurd (.inr ⟨c, hc, hhead⟩) hname

/-- Shown, a document gets no name but the heads of the computed output fields. -/
theorem absent_of_shown {q : Query} {keys : List (String × Value)} {docs rows : List Document}
    (h : q.shown keys docs = .ok rows) {name : String} (hname : name ≠ "_id")
    (hdocs : ∀ d ∈ docs, d.get? name = none)
    (hprojections : ∀ f ∈ q.projections, (Pipeline.FieldMode.of f.2).isComputed = true →
      (Path.parse f.1).head ≠ name) : ∀ row ∈ rows, row.get? name = none := by
  intro row hrow
  obtain ⟨projected, sortKeys, hprojected, -, rfl⟩ := shown_eq_ok_iff.1 h
  obtain ⟨p, hp, happly⟩ := projectAll_eq_ok_iff.1 hprojected
  have hmem : row ∈ projected := (Pipeline.sortBy_perm sortKeys projected).subset (Pipeline.page_subset _ _ _ hrow)
  obtain ⟨d, hd, hrow⟩ := mem_of_traverse happly hmem
  refine Pipeline.absent_apply hname hrow (hdocs d hd) fun f hf hhead => ?_
  obtain ⟨g, hg, rfl⟩ := Pipeline.Projection.mem_fields hp hf
  rw [Bool.eq_false_iff]
  exact fun hcomputed => hprojections g (Document.mem_of_mem_ofFields hg) hcomputed hhead

end Query

/-! ## Main result -/

namespace Builder

/-- A builder with plain columns, not all of them the identifier.  Whatever the store holds and whatever else the
builder has, a row that it gives shows no top-level field but the identifier, the first names of the columns and the
first names of the output fields that are computed. -/
theorem shown_of_selected (collection : String) (ms : List Modifier) {b : Builder}
    (hb : b = (Builder.on collection).modify ms) (hplain : ∀ c ∈ b.query.columns, Query.PlainColumn c)
    (hsome : ∃ c ∈ b.query.columns, Query.columnName c ≠ "_id") {s t : Session} {rows : List Document}
    (h : b.get.on s = (.ok rows, t)) :
    ∀ row ∈ rows, ∀ name ∈ row.keys, b.query.Selects name ∨
      ∃ f ∈ b.query.projections, (Pipeline.FieldMode.of f.2).isComputed = true ∧ (Path.parse f.1).head = name := by
  intro row hrow name hmem
  have ha : b.query.aggregate = none := by
    rw [hb, aggregate_modify]
    rfl
  obtain ⟨hresult, -⟩ := (get_gives b s).eq h
  obtain ⟨-, filter, keys, -, -, hrows⟩ := passed_of_result ha hresult.symm
  -- A name that nobody asked for is in no document behind the columns, and nothing after them brings it back.
  by_contra hother
  obtain ⟨hselected, hcomputed⟩ := not_or.1 hother
  rcases hrows with ⟨-, rfl⟩ | ⟨-, -, passed, hpassed, hshown⟩
  · cases hrow
  · have hdocs := Query.absent_of_passed hplain hsome hpassed hselected
    have habsent := Query.absent_of_shown hshown (fun hid => hselected (.inl hid)) hdocs
      (fun f hf hc hhead => hcomputed ⟨f, hf, hc, hhead⟩) row hrow
    exact (Document.get?_eq_none_iff row name).1 habsent hmem

/-- Two columns, one of them below a field that has more, and two output fields, one of them computed. -/
theorem shown_of_selected_two :
    let docs : List Document := [[("_id", .string "1"), ("name", .string "x"), ("secret", .null),
      ("address", .document [("city", .string "y"), ("street", .null)])]]
    let s : Session := { Session.inMemory "app" with
      deployment := { backends := [.memory { collections := [("t", docs)] }] } }
    let b := (Builder.on "t").modify [.select ["name", "address.city"], .project "address" (.boolean true),
      .project "label" (.string "$name")]
    (∃ t, b.get.on s = (.ok [[("_id", .string "1"), ("address", .document [("city", .string "y")]),
        ("label", .string "x")]], t)) ∧
      ∀ name ∈ ["_id", "address", "label"], b.query.Selects name ∨
        ∃ f ∈ b.query.projections, (Pipeline.FieldMode.of f.2).isComputed = true ∧ (Path.parse f.1).head = name := by
  intro docs s b
  have hplain : ∀ c ∈ b.query.columns, Query.PlainColumn c := by
    simp only [show b.query.columns = ["name", "address.city"] from rfl, List.forall_mem_cons]
    exact ⟨⟨by decide +kernel, by decide +kernel⟩, ⟨by decide +kernel, by decide +kernel⟩, fun c hc => nomatch hc⟩
  have hsome : ∃ c ∈ b.query.columns, Query.columnName c ≠ "_id" :=
    ⟨"name", List.mem_cons_self, by decide +kernel⟩
  have hname : Query.columnName "name" = "name" := by decide +kernel
  have hcity : Query.columnName "address.city" = "address.city" := by decide +kernel
  have hfields : Query.columnFields b.query.columns = [("name", .int32 1), ("address.city", .int32 1)] := by
    rw [Query.columnFields_plain hplain, show b.query.columns = ["name", "address.city"] from rfl, List.map_cons,
      List.map_singleton, hname, hcity]
    rfl
  have hstages : b.query.stages = .ok [.project [("name", .int32 1), ("address.city", .int32 1)],
      .project [("address", .boolean true), ("label", .string "$name")]] :=
    Query.stages_eq_ok_iff.2 ⟨rfl, _, _, _, _, rfl, rfl, rfl, by rw [Query.stagesBefore, hfields]; rfl⟩
  have hresult : b.result s b.query = .ok [[("_id", .string "1"), ("address", .document [("city", .string "y")]),
      ("label", .string "x")]] := result_eq_ok_iff.2 ⟨_, hstages, rfl⟩
  obtain ⟨t, -, hget⟩ := get_gives b s
  rw [hresult] at hget
  exact ⟨⟨t, hget⟩, shown_of_selected "t" _ rfl hplain hsome hget _ List.mem_cons_self⟩

/-- A computed output field shows what no column asks for; and the identifier by itself takes nothing away. -/
theorem shown_beside_columns :
    let docs : List Document := [[("_id", .string "1"), ("name", .string "x")]]
    let s : Session := { Session.inMemory "app" with
      deployment := { backends := [.memory { collections := [("t", docs)] }] } }
    let b := (Builder.on "t").modify [.select ["name"], .project "label" (.string "$name")]
    let c := (Builder.on "t").modify [.select ["_id"]]
    (∃ rows, (b.get.on s).1 = .ok rows ∧ ¬ ∀ row ∈ rows, ∀ name ∈ row.keys, b.query.Selects name) ∧
      ∃ rows, (c.get.on s).1 = .ok rows ∧ ¬ ∀ row ∈ rows, ∀ name ∈ row.keys, c.query.Selects name := by
  intro docs s b c
  have hrows : ∀ {b : Builder} {rows : List Document}, b.result s b.query = .ok rows → (b.get.on s).1 = .ok rows := by
    intro b rows h
    obtain ⟨t, -, hget⟩ := get_gives b s
    rw [hget, h]
  have hname : Query.columnName "name" = "name" := by decide +kernel
  have hid : Query.columnName "_id" = "_id" := by decide +kernel
  have hplain : ∀ column ∈ ["name", "_id"], Query.PlainColumn column := by
    simp only [List.forall_mem_cons]
    exact ⟨⟨by decide +kernel, by decide +kernel⟩, ⟨by decide +kernel, by decide +kernel⟩, fun c hc => nomatch hc⟩
  have hfields : ∀ column ∈ ["name", "_id"], Query.columnFields [column] = [(Query.columnName column, .int32 1)] :=
    fun column hc => Query.columnFields_plain (List.forall_mem_singleton.2 (hplain column hc))
  constructor
  · have hstages : b.query.stages = .ok [.project [("name", .int32 1)], .project [("label", .string "$name")]] :=
      Query.stages_eq_ok_iff.2 ⟨rfl, _, _, _, _, rfl, rfl, rfl, by
        rw [Query.stagesBefore, show b.query.columns = ["name"] from rfl, hfields "name" (by simp), hname]; rfl⟩
    have hresult : b.result s b.query = .ok [[("_id", .string "1"), ("label", .string "x")]] :=
      result_eq_ok_iff.2 ⟨_, hstages, rfl⟩
    refine ⟨_, hrows hresult, fun hall => ?_⟩
    rcases hall _ List.mem_cons_self "label" (by decide) with h | ⟨column, hcolumn, hhead⟩
    · exact absurd h (by decide)
    · rw [List.mem_singleton.1 hcolumn, hname] at hhead
      exact absurd hhead (by decide)
  · have hstages : c.query.stages = .ok [.project [("_id", .int32 1)]] :=
      Query.stages_eq_ok_iff.2 ⟨rfl, _, _, _, _, rfl, rfl, rfl, by
        rw [Query.stagesBefore, show c.query.columns = ["_id"] from rfl, hfields "_id" (by simp), hid]; rfl⟩
    have hresult : c.result s c.query = .ok docs := result_eq_ok_iff.2 ⟨_, hstages, rfl⟩
    refine ⟨_, hrows hresult, fun hall => ?_⟩
    rcases hall _ List.mem_cons_self "name" (by decide) with h | ⟨column, hcolumn, hhead⟩
    · exact absurd h (by decide)
    · rw [List.mem_singleton.1 hcolumn, hid] at hhead
      exact absurd hhead (by decide)

end Builder

end DocQuery
