import DocQuery.Proofs.Changes
import DocQuery.Proofs.OrderChains
import DocQuery.Proofs.Stages

/-!
# Computed fields in any order

Every field is computed on the document as it came, so what is to be written is settled before the first write:

    addFields fields d = runAll (fields.map (fieldStep d)) d                               (addFields_eq_runAll)

Where the paths of steps part, no step sees another one: all succeed together where each does alone, what one has
written stays, and so does what is read at a path that parts from theirs:

    runAll steps d = ok e for some e  ↔  each step succeeds on d                           (runAll_isOk_iff)
    runAll steps d = ok e             →  what a step writes is read at its path in e       (resolve_own)

So a list of fields and the same list in another order fail together or give the same fields (`computed_fields`).
-/

namespace DocQuery

open Outcome

/-! ## Steps at paths that part -/

namespace Step

variable {steps : List Step} {s t : Step} {d e g : Document} {q : Path} {v : Value}

/-- A step that succeeds on a document succeeds behind another one. -/
theorem run_of_run (h : s.path.Apart t.path) (hs : run d s = .ok e) (ht : run d t = .ok g) : ∃ f, run e t = .ok f := by
  obtain ⟨p, change⟩ := s
  obtain ⟨q, other⟩ := t
  rcases change with x | (_ | c)
  · cases hs
  · cases hs
    exact ⟨g, ht⟩
  · rcases other with x | (_ | o)
    · cases ht
    · exact ⟨e, rfl⟩
    · exact Change.on_of_on h hs ht

/-- A step that succeeds behind another one succeeds without it. -/
theorem run_of_run_behind (h : s.path.Apart t.path) (hs : run d s = .ok e) (ht : run e t = .ok g) :
    ∃ f, run d t = .ok f := by
  have hagree := run_comm h d
  rw [hs] at hagree
  change Agree (run e t) _ at hagree
  rw [ht] at hagree
  cases hd : run d t with
  | ok f => exact ⟨f, rfl⟩
  | error x =>
    rw [hd] at hagree
    cases hagree

theorem runAll_isOk_iff (hp : steps.Pairwise fun s t => s.path.Apart t.path) (d : Document) :
    (∃ e, runAll steps d = .ok e) ↔ ∀ s ∈ steps, ∃ e, run d s = .ok e := by
  induction steps generalizing d with
  | nil => exact iff_of_true ⟨d, rfl⟩ (List.forall_mem_nil _)
  | cons s rest ih =>
    obtain ⟨hs, hrest⟩ := List.pairwise_cons.1 hp
    rw [runAll_cons, List.forall_mem_cons]
    constructor
    · rintro ⟨g, hg⟩
      obtain ⟨e, he, hg⟩ := (bind_eq_ok_iff _ _ _).1 hg
      refine ⟨⟨e, he⟩, fun t ht => ?_⟩
      obtain ⟨f, hf⟩ := (ih hrest e).1 ⟨g, hg⟩ t ht
      exact run_of_run_behind (hs t ht) he hf
    · rintro ⟨⟨e, he⟩, hall⟩
      rw [he]
      refine (ih hrest e).2 fun t ht => ?_
      obtain ⟨f, hf⟩ := hall t ht
      exact run_of_run (hs t ht) he hf

/-- What is read at a path that parts from those of all steps stays. -/
theorem resolve_runAll (h : ∀ s ∈ steps, s.path.Apart q) (he : runAll steps d = .ok e) :
    Path.resolve e q = Path.resolve d q := by
  induction steps generalizing d with
  | nil =>
    cases he
    rfl
  | cons s rest ih =>
    obtain ⟨hs, hrest⟩ := List.forall_mem_cons.1 h
    rw [runAll_cons] at he
    obtain ⟨f, hf, he⟩ := (bind_eq_ok_iff _ _ _).1 he
    rw [ih hrest he, resolve_run hs hf]

/-- What a step writes is read in the end. -/
theorem resolve_own (hp : steps.Pairwise fun s t => s.path.Apart t.path) (he : runAll steps d = .ok e) (hs : s ∈ steps)
    (hv : s.change = .ok (some (.write v))) : Path.resolve e s.path = some v := by
  induction steps generalizing d with
  | nil => cases hs
  | cons t rest ih =>
    obtain ⟨ht, hrest⟩ := List.pairwise_cons.1 hp
    rw [runAll_cons] at he
    obtain ⟨f, hf, hbehind⟩ := (bind_eq_ok_iff _ _ _).1 he
    rcases List.mem_cons.1 hs with rfl | hs
    · have hset : Path.set d s.path v = .ok f := by
        rw [run, hv] at hf
        exact (lift_eq_ok_iff _ _).1 hf
      rw [resolve_runAll (fun u hu => (ht u hu).symm) hbehind]
      exact (Path.leads_set hset).resolve
    · exact ih hrest hbehind hs

end Step

/-! ## Fields of one document -/

namespace Pipeline

/-- The paths of the fields part: none is, or runs along, another one. -/
def FieldsPart (fields : List (String × Value)) : Prop :=
  fields.Pairwise fun f g => (Path.parse f.1).Apart (Path.parse g.1)

instance (fields : List (String × Value)) : Decidable (FieldsPart fields) :=
  inferInstanceAs (Decidable (List.Pairwise _ fields))

/-- The write of a field, with its value on a document. -/
def fieldStep (d : Document) (f : String × Value) : Step :=
  ⟨Path.parse f.1, (Expression.evaluate f.2 d).map fun v => some (.write v)⟩

/-- A document with its computed fields: each has its value on the document as it came, and what is read at a path that
parts from all of them is as it was. -/
structure Computed (fields : List (String × Value)) (d e : Document) : Prop where
  own : ∀ f ∈ fields, ∃ v, Expression.evaluate f.2 d = .ok v ∧ Path.resolve e (Path.parse f.1) = some v
  others : ∀ q : Path, (∀ f ∈ fields, (Path.parse f.1).Apart q) → Path.resolve e q = Path.resolve d q

variable {fields others : List (String × Value)} {d e : Document}

theorem run_fieldStep (d out : Document) (f : String × Value) : Step.run out (fieldStep d f) =
    Expression.evaluate f.2 d >>= fun v => lift (Path.set out (Path.parse f.1) v) := by
  rw [Step.run, fieldStep]
  cases Expression.evaluate f.2 d <;> rfl

theorem addFields_eq_runAll (fields : List (String × Value)) (d : Document) :
    addFields fields d = Step.runAll (fields.map (fieldStep d)) d := by
  rw [Step.runAll, List.foldlM_map, addFields]
  simp only [run_fieldStep]

theorem FieldsPart.steps (hp : FieldsPart fields) (d : Document) :
    (fields.map (fieldStep d)).Pairwise fun s t => s.path.Apart t.path := List.pairwise_map.2 hp

theorem FieldsPart.perm (hp : FieldsPart fields) (h : fields.Perm others) : FieldsPart others :=
  (h.pairwise_iff fun hfg => Path.Apart.symm hfg).1 hp

/-- Columns whose paths part are different ones. -/
theorem FieldsPart.distinct (hp : FieldsPart fields) : Document.Distinct fields := by
  refine List.pairwise_map.2 (hp.imp ?_)
  rintro f g hfg heq
  rw [heq] at hfg
  exact hfg.1 List.prefix_rfl

theorem addFields_perm (hp : FieldsPart fields) (h : fields.Perm others) (d : Document) :
    Agree (addFields fields d) (addFields others d) := by
  rw [addFields_eq_runAll, addFields_eq_runAll]
  exact Step.runAll_perm (h.map _) (hp.steps d) d

/-- The fields are added where each of them alone could be. -/
theorem addFields_isOk_iff (hp : FieldsPart fields) (d : Document) : (∃ e, addFields fields d = .ok e) ↔
    ∀ f ∈ fields, ∃ v e, Expression.evaluate f.2 d = .ok v ∧ Path.set d (Path.parse f.1) v = .ok e := by
  rw [addFields_eq_runAll, Step.runAll_isOk_iff (hp.steps d), List.forall_mem_map]
  refine forall₂_congr fun f _ => ?_
  simp only [run_fieldStep, bind_eq_ok_iff, lift_eq_ok_iff]
  constructor
  · rintro ⟨e, v, hv, he⟩
    exact ⟨v, e, hv, he⟩
  · rintro ⟨v, e, hv, he⟩
    exact ⟨e, v, hv, he⟩

theorem computed_of_addFields (hp : FieldsPart fields) (h : addFields fields d = .ok e) : Computed fields d e := by
  have hall := (addFields_isOk_iff hp d).1 ⟨e, h⟩
  rw [addFields_eq_runAll] at h
  refine ⟨fun f hf => ?_, fun q hq => Step.resolve_runAll (List.forall_mem_map.2 hq) h⟩
  obtain ⟨v, -, hv, -⟩ := hall f hf
  refine ⟨v, hv, Step.resolve_own (s := fieldStep d f) (hp.steps d) h (List.mem_map_of_mem hf) ?_⟩
  rw [fieldStep, hv]
  rfl

/-! ## Fields of all documents -/

theorem exists_of_traverse {f : Document → Outcome Document} {docs rows : List Document}
    (h : Outcome.traverse f docs = .ok rows) : ∀ d ∈ docs, ∃ e, f d = .ok e := by
  induction traverse_eq_ok_iff.1 h with
  | nil => exact List.forall_mem_nil _
  | cons hd hrest ih => exact List.forall_mem_cons.2 ⟨⟨_, hd⟩, ih (traverse_eq_ok_iff.2 hrest)⟩

theorem traverse_agree {f g : Document → Outcome Document} (h : ∀ d, Agree (f d) (g d)) (docs : List Document) :
    (∃ x y, Outcome.traverse f docs = .error x ∧ Outcome.traverse g docs = .error y) ∨
      ∃ rows others, Outcome.traverse f docs = .ok rows ∧ Outcome.traverse g docs = .ok others ∧
        List.Forall₂ Document.Reordered rows others := by
  induction docs with
  | nil => exact .inr ⟨[], [], rfl, rfl, .nil⟩
  | cons d rest ih =>
    have hd := h d
    rw [Outcome.traverse, Outcome.traverse]
    generalize f d = a at hd
    generalize g d = b at hd
    cases hd with
    | fail x y => exact .inl ⟨x, y, rfl, rfl⟩
    | give he =>
      rcases ih with ⟨x, y, hx, hy⟩ | ⟨rows, others, hrows, hothers, hall⟩
      · rw [hx, hy]
        exact .inl ⟨x, y, rfl, rfl⟩
      · rw [hrows, hothers]
        exact .inr ⟨_, _, rfl, rfl, .cons he hall⟩

end Pipeline

/-! ## Fields of a builder -/

namespace Document

theorem insert_of_not_mem {d : Document} {name : String} (h : name ∉ keys d) (v : Value) :
    d.insert name v = d ++ [(name, v)] := by
  induction d with
  | nil => rfl
  | cons f rest ih =>
    obtain ⟨k, w⟩ := f
    rw [keys_cons, List.mem_cons, not_or] at h
    rw [insert, if_neg (Ne.symm h.1), ih h.2, List.cons_append]

/-- Fields of different names are a document as they stand. -/
theorem ofFields_of_distinct {fields : List (String × Value)} (h : Distinct fields) : ofFields fields = fields := by
  induction fields using List.reverseRecOn with
  | nil => rfl
  | append_singleton fields f ih =>
    obtain ⟨hfields, -, hnew⟩ := List.nodup_append.1 (by rw [Distinct, keys, List.map_append] at h; exact h)
    rw [ofFields_concat, ih hfields, insert_of_not_mem]
    exact fun hmem => hnew f.1 hmem f.1 (by simp) rfl

end Document

/-- The field to compute that a modifier adds. -/
def Modifier.computed? : Modifier → Option (String × Value)
  | addField column e => some (column, e)
  | _ => none

/-- The fields to compute that modifiers add, in their order. -/
def Modifier.computed (ms : List Modifier) : List (String × Value) := ms.filterMap Modifier.computed?

theorem Builder.computed_modify (b : Builder) (ms : List Modifier) :
    (b.modify ms).query.computed = b.query.computed ++ Modifier.computed ms := by
  induction ms generalizing b with
  | nil => exact (List.append_nil _).symm
  | cons m rest ih =>
    have hone : (m.apply b).query.computed = b.query.computed ++ (Modifier.computed? m).toList := by
      cases m <;> first | rfl | exact (List.append_nil _).symm
    show ((m.apply b).modify rest).query.computed = _
    rw [ih, hone, Modifier.computed, Modifier.computed, List.filterMap_cons, List.append_assoc]
    cases Modifier.computed? m <;> rfl

/-- The stage of a query that computes fields, where it computes any. -/
def Query.computedStage (q : Query) : List Document :=
  (stageUnlessEmpty .addFields (Document.ofFields q.computed)).map Stage.toDocument

theorem Query.exists_stages {q : Query} {stages : List Stage} (h : q.stages = .ok stages) :
    ∃ rest, stages.map Stage.toDocument = q.computedStage ++ rest := by
  obtain ⟨-, own, filter, groups, keys, -, -, -, rfl⟩ := stages_eq_ok_iff.1 h
  rw [stagesBefore, List.append_assoc, List.append_assoc, List.append_assoc, List.append_assoc, List.map_append]
  exact ⟨_, rfl⟩

open Pipeline in
/-- A builder is given fields to compute, whose paths part, and again the same fields in another order.  The stages of a
query begin with the one that computes its fields.  This stage succeeds where each field has a value on each document
and could be written there alone, and so it succeeds in both orders or in none.  Then each field has its value on the
document as it came, paths that part from all of them are read as before, and both orders give the same fields and
values up to the order of fields. -/
theorem Builder.computed_fields {ms ns : List Modifier} (hp : FieldsPart (Modifier.computed ms))
    (h : (Modifier.computed ms).Perm (Modifier.computed ns)) {b : Builder} (hb : b.query.computed = [])
    (docs : List Document) :
    let q := (b.modify ms).query
    let r := (b.modify ns).query
    (∀ stages, q.stages = .ok stages → ∃ rest, stages.map Stage.toDocument = q.computedStage ++ rest) ∧
    ((∃ rows, run q.computedStage docs = .ok rows) ↔ ∀ d ∈ docs, ∀ f ∈ Modifier.computed ms, ∃ v e,
      Expression.evaluate f.2 d = .ok v ∧ Path.set d (Path.parse f.1) v = .ok e) ∧
    ((∃ f g, run q.computedStage docs = .error f ∧ run r.computedStage docs = .error g) ∨
      ∃ rows reordered, run q.computedStage docs = .ok rows ∧ run r.computedStage docs = .ok reordered ∧
        List.Forall₂ Document.Reordered rows reordered ∧
        List.Forall₂ (Computed (Modifier.computed ms)) docs rows) := by
  intro q r
  have hrun : ∀ {ms}, FieldsPart (Modifier.computed ms) →
      run (b.modify ms).query.computedStage docs = Outcome.traverse (addFields (Modifier.computed ms)) docs := by
    intro ms hms
    rw [Query.computedStage, computed_modify, hb, List.nil_append, Document.ofFields_of_distinct hms.distinct,
      run_addFields]
  rw [hrun hp, hrun (hp.perm h)]
  refine ⟨fun stages => Query.exists_stages, ?_, ?_⟩
  · constructor
    · rintro ⟨rows, hrows⟩ d hd
      exact (addFields_isOk_iff hp d).1 (exists_of_traverse hrows d hd)
    · exact fun hall => traverse_of_total fun d hd => (addFields_isOk_iff hp d).2 (hall d hd)
  · rcases traverse_agree (addFields_perm hp h) docs with herror | ⟨rows, reordered, hrows, hreordered, hall⟩
    · exact .inl herror
    · refine .inr ⟨rows, reordered, hrows, hreordered, hall, ?_⟩
      exact (traverse_eq_ok_iff.1 hrows).imp fun d e => computed_of_addFields hp

open Pipeline in
/-- Two new fields below one that is there, and a third one whose number the two take and which takes its own from below
that field; and all three in another order, with a limit between them. -/
theorem Builder.computed_fields_nested :
    let b := Modifier.addField "a.b" (.string "$n")
    let c := Modifier.addField "a.c" (.document [("$add", .array [.string "$n", .int32 1])])
    let n := Modifier.addField "n" (.string "$a.x")
    let docs : List Document :=
      [[("_id", .int32 1), ("a", .document [("x", .int32 7)]), ("n", .int32 2)], [("n", .null)]]
    let q := ((Builder.on "t").modify [b, c, n]).query
    let r := ((Builder.on "t").modify [n, c, .limit 5, b]).query
    FieldsPart (Modifier.computed [b, c, n]) ∧
      (Modifier.computed [b, c, n]).Perm (Modifier.computed [n, c, .limit 5, b]) ∧
      (Builder.on "t").query.computed = [] ∧
      run q.computedStage docs = .ok [[("_id", .int32 1), ("a", .document [("x", .int32 7), ("b", .int32 2),
        ("c", .int32 3)]), ("n", .int32 7)], [("n", .null), ("a", .document [("b", .null), ("c", .null)])]] ∧
      ∃ rows reordered, run q.computedStage docs = .ok rows ∧ run r.computedStage docs = .ok reordered ∧
        List.Forall₂ Document.Reordered rows reordered ∧
        List.Forall₂ (Computed (Modifier.computed [b, c, n])) docs rows := by
  intro b c n docs q r
  have hpart : FieldsPart (Modifier.computed [b, c, n]) := by decide +kernel
  have hperm : (Modifier.computed [b, c, n]).Perm (Modifier.computed [n, c, .limit 5, b]) :=
    List.reverse_perm (Modifier.computed [n, c, .limit 5, b])
  have hrun : run q.computedStage docs = .ok _ := rfl
  obtain ⟨-, -, ⟨f, -, herror, -⟩ | hrows⟩ := computed_fields hpart hperm (b := .on "t") rfl docs
  · cases hrun.symm.trans herror
  · exact ⟨hpart, hperm, rfl, hrun, hrows⟩

end DocQuery
