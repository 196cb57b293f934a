import DocQuery.Proofs.Sums
import DocQuery.Proofs.WellFormedValues

/-!
# What a group stage gives

The groups part the documents (`Partition`), and a row shows what is accumulated over one part:

    { $push: "$$ROOT" }  the documents of the part, in order                                  (accumulate_push_root)
    { $sum: 1 }          their number                                                         (accumulate_sum_one)

So the rows hold every document once, and their numbers add up to that of all documents (`group_partitions`).
-/

namespace DocQuery.Pipeline

open Outcome

/-! ## Rows -/

theorem accumulate_push_root (members : List Document) :
    accumulate "$push" (.string "$$ROOT") members = .ok (.array (members.map .document)) := by
  have hroots : Outcome.traverse (Expression.evaluate (.string "$$ROOT")) members =
      .ok (members.map .document) := traverse_eq_map fun _ _ => rfl
  rw [accumulate, if_neg (by decide), hroots]
  rfl

/-- The row of a group under one accumulator. -/
theorem groupRow_of_one {spec : Document} {field name : String} {argument : Value} (hfield : field ≠ "_id")
    (hothers : (spec.filter fun f => f.1 != "_id") = [(field, .document [(name, argument)])])
    {g : Value × List Document} {v : Value} (hv : accumulate name argument g.2 = .ok v) :
    groupRow spec g = .ok [("_id", g.1), (field, v)] := by
  have hinsert : Document.insert [("_id", g.1)] field v = [("_id", g.1), (field, v)] := by
    rw [Document.insert, if_neg hfield.symm]
    rfl
  rw [groupRow, hothers, List.foldlM_cons, addAccumulated, hv]
  show (Except.ok (Document.insert [("_id", g.1)] field v) : Outcome Document) = _
  rw [hinsert]

/-- A stage with one accumulator gives each group a row of its key and the accumulated value. -/
theorem run_group {spec : Document} {key argument : Value} {field name : String} (hfield : field ≠ "_id")
    (hspec : spec.Perm [("_id", key), (field, .document [(name, argument)])]) {docs : List Document}
    {groups : List (Value × List Document)} (hgroups : groupBy key docs = .ok groups)
    (value : Value × List Document → Value)
    (hvalue : ∀ g ∈ groups, accumulate name argument g.2 = .ok (value g)) :
    run [[("$group", .document spec)]] docs = .ok (groups.map fun g => [("_id", g.1), (field, value g)]) := by
  have hdistinct : spec.Distinct := by
    rw [Document.Distinct, Document.keys, (hspec.map Prod.fst).nodup_iff]
    simpa using hfield.symm
  have hkey : spec.get? "_id" = some key :=
    Document.get?_of_mem hdistinct (hspec.mem_iff.2 List.mem_cons_self)
  have hothers : (spec.filter fun f => f.1 != "_id") = [(field, .document [(name, argument)])] := by
    refine List.perm_singleton.1 ((hspec.filter _).trans (.of_eq ?_))
    simp [hfield]
  have hrows : Outcome.traverse (groupRow spec) groups =
      .ok (groups.map fun g => [("_id", g.1), (field, value g)]) :=
    traverse_eq_map fun g hg => groupRow_of_one hfield hothers (hvalue g hg)
  have hgroup : group spec docs = .ok (groups.map fun g => [("_id", g.1), (field, value g)]) := by
    rw [group, hkey]
    show (groupBy key docs >>= Outcome.traverse (groupRow spec)) = _
    rw [hgroups]
    exact hrows
  show (group spec docs >>= fun rows => .ok rows) = _
  rw [hgroup]
  rfl

/-! ## Keys and numbers -/

namespace Partition

variable {key : Value} {docs : List Document} {parts : List Part} {p : Part}

theorem sum_length (h : Partition key docs parts) : (parts.map fun p => p.places.length).sum = docs.length := by
  rw [← List.length_flatMap, h.once.length_eq, List.length_range]

theorem length_le (h : Partition key docs parts) (hp : p ∈ parts) : p.places.length ≤ docs.length := by
  rw [← h.sum_length]
  exact List.le_sum_of_mem (List.mem_map.2 ⟨p, hp, rfl⟩)

theorem wellFormed_key (h : Partition key docs parts) (hkey : key.WellFormed)
    (hdocs : ∀ d ∈ docs, (Value.document d).WellFormed) (hp : p ∈ parts) : p.key.WellFormed := by
  obtain ⟨d, hd, hv⟩ := (h.keyed p hp).first
  exact Expression.wellFormed_of_evaluate hkey (hdocs d (List.mem_of_getElem? hd)) hv

theorem apart_both (h : Partition key docs parts) (hkey : key.WellFormed)
    (hdocs : ∀ d ∈ docs, (Value.document d).WellFormed) :
    (parts.map Part.key).Pairwise fun k l => Value.equal l k = false := by
  refine h.apart.imp_of_mem fun {k l} hk hl hkl => ?_
  obtain ⟨p, hp, rfl⟩ := List.mem_map.1 hk
  obtain ⟨q, hq, rfl⟩ := List.mem_map.1 hl
  rw [Value.equal_comm (h.wellFormed_key hkey hdocs hq) (h.wellFormed_key hkey hdocs hp)]
  exact hkl

end Partition

/-! ## Main result -/

/-- Where the key has a value on every document, the groups part the documents, and are the same for every stage with
that key.  The members of a group are pushed in their order, and ones add up to their number, so the numbers of all
groups add up to that of the documents. -/
theorem group_partitions {key : Value} {docs : List Document}
    (h : ∀ d ∈ docs, ∃ v, Expression.evaluate key d = .ok v) :
    ∃ parts, Partition key docs parts ∧
      (key.WellFormed → (∀ d ∈ docs, (Value.document d).WellFormed) →
        (parts.map Part.key).Pairwise fun k l => Value.equal l k = false) ∧
      (∀ spec field, field ≠ "_id" →
        spec.Perm [("_id", key), (field, .document [("$push", .string "$$ROOT")])] →
        run [[("$group", .document spec)]] docs =
          .ok (parts.map fun p => [("_id", p.key), (field, .array ((p.members docs).map .document))])) ∧
      (∀ spec field one, field ≠ "_id" → one.integer? = some 1 → docs.length < 2 ^ 63 →
        spec.Perm [("_id", key), (field, .document [("$sum", one)])] →
        run [[("$group", .document spec)]] docs =
          .ok (parts.map fun p => [("_id", p.key), (field, Value.ofCount p.places.length)])) ∧
      (parts.map fun p => p.places.length).sum = docs.length := by
  obtain ⟨parts, hgroups, hparts⟩ := groupBy_partition h
  refine ⟨parts, hparts, hparts.apart_both, fun spec field hfield hspec => ?_,
    fun spec field one hfield hone hsize hspec => ?_, hparts.sum_length⟩
  · rw [run_group hfield hspec hgroups (fun g => .array (g.2.map .document)) fun g _ => accumulate_push_root g.2,
      List.map_map]
    rfl
  · have hvalue : ∀ g ∈ parts.map (Part.group docs),
        accumulate "$sum" one g.2 = .ok (Value.ofCount g.2.length) := by
      intro g hg
      obtain ⟨p, hp, rfl⟩ := List.mem_map.1 hg
      refine Arithmetic.accumulate_sum_one hone ?_
      rw [Part.group, Part.length_members (hparts.lt_length hp)]
      exact (hparts.length_le hp).trans_lt hsize
    rw [run_group hfield hspec hgroups (fun g => Value.ofCount g.2.length) hvalue, List.map_map]
    refine congrArg _ (List.map_congr_left fun p hp => ?_)
    rw [Function.comp_apply, Part.group, Part.length_members (hparts.lt_length hp)]

/-- One number in two kinds has one group, and each NaN has a group of its own. -/
theorem group_partitions_nan :
    let one : Document := [("n", .int32 1), ("at", .int32 0)]
    let other : Document := [("n", .int64 1), ("at", .int32 2)]
    let nan (i : Int32) : Document := [("n", .double Double.nan), ("at", .int32 i)]
    let docs : List Document := [one, nan 1, other, nan 3]
    let spec (accumulator : Document) : Document := [("_id", .string "$n"), ("all", .document accumulator)]
    let row (k : Value) (members : List Document) : Document :=
      [("_id", k), ("all", .array (members.map .document))]
    (∀ d ∈ docs, ∃ v, Expression.evaluate (.string "$n") d = .ok v) ∧
      run [[("$group", .document (spec [("$push", .string "$$ROOT")]))]] docs =
        .ok [row (.int32 1) [one, other], row (.double Double.nan) [nan 1], row (.double Double.nan) [nan 3]] ∧
      ∃ parts, Partition (.string "$n") docs parts ∧
        run [[("$group", .document (spec [("$push", .string "$$ROOT")]))]] docs =
          .ok (parts.map fun p => row p.key (p.members docs)) ∧
        run [[("$group", .document (spec [("$sum", .int64 1)]))]] docs =
          .ok (parts.map fun p => [("_id", p.key), ("all", Value.ofCount p.places.length)]) ∧
        (parts.map Part.key).Pairwise fun k l => Value.equal l k = false := by
  intro one other nan docs spec row
  have hkeys : ∀ d ∈ docs, ∃ v, Expression.evaluate (.string "$n") d = .ok v := by
    simp only [docs, List.forall_mem_cons]
    exact ⟨⟨_, rfl⟩, ⟨_, rfl⟩, ⟨_, rfl⟩, ⟨_, rfl⟩, by simp⟩
  have hdocs : ∀ d ∈ docs, (Value.document d).WellFormed := by
    simp [docs, one, other, nan, Value.WellFormed, Value.WellFormedFields, Document.Distinct]
  obtain ⟨parts, hparts, hboth, hpush, hsum, -⟩ := group_partitions hkeys
  exact ⟨hkeys, rfl, parts, hparts, hpush _ _ (by decide) (.refl _),
    hsum _ _ (.int64 1) (by decide) rfl (by decide) (.refl _), hboth True.intro hdocs⟩

end DocQuery.Pipeline
