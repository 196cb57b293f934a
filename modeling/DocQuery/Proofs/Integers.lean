import DocQuery.Proofs.ById
import DocQuery.Proofs.Partitions
import DocQuery.Proofs.Rounding

/-!
# Integers compared as doubles

Numbers are compared as doubles, integers too.  So two integers are equal when they have the same double, and a
larger one is never ordered before a smaller one:

    equal a b = true ↔ ofInt m = ofInt n                                              (equal_integers_iff)
    compare a b      = the order of the positions of both                             (compare_integers)

Where no two different integers of a list have the same double (`ToldApart`), as is so up to 2^53
(`toldApart_of_small`), equality and order are those of the integers, and what the store does by equality never
takes one integer for another (`integers_spec`): a value that is kept for others, the key of a group or an element
of a set, is kept for one integer at most (`StandsFor`).
-/

namespace DocQuery

open Outcome

namespace Value

/-! ## Two integers -/

/-- The integer that a value is, of 32 or of 64 bits. -/
def integer? : Value → Option Int
  | int32 n => some n.toInt
  | int64 n => some n.toInt
  | _ => none

section

variable {a b : Value} {m n : Int}

theorem toFloat?_of_integer (h : a.integer? = some m) : a.toFloat? = some (Float.ofInt m) := by
  cases a <;> cases h <;> rfl

theorem natAbs_of_integer (h : a.integer? = some m) : m.natAbs < 2 ^ 64 := by
  cases a with
  | int32 k =>
    cases h
    have hlo := k.le_toInt
    have hhi := k.toInt_lt
    omega
  | int64 k =>
    cases h
    have hlo := k.le_toInt
    have hhi := k.toInt_lt
    omega
  | _ => cases h

theorem position?_of_integer (h : a.integer? = some m) :
    a.toFloat?.bind Double.position? = some (Double.placeOf m) := by
  rw [toFloat?_of_integer h]
  exact Double.position?_ofInt (natAbs_of_integer h)

/-- What equals an integer has the position of its double. -/
theorem position?_of_equal (hb : b.integer? = some n) (h : equal a b = true) :
    a.toFloat?.bind Double.position? = some (Double.placeOf n) := by
  have hfloat : ∃ x, a.toFloat? = some x ∧ Double.equal x (Float.ofInt n) = true := by
    cases b <;> cases hb <;> cases a <;> first | cases h | exact ⟨_, rfl, h⟩
  obtain ⟨x, hx, he⟩ := hfloat
  obtain ⟨p, hp, hn⟩ := (Double.equal_iff x _).1 he
  rw [Double.position?_ofInt (natAbs_of_integer hb)] at hn
  rw [hx]
  exact hp.trans hn.symm

theorem equal_integers_iff (ha : a.integer? = some m) (hb : b.integer? = some n) :
    equal a b = true ↔ Float.ofInt m = Float.ofInt n := by
  rw [← Double.placeOf_eq_iff (natAbs_of_integer ha) (natAbs_of_integer hb)]
  have hequal : equal a b = Double.equal (Float.ofInt m) (Float.ofInt n) := by
    cases a <;> cases ha <;> cases b <;> cases hb <;> rfl
  rw [hequal, Double.equal_iff, Double.position?_ofInt (natAbs_of_integer ha),
    Double.position?_ofInt (natAbs_of_integer hb)]
  simp [eq_comm]

theorem compare_integers (ha : a.integer? = some m) (hb : b.integer? = some n) :
    compare a b = Ord.compare (Double.placeOf m) (Double.placeOf n) := by
  have hcompare : compare a b = (Double.compare? (Float.ofInt m) (Float.ofInt n)).getD .eq := by
    cases a <;> cases ha <;> cases b <;> cases hb <;> rfl
  rw [hcompare, Double.compare?, Double.position?_ofInt (natAbs_of_integer ha),
    Double.position?_ofInt (natAbs_of_integer hb)]
  rfl

end

/-! ## Integers told apart -/

/-- No two different integers of a list have the same double. -/
def ToldApart (vs : List Value) : Prop :=
  ∀ v ∈ vs, ∀ w ∈ vs, ∀ m n, v.integer? = some m → w.integer? = some n → v.toFloat? = w.toFloat? → m = n

/-- A value is kept for another one, which it is or equals, and for no other integer of the list. -/
def StandsFor (vs : List Value) (w v : Value) : Prop :=
  (w = v ∨ equal w v = true) ∧ ∀ u ∈ vs, ∀ m n, v.integer? = some m → u.integer? = some n →
    (w = u ∨ equal w u = true) → m = n

theorem toldApart_of_small {vs : List Value} (h : ∀ v ∈ vs, ∀ n, v.integer? = some n → n.natAbs ≤ 2 ^ 53) :
    ToldApart vs := by
  intro v hv w hw m n hm hn he
  rw [toFloat?_of_integer hm, toFloat?_of_integer hn, Option.some.injEq] at he
  exact Double.ofInt_inj (h v hv m hm) (h w hw n hn) he

section

variable {vs : List Value} {a b : Value} {m n : Int}

theorem ToldApart.eq_of_placeOf (h : ToldApart vs) (hav : a ∈ vs) (hbv : b ∈ vs) (ha : a.integer? = some m)
    (hb : b.integer? = some n) (hplace : Double.placeOf m = Double.placeOf n) : m = n := by
  refine h a hav b hbv m n ha hb ?_
  rw [toFloat?_of_integer ha, toFloat?_of_integer hb,
    (Double.placeOf_eq_iff (natAbs_of_integer ha) (natAbs_of_integer hb)).1 hplace]

theorem ToldApart.equal_iff (h : ToldApart vs) (hav : a ∈ vs) (hbv : b ∈ vs) (ha : a.integer? = some m)
    (hb : b.integer? = some n) : equal a b = true ↔ m = n := by
  rw [equal_integers_iff ha hb, ← Double.placeOf_eq_iff (natAbs_of_integer ha) (natAbs_of_integer hb)]
  exact ⟨h.eq_of_placeOf hav hbv ha hb, fun he => by rw [he]⟩

theorem ToldApart.compare_eq (h : ToldApart vs) (hav : a ∈ vs) (hbv : b ∈ vs) (ha : a.integer? = some m)
    (hb : b.integer? = some n) : compare a b = Ord.compare m n := by
  rw [compare_integers ha hb]
  have hne : m ≠ n → Double.placeOf m ≠ Double.placeOf n := fun hmn hplace =>
    hmn (h.eq_of_placeOf hav hbv ha hb hplace)
  obtain hlt | heq | hgt := Int.lt_trichotomy m n
  · have hplace := lt_of_le_of_ne (Double.placeOf_mono hlt.le) (hne hlt.ne)
    rw [compare_lt_iff_lt.2 hlt, compare_lt_iff_lt.2 hplace]
  · rw [heq, compare_eq_iff_eq.2 rfl, compare_eq_iff_eq.2 rfl]
  · have hplace := lt_of_le_of_ne (Double.placeOf_mono hgt.le) (hne hgt.ne').symm
    rw [compare_gt_iff_gt.2 hgt, compare_gt_iff_gt.2 hplace]

/-- Whatever is equal to two integers, they are the same. -/
theorem ToldApart.standsFor (h : ToldApart vs) {w v : Value} (hv : v ∈ vs) (hw : w = v ∨ equal w v = true) :
    StandsFor vs w v := by
  have hposition : ∀ {u : Value} {k : Int}, u.integer? = some k → w = u ∨ equal w u = true →
      w.toFloat?.bind Double.position? = some (Double.placeOf k) := by
    rintro u k hu (rfl | he)
    · exact position?_of_integer hu
    · exact position?_of_equal hu he
  refine ⟨hw, fun u hu m n hm hn hwu => h.eq_of_placeOf hv hu hm hn ?_⟩
  exact Option.some.inj ((hposition hm hw).symm.trans (hposition hn hwu))

end

/-! ## Sets and groups -/

/-- Of the values of a set every one is kept, or one that equals it. -/
theorem mem_distinct {vs : List Value} {v : Value} (hv : v ∈ vs) :
    ∃ w ∈ Arithmetic.distinct vs, w = v ∨ equal w v = true := by
  let step (kept : List Value) (v : Value) : List Value := if kept.any fun w => equal w v then kept else v :: kept
  have hall : ∀ kept : List Value, (∀ w ∈ kept, w ∈ vs.foldl step kept) ∧
      ∀ v ∈ vs, ∃ w ∈ vs.foldl step kept, w = v ∨ equal w v = true := by
    clear hv
    induction vs with
    | nil => exact fun kept => ⟨fun w hw => hw, by simp⟩
    | cons u rest ih =>
      intro kept
      obtain ⟨hkept, hrest⟩ := ih (step kept u)
      have hgrows : ∀ w ∈ kept, w ∈ step kept u := by
        intro w hw
        show w ∈ if _ then _ else _
        split
        · exact hw
        · exact List.mem_cons_of_mem u hw
      refine ⟨fun w hw => hkept w (hgrows w hw), List.forall_mem_cons.2 ⟨?_, hrest⟩⟩
      by_cases hany : (kept.any fun w => equal w u) = true
      · obtain ⟨w, hw, he⟩ := List.any_eq_true.1 hany
        exact ⟨w, hkept w (hgrows w hw), .inr he⟩
      · refine ⟨u, hkept u ?_, .inl rfl⟩
        show u ∈ if _ then _ else _
        rw [if_neg hany]
        exact List.mem_cons_self
  obtain ⟨w, hw, he⟩ := (hall []).2 v hv
  exact ⟨w, List.mem_reverse.2 hw, he⟩

/-- Every element stays, and every new value is appended or there is one that equals it. -/
theorem mem_appendNew {items values : List Value} {v : Value} (hv : v ∈ items ++ values) :
    ∃ w ∈ Update.appendNew items values, w = v ∨ equal w v = true := by
  have hall : (∀ w ∈ items, w ∈ Update.appendNew items values) ∧
      ∀ v ∈ values, ∃ w ∈ Update.appendNew items values, w = v ∨ equal w v = true := by
    clear hv
    induction values generalizing items with
    | nil => exact ⟨fun w hw => hw, by simp⟩
    | cons u rest ih =>
      rw [Update.appendNew]
      by_cases hany : (items.any fun w => equal w u) = true
      · rw [if_pos hany]
        obtain ⟨hitems, hrest⟩ := @ih items
        obtain ⟨w, hw, he⟩ := List.any_eq_true.1 hany
        exact ⟨hitems, List.forall_mem_cons.2 ⟨⟨w, hitems w hw, .inr he⟩, hrest⟩⟩
      · rw [if_neg hany]
        obtain ⟨hitems, hrest⟩ := @ih (items ++ [u])
        refine ⟨fun w hw => hitems w (List.mem_append_left _ hw), List.forall_mem_cons.2 ⟨?_, hrest⟩⟩
        exact ⟨u, hitems u (List.mem_append_right _ List.mem_cons_self), .inl rfl⟩
  obtain hv | hv := List.mem_append.1 hv
  · exact ⟨v, hall.1 v hv, .inl rfl⟩
  · exact hall.2 v hv

end Value

namespace Pipeline

/-- The groups of some documents: each document is in one, and its key is that of the group or equals it. -/
structure Grouped (key : Value) (docs : List Document) (groups : List (Value × List Document)) : Prop where
  members : ∀ g ∈ groups, ∀ d ∈ g.2, d ∈ docs ∧
    ∃ v, Expression.evaluate key d = .ok v ∧ (g.1 = v ∨ Value.equal g.1 v = true)
  covers : ∀ d ∈ docs, ∃ g ∈ groups, d ∈ g.2

theorem Partition.grouped {key : Value} {docs : List Document} {parts : List Part}
    (h : Partition key docs parts) : Grouped key docs (parts.map (Part.group docs)) where
  members g hg d hd := by
    obtain ⟨p, hp, rfl⟩ := List.mem_map.1 hg
    obtain ⟨i, hi, hdi⟩ := List.mem_filterMap.1 hd
    refine ⟨List.mem_of_getElem? hdi, ?_⟩
    rcases List.mem_cons.1 hi with rfl | hi
    · obtain ⟨e, he, hv⟩ := (h.keyed p hp).first
      cases he.symm.trans hdi
      exact ⟨p.key, hv, .inl rfl⟩
    · obtain ⟨e, v, he, hv, hequal⟩ := (h.keyed p hp).later i hi
      cases he.symm.trans hdi
      exact ⟨v, hv, .inr hequal⟩
  covers d hd := by
    obtain ⟨i, hi⟩ := List.getElem?_of_mem hd
    have hplace := h.once.symm.subset (List.mem_range.2 (List.getElem?_eq_some_iff.1 hi).1)
    obtain ⟨p, hp, hip⟩ := List.mem_flatMap.1 hplace
    exact ⟨p.group docs, List.mem_map_of_mem hp, List.mem_filterMap.2 ⟨i, hip, hi⟩⟩

theorem groupBy_grouped {key : Value} {docs : List Document}
    (hkeys : ∀ d ∈ docs, ∃ v, Expression.evaluate key d = .ok v) :
    ∃ groups, groupBy key docs = .ok groups ∧ Grouped key docs groups := by
  obtain ⟨parts, hgroups, hparts⟩ := groupBy_partition hkeys
  exact ⟨_, hgroups, hparts.grouped⟩

end Pipeline

/-! ## Main result -/

namespace Value

theorem accepts_id {a b : Value} {n : Int} (ha : a.integer? = some n) {d : Document} (hd : d.get? "_id" = some b)
    (hb : b.isArray = false) : Filter.accepts [("_id", a)] d = .ok (equal b a) := by
  have hmeets : Filter.meets a (some b) = .ok (Filter.equals (some b) a) := by
    cases a <;> cases ha <;> rfl
  have hequals : Filter.equals (some b) a = equal b a := by
    cases b with
    | array items => cases hb
    | _ => rfl
  rw [Filter.accepts_column (by decide), Path.resolve_of_tail_nil d (p := Path.parse "_id") rfl]
  show Filter.meets a (d.get? "_id") = _
  rw [hd, hmeets, hequals]

/-- Where no two different integers have the same double, integers of 32 and of 64 bits are compared as integers.
So a filter on an integer identifier holds of that identifier only.  A group holds documents of one integer key, a
set keeps every integer, whether it is collected or an array is added to, and of an array integers are removed
only that are among the given ones. -/
theorem integers_spec {vs : List Value} (h : ToldApart vs) :
    (∀ a ∈ vs, ∀ b ∈ vs, ∀ m n, a.integer? = some m → b.integer? = some n →
      (equal a b = true ↔ m = n) ∧ compare a b = Ord.compare m n ∧
        ∀ d : Document, d.get? "_id" = some b → Filter.accepts [("_id", a)] d = .ok (decide (m = n))) ∧
      (∀ key docs, (∀ d ∈ docs, ∃ v ∈ vs, Expression.evaluate key d = .ok v) →
        ∃ groups, Pipeline.groupBy key docs = .ok groups ∧ (∀ d ∈ docs, ∃ g ∈ groups, d ∈ g.2) ∧
          ∀ g ∈ groups, ∀ d ∈ g.2, ∃ v, Expression.evaluate key d = .ok v ∧ StandsFor vs g.1 v) ∧
      (∃ kept, Pipeline.combine "$addToSet" vs = .ok (.array kept) ∧ ∀ v ∈ vs, ∃ w ∈ kept, StandsFor vs w v) ∧
      ∀ (d : Document) (path : String) (items values : List Value), Update.elementsAt d path = .ok items →
        vs = items ++ values →
        (∀ argument, Update.appended argument = .ok values →
          ∃ kept, Update.push true d path argument = lift (Path.set d (Path.parse path) (.array kept)) ∧
            ∀ v ∈ vs, ∃ w ∈ kept, StandsFor vs w v) ∧
        ((Path.resolve d (Path.parse path)).isSome = true →
          ∃ kept, Update.pullAll d path (.array values) = lift (Path.set d (Path.parse path) (.array kept)) ∧
            ∀ item ∈ items, item ∈ kept ∨ ∃ v ∈ values, StandsFor vs item v) := by
  refine ⟨?_, ?_, ?_, ?_⟩
  · intro a hav b hbv m n ha hb
    refine ⟨h.equal_iff hav hbv ha hb, h.compare_eq hav hbv ha hb, fun d hd => ?_⟩
    have hequal : equal b a = decide (m = n) := by
      rw [Bool.eq_iff_iff, h.equal_iff hbv hav hb ha, decide_eq_true_iff]
      exact eq_comm
    rw [accepts_id ha hd (by cases b <;> cases hb <;> rfl), hequal]
  · intro key docs hkeys
    obtain ⟨groups, hgroups, hgrouped⟩ := Pipeline.groupBy_grouped fun d hd => (hkeys d hd).imp fun v hv => hv.2
    refine ⟨groups, hgroups, hgrouped.covers, fun g hg d hd => ?_⟩
    obtain ⟨hdocs, v, hv, he⟩ := hgrouped.members g hg d hd
    obtain ⟨w, hw, hwd⟩ := hkeys d hdocs
    obtain rfl : v = w := Except.ok.inj (hv.symm.trans hwd)
    exact ⟨v, hv, h.standsFor hw he⟩
  · refine ⟨Arithmetic.distinct vs, rfl, fun v hv => ?_⟩
    obtain ⟨w, hw, he⟩ := mem_distinct hv
    exact ⟨w, hw, h.standsFor hv he⟩
  · rintro d path items values hitems rfl
    refine ⟨fun argument hargument => ⟨Update.appendNew items values, ?_, fun v hv => ?_⟩, fun hsome =>
      ⟨items.filter fun item => !values.any fun v => equal item v, ?_, fun item hitem => ?_⟩⟩
    · rw [Update.push, hargument, hitems]
      rfl
    · obtain ⟨w, hw, he⟩ := mem_appendNew hv
      exact ⟨w, hw, h.standsFor hv he⟩
    · have hpresent : ¬ (Path.resolve d (Path.parse path)).isNone = true := by
        rw [Option.isNone_iff_eq_none]
        exact Option.isSome_iff_ne_none.1 hsome
      rw [Update.pullAll, if_neg hpresent, hitems]
      rfl
    · cases hany : values.any fun v => equal item v with
      | false => exact .inl (List.mem_filter.2 ⟨hitem, by rw [hany]; rfl⟩)
      | true =>
        obtain ⟨v, hv, he⟩ := List.any_eq_true.1 hany
        exact .inr ⟨v, hv, h.standsFor (List.mem_append_right _ hv) (.inr he)⟩

/-- Up to 2^53 all integers are told apart. -/
theorem integers_spec_small :
    let vs : List Value := [.int32 7, .int64 7, .int64 9007199254740991, .int64 9007199254740992]
    let key : Value := .string "$n"
    let docs : List Document := vs.map fun v => [("n", v)]
    ToldApart vs ∧ (∀ d ∈ docs, ∃ v ∈ vs, Expression.evaluate key d = .ok v) ∧
      (equal (.int64 9007199254740991) (.int64 9007199254740992) = true ↔
        (9007199254740991 : Int) = 9007199254740992) ∧
      (∃ groups, Pipeline.groupBy key docs = .ok groups ∧ (∀ d ∈ docs, ∃ g ∈ groups, d ∈ g.2) ∧
        ∀ g ∈ groups, ∀ d ∈ g.2, ∃ v, Expression.evaluate key d = .ok v ∧ StandsFor vs g.1 v) ∧
      ∃ kept, Pipeline.combine "$addToSet" vs = .ok (.array kept) ∧ ∀ v ∈ vs, ∃ w ∈ kept, StandsFor vs w v := by
  intro vs key docs
  have hsmall : ∀ v ∈ vs, ∀ n, v.integer? = some n → n.natAbs ≤ 2 ^ 53 := by
    simp only [vs, List.forall_mem_cons, List.not_mem_nil, false_implies, implies_true, and_true]
    refine ⟨?_, ?_, ?_, ?_⟩ <;> rintro n ⟨⟩ <;> decide
  have hkeys : ∀ d ∈ docs, ∃ v ∈ vs, Expression.evaluate key d = .ok v := by
    intro d hd
    obtain ⟨v, hv, rfl⟩ := List.mem_map.1 hd
    exact ⟨v, hv, rfl⟩
  obtain ⟨hpairs, hgroups, hset, -⟩ := integers_spec (toldApart_of_small hsmall)
  have hequal := (hpairs (.int64 9007199254740991) (by simp [vs]) (.int64 9007199254740992) (by simp [vs])
    _ _ rfl rfl).1
  exact ⟨toldApart_of_small hsmall, hkeys, hequal, hgroups key docs hkeys, hset⟩

/-- Above 2^53 two integers are taken for one: a filter on the one holds of the other, a set keeps one of them, and
removing the one removes the other. -/
theorem integers_merged :
    let a : Value := .int64 9007199254740992
    let b : Value := .int64 9007199254740993
    a.integer? ≠ b.integer? ∧ equal a b = true ∧ compare a b = .eq ∧
      Filter.accepts [("_id", b)] [("_id", a)] = .ok true ∧
      Pipeline.combine "$addToSet" [a, b] = .ok (.array [a]) ∧
      Update.pullAll [("xs", .array [a])] "xs" (.array [b]) = .ok [("xs", .array [])] := by
  intro a b
  have hequal : equal a b = true := by decide
  refine ⟨by decide, hequal, by decide, ?_, ?_, ?_⟩
  · rw [accepts_id (b := a) (d := [("_id", a)]) rfl rfl rfl]
    decide
  · rfl
  · rfl

end Value

end DocQuery
