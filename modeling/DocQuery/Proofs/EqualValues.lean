import DocQuery.Proofs.Ranking

/-!
# Equality is transitive, and where it is reflexive

Both equalities are symmetric (`same_comm`, `equal_comm`).  They are transitive for all values, and a value is equal to
itself where it has no part that is not:

    same  x y → same  y z → same  x z                                                  (same_trans)
    equal x y → equal y z → equal x z                                                  (equal_trans)
    same  x x = true  ↔  x.NaNFree                         for well-formed values      (same_self_iff)
    equal x x = true  ↔  x.NaNFree and x.DecimalFree       for well-formed values      (equal_self_iff)

A NaN is told apart from itself by both.  A decimal counts as a number and has no double, so `equal` tells it apart from
itself too; in the scope of a code all is compared by `same`, and a decimal is the same as itself there.
-/

namespace DocQuery

/-- A relation that is transitive from each element of the first list is so for the lists. -/
theorem forall₂_trans {α : Type} {R : α → α → Prop} {xs ys zs : List α}
    (h : ∀ x ∈ xs, ∀ y z, R x y → R y z → R x z) (hxy : List.Forall₂ R xs ys) (hyz : List.Forall₂ R ys zs) :
    List.Forall₂ R xs zs := by
  induction hxy generalizing zs with
  | nil => exact hyz
  | cons hxy _ ih =>
    cases hyz with
    | cons hyz hrest =>
      exact .cons (h _ List.mem_cons_self _ _ hxy hyz) (ih (fun a ha => h a (List.mem_cons_of_mem _ ha)) hrest)

/-! ## Strict equality with itself -/

theorem Double.equal_self_iff (x : Float) : Double.equal x x = true ↔ Double.isNaN x = false := by
  rw [Double.equal, Double.position?]
  cases Double.isNaN x with
  | true => simp
  | false => cases Double.isNegative x <;> simp

theorem Double.equal_trans {x y z : Float} (hxy : Double.equal x y = true) (hyz : Double.equal y z = true) :
    Double.equal x z = true := by
  obtain ⟨p, hx, hy⟩ := (Double.equal_iff x y).1 hxy
  obtain ⟨q, hy', hz⟩ := (Double.equal_iff y z).1 hyz
  cases hy.symm.trans hy'
  exact (Double.equal_iff x z).2 ⟨p, hx, hz⟩

namespace Value

mutual

/-- There is no NaN in the value. -/
def NaNFree : Value → Prop
  | double x => Double.isNaN x = false
  | document d => NaNFreeFields d
  | array items => NaNFreeItems items
  | scopedCode _ d => NaNFreeFields d
  | _ => True
termination_by structural v => v

def NaNFreeItems : List Value → Prop
  | [] => True
  | v :: rest => NaNFree v ∧ NaNFreeItems rest
termination_by structural vs => vs

def NaNFreeFields : List (String × Value) → Prop
  | [] => True
  | (_, v) :: rest => NaNFree v ∧ NaNFreeFields rest
termination_by structural fs => fs

end

theorem nanFreeItems_iff (items : List Value) : NaNFreeItems items ↔ ∀ v ∈ items, NaNFree v := by
  induction items with
  | nil => simp [NaNFreeItems]
  | cons v rest ih => rw [NaNFreeItems, ih, List.forall_mem_cons]

theorem nanFreeFields_iff (d : Document) : NaNFreeFields d ↔ ∀ f ∈ d, NaNFree f.2 := by
  induction d with
  | nil => simp [NaNFreeFields]
  | cons f rest ih => rw [NaNFreeFields, ih, List.forall_mem_cons]

theorem sameItems_iff (xs ys : List Value) :
    sameItems xs ys = true ↔ List.Forall₂ (fun x y => same x y = true) xs ys := by
  induction xs generalizing ys with
  | nil => cases ys <;> simp [sameItems]
  | cons x xs ih =>
    cases ys with
    | nil => simp [sameItems]
    | cons y ys => rw [sameItems, Bool.and_eq_true, ih, List.forall₂_cons]

theorem sameItems_self_iff (items : List Value) : sameItems items items = true ↔ ∀ v ∈ items, same v v = true := by
  rw [sameItems_iff, List.forall₂_same]

theorem sameFields_self_iff {d : Document} (hd : d.Distinct) :
    sameFields d d = true ↔ ∀ f ∈ d, same f.2 f.2 = true := by
  rw [sameFields_iff]
  refine forall₂_congr fun f hf => ?_
  have hget : d.get? f.1 = some f.2 := Document.get?_of_mem hd hf
  constructor
  · rintro ⟨w, hw, hsame⟩
    cases hget.symm.trans hw
    exact hsame
  · exact fun hsame => ⟨f.2, hget, hsame⟩

/-- A well-formed value is the same as itself exactly where there is no NaN in it. -/
theorem same_self_iff {v : Value} (h : v.WellFormed) : same v v = true ↔ v.NaNFree := by
  induction v using induction with
  | leaf v hleaf =>
    cases v with
    | double x =>
      rw [same, NaNFree]
      exact Double.equal_self_iff x
    | document d => cases hleaf
    | array items => cases hleaf
    | scopedCode s d => cases hleaf
    | _ => simp [same, NaNFree]
  | array items ih =>
    rw [WellFormed, wellFormedItems_iff] at h
    rw [same, NaNFree, sameItems_self_iff, nanFreeItems_iff]
    exact forall₂_congr fun v hv => ih v hv (h v hv)
  | document d ih =>
    rw [WellFormed, wellFormedFields_iff] at h
    rw [same, NaNFree, nanFreeFields_iff, beq_self_eq_true, Bool.true_and, sameFields_self_iff h.1]
    exact forall₂_congr fun f hf => ih f hf (h.2 f hf)
  | scopedCode s d ih =>
    rw [WellFormed, wellFormedFields_iff] at h
    rw [same, NaNFree, nanFreeFields_iff, beq_self_eq_true, beq_self_eq_true, Bool.true_and, Bool.true_and,
      sameFields_self_iff h.1]
    exact forall₂_congr fun f hf => ih f hf (h.2 f hf)

/-! ## Strict equality of three values -/

variable {x y z : Value}

/-- Documents as maps: each field of the first is one of the second, and that one of the third. -/
theorem sameMap_trans {d e g : Document}
    (h : ∀ f ∈ d, ∀ y z, same f.2 y = true → same y z = true → same f.2 z = true)
    (hde : (d.length == e.length && sameFields d e) = true) (heg : (e.length == g.length && sameFields e g) = true) :
    (d.length == g.length && sameFields d g) = true := by
  rw [Bool.and_eq_true, beq_iff_eq, sameFields_iff] at hde heg ⊢
  refine ⟨hde.1.trans heg.1, fun f hf => ?_⟩
  obtain ⟨v, hv, hfv⟩ := hde.2 f hf
  obtain ⟨w, hw, hvw⟩ := heg.2 _ (Document.mem_of_get? hv)
  exact ⟨w, hw, h f hf v w hfv hvw⟩

/-- Values without others inside are the same where they are one, doubles apart. -/
theorem eq_or_double_of_same (hleaf : x.IsLeaf) (h : same x y = true) :
    x = y ∨ ∃ a b, x = double a ∧ y = double b := by
  cases x <;> cases y <;> first
    | exact .inl rfl
    | exact .inr ⟨_, _, rfl, rfl⟩
    | exact False.elim hleaf
    | cases h
    | simpa [same] using h

theorem same_trans (hxy : same x y = true) (hyz : same y z = true) : same x z = true := by
  induction x using induction generalizing y z with
  | leaf x hleaf =>
    rcases eq_or_double_of_same hleaf hxy with rfl | ⟨a, b, rfl, rfl⟩
    · exact hyz
    · cases z with
      | double c => exact Double.equal_trans hxy hyz
      | _ => cases hyz
  | array xs ih =>
    cases y with
    | array ys =>
      cases z with
      | array zs =>
        rw [same, sameItems_iff] at hxy hyz ⊢
        exact forall₂_trans (fun x hx y z => ih x hx) hxy hyz
      | _ => cases hyz
    | _ => cases hxy
  | document d ih =>
    cases y with
    | document e =>
      cases z with
      | document g => exact sameMap_trans (fun f hf y z => ih f hf) hxy hyz
      | _ => cases hyz
    | _ => cases hxy
  | scopedCode s d ih =>
    cases y with
    | scopedCode t e =>
      cases z with
      | scopedCode u g =>
        rw [same, Bool.and_eq_true, beq_iff_eq] at hxy hyz ⊢
        exact ⟨hxy.1.trans hyz.1, sameMap_trans (fun f hf y z => ih f hf) hxy.2 hyz.2⟩
      | _ => cases hyz
    | _ => cases hxy

/-! ## Equality by value -/

theorem rank_eq_of_equal (h : equal x y = true) : x.rank = y.rank := by
  cases x <;> cases y <;> first | rfl | cases h

/-- Equal numbers are at one place on the number line. -/
theorem equal_numbers_iff {a b : Value} (ha : a.isNumeric = true) (hb : b.isNumeric = true) :
    equal a b = true ↔ ∃ p, a.toFloat?.bind Double.position? = some p ∧ b.toFloat?.bind Double.position? = some p := by
  have hequal : equal a b = (a.toFloat?.bind fun x => b.toFloat?.map (Double.equal x)).getD false := by
    cases a <;> cases ha <;> cases b <;> cases hb <;> rfl
  rw [hequal]
  cases a.toFloat? with
  | none => simp
  | some x =>
    cases b.toFloat? with
    | none => simp
    | some y => exact Double.equal_iff x y

theorem equal_of_not_numeric (ha : x.isArray = false) (hd : x.isDocument = false) (hn : x.isNumeric = false) :
    equal x y = same x y := by
  rw [equal_whole (by rintro _ rfl; cases ha) (by rintro _ rfl; cases hd), hn, Bool.false_and]
  rfl

theorem equalItems_iff (xs ys : List Value) :
    equalItems xs ys = true ↔ List.Forall₂ (fun x y => equal x y = true) xs ys := by
  induction xs generalizing ys with
  | nil => cases ys <;> simp [equalItems]
  | cons x xs ih =>
    cases ys with
    | nil => simp [equalItems]
    | cons y ys => rw [equalItems, Bool.and_eq_true, ih, List.forall₂_cons]

theorem equalFields_iff (d e : Document) :
    equalFields d e = true ↔ List.Forall₂ (fun f g => f.1 = g.1 ∧ equal f.2 g.2 = true) d e := by
  induction d generalizing e with
  | nil => cases e <;> simp [equalFields]
  | cons f d ih =>
    cases e with
    | nil => simp [equalFields]
    | cons g e => rw [equalFields, Bool.and_eq_true, Bool.and_eq_true, beq_iff_eq, ih, List.forall₂_cons]

/-! ## Equality by value with itself -/

mutual

/-- No value that arrays and documents lead to is a decimal. -/
def DecimalFree : Value → Prop
  | decimal _ => False
  | document d => DecimalFreeFields d
  | array items => DecimalFreeItems items
  | _ => True
termination_by structural v => v

def DecimalFreeItems : List Value → Prop
  | [] => True
  | v :: rest => DecimalFree v ∧ DecimalFreeItems rest
termination_by structural vs => vs

def DecimalFreeFields : List (String × Value) → Prop
  | [] => True
  | (_, v) :: rest => DecimalFree v ∧ DecimalFreeFields rest
termination_by structural fs => fs

end

theorem decimalFreeItems_iff (items : List Value) : DecimalFreeItems items ↔ ∀ v ∈ items, v.DecimalFree := by
  induction items with
  | nil => simp [DecimalFreeItems]
  | cons v rest ih => rw [DecimalFreeItems, ih, List.forall_mem_cons]

theorem decimalFreeFields_iff (d : Document) : DecimalFreeFields d ↔ ∀ f ∈ d, f.2.DecimalFree := by
  induction d with
  | nil => simp [DecimalFreeFields]
  | cons f rest ih => rw [DecimalFreeFields, ih, List.forall_mem_cons]

/-- A well-formed value is equal to itself where it has no NaN and, scopes of codes apart, no decimal. -/
theorem equal_self_iff (hx : x.WellFormed) : equal x x = true ↔ x.NaNFree ∧ x.DecimalFree := by
  induction x using induction with
  | leaf x hleaf =>
    cases x with
    | int32 n => exact iff_of_true ((equal_numbers_iff rfl rfl).2 ⟨_, position?_of_integer (a := .int32 n) rfl,
        position?_of_integer (a := .int32 n) rfl⟩) ⟨trivial, trivial⟩
    | int64 n => exact iff_of_true ((equal_numbers_iff rfl rfl).2 ⟨_, position?_of_integer (a := .int64 n) rfl,
        position?_of_integer (a := .int64 n) rfl⟩) ⟨trivial, trivial⟩
    | double x => exact (Double.equal_self_iff x).trans (and_iff_left trivial).symm
    | decimal n => exact iff_of_false (fun h => nomatch h) fun h => h.2
    | array items => exact False.elim hleaf
    | document d => exact False.elim hleaf
    | scopedCode s d => exact False.elim hleaf
    | _ => exact (same_self_iff hx).trans (and_iff_left trivial).symm
  | array items ih =>
    rw [WellFormed, wellFormedItems_iff] at hx
    rw [equal, equalItems_iff, List.forall₂_same, NaNFree, DecimalFree, nanFreeItems_iff, decimalFreeItems_iff,
      ← forall₂_and]
    exact forall₂_congr fun v hv => ih v hv (hx v hv)
  | document d ih =>
    rw [WellFormed, wellFormedFields_iff] at hx
    rw [equal, equalFields_iff, List.forall₂_same, NaNFree, DecimalFree, nanFreeFields_iff, decimalFreeFields_iff,
      ← forall₂_and]
    exact forall₂_congr fun f hf => (and_iff_right rfl).trans (ih f hf (hx.2 f hf))
  | scopedCode s d ih => exact (same_self_iff hx).trans (and_iff_left trivial).symm

/-! ## Equality by value of three values -/

/-- What is equal to a value that is compared whole is of its bracket: both are numbers, or neither is. -/
theorem equal_trans_of_isFlat (hx : x.IsFlat) (hxy : equal x y = true) (hyz : equal y z = true) : equal x z = true := by
  have hrank := rank_eq_of_equal hxy
  by_cases hn : x.isNumeric = true
  · have hny := isNumeric_of_rank hn hrank
    have hnz := isNumeric_of_rank hny (rank_eq_of_equal hyz)
    obtain ⟨p, hpx, hpy⟩ := (equal_numbers_iff hn hny).1 hxy
    obtain ⟨q, hqy, hqz⟩ := (equal_numbers_iff hny hnz).1 hyz
    cases hpy.symm.trans hqy
    exact (equal_numbers_iff hn hnz).2 ⟨p, hpx, hqz⟩
  · have hny : y.isNumeric = false := Bool.eq_false_iff.2 fun hy => hn (isNumeric_of_rank hy hrank.symm)
    have hflat : ∀ {v : Value}, v.IsFlat → v.isArray = false ∧ v.isDocument = false := by
      intro v hv
      cases v <;> first | exact ⟨rfl, rfl⟩ | exact False.elim hv
    obtain ⟨hax, hdx⟩ := hflat hx
    obtain ⟨hay, hdy⟩ := hflat (isFlat_of_rank hx hrank)
    have hnx : x.isNumeric = false := Bool.eq_false_iff.2 hn
    rw [equal_of_not_numeric hax hdx hnx] at hxy ⊢
    rw [equal_of_not_numeric hay hdy hny] at hyz
    exact same_trans hxy hyz

theorem equal_trans (hxy : equal x y = true) (hyz : equal y z = true) : equal x z = true := by
  induction x using induction generalizing y z with
  | leaf x hleaf => exact equal_trans_of_isFlat hleaf.isFlat hxy hyz
  | scopedCode s d ih => exact equal_trans_of_isFlat (x := .scopedCode s d) trivial hxy hyz
  | array xs ih =>
    cases y with
    | array ys =>
      cases z with
      | array zs =>
        rw [equal, equalItems_iff] at hxy hyz ⊢
        exact forall₂_trans (fun x hx y z => ih x hx) hxy hyz
      | _ => cases hyz
    | _ => cases hxy
  | document d ih =>
    cases y with
    | document e =>
      cases z with
      | document g =>
        rw [equal, equalFields_iff] at hxy hyz ⊢
        exact forall₂_trans (fun f hf y z hfy hyz => ⟨hfy.1.trans hyz.1, ih f hf hfy.2 hyz.2⟩) hxy hyz
      | _ => cases hyz
    | _ => cases hxy

end Value

end DocQuery
