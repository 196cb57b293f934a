import DocQuery.Proofs.Integers
import DocQuery.Proofs.SameValues
import DocQuery.Value.Order

/-!
# Where the order of values is one

`compare` is read the other way round for all values:

    compare b a = (compare a b).swap                                                  (compare_swap)

It is transitive where no NaN, no decimal and no symbol is compared (`Ordered`); these tie with values that do not
tie with each other.  The argument is about three values at once: what the first two and the last two say settles
what the outer two say (`Coherent`).  Brackets, numbers and texts do so as their own orders do (`of_ord`), and what
comes later in a lexicographic order counts where nothing earlier has settled it (`Coherent.then`):

    compare a b = rank, then compare a b                                              (rank_then_compare)
    arrays, documents = their parts, from the left                                    (compare_array, compare_document)

That is as far as it goes: every value that is not ordered lies between two that it ties with, or contains such a
value, and so breaks transitivity (`exists_of_not_ordered`).
-/

namespace DocQuery

/-! ## Three comparisons -/

/-- What is said of the first two and of the last two of three things, and what it says of the outer two. -/
structure Coherent (xy yz xz : Ordering) : Prop where
  left : xy = .eq → xz = yz
  right : yz = .eq → xz = xy
  same : xy = yz → xz = xy

namespace Coherent

theorem of_ord {α : Type} [Ord α] [Std.TransOrd α] (x y z : α) :
    Coherent (Ord.compare x y) (Ord.compare y z) (Ord.compare x z) where
  left h := Std.TransCmp.congr_left h
  right h := (Std.TransCmp.congr_right h).symm
  same h := by
    cases hxy : Ord.compare x y with
    | lt => exact Std.TransCmp.lt_trans hxy (h.symm.trans hxy)
    | eq => exact Std.TransCmp.eq_trans hxy (h.symm.trans hxy)
    | gt => exact Std.TransCmp.gt_trans hxy (h.symm.trans hxy)

theorem eq : Coherent .eq .eq .eq := ⟨fun _ => rfl, fun _ => rfl, fun _ => rfl⟩

variable {xy yz xz xy' yz' xz' : Ordering}

/-- In a lexicographic order the later part counts where the earlier one ties throughout. -/
theorem «then» (h : Coherent xy yz xz) (h' : xy = .eq → yz = .eq → Coherent xy' yz' xz') :
    Coherent (xy.then xy') (yz.then yz') (xz.then xz') := by
  cases xy <;> cases yz
  case eq.eq =>
    obtain rfl := h.left rfl
    exact h' rfl rfl
  case eq.lt | eq.gt =>
    rw [h.left rfl]
    exact ⟨fun _ => rfl, nofun, Eq.symm⟩
  case lt.eq | gt.eq =>
    rw [h.right rfl]
    exact ⟨nofun, fun _ => rfl, fun _ => rfl⟩
  case lt.lt | gt.gt =>
    rw [h.same rfl]
    exact ⟨nofun, nofun, fun _ => rfl⟩
  case lt.gt | gt.lt => exact ⟨nofun, nofun, nofun⟩

theorem isLE (h : Coherent xy yz xz) (hxy : xy ≠ .gt) (hyz : yz ≠ .gt) : xz ≠ .gt := by
  cases xy with
  | gt => exact absurd rfl hxy
  | eq => rw [h.left rfl]; exact hyz
  | lt =>
    cases yz with
    | gt => exact absurd rfl hyz
    | eq => rw [h.right rfl]; nofun
    | lt => rw [h.same rfl]; nofun

end Coherent

/-! ## Lists, from the left -/

namespace Lexicographic

open List (compareLex compareLex_cons_cons)

variable {α : Type} {cmp : α → α → Ordering}

theorem swap {xs ys : List α} (h : ∀ x ∈ xs, ∀ y, cmp y x = (cmp x y).swap) :
    compareLex cmp ys xs = (compareLex cmp xs ys).swap := by
  induction xs generalizing ys with
  | nil => cases ys <;> rfl
  | cons x xs ih =>
    cases ys with
    | nil => rfl
    | cons y ys =>
      obtain ⟨hx, hxs⟩ := List.forall_mem_cons.1 h
      rw [compareLex_cons_cons, compareLex_cons_cons, hx y, ih hxs, Ordering.swap_then]

theorem coherent {xs ys zs : List α}
    (h : ∀ x ∈ xs, ∀ y ∈ ys, ∀ z ∈ zs, Coherent (cmp x y) (cmp y z) (cmp x z)) :
    Coherent (compareLex cmp xs ys) (compareLex cmp ys zs) (compareLex cmp xs zs) := by
  induction xs generalizing ys zs with
  | nil =>
    cases ys with
    | nil => exact ⟨fun _ => rfl, id, Eq.symm⟩
    | cons y ys =>
      cases zs with
      | nil => exact ⟨nofun, nofun, nofun⟩
      | cons z zs => exact ⟨nofun, fun _ => rfl, fun _ => rfl⟩
  | cons x xs ih =>
    cases ys with
    | nil =>
      cases zs with
      | nil => exact ⟨nofun, fun _ => rfl, nofun⟩
      | cons z zs => exact ⟨nofun, nofun, nofun⟩
    | cons y ys =>
      cases zs with
      | nil => exact ⟨fun _ => rfl, nofun, Eq.symm⟩
      | cons z zs =>
        rw [compareLex_cons_cons, compareLex_cons_cons, compareLex_cons_cons]
        refine (h x List.mem_cons_self y List.mem_cons_self z List.mem_cons_self).then fun _ _ => ih ?_
        exact fun a ha b hb c hc => h a (List.mem_cons_of_mem x ha) b (List.mem_cons_of_mem y hb) c
          (List.mem_cons_of_mem z hc)

/-- Lists that differ at one place compare as they do there. -/
theorem replace (hcmp : ∀ a, cmp a a = .eq) (before after : List α) (x y : α) :
    compareLex cmp (before ++ x :: after) (before ++ y :: after) = cmp x y := by
  have hself : ∀ zs : List α, compareLex cmp zs zs = .eq := by
    intro zs
    induction zs with
    | nil => rfl
    | cons z zs ih => rw [compareLex_cons_cons, hcmp z, ih]; rfl
  induction before with
  | nil => rw [List.nil_append, List.nil_append, compareLex_cons_cons, hself, Ordering.then_eq]
  | cons z zs ih => rw [List.cons_append, List.cons_append, compareLex_cons_cons, hcmp z, ih]; rfl

end Lexicographic

namespace Value

/-! ## Brackets, then parts -/

/-- Fields compare by their names and then by their values. -/
def compareField (f g : String × Value) : Ordering := (Ord.compare f.1 g.1).then (compare f.2 g.2)

theorem compareItems_eq (xs ys : List Value) : compareItems xs ys = List.compareLex compare xs ys := by
  induction xs generalizing ys with
  | nil => cases ys <;> rfl
  | cons x xs ih =>
    cases ys with
    | nil => rfl
    | cons y ys => rw [compareItems, ih, List.compareLex_cons_cons]; rfl

theorem compareFields_eq (d e : Document) : compareFields d e = List.compareLex compareField d e := by
  induction d generalizing e with
  | nil => cases e <;> rfl
  | cons f d ih =>
    cases e with
    | nil => rfl
    | cons g e => rw [compareFields, ih, List.compareLex_cons_cons]; rfl

theorem compare_array (xs ys : List Value) : compare (.array xs) (.array ys) = List.compareLex compare xs ys :=
  compareItems_eq xs ys

theorem compare_document (d e : Document) :
    compare (.document d) (.document e) = List.compareLex compareField d e := compareFields_eq d e

/-- A value that is compared without looking into others. -/
def IsFlat : Value → Prop
  | array _ => False
  | document _ => False
  | _ => True

theorem IsLeaf.isFlat {v : Value} (h : v.IsLeaf) : v.IsFlat := by cases v <;> first | exact trivial | cases h

theorem isFlat_of_rank {a b : Value} (ha : a.IsFlat) (h : a.rank = b.rank) : b.IsFlat := by
  cases b with
  | array ys => cases a <;> first | exact False.elim ha | cases h
  | document e => cases a <;> first | exact False.elim ha | cases h
  | _ => exact trivial

theorem compare_of_rank_ne {a b : Value} (h : a.rank ≠ b.rank) : compare a b = Ord.compare a.rank b.rank := if_neg h

theorem compare_of_isFlat {a b : Value} (ha : a.IsFlat) (h : a.rank = b.rank) :
    compare a b = (scalarOrder? a b).getD .eq := by
  have hwithin : within? a b = if a.rank = b.rank then scalarOrder? a b else none := by
    cases a <;> first | rfl | cases ha
  rw [compare, settle, hwithin, if_pos h, if_pos h]

/-- The bracket counts first. -/
theorem rank_then_compare (a b : Value) : (Ord.compare a.rank b.rank).then (compare a b) = compare a b := by
  by_cases h : a.rank = b.rank
  · rw [Nat.compare_eq_eq.2 h]
    rfl
  · rw [compare_of_rank_ne h]
    cases Ord.compare a.rank b.rank <;> rfl

/-! ## The other way round -/

theorem numberOrder?_swap (a b : Value) : numberOrder? b a = (numberOrder? a b).map Ordering.swap := by
  have hdouble : ∀ x y : Float, Double.compare? y x = (Double.compare? x y).map Ordering.swap := by
    intro x y
    rw [Double.compare?, Double.compare?]
    cases Double.position? x <;> cases Double.position? y <;> try rfl
    exact congrArg some Std.OrientedCmp.eq_swap
  rw [numberOrder?, numberOrder?]
  cases a.toFloat? <;> cases b.toFloat? <;> first | rfl | exact hdouble ..

theorem scalarOrder?_of_numeric {a b : Value} (ha : a.isNumeric = true) (hb : b.isNumeric = true) :
    scalarOrder? a b = numberOrder? a b := by
  cases a <;> cases ha <;> cases b <;> cases hb <;> rfl

theorem scalarOrder?_swap (a b : Value) : scalarOrder? b a = (scalarOrder? a b).map Ordering.swap := by
  by_cases h : a.isNumeric = true ∧ b.isNumeric = true
  · rw [scalarOrder?_of_numeric h.1 h.2, scalarOrder?_of_numeric h.2 h.1, numberOrder?_swap]
  · cases a <;> cases b
    case timestamp.timestamp t i u j =>
      refine congrArg some ?_
      rw [Ordering.swap_then, ← Std.OrientedCmp.eq_swap, ← Std.OrientedCmp.eq_swap]
    all_goals first
      | rfl
      | exact congrArg some Std.OrientedCmp.eq_swap
      | exact absurd ⟨rfl, rfl⟩ h

theorem compare_swap_of_isFlat {a : Value} (ha : a.IsFlat) (b : Value) : compare b a = (compare a b).swap := by
  by_cases h : a.rank = b.rank
  · rw [compare_of_isFlat ha h, compare_of_isFlat (isFlat_of_rank ha h) h.symm, scalarOrder?_swap]
    cases scalarOrder? a b <;> rfl
  · rw [compare_of_rank_ne h, compare_of_rank_ne (Ne.symm h), Nat.compare_swap]

/-- The order is read the other way round. -/
theorem compare_swap (a b : Value) : compare b a = (compare a b).swap := by
  induction a using induction generalizing b with
  | leaf a ha => exact compare_swap_of_isFlat ha.isFlat b
  | scopedCode s d => exact compare_swap_of_isFlat (a := .scopedCode s d) trivial b
  | array xs ih =>
    cases b with
    | array ys => rw [compare_array, compare_array, Lexicographic.swap ih]
    | _ => rfl
  | document d ih =>
    cases b with
    | document e =>
      rw [compare_document, compare_document]
      refine Lexicographic.swap fun f hf g => ?_
      rw [compareField, compareField, ih f hf, Ordering.swap_then, ← Std.OrientedOrd.eq_swap]
    | _ => rfl

theorem compare_self (a : Value) : compare a a = .eq := by
  have h := compare_swap a a
  cases hc : compare a a with
  | eq => rfl
  | _ => rw [hc] at h; cases h

/-! ## Ordered values -/

mutual

/-- The order of the value looks at no NaN, no decimal and no symbol. -/
def Ordered : Value → Prop
  | double x => Double.isNaN x = false
  | decimal _ => False
  | symbol _ => False
  | document d => OrderedFields d
  | array items => OrderedItems items
  | _ => True
termination_by structural v => v

def OrderedItems : List Value → Prop
  | [] => True
  | v :: rest => Ordered v ∧ OrderedItems rest
termination_by structural vs => vs

def OrderedFields : List (String × Value) → Prop
  | [] => True
  | (_, v) :: rest => Ordered v ∧ OrderedFields rest
termination_by structural fs => fs

end

theorem ordered_array (items : List Value) : (array items).Ordered ↔ ∀ v ∈ items, v.Ordered := by
  rw [Ordered]
  induction items with
  | nil => simp [OrderedItems]
  | cons v rest ih => rw [OrderedItems, ih, List.forall_mem_cons]

theorem ordered_document (d : Document) : (document d).Ordered ↔ ∀ f ∈ d, f.2.Ordered := by
  rw [Ordered]
  induction d with
  | nil => simp [OrderedFields]
  | cons f rest ih => rw [OrderedFields, ih, List.forall_mem_cons]

/-! ## Three values -/

theorem position?_of_ordered {v : Value} (h : v.Ordered) (hn : v.isNumeric = true) :
    ∃ p, v.toFloat?.bind Double.position? = some p := by
  cases v with
  | int32 n => exact ⟨_, position?_of_integer (a := .int32 n) rfl⟩
  | int64 n => exact ⟨_, position?_of_integer (a := .int64 n) rfl⟩
  | double x =>
    have hposition : Double.position? x = if Double.isNegative x then some (-(Double.magnitude x : Int))
        else some (Double.magnitude x) := if_neg (ne_true_of_eq_false h)
    rw [toFloat?, Option.bind_some, hposition]
    cases Double.isNegative x <;> exact ⟨_, rfl⟩
  | decimal d => cases h
  | _ => cases hn

theorem numberOrder?_of_positions {a b : Value} {p q : Int} (ha : a.toFloat?.bind Double.position? = some p)
    (hb : b.toFloat?.bind Double.position? = some q) : numberOrder? a b = some (Ord.compare p q) := by
  obtain ⟨x, hx, hp⟩ := Option.bind_eq_some_iff.1 ha
  obtain ⟨y, hy, hq⟩ := Option.bind_eq_some_iff.1 hb
  have hdouble : numberOrder? a b = Double.compare? x y := by rw [numberOrder?, hx, hy]
  rw [hdouble, Double.compare?, hp, hq]

theorem isNumeric_of_rank {a b : Value} (ha : a.isNumeric = true) (h : a.rank = b.rank) : b.isNumeric = true := by
  have hrank : a.rank = 2 := by cases a <;> first | rfl | cases ha
  cases b <;> first | rfl | cases hrank.symm.trans h

theorem scalarOrder?_coherent {a b c : Value} (ha : a.Ordered) (hb : b.Ordered) (hc : c.Ordered)
    (hab : a.rank = b.rank) (hbc : b.rank = c.rank) : Coherent ((scalarOrder? a b).getD .eq)
      ((scalarOrder? b c).getD .eq) ((scalarOrder? a c).getD .eq) := by
  by_cases hna : a.isNumeric = true
  · have hnb := isNumeric_of_rank hna hab
    have hnc := isNumeric_of_rank hnb hbc
    obtain ⟨p, hp⟩ := position?_of_ordered ha hna
    obtain ⟨q, hq⟩ := position?_of_ordered hb hnb
    obtain ⟨r, hr⟩ := position?_of_ordered hc hnc
    rw [scalarOrder?_of_numeric hna hnb, scalarOrder?_of_numeric hnb hnc, scalarOrder?_of_numeric hna hnc,
      numberOrder?_of_positions hp hq, numberOrder?_of_positions hq hr, numberOrder?_of_positions hp hr]
    exact .of_ord p q r
  · cases a <;> cases b <;> cases hab <;> cases c <;> cases hbc
    case timestamp.timestamp.refl.timestamp.refl => exact (Coherent.of_ord ..).then fun _ _ => .of_ord ..
    all_goals first
      | exact Coherent.eq
      | exact Coherent.of_ord ..
      | exact absurd rfl hna
      | exact False.elim ha
      | exact False.elim hb
      | exact False.elim hc

theorem compare_coherent_of_isFlat {a b c : Value} (hflat : a.IsFlat) (ha : a.Ordered) (hb : b.Ordered)
    (hc : c.Ordered) (hab : a.rank = b.rank) (hbc : b.rank = c.rank) :
    Coherent (compare a b) (compare b c) (compare a c) := by
  rw [compare_of_isFlat hflat hab, compare_of_isFlat (isFlat_of_rank hflat hab) hbc,
    compare_of_isFlat hflat (hab.trans hbc)]
  exact scalarOrder?_coherent ha hb hc hab hbc

theorem eq_array_of_rank {v : Value} {xs : List Value} (h : (array xs).rank = v.rank) : ∃ ys, v = array ys := by
  cases v with
  | array ys => exact ⟨ys, rfl⟩
  | _ => cases h

theorem eq_document_of_rank {v : Value} {d : Document} (h : (document d).rank = v.rank) : ∃ e, v = document e := by
  cases v with
  | document e => exact ⟨e, rfl⟩
  | _ => cases h

theorem coherent_of_rank {a b c : Value}
    (h : a.rank = b.rank → b.rank = c.rank → Coherent (compare a b) (compare b c) (compare a c)) :
    Coherent (compare a b) (compare b c) (compare a c) := by
  rw [← rank_then_compare a b, ← rank_then_compare b c, ← rank_then_compare a c]
  exact (Coherent.of_ord ..).then fun hab hbc => h (Nat.compare_eq_eq.1 hab) (Nat.compare_eq_eq.1 hbc)

/-- Of ordered values, two comparisons in a row settle the third. -/
theorem compare_coherent {a b c : Value} (ha : a.Ordered) (hb : b.Ordered) (hc : c.Ordered) :
    Coherent (compare a b) (compare b c) (compare a c) := by
  induction a using induction generalizing b c with
  | leaf a hleaf => exact coherent_of_rank (compare_coherent_of_isFlat hleaf.isFlat ha hb hc)
  | scopedCode s d => exact coherent_of_rank (compare_coherent_of_isFlat trivial ha hb hc)
  | array xs ih =>
    refine coherent_of_rank fun hab hbc => ?_
    obtain ⟨ys, rfl⟩ := eq_array_of_rank hab
    obtain ⟨zs, rfl⟩ := eq_array_of_rank hbc
    rw [ordered_array] at ha hb hc
    rw [compare_array, compare_array, compare_array]
    exact Lexicographic.coherent fun x hx y hy z hz => ih x hx (ha x hx) (hb y hy) (hc z hz)
  | document d ih =>
    refine coherent_of_rank fun hab hbc => ?_
    obtain ⟨e, rfl⟩ := eq_document_of_rank hab
    obtain ⟨g, rfl⟩ := eq_document_of_rank hbc
    rw [ordered_document] at ha hb hc
    rw [compare_document, compare_document, compare_document]
    refine Lexicographic.coherent fun x hx y hy z hz => ?_
    exact (Coherent.of_ord ..).then fun _ _ => ih x hx (ha x hx) (hb y hy) (hc z hz)

/-! ## Values that are not ordered -/

theorem compare_nan {x : Float} (h : Double.isNaN x = true) (n : Int32) : compare (.int32 n) (.double x) = .eq := by
  have hposition : Double.position? x = none := if_pos h
  have hcompare : compare (.int32 n) (.double x) = (Double.compare? (Float.ofInt n.toInt) x).getD .eq := rfl
  rw [hcompare, Double.compare?, hposition]
  cases Double.position? (Float.ofInt n.toInt) <;> rfl

/-- A value that is not ordered ties with two that do not tie with each other, or has such a part. -/
theorem exists_of_not_ordered {b : Value} (hb : ¬ b.Ordered) :
    ∃ a c, compare a b ≠ .gt ∧ compare b c ≠ .gt ∧ compare a c = .gt := by
  induction b using induction with
  | leaf v hv =>
    cases v with
    | double x =>
      have hnan : Double.isNaN x = true := Bool.eq_true_of_not_eq_false hb
      refine ⟨.int32 1, .int32 0, ?_, ?_, by decide⟩
      · rw [compare_nan hnan]
        nofun
      · rw [compare_swap, compare_nan hnan]
        nofun
    | decimal d => exact ⟨.int32 1, .int32 0, nofun, nofun, by decide⟩
    | symbol s => exact ⟨.string "b", .string "a", nofun, nofun, by decide⟩
    | _ => first | exact False.elim hv | exact absurd trivial hb
  | scopedCode s d => exact absurd trivial hb
  | array xs ih =>
    obtain ⟨x, hx, hn⟩ : ∃ x ∈ xs, ¬ x.Ordered := by simpa [ordered_array] using hb
    obtain ⟨a, c, hax, hxc, hac⟩ := ih x hx hn
    obtain ⟨before, after, rfl⟩ := List.append_of_mem hx
    refine ⟨.array (before ++ a :: after), .array (before ++ c :: after), ?_, ?_, ?_⟩
    all_goals rw [compare_array, Lexicographic.replace compare_self]
    all_goals assumption
  | document d ih =>
    obtain ⟨⟨k, x⟩, hx, hn⟩ : ∃ f ∈ d, ¬ f.2.Ordered := by simpa [ordered_document] using hb
    obtain ⟨a, c, hax, hxc, hac⟩ := ih _ hx hn
    obtain ⟨before, after, rfl⟩ := List.append_of_mem hx
    have hfield : ∀ v w, compareField (k, v) (k, w) = compare v w := fun v w => by
      rw [compareField, Std.ReflOrd.compare_self, Ordering.eq_then]
    have hself : ∀ f, compareField f f = .eq := fun f => by
      rw [compareField, compare_self, Ordering.then_eq, Std.ReflOrd.compare_self]
    refine ⟨.document (before ++ (k, a) :: after), .document (before ++ (k, c) :: after), ?_, ?_, ?_⟩
    all_goals rw [compare_document, Lexicographic.replace hself, hfield]
    all_goals assumption

/-! ## The order as a whole -/

/-- The order is read the other way round for all values.  It is transitive on ordered values, which are all values
but those that break it themselves. -/
theorem compare_spec (a b c : Value) : compare b a = (compare a b).swap ∧
    (a.Ordered → b.Ordered → c.Ordered → compare a b ≠ .gt → compare b c ≠ .gt → compare a c ≠ .gt) ∧
    (¬ b.Ordered → ∃ x y, compare x b ≠ .gt ∧ compare b y ≠ .gt ∧ compare x y = .gt) :=
  ⟨compare_swap a b, fun ha hb hc => (compare_coherent ha hb hc).isLE, exists_of_not_ordered⟩

theorem compare_spec_nested :
    let a : Value := .document [("at", .timestamp 7 1), ("of", .array [.null, .int64 2])]
    let two : Value := .double (Float.ofBits 0x4000000000000000)
    let b : Value := .document [("at", .timestamp 7 1), ("of", .array [.undefined, two])]
    let c : Value := .document [("at", .timestamp 7 1), ("of", .array [.null, .string "2"])]
    let nan : Value := .array [.boolean true, .double Double.nan]
    a.Ordered ∧ b.Ordered ∧ c.Ordered ∧ compare a b ≠ .gt ∧ compare b c ≠ .gt ∧ compare a c ≠ .gt ∧
      compare c a = (compare a c).swap ∧ ¬ nan.Ordered ∧
      ∃ x y, compare x nan ≠ .gt ∧ compare nan y ≠ .gt ∧ compare x y = .gt := by
  intro a two b c nan
  have ha : a.Ordered := ⟨trivial, ⟨trivial, trivial, trivial⟩, trivial⟩
  have htwo : Double.isNaN (Float.ofBits 0x4000000000000000) = false := by decide
  have hb : b.Ordered := ⟨trivial, ⟨trivial, htwo, trivial⟩, trivial⟩
  have hc : c.Ordered := ⟨trivial, ⟨trivial, trivial, trivial⟩, trivial⟩
  have hab : compare a b ≠ .gt := by decide
  have hbc : compare b c ≠ .gt := by decide
  have hnan : ¬ nan.Ordered := fun h => ne_true_of_eq_false h.2.1 (by decide)
  exact ⟨ha, hb, hc, hab, hbc, (compare_spec a b c).2.1 ha hb hc hab hbc, (compare_spec a c b).1, hnan,
    (compare_spec a nan c).2.2 hnan⟩

/-- A NaN and a decimal stand between any two numbers, a symbol between any two strings. -/
theorem compare_ties :
    (compare (.int32 1) (.double Double.nan) = .eq ∧ compare (.double Double.nan) (.int32 0) = .eq ∧
      compare (.int32 1) (.int32 0) = .gt) ∧
    (compare (.int32 1) (.decimal ⟨0⟩) = .eq ∧ compare (.decimal ⟨0⟩) (.int32 0) = .eq) ∧
    compare (.string "b") (.symbol "s") = .eq ∧ compare (.symbol "s") (.string "a") = .eq ∧
      compare (.string "b") (.string "a") = .gt := by
  decide

end Value

end DocQuery
