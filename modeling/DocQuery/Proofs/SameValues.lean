import DocQuery.Value.Equality
import Mathlib.Data.List.Perm.Subperm

/-!
# Both equalities are symmetric

A value is well-formed when no document inside it has a name twice, as is the case of all values that documents
are built from.  On well-formed values neither equality depends on the side:

    x.WellFormed → y.WellFormed → same x y = same y x                         (same_comm)
    x.WellFormed → y.WellFormed → equal x y = equal y x                       (equal_comm)

For documents this is a count: as many distinct names on both sides, and each name of the one is one of the
other, so the names are the same (`sameFields_symm`).
-/

namespace DocQuery

namespace Value

/-! ## Well-formed values -/

mutual

/-- No document inside the value has a name twice. -/
def WellFormed : Value → Prop
  | document d => Document.Distinct d ∧ WellFormedFields d
  | array items => WellFormedItems items
  | scopedCode _ d => Document.Distinct d ∧ WellFormedFields d
  | _ => True
termination_by structural v => v

def WellFormedItems : List Value → Prop
  | [] => True
  | v :: rest => WellFormed v ∧ WellFormedItems rest
termination_by structural vs => vs

def WellFormedFields : List (String × Value) → Prop
  | [] => True
  | (_, v) :: rest => WellFormed v ∧ WellFormedFields rest
termination_by structural fs => fs

end

theorem wellFormedItems_iff (items : List Value) :
    WellFormedItems items ↔ ∀ v ∈ items, WellFormed v := by
  induction items with
  | nil => simp [WellFormedItems]
  | cons v rest ih => rw [WellFormedItems, ih, List.forall_mem_cons]

theorem wellFormedFields_iff (d : Document) : WellFormedFields d ↔ ∀ f ∈ d, WellFormed f.2 := by
  induction d with
  | nil => simp [WellFormedFields]
  | cons f rest ih => rw [WellFormedFields, ih, List.forall_mem_cons]

/-- A kind of value that holds no others. -/
def IsLeaf : Value → Prop
  | document _ => False
  | array _ => False
  | scopedCode _ _ => False
  | _ => True

/-- Induction over a value and all values inside it. -/
theorem induction {P : Value → Prop} (leaf : ∀ v, v.IsLeaf → P v)
    (array : ∀ items, (∀ v ∈ items, P v) → P (.array items))
    (document : ∀ d, (∀ f ∈ d, P f.2) → P (.document d))
    (scopedCode : ∀ s d, (∀ f ∈ d, P f.2) → P (.scopedCode s d)) (v : Value) : P v := by
  refine Value.rec (motive_1 := P) (motive_2 := fun d => ∀ f ∈ d, P f.2)
    (motive_3 := fun items => ∀ v ∈ items, P v) (motive_4 := fun f => P f.2)
    (fun _ => leaf _ trivial) (fun _ => leaf _ trivial) document array (fun _ _ => leaf _ trivial)
    (leaf _ trivial) (fun _ => leaf _ trivial) (fun _ => leaf _ trivial) (fun _ => leaf _ trivial)
    (leaf _ trivial) (fun _ => leaf _ trivial) (fun _ => leaf _ trivial) (fun _ => leaf _ trivial) scopedCode
    (fun _ => leaf _ trivial) (fun _ _ => leaf _ trivial) (fun _ => leaf _ trivial) (fun _ => leaf _ trivial)
    (leaf _ trivial) (leaf _ trivial) ?_ ?_ ?_ ?_ ?_ v
  · simp
  · exact fun _ _ hf hr => List.forall_mem_cons.2 ⟨hf, hr⟩
  · simp
  · exact fun _ _ hv hr => List.forall_mem_cons.2 ⟨hv, hr⟩
  · exact fun _ _ hv => hv

/-! ## Fields in any order -/

theorem sameFields_iff (d e : Document) :
    sameFields d e = true ↔ ∀ f ∈ d, ∃ w, Document.get? e f.1 = some w ∧ same f.2 w = true := by
  induction d with
  | nil => simp [sameFields]
  | cons f rest ih =>
    obtain ⟨k, v⟩ := f
    rw [sameFields, Bool.and_eq_true, ih, List.forall_mem_cons]
    cases Document.get? e k <;> simp

/-- As many names on both sides, each of the first among those of the second: each of the second is one of
the first. -/
theorem keys_subset_of_sameFields {d e : Document} (hd : d.Distinct) (hl : d.length = e.length)
    (h : sameFields d e = true) : e.keys ⊆ d.keys := by
  have hsub : d.keys ⊆ e.keys := by
    intro k hk
    obtain ⟨f, hf, rfl⟩ := List.mem_map.1 hk
    obtain ⟨w, hw, -⟩ := (sameFields_iff d e).1 h f hf
    exact List.mem_map.2 ⟨(f.1, w), Document.mem_of_get? hw, rfl⟩
  have hlen : e.keys.length ≤ d.keys.length := by
    simp [Document.keys, hl]
  exact ((List.Nodup.subperm hd hsub).perm_of_length_le hlen).symm.subset

theorem sameFields_symm {d e : Document} (hd : d.Distinct) (he : e.Distinct) (hl : d.length = e.length)
    (hs : ∀ f ∈ d, ∀ g ∈ e, same f.2 g.2 = same g.2 f.2) (h : sameFields d e = true) :
    sameFields e d = true := by
  rw [sameFields_iff]
  rintro ⟨k, w⟩ hw
  obtain ⟨f, hf, rfl⟩ := List.mem_map.1 (keys_subset_of_sameFields hd hl h (List.mem_map.2 ⟨_, hw, rfl⟩))
  obtain ⟨w', hw', hsame⟩ := (sameFields_iff d e).1 h f hf
  rw [Document.get?_of_mem he hw] at hw'
  cases hw'
  exact ⟨f.2, Document.get?_of_mem hd hf, by rw [← hs f hf _ hw]; exact hsame⟩

/-- Documents as maps: the same whichever is on the left. -/
theorem sameMap_comm {d e : Document} (hd : d.Distinct) (he : e.Distinct)
    (hs : ∀ f ∈ d, ∀ g ∈ e, same f.2 g.2 = same g.2 f.2) :
    (d.length == e.length && sameFields d e) = (e.length == d.length && sameFields e d) := by
  rw [Bool.eq_iff_iff, Bool.and_eq_true, Bool.and_eq_true, beq_iff_eq, beq_iff_eq]
  constructor
  · rintro ⟨hl, h⟩
    exact ⟨hl.symm, sameFields_symm hd he hl hs h⟩
  · rintro ⟨hl, h⟩
    exact ⟨hl.symm, sameFields_symm he hd hl (fun g hg f hf => (hs f hf g hg).symm) h⟩

theorem sameItems_comm {xs ys : List Value} (h : ∀ x ∈ xs, ∀ y ∈ ys, same x y = same y x) :
    sameItems xs ys = sameItems ys xs := by
  induction xs generalizing ys with
  | nil => cases ys <;> rfl
  | cons x xs ih =>
    cases ys with
    | nil => rfl
    | cons y ys =>
      rw [sameItems, sameItems, h x List.mem_cons_self y List.mem_cons_self,
        ih fun a ha b hb => h a (List.mem_cons_of_mem x ha) b (List.mem_cons_of_mem y hb)]

/-! ## Symmetry -/

theorem same_comm_of_isLeaf {x : Value} (hx : x.IsLeaf) (y : Value) : same x y = same y x := by
  cases x <;> cases hx <;> cases y <;> first | rfl | simp [same, BEq.comm, Double.equal_comm]

theorem same_comm {x y : Value} (hx : x.WellFormed) (hy : y.WellFormed) : same x y = same y x := by
  induction x using induction generalizing y with
  | leaf x hleaf => exact same_comm_of_isLeaf hleaf y
  | array xs ih =>
    cases y with
    | array ys =>
      rw [WellFormed, wellFormedItems_iff] at hx hy
      exact sameItems_comm fun a ha b hb => ih a ha (hx a ha) (hy b hb)
    | _ => rfl
  | document d ih =>
    cases y with
    | document e =>
      rw [WellFormed, wellFormedFields_iff] at hx hy
      rw [same, same]
      exact sameMap_comm hx.1 hy.1 fun f hf g hg => ih f hf (hx.2 f hf) (hy.2 g hg)
    | _ => rfl
  | scopedCode s d ih =>
    cases y with
    | scopedCode t e =>
      rw [WellFormed, wellFormedFields_iff] at hx hy
      rw [same, same, sameMap_comm hx.1 hy.1 fun f hf g hg => ih f hf (hx.2 f hf) (hy.2 g hg),
        BEq.comm (a := s)]
    | _ => rfl

/-! ## Equality by value -/

theorem equalItems_comm {xs ys : List Value} (h : ∀ x ∈ xs, ∀ y ∈ ys, equal x y = equal y x) :
    equalItems xs ys = equalItems ys xs := by
  induction xs generalizing ys with
  | nil => cases ys <;> rfl
  | cons x xs ih =>
    cases ys with
    | nil => rfl
    | cons y ys =>
      rw [equalItems, equalItems, h x List.mem_cons_self y List.mem_cons_self,
        ih fun a ha b hb => h a (List.mem_cons_of_mem x ha) b (List.mem_cons_of_mem y hb)]

theorem equalFields_comm {d e : Document} (h : ∀ f ∈ d, ∀ g ∈ e, equal f.2 g.2 = equal g.2 f.2) :
    equalFields d e = equalFields e d := by
  induction d generalizing e with
  | nil => cases e <;> rfl
  | cons f d ih =>
    cases e with
    | nil => rfl
    | cons g e =>
      obtain ⟨k, v⟩ := f
      obtain ⟨j, w⟩ := g
      rw [equalFields, equalFields, h _ List.mem_cons_self _ List.mem_cons_self,
        ih fun a ha b hb => h a (List.mem_cons_of_mem _ ha) b (List.mem_cons_of_mem _ hb), BEq.comm (a := k)]

/-- Values that are compared whole: numbers as doubles, all else strictly. -/
theorem equal_whole {x : Value} (ha : ∀ items, x ≠ array items) (hd : ∀ d, x ≠ document d) (y : Value) :
    equal x y = if x.isNumeric && y.isNumeric then
      match x.toFloat?, y.toFloat? with
      | some a, some b => Double.equal a b
      | _, _ => false
      else same x y := by
  cases x with
  | array items => exact absurd rfl (ha items)
  | document d => exact absurd rfl (hd d)
  | _ => rfl

theorem equal_comm_whole {x y : Value} (ha : ∀ items, x ≠ array items) (hd : ∀ d, x ≠ document d)
    (hs : same x y = same y x) : equal x y = equal y x := by
  have hnumbers : ∀ a b : Option Float, (match a, b with
      | some x, some y => Double.equal x y
      | _, _ => false) = match b, a with
      | some x, some y => Double.equal x y
      | _, _ => false := by
    intro a b
    cases a <;> cases b <;> simp [Double.equal_comm]
  by_cases hy : (∃ items, y = array items) ∨ ∃ d, y = document d
  · -- an array and a document are equal to their own kind only
    rcases hy with ⟨items, rfl⟩ | ⟨d, rfl⟩
    · cases x <;> first | rfl | exact absurd rfl (ha _)
    · cases x <;> first | rfl | exact absurd rfl (hd _)
  · simp only [not_or, not_exists] at hy
    rw [equal_whole ha hd, equal_whole hy.1 hy.2, hs, Bool.and_comm, hnumbers]

theorem equal_comm {x y : Value} (hx : x.WellFormed) (hy : y.WellFormed) : equal x y = equal y x := by
  induction x using induction generalizing y with
  | leaf x hleaf =>
    refine equal_comm_whole ?_ ?_ (same_comm hx hy)
    · rintro items rfl
      exact hleaf
    · rintro d rfl
      exact hleaf
  | array xs ih =>
    cases y with
    | array ys =>
      rw [WellFormed, wellFormedItems_iff] at hx hy
      exact equalItems_comm fun a ha b hb => ih a ha (hx a ha) (hy b hb)
    | _ => rfl
  | document d ih =>
    cases y with
    | document e =>
      rw [WellFormed, wellFormedFields_iff] at hx hy
      exact equalFields_comm fun f hf g hg => ih f hf (hx.2 f hf) (hy.2 g hg)
    | _ => rfl
  | scopedCode s d ih => exact equal_comm_whole (by simp) (by simp) (same_comm hx hy)

end Value
end DocQuery
