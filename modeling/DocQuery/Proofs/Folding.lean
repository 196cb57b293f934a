import DocQuery.Unicode.CharSet
import Mathlib.Data.List.Chain
import Mathlib.Data.List.Pairwise

/-!
# Characters that differ in case only

The runs of the table ascend without overlapping, so one of them maps a code point at most (`image?_unique`).  What a
run maps to is mapped no further (`image?_image`), and all of it are characters.  So folding twice is folding once, and
the class of a character is what folds as it does:

    fold (fold c) = fold c                                                     (fold_fold)
    c ∈ foldClass d ↔ fold c = fold d                                          (mem_foldClass_iff)
    (folded (single c)).contains d ↔ fold c = fold d                           (contains_folded_single)
-/

namespace DocQuery.Unicode

/-! ## Runs -/

namespace CaseRun

theorem image?_eq_some_iff {r : CaseRun} {m n : Nat} : r.image? m = some n ↔
    r.first ≤ m ∧ m ≤ r.last ∧ (m - r.first) % r.step = 0 ∧ (m + r.offset).toNat = n := by
  rw [image?]
  split
  · rename_i h
    simp [h]
  · rename_i h
    constructor
    · nofun
    · rintro ⟨h₁, h₂, h₃, -⟩
      exact absurd ⟨h₁, h₂, h₃⟩ h

/-- A run comes after another one. -/
def Precedes (r s : CaseRun) : Prop := r.last < s.first ∧ s.first ≤ s.last

instance : DecidableRel Precedes := fun _ _ => inferInstanceAs (Decidable (_ ∧ _))

instance : IsTrans CaseRun Precedes := ⟨fun r s t h k => ⟨by have := h.2; have := k.1; have := h.1; omega, k.2⟩⟩

/-- Runs that map no code point in common. -/
def Apart (r s : CaseRun) : Prop := r.last < s.first ∨ s.last < r.first

instance : Std.Symm Apart := ⟨fun _ _ => Or.symm⟩

/-- Where the run maps to and what it maps are characters. -/
def WithinCharacters (r : CaseRun) : Bool :=
  decide (r.last < 0xD800 ∨ (0xDFFF < r.first ∧ r.last < 0x110000)) && decide (0 ≤ r.first + r.offset) &&
    decide (r.last + r.offset < 0xD800 ∨ (0xDFFF < r.first + r.offset ∧ r.last + r.offset < 0x110000))

/-- The images of a run lie before or behind another one, or between the code points that it maps. -/
def avoids (r s : CaseRun) : Bool :=
  Nat.blt (r.last + r.offset).toNat s.first || Nat.blt s.last (r.first + r.offset).toNat ||
    (Nat.beq s.step 2 && (Nat.beq r.step 2 || Nat.beq r.first r.last) &&
      Nat.beq (((r.first + r.offset).toNat - s.first) % 2) 1)

theorem image?_of_avoids {r s : CaseRun} (h : r.avoids s = true) {m n : Nat} (hm : r.image? m = some n) :
    s.image? n = none := by
  obtain ⟨hfirst, hlast, hstep, rfl⟩ := image?_eq_some_iff.1 hm
  cases hs : s.image? (m + r.offset).toNat with
  | none => rfl
  | some k =>
    obtain ⟨hfirst', hlast', hstep', -⟩ := image?_eq_some_iff.1 hs
    simp only [avoids, Bool.or_eq_true, Bool.and_eq_true, Nat.blt_eq, Nat.beq_eq] at h
    rcases h with (h | h) | ⟨⟨h, hr' | hr'⟩, hodd⟩
    · omega
    · omega
    · rw [h] at hstep'
      rw [hr'] at hstep
      omega
    · rw [h] at hstep'
      omega

end CaseRun

open CaseRun

/-! ## The table -/

theorem foldRuns_chain : foldRuns.IsChain Precedes := by decide +kernel

theorem withinCharacters_foldRuns : foldRuns.all WithinCharacters = true := by decide +kernel

theorem avoids_foldRuns : (foldRuns.all fun r => foldRuns.all fun s => r.avoids s) = true := by decide +kernel

section

variable {r s : CaseRun} {m n k : Nat}

/-- One run at most maps a code point. -/
theorem image?_unique (hr : r ∈ foldRuns) (hs : s ∈ foldRuns) (hn : r.image? m = some n) (hk : s.image? m = some k) :
    n = k := by
  have hapart : foldRuns.Pairwise Apart := (List.isChain_iff_pairwise.1 foldRuns_chain).imp fun h => .inl h.1
  obtain ⟨hfirst, hlast, -, hn⟩ := image?_eq_some_iff.1 hn
  obtain ⟨hfirst', hlast', -, hk⟩ := image?_eq_some_iff.1 hk
  by_cases hrs : r = s
  · subst hrs
    exact hn.symm.trans hk
  · rcases hapart.forall hr hs hrs with h | h <;> omega

theorem image?_image (hr : r ∈ foldRuns) (hs : s ∈ foldRuns) (hn : r.image? m = some n) : s.image? n = none := by
  have havoids := List.all_eq_true.1 (List.all_eq_true.1 avoids_foldRuns r hr) s hs
  exact image?_of_avoids havoids hn

theorem isValidChar_of_image? (hr : r ∈ foldRuns) (hn : r.image? m = some n) : m.isValidChar ∧ n.isValidChar := by
  have hwithin := List.all_eq_true.1 withinCharacters_foldRuns r hr
  simp only [WithinCharacters, Bool.and_eq_true, decide_eq_true_eq] at hwithin
  obtain ⟨hfirst, hlast, -, hn⟩ := image?_eq_some_iff.1 hn
  unfold Nat.isValidChar
  omega

/-- The image of a code point under the run that maps it. -/
theorem findSome?_foldRuns_iff : foldRuns.findSome? (·.image? m) = some n ↔ ∃ r ∈ foldRuns, r.image? m = some n := by
  constructor
  · exact List.exists_of_findSome?_eq_some
  · rintro ⟨r, hr, hn⟩
    cases hk : foldRuns.findSome? (·.image? m) with
    | none => exact absurd (List.findSome?_eq_none_iff.1 hk r hr) (by rw [hn]; nofun)
    | some k =>
      obtain ⟨s, hs, hk⟩ := List.exists_of_findSome?_eq_some hk
      rw [image?_unique hr hs hn hk]

end

/-! ## Folding -/

theorem toNat_ofNat {n : Nat} (h : n.isValidChar) : (Char.ofNat n).toNat = n := by
  rw [Char.ofNat, dif_pos h]
  rfl

variable {c d : Char}

/-- A character that folding changes is mapped by a run. -/
theorem fold_eq_iff : fold c = d ↔
    (∃ r ∈ foldRuns, r.image? c.toNat = some d.toNat) ∨ (c = d ∧ ∀ r ∈ foldRuns, r.image? c.toNat = none) := by
  rw [fold, mapBy]
  cases h : foldRuns.findSome? (·.image? c.toNat) with
  | none =>
    have hnone := List.findSome?_eq_none_iff.1 h
    constructor
    · exact fun hc => .inr ⟨hc, hnone⟩
    · rintro (⟨r, hr, hd⟩ | ⟨hc, -⟩)
      · exact absurd (hnone r hr) (by rw [hd]; nofun)
      · exact hc
  | some n =>
    obtain ⟨s, hs, hn⟩ := findSome?_foldRuns_iff.1 h
    have hvalid := (isValidChar_of_image? hs hn).2
    dsimp only
    constructor
    · rintro rfl
      exact .inl ⟨s, hs, by rw [hn, toNat_ofNat hvalid]⟩
    · rintro (⟨r, hr, hd⟩ | ⟨-, hnone⟩)
      · rw [image?_unique hs hr hn hd, Char.ofNat_toNat]
      · exact absurd (hnone s hs) (by rw [hn]; nofun)

theorem fold_fold (c : Char) : fold (fold c) = fold c := by
  rw [fold_eq_iff]
  refine .inr ⟨rfl, fun s hs => ?_⟩
  rcases fold_eq_iff.1 (rfl : fold c = fold c) with ⟨r, hr, hn⟩ | ⟨hc, hnone⟩
  · exact image?_image hr hs hn
  · rw [← hc]
    exact hnone s hs

/-- The class of a character is what has the same folded form. -/
theorem mem_foldClass_iff : c ∈ foldClass d ↔ fold c = fold d := by
  rw [foldClass, List.mem_cons, List.mem_map]
  constructor
  · rintro (rfl | ⟨m, hm, rfl⟩)
    · exact fold_fold d
    · obtain ⟨r, hr, hm⟩ := List.mem_filterMap.1 hm
      rw [CaseRun.preimage?] at hm
      split at hm
      · rename_i hn
        cases hm
        have hvalid := (isValidChar_of_image? hr hn).1
        exact fold_eq_iff.2 (.inl ⟨r, hr, by rw [toNat_ofNat hvalid]; exact hn⟩)
      · cases hm
  · intro h
    rcases fold_eq_iff.1 h with ⟨r, hr, hn⟩ | ⟨hc, -⟩
    · refine .inr ⟨c.toNat, List.mem_filterMap.2 ⟨r, hr, ?_⟩, Char.ofNat_toNat c⟩
      have hm : ((fold d).toNat - r.offset).toNat = c.toNat := by
        have hwithin := List.all_eq_true.1 withinCharacters_foldRuns r hr
        simp only [WithinCharacters, Bool.and_eq_true, decide_eq_true_eq] at hwithin
        obtain ⟨hfirst, -, -, hd⟩ := image?_eq_some_iff.1 hn
        omega
      rw [CaseRun.preimage?, hm, if_pos hn]
    · exact .inl hc

theorem CharSet.contains_single_iff : (single c).contains d = true ↔ c = d := by
  rw [single, contains, Bool.and_eq_true, decide_eq_true_eq, decide_eq_true_eq]
  constructor
  · rintro ⟨h, k⟩
    exact Char.toNat_inj.1 (Nat.le_antisymm h k)
  · rintro rfl
    exact ⟨Nat.le_refl _, Nat.le_refl _⟩

/-- A character in either case. -/
theorem CharSet.contains_folded_single (c d : Char) : (folded (single c)).contains d = true ↔ fold c = fold d := by
  rw [contains, List.any_eq_true]
  constructor
  · rintro ⟨e, he, hc⟩
    rw [contains_single_iff.1 hc]
    exact mem_foldClass_iff.1 he
  · exact fun h => ⟨c, mem_foldClass_iff.2 h, contains_single_iff.2 rfl⟩

end DocQuery.Unicode
