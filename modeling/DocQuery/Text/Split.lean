/-!
# Cutting a text at a character

    pieces sep s = first piece and the later ones
    join sep (pieces sep s) = s                          (join_pieces)
-/

namespace DocQuery.Split

/-! ## Algorithm -/

/-- The parts between the separators; there is always a first one. -/
def pieces (sep : Char) : List Char → List Char × List (List Char)
  | [] => ([], [])
  | c :: rest =>
    let (first, later) := pieces sep rest
    if c = sep then ([], first :: later) else (c :: first, later)

/-- Puts a separator before each later part. -/
def join (sep : Char) : List Char × List (List Char) → List Char
  | (first, later) => first ++ later.flatMap (sep :: ·)

/-- The text with one separator between neighbours. -/
def intercalate (sep : String) : List String → String
  | [] => ""
  | [s] => s
  | s :: rest => s ++ sep ++ intercalate sep rest

/-! ## Lemmas -/

theorem join_pieces (sep : Char) (s : List Char) : join sep (pieces sep s) = s := by
  induction s with
  | nil => rfl
  | cons c rest ih =>
    by_cases h : c = sep
    · subst h; simpa [pieces, join] using ih
    · simpa [pieces, join, h] using ih

theorem pieces_of_not_mem {sep : Char} {s : List Char} (h : sep ∉ s) : pieces sep s = (s, []) := by
  induction s with
  | nil => rfl
  | cons c rest ih =>
    simp only [List.mem_cons, not_or] at h
    have hc : ¬ c = sep := fun e => h.1 e.symm
    simp [pieces, ih h.2, hc]

end DocQuery.Split
