import DocQuery.Unicode.Ranges

/-!
# Ranges in UTF-8

A range of code points is written in UTF-8 by sequences of byte ranges: a text of one character is in the range
when each of its bytes is in its place of one of the sequences.

    41-5A     [41-5A]
    7F-81     [7F] [C2][80-81]
    80-FFF    [C2-DF][80-BF] [E0][A0-BF][80-BF]

The sequences are in the order of the code points, so sequences that start alike are neighbours.
-/

namespace DocQuery.Unicode.Utf8

/-- The ranges of the bytes of a character, one for each byte. -/
abbrev Sequence := List (Nat × Nat)

/-! ## Algorithm -/

/-- What every byte of a character but the first has on top of six bits of the code point. -/
def continuation : Nat := 0x80

/-- The sequences for the numbers from `first` to `last`, whose lowest `6 * n` bits stand in `n` continuing
bytes; `mark` is what the leading byte has on top. -/
def sequencesOf (mark : Nat) : Nat → Nat → Nat → List Sequence
  | 0, first, last => [[(mark + first, mark + last)]]
  | n + 1, first, last =>
    let unit := Nat.pow 64 (n + 1)
    let (a, b) := (first / unit, last / unit)
    let (low, high) := (first % unit, last % unit)
    let below (lead least most : Nat) : List Sequence :=
      (sequencesOf continuation n least most).map fun s => (mark + lead, mark + lead) :: s
    if a = b then below a low high
    else
      -- leads with only some of their numbers at either end, and full ones between them
      let start := if low = 0 then [] else below a low (unit - 1)
      let stop := if high = unit - 1 then [] else below b 0 high
      let firstFull := if low = 0 then a else a + 1
      let endFull := if high = unit - 1 then b + 1 else b
      let full :=
        if firstFull < endFull then
          [(mark + firstFull, mark + endFull - 1) :: List.replicate (n + 1) (continuation, continuation + 63)]
        else []
      start ++ full ++ stop

/-- Code points whose characters have one number of bytes. -/
structure Width where
  first : Nat
  last : Nat
  continuing : Nat
  mark : Nat

/-- The widths in the order of the code points, those that are no characters left out. -/
def widths : List Width :=
  [⟨0x0, 0x7F, 0, 0x0⟩, ⟨0x80, 0x7FF, 1, 0xC0⟩, ⟨0x800, 0xD7FF, 2, 0xE0⟩, ⟨0xE000, 0xFFFF, 2, 0xE0⟩,
   ⟨0x10000, 0x10FFFF, 3, 0xF0⟩]

/-- The sequences for the characters of ascending ranges. -/
def sequences (rs : Ranges) : List Sequence :=
  rs.flatMap fun r => widths.flatMap fun w =>
    let (first, last) := (max r.1 w.first, min r.2 w.last)
    if first ≤ last then sequencesOf w.mark w.continuing first last else []

/-! ## Lemmas -/

example : sequences [(0x7F, 0x81)] = [[(0x7F, 0x7F)], [(0xC2, 0xC2), (0x80, 0x81)]] := by decide +kernel

example : sequences [(0x80, 0xFFF)]
    = [[(0xC2, 0xDF), (0x80, 0xBF)], [(0xE0, 0xE0), (0xA0, 0xBF), (0x80, 0xBF)]] := by decide +kernel

end DocQuery.Unicode.Utf8
