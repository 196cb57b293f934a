import DocQuery.Unicode.CaseMapping
import DocQuery.Unicode.Property

/-!
# Upper and lower case of texts

A text is mapped character by character.  One mapping looks around itself: the capital sigma becomes the final
form `ς` after a cased character and before none, characters without a case of their own passed over.

    lower "ΑΣ" = "ας"        lower "ΑΣΑ" = "ασα"        upper "straße" = "STRASSE"
-/

namespace DocQuery.Case

/-! ## Algorithm -/

def capitalSigma : Char := '\u03a3'

/-- Whether the first character that is not passed over is cased. -/
def meetsCased (s : List Char) : Bool :=
  match s.dropWhile Unicode.caseIgnorable.contains with
  | c :: _ => Unicode.cased.contains c
  | [] => false

/-- Lower case of a text whose characters before it are `before`, the nearest first. -/
def lowerFrom (before : List Char) : List Char → List Char
  | [] => []
  | c :: rest =>
    let form :=
      if c = capitalSigma then
        (if meetsCased before && !meetsCased rest then ['\u03c2'] else ['\u03c3'])
      else Unicode.lower c
    form ++ lowerFrom (c :: before) rest

def lower (s : List Char) : List Char := lowerFrom [] s

def upper (s : List Char) : List Char := s.flatMap Unicode.upper

/-- Lower case of the twenty-six letters only. -/
def lowerLatin (c : Char) : Char := if 'A' ≤ c ∧ c ≤ 'Z' then Char.ofNat (c.toNat + 32) else c

end DocQuery.Case
