import DocQuery.Unicode.Ranges

/-!
# White space

The white space of Unicode: twenty-five characters.  `trim` takes it off both ends of a text and `words` cuts
the text at it.
-/

namespace DocQuery

def Unicode.whiteSpace : Unicode.Ranges :=
  [(0x9, 0xD), (0x20, 0x20), (0x85, 0x85), (0xA0, 0xA0), (0x1680, 0x1680), (0x2000, 0x200A),
   (0x2028, 0x2029), (0x202F, 0x202F), (0x205F, 0x205F), (0x3000, 0x3000)]

namespace Blank

/-! ## Algorithm -/

def isBlank (c : Char) : Bool := Unicode.whiteSpace.contains c

def trimStart (s : List Char) : List Char := s.dropWhile isBlank

def trimEnd (s : List Char) : List Char := (s.reverse.dropWhile isBlank).reverse

/-- The text between its first and its last character that is not blank. -/
def trim (s : List Char) : List Char := trimEnd (trimStart s)

/-- The rest of the word a text starts with, and the words after it. -/
def wordsFrom : List Char → List Char × List (List Char)
  | [] => ([], [])
  | c :: rest =>
    let (word, later) := wordsFrom rest
    if isBlank c then ([], if word.isEmpty then later else word :: later) else (c :: word, later)

/-- The runs of characters that are not blank. -/
def words (s : List Char) : List (List Char) :=
  let (word, later) := wordsFrom s
  if word.isEmpty then later else word :: later

example : words " a  bc ".toList = [['a'], ['b', 'c']] := by decide +kernel

/-- Whether a text has nothing but white space. -/
def isEmpty (s : String) : Bool := s.toList.all isBlank

end Blank

end DocQuery
