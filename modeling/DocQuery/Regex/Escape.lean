/-!
# Literal text in regular expressions

A character with a meaning of its own stands for itself behind a backslash.
-/

namespace DocQuery.Regex

/-- The characters with a meaning of their own. -/
def metaCharacters : List Char :=
  ['\\', '.', '+', '*', '?', '(', ')', '|', '[', ']', '{', '}', '^', '$', '#', '&', '-', '~']

def isMeta (c : Char) : Bool := metaCharacters.contains c

/-- The expression that matches exactly one text. -/
def escape (s : List Char) : List Char := s.flatMap fun c => if isMeta c then ['\\', c] else [c]

end DocQuery.Regex
