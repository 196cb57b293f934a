import DocQuery.Text.Hex
import DocQuery.Unicode.Property

/-!
# Quoted texts

A text between quotes, in which whatever does not show by itself is escaped:

    a"b        "a\"b"
    line end   "\n"
    U+0301     the hexadecimal digits in braces behind \u
-/

namespace DocQuery.Quoted

/-! ## Algorithm -/

/-- Whether a character shows by itself: it is no control, no separator but the space, it is assigned, and it
does not attach to the character before it. -/
def isVisible (c : Char) : Bool :=
  c == ' ' ||
    !(Unicode.Category.others.contains c || Unicode.Category.separators.contains c
      || Unicode.graphemeExtend.contains c)

/-- One character between quotes. -/
def escape (c : Char) : List Char :=
  if c = '"' then ['\\', '"']
  else if c = '\\' then ['\\', '\\']
  else if c = '\n' then ['\\', 'n']
  else if c = '\r' then ['\\', 'r']
  else if c = '\t' then ['\\', 't']
  else if c = '\x00' then ['\\', '0']
  else if isVisible c then [c]
  else '\\' :: 'u' :: '{' :: Hex.short c.toNat ++ ['}']

def quote (s : String) : String := String.ofList ('"' :: s.toList.flatMap escape ++ ['"'])

end DocQuery.Quoted
