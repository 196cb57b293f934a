import DocQuery.Regex.Escape
import DocQuery.Value

/-!
# Like patterns

`%` stands for any run of characters, `\%` for a percent sign, and every other character for itself.  The text
between the percent signs is escaped, the signs become `.*`, and an end without a sign is anchored:

    toPattern "%doe%" = .*doe.*       toPattern "a.b%" = ^a\.b.*       toPattern "x" = ^x$
-/

namespace DocQuery.Like

/-! ## Algorithm -/

inductive Token where
  | char (c : Char)
  | anyRun
  deriving DecidableEq, Repr

def tokens : List Char → List Token
  | '\\' :: '%' :: rest => .char '%' :: tokens rest
  | '%' :: rest => .anyRun :: tokens rest
  | c :: rest => .char c :: tokens rest
  | [] => []

/-- The literal parts between the runs. -/
def segments : List Token → List Char × List (List Char)
  | [] => ([], [])
  | .char c :: rest => match segments rest with
    | (first, later) => (c :: first, later)
  | .anyRun :: rest => match segments rest with
    | (first, later) => ([], first :: later)

/-- The expression of a list of segments: each later one comes behind `.*`. -/
def body : List Char × List (List Char) → List Char
  | (first, later) => Regex.escape first ++ later.flatMap fun s => '.' :: '*' :: Regex.escape s

/-- The expression of a pattern, anchored at each end that is no run. -/
def source (s : List Char) : List Char :=
  let parts := segments (tokens s)
  let openStart := parts.1.isEmpty && !parts.2.isEmpty
  let openEnd := match parts.2.getLast? with
    | some last => last.isEmpty
    | none => false
  (if openStart then [] else ['^']) ++ body parts ++ (if openEnd then [] else ['$'])

/-- The regular expression of a like pattern; case does not count. -/
def toPattern (s : String) : Pattern := ⟨String.ofList (source s.toList), "i"⟩

end DocQuery.Like
