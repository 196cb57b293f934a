import DocQuery.Document
import DocQuery.Number.Numeral
import DocQuery.Store.Error
import DocQuery.Text.Split

/-!
# Dotted paths

A path is one field name and the names below it: `a.b.0` is `a`, then `b`, then `0`.

    resolve   reads:   a name looks into a document; at an array a number picks an element
                       and any other name collects that field from the embedded documents
    set       writes:  embedded documents only, missing ones are created
    unset?    removes: embedded documents only

Reading sees through arrays, writing and removing do not.
-/

namespace DocQuery

structure Path where
  head : String
  tail : List String
  deriving DecidableEq, Repr

namespace Path

/-! ## Algorithm -/

/-- The names between the dots. -/
def parse (s : String) : Path :=
  match Split.pieces '.' s.toList with
  | (first, later) => ⟨String.ofList first, later.map String.ofList⟩

def names (p : Path) : List String := p.head :: p.tail

/-- The position in an array that a name stands for. -/
def arrayIndex? (name : String) : Option Nat := Numeral.unsigned? UInt64.size name.toList

/-- The field of an embedded document; other values have none. -/
def fieldOf? (name : String) : Value → Option Value
  | .document d => Document.get? d name
  | _ => none

/-- One step below a value. -/
def step (name : String) : Value → Option Value
  | .document d => Document.get? d name
  | .array items =>
    match arrayIndex? name with
    | some i => items[i]?
    | none =>
      match items.filterMap (fieldOf? name) with
      | [] => none
      | collected => some (.array collected)
  | _ => none

/-- The steps of a list of names, one after the other. -/
def descend : List String → Value → Option Value
  | [], v => some v
  | name :: rest, v => (step name v).bind (descend rest)

/-- The value at a path; none when the path leads nowhere. -/
def resolve (d : Document) (p : Path) : Option Value :=
  (Document.get? d p.head).bind (descend p.tail)

/-- Writing below a value that is no document. -/
def blocked (head : String) (rest : List String) : StoreError :=
  .invalidDocument
    ("cannot create field '" ++ Split.intercalate "." rest ++ "' inside non-document '" ++ head ++ "'")

def setFrom (v : Value) : String → List String → Document → Except StoreError Document
  | head, [], d => .ok (d.insert head v)
  | head, next :: rest, d =>
    match d.get? head with
    | none => (setFrom v next rest []).map fun e => d.insert head (.document e)
    | some (.document e) => (setFrom v next rest e).map fun e => d.insert head (.document e)
    | some _ => .error (blocked head (next :: rest))

/-- The document with the value written at the path. -/
def set (d : Document) (p : Path) (v : Value) : Except StoreError Document :=
  setFrom v p.head p.tail d

def unsetFrom? : String → List String → Document → Option Document
  | head, [], d => if d.contains head then some (d.erase head) else none
  | head, next :: rest, d =>
    match d.get? head with
    | some (.document e) => (unsetFrom? next rest e).map fun e => d.insert head (.document e)
    | _ => none

/-- The document without the value at the path; none when nothing was there. -/
def unset? (d : Document) (p : Path) : Option Document := unsetFrom? p.head p.tail d

/-- One path runs along the other from its start. -/
def IsPrefixOf (p q : Path) : Prop := p.names <+: q.names

end Path

end DocQuery
