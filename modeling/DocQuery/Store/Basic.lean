import DocQuery.Store.Pipeline
import DocQuery.Store.Update
import DocQuery.Value.Display

/-!
# The store in memory

A store holds collections by name, and a collection its documents in the order of their insertion.  Every
document has an identifier, its field `_id`; no two of a collection have the same.

A write looks at its whole batch before it changes anything, so a call that fails leaves the store as it was.
A write that ends in an overflow leaves it locked.
-/

namespace DocQuery

/-! ## Identifiers -/

/-- Where new identifiers come from: each is one more than the last. -/
structure IdSupply where
  issued : Nat := 0
  deriving DecidableEq, Repr

namespace IdSupply

/-- The first identifier: its time, and the bytes that tell its machine from others. -/
def origin : Nat := 0x69a0c4e15b9d27f3 * Nat.pow 2 32

def first (supply : IdSupply) : ObjectId := ⟨BitVec.ofNat 96 (origin + supply.issued)⟩

def rest (supply : IdSupply) : IdSupply := ⟨supply.issued + 1⟩

/-- The document with its identifier; one without gets a new one, in front of its fields. -/
def identify (supply : IdSupply) (d : Document) : (Value × Document) × IdSupply :=
  match d.get? "_id" with
  | some id => ((id, d), supply)
  | none =>
    let id := Value.objectId supply.first
    ((id, ("_id", id) :: d), supply.rest)

/-- All documents with their identifiers. -/
def identifyAll (supply : IdSupply) : List Document → List (Value × Document) × IdSupply
  | [] => ([], supply)
  | d :: more =>
    let (entry, supply) := supply.identify d
    let (entries, supply) := supply.identifyAll more
    (entry :: entries, supply)

end IdSupply

/-! ## Collections -/

/-- The documents of an update's filter, and those that it changed. -/
structure UpdateCount where
  matched : Nat
  modified : Nat
  deriving DecidableEq, Repr

def UpdateCount.sum (counts : List UpdateCount) : UpdateCount :=
  ⟨(counts.map matched).foldr (· + ·) 0, (counts.map modified).foldr (· + ·) 0⟩

structure Store where
  /-- Collections in the order of their creation. -/
  collections : List (String × List Document) := []
  /-- A writer stopped half-way. -/
  poisoned : Bool := false

namespace Store

/-- The collection of that name, when there is one. -/
def collection? (s : Store) (name : String) : Option (List Document) := s.collections.lookup name

/-- The documents of a collection; a missing one has none. -/
def documents (s : Store) (name : String) : List Document := (s.collection? name).getD []

/-- The collections with one of them replaced, or added at the end. -/
def replaceIn (name : String) (docs : List Document) :
    List (String × List Document) → List (String × List Document)
  | [] => [(name, docs)]
  | (other, kept) :: rest =>
    if other = name then (name, docs) :: rest else (other, kept) :: replaceIn name docs rest

def replace (s : Store) (name : String) (docs : List Document) : Store :=
  { s with collections := replaceIn name docs s.collections }

/-- Whether a document of the list has the identifier. -/
def hasId (docs : List Document) (id : Value) : Bool :=
  docs.any fun d => match d.get? "_id" with
    | some other => Value.same other id
    | none => false

/-- Appends documents whose identifiers are new, the earlier ones of the batch included. -/
def appendNew (name : String) (docs : List Document) : List (Value × Document) → Outcome (List Document)
  | [] => .ok docs
  | (id, d) :: rest =>
    if hasId docs id then .error (.error (.duplicateKey (name ++ " _id " ++ id.display)))
    else appendNew name (docs ++ [d]) rest

/-! ## Calls -/

/-- Refuses a store that a writer left half-way. -/
def checkOpen (s : Store) : Outcome Unit := if s.poisoned then .error (.error .poisoned) else .ok ()

def aggregate (s : Store) (name : String) (pipeline : List Document) : Outcome (List Document) := do
  s.checkOpen
  Pipeline.run pipeline (s.documents name)

/-- Inserts identified documents, and creates the collection when it is missing. -/
def insertMany (s : Store) (name : String) (entries : List (Value × Document)) : Outcome Store := do
  s.checkOpen
  let docs ← appendNew name (s.documents name) entries
  pure (s.replace name docs)

/-- A document that a filter selects, changed where the update changes it. -/
def updateOne (filter update d : Document) : Outcome (Document × UpdateCount) := do
  if ← Filter.accepts filter d then
    match ← Update.changed? d update with
    | some changed => pure (changed, ⟨1, 1⟩)
    | none => pure (d, ⟨1, 0⟩)
  else pure (d, ⟨0, 0⟩)

def updateMany (s : Store) (name : String) (filter update : Document) : Outcome (Store × UpdateCount) := do
  s.checkOpen
  match s.collection? name with
  | none => pure (s, ⟨0, 0⟩)
  | some docs => do
    let updated ← Outcome.traverse (updateOne filter update) docs
    pure (s.replace name (updated.map Prod.fst), UpdateCount.sum (updated.map Prod.snd))

def deleteMany (s : Store) (name : String) (filter : Document) : Outcome (Store × Nat) := do
  s.checkOpen
  match s.collection? name with
  | none => pure (s, 0)
  | some docs => do
    let kept ← Outcome.keep (fun d => (Filter.accepts filter d).map (!·)) docs
    pure (s.replace name kept, docs.length - kept.length)

/-- Removes a collection; removing a missing one succeeds. -/
def drop (s : Store) (name : String) : Outcome Store := do
  s.checkOpen
  pure { s with collections := s.collections.filter fun c => c.1 != name }

/-! ## Views -/

/-- The names of the collections in order. -/
def names (s : Store) : Outcome (List String) := do
  s.checkOpen
  pure ((s.collections.map Prod.fst).mergeSort fun a b => a ≤ b)

def contents (s : Store) (name : String) : Outcome (List Document) := do
  s.checkOpen
  pure (s.documents name)

def count (s : Store) (name : String) : Outcome Nat := do
  s.checkOpen
  pure (s.documents name).length

/-- All collections in order of their names. -/
def toList (s : Store) : Outcome (List (String × List Document)) := do
  let names ← s.names
  pure (names.map fun name => (name, s.documents name))

/-- Every document has an identifier, and no two of a collection have the same. -/
def Identified (s : Store) : Prop :=
  ∀ c ∈ s.collections, ∀ i j : Nat, ∀ d e : Document, c.2[i]? = some d → c.2[j]? = some e →
    ∃ x y : Value, d.get? "_id" = some x ∧ e.get? "_id" = some y ∧ (i ≠ j → Value.same x y = false)

end Store

end DocQuery
