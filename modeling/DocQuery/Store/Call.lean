import DocQuery.Store.Basic

/-!
# Store calls

A call names what a client asks of a store, and a reply what it gets.  A deployment is all stores that clients
share, each behind a handle, and the one supply of new identifiers:

    perform h call : Deployment → Outcome Reply × Deployment

A call that fails leaves every store as it was, but a write that overflows locks its store.  Done in place, step by
step, a call comes to the same (`Store.performInPlace_eq_perform`).
-/

namespace DocQuery

inductive StoreCall where
  | aggregate (collection : String) (pipeline : List Document)
  | insertMany (collection : String) (documents : List Document)
  | insertOne (collection : String) (document : Document)
  | updateMany (collection : String) (filter update : Document)
  | deleteMany (collection : String) (filter : Document)
  | drop (collection : String)

/-- Whether the call holds the store locked while it looks at documents. -/
def StoreCall.isWrite : StoreCall → Bool
  | aggregate .. => false
  | _ => true

/-- The supply behind the identifiers of a call.  They are drawn before the call looks at the store, so one that
is refused has used them up as well. -/
def StoreCall.drawn (supply : IdSupply) : StoreCall → IdSupply
  | insertMany _ docs => (supply.identifyAll docs).2
  | insertOne _ d => (supply.identify d).2
  | _ => supply

inductive StoreReply where
  | rows (documents : List Document)
  /-- The identifiers of inserted documents. -/
  | ids (ids : List Value)
  | id (id : Value)
  | updated (count : UpdateCount)
  | deleted (count : Nat)
  | dropped

namespace Store

/-- The store and the supply after a call that succeeds, and its reply. -/
def answer (s : Store) (supply : IdSupply) : StoreCall → Outcome (StoreReply × Store × IdSupply)
  | .aggregate name pipeline => do
    let rows ← s.aggregate name pipeline
    pure (.rows rows, s, supply)
  | .insertMany name docs => do
    let (entries, supply) := supply.identifyAll docs
    let s ← s.insertMany name entries
    pure (.ids (entries.map Prod.fst), s, supply)
  | .insertOne name d => do
    let (entry, supply) := supply.identify d
    let s ← s.insertMany name [entry]
    pure (.id entry.1, s, supply)
  | .updateMany name filter update => do
    let (s, count) ← s.updateMany name filter update
    pure (.updated count, s, supply)
  | .deleteMany name filter => do
    let (s, count) ← s.deleteMany name filter
    pure (.deleted count, s, supply)
  | .drop name => do
    let s ← s.drop name
    pure (.dropped, s, supply)

/-- Makes a call. -/
def perform (s : Store) (supply : IdSupply) (call : StoreCall) : Outcome StoreReply × Store × IdSupply :=
  match s.answer supply call with
  | .ok (reply, s, supply) => (.ok reply, s, supply)
  | .error .overflow => (.error .overflow, { s with poisoned := s.poisoned || call.isWrite }, call.drawn supply)
  | .error (.error e) => (.error (.error e), s, call.drawn supply)

end Store

/-- What stands behind a handle. -/
inductive Backend where
  | memory (store : Store)
  /-- A store that cannot be reached. -/
  | unreachable (reason : String)

structure Deployment where
  backends : List Backend := []
  supply : IdSupply := {}

namespace Deployment

/-- Adds a backend and gives its handle. -/
def addBackend (d : Deployment) (b : Backend) : Nat × Deployment :=
  (d.backends.length, { d with backends := d.backends ++ [b] })

/-- The store behind a handle, when it is one in memory. -/
def store? (d : Deployment) (handle : Nat) : Option Store :=
  match d.backends[handle]? with
  | some (.memory s) => some s
  | _ => none

/-- Makes a call on the backend behind a handle. -/
def perform (d : Deployment) (handle : Nat) (call : StoreCall) : Outcome StoreReply × Deployment :=
  match d.backends[handle]? with
  | some (.memory s) =>
    let (reply, s, supply) := s.perform d.supply call
    (reply, ⟨d.backends.set handle (.memory s), supply⟩)
  | some (.unreachable reason) => (.error (.error (.unavailable reason)), d)
  | none => (.error (.error (.unavailable "no backend")), d)

end Deployment

end DocQuery
