import DocQuery.Connection.Basic

/-!
# Connectors

A connector hands out stores in memory: configurations with the same address and database share one.

    connect c : Connector × Deployment → handle of c's store
-/

namespace DocQuery

/-- The handles given out so far, by the name of what they lead to. -/
structure Connector where
  handles : List (String × Nat) := []

namespace Connector

/-- What a configuration leads to. -/
def key (c : Config) : String := c.address ++ "/" ++ c.database

/-- The number of stores handed out. -/
def size (r : Connector) : Nat := r.handles.length

/-- The handle of a configuration's store, which is made when it is asked for first. -/
def connect (r : Connector) (d : Deployment) (c : Config) : Nat × Connector × Deployment :=
  match r.handles.lookup (key c) with
  | some handle => (handle, r, d)
  | none =>
    let (handle, d) := d.addBackend (.memory {})
    (handle, ⟨r.handles ++ [(key c, handle)]⟩, d)

/-- A connection of a valid configuration, with a handle of its own for reads that go elsewhere. -/
def openConnection (r : Connector) (d : Deployment) (c : Config) :
    Except ConfigError (Connection × Connector × Deployment) := do
  c.validate
  let (write, r, d) := r.connect d c
  let start : Connection := { name := c.name, database := c.database, write := write, config := some c }
  match c.forReads? with
  | none => pure (start, r, d)
  | some reads =>
    let (read, r, d) := r.connect d reads
    pure ({ start with read := some read }, r, d)

end Connector

end DocQuery
