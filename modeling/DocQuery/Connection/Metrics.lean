import DocQuery.Json.Basic

/-!
# Counters of a connection

Seven counters of 64 bits that only grow and start again at zero behind their last value.
-/

namespace DocQuery

structure Metrics where
  /-- Statements that a store answered. -/
  executed : UInt64 := 0
  /-- Statements that a store refused. -/
  failed : UInt64 := 0
  /-- Statements that were recorded instead of executed. -/
  pretended : UInt64 := 0
  selects : UInt64 := 0
  writes : UInt64 := 0
  /-- Rows that selects gave. -/
  returned : UInt64 := 0
  /-- Documents that updates and deletes changed. -/
  affected : UInt64 := 0
  deriving DecidableEq, Repr

namespace Metrics

inductive Counter where
  | executed
  | failed
  | pretended
  | selects
  | writes
  | returned
  | affected
  deriving DecidableEq, Repr

namespace Counter

def all : List Counter := [executed, failed, pretended, selects, writes, returned, affected]

/-- The name that a counter is reported by. -/
def name : Counter → String
  | executed => "statements_executed"
  | failed => "statements_failed"
  | pretended => "statements_pretended"
  | selects => "selects"
  | writes => "writes"
  | returned => "documents_returned"
  | affected => "documents_affected"

end Counter

def get (m : Metrics) : Counter → UInt64
  | .executed => m.executed
  | .failed => m.failed
  | .pretended => m.pretended
  | .selects => m.selects
  | .writes => m.writes
  | .returned => m.returned
  | .affected => m.affected

/-- Adds to one counter. -/
def add (m : Metrics) (n : UInt64) : Counter → Metrics
  | .executed => { m with executed := m.executed + n }
  | .failed => { m with failed := m.failed + n }
  | .pretended => { m with pretended := m.pretended + n }
  | .selects => { m with selects := m.selects + n }
  | .writes => { m with writes := m.writes + n }
  | .returned => { m with returned := m.returned + n }
  | .affected => { m with affected := m.affected + n }

/-- Counts one more. -/
def count (m : Metrics) (c : Counter) : Metrics := m.add 1 c

/-- All counters by their names. -/
def toJson (m : Metrics) : Json := .object (Counter.all.map fun c => (c.name, .int (m.get c).toNat))

end Metrics

end DocQuery
