import DocQuery.Statement.Basic

/-!
# Query logs

A log keeps the statements that it is given while it is enabled, in order.
-/

namespace DocQuery

structure LogEntry where
  kind : StatementKind
  collection : String
  /-- The statement's text. -/
  statement : String
  /-- Whether the statement was recorded instead of executed. -/
  pretended : Bool
  deriving DecidableEq, Repr

def LogEntry.of (s : Statement) (pretended : Bool) : LogEntry :=
  ⟨s.kind, s.collection, s.describe, pretended⟩

structure QueryLog where
  enabled : Bool := false
  entries : List LogEntry := []
  deriving DecidableEq, Repr

namespace QueryLog

def enable (log : QueryLog) : QueryLog := { log with enabled := true }

def disable (log : QueryLog) : QueryLog := { log with enabled := false }

/-- Adds an entry at the end when the log is enabled. -/
def record (log : QueryLog) (entry : LogEntry) : QueryLog :=
  if log.enabled then { log with entries := log.entries ++ [entry] } else log

/-- Removes the entries and keeps the log as enabled as it was. -/
def flush (log : QueryLog) : QueryLog := { log with entries := [] }

/-- The entries, and the log without them. -/
def take (log : QueryLog) : List LogEntry × QueryLog := (log.entries, log.flush)

end QueryLog

end DocQuery
