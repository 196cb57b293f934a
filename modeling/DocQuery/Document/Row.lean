import DocQuery.Document
import DocQuery.Value.Number

/-!
# Rows

A row is a result document; its fields are read as the kind that is asked for.
-/

namespace DocQuery.Row

/-- The identifier. -/
def id? (row : Document) : Option Value := row.get? "_id"

/-- An integer, or a double without a fraction. -/
def integer? (row : Document) (name : String) : Option Int64 :=
  match row.get? name with
  | some (.int32 n) => some (Int64.ofInt n.toInt)
  | some (.int64 n) => some n
  | some (.double x) => if Double.isIntegral x then some (Double.toInt64 x) else none
  | _ => none

/-- A number as a double. -/
def real? (row : Document) (name : String) : Option Float := (row.get? name).bind Value.toFloat?

def text? (row : Document) (name : String) : Option String :=
  match row.get? name with
  | some (.string s) => some s
  | _ => none

end DocQuery.Row
