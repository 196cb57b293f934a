/-!
# What a store refuses

A store call either answers or stops.  It stops with an error that the caller can report, or because an
integer operation leaves its 64 bits: an overflow ends the call on the spot, and a store that was being
written at that moment stays locked for good.

    Outcome α = Except Failure α
-/

namespace DocQuery

/-- The failures a document store reports, each with what it concerns. -/
inductive StoreError where
  | duplicateKey (detail : String)
  | unsupportedOperator (name : String)
  | unsupportedStage (name : String)
  | invalidDocument (reason : String)
  | typeMismatch (reason : String)
  | unavailable (reason : String)
  | internal (reason : String)
  deriving DecidableEq, Repr

namespace StoreError

/-- The stable code of an error. -/
def code : StoreError → String
  | duplicateKey _ => "STORE_DUPLICATE_KEY"
  | unsupportedOperator _ => "STORE_UNSUPPORTED_OPERATOR"
  | unsupportedStage _ => "STORE_UNSUPPORTED_STAGE"
  | invalidDocument _ => "STORE_INVALID_DOCUMENT"
  | typeMismatch _ => "STORE_TYPE_MISMATCH"
  | unavailable _ => "STORE_UNAVAILABLE"
  | internal _ => "STORE_INTERNAL"

def message : StoreError → String
  | duplicateKey t => "Duplicate key: " ++ t
  | unsupportedOperator t => "Unsupported operator: " ++ t
  | unsupportedStage t => "Unsupported pipeline stage: " ++ t
  | invalidDocument t => "Invalid document: " ++ t
  | typeMismatch t => "Type mismatch: " ++ t
  | unavailable t => "Store unavailable: " ++ t
  | internal t => "Internal store error: " ++ t

/-- A store whose writer stopped half-way refuses every later call. -/
def poisoned : StoreError := internal "collection lock poisoned"

end StoreError

/-- Why a computation on stored values stops. -/
inductive Failure where
  | error (e : StoreError)
  | overflow
  deriving DecidableEq, Repr

abbrev Outcome (α : Type) := Except Failure α

namespace Outcome

def invalid {α : Type} (reason : String) : Outcome α := .error (.error (.invalidDocument reason))

def mismatch {α : Type} (reason : String) : Outcome α := .error (.error (.typeMismatch reason))

def unsupported {α : Type} (name : String) : Outcome α := .error (.error (.unsupportedOperator name))

/-- A result that can fail with an error of the store only. -/
def lift {α : Type} : Except StoreError α → Outcome α
  | .ok a => .ok a
  | .error e => .error (.error e)

/-- The integer a checked operation arrives at, when 64 bits hold it. -/
def checked (n : Int) : Outcome Int64 :=
  if Int64.minValue.toInt ≤ n ∧ n ≤ Int64.maxValue.toInt then .ok (Int64.ofInt n) else .error .overflow

/-- Whether some element passes, tested from the left up to the first that does or fails. -/
def any {α : Type} (test : α → Outcome Bool) : List α → Outcome Bool
  | [] => .ok false
  | a :: rest => do if ← test a then pure true else any test rest

/-- Whether all elements pass, tested from the left up to the first that does not or fails. -/
def all {α : Type} (test : α → Outcome Bool) : List α → Outcome Bool
  | [] => .ok true
  | a :: rest => do if ← test a then all test rest else pure false

/-- The elements that pass, in order; the first failure stops. -/
def keep {α : Type} (test : α → Outcome Bool) : List α → Outcome (List α)
  | [] => .ok []
  | a :: rest => do
    let passes ← test a
    let kept ← keep test rest
    pure (if passes then a :: kept else kept)

/-- The results in order; the first failure stops. -/
def traverse {α β : Type} (f : α → Outcome β) : List α → Outcome (List β)
  | [] => .ok []
  | a :: rest => do
    let b ← f a
    let bs ← traverse f rest
    pure (b :: bs)

end Outcome

end DocQuery
