import DocQuery.Query.Basic
import DocQuery.Number.Numeral
import DocQuery.Query.Like
import DocQuery.Statement.Error
import DocQuery.Value.Kind
import DocQuery.Value.Number

/-!
# Filter documents of predicates

Every predicate becomes a filter document of its own.  A list of clauses is cut into runs at each Or; a run is
the conjunction of its documents and the runs are joined by `$or`, so And binds tighter than Or:

    a and b or c    =    { $or: [ {a, b}, {c} ] }

A conjunction merges documents with different keys into one and keeps documents that share a key apart under
`$and`, so no condition is lost.
-/

namespace DocQuery.FilterDocument

/-! ## Single predicates -/

/-- The document with one field. -/
def field (column : String) (condition : Value) : Document := [(column, condition)]

/-- The condition of a native operator. -/
def operator (name : String) (argument : Value) : Value := .document [("$" ++ name, argument)]

def notNull (column : String) : Document := field column (.document [("$ne", .null)])

def negate (negated : Bool) (p : Pattern) : Value :=
  if negated then operator "not" (.regex p) else .regex p

/-- Cuts a text at the last occurrence of a character. -/
def cutLast? (c : Char) : List Char → Option (List Char × List Char)
  | [] => none
  | d :: rest =>
    match cutLast? c rest with
    | some (front, back) => some (d :: front, back)
    | none => if d = c then some ([], rest) else none

/-- Letters in order, each once. -/
def letterSet (letters : List Char) : List Char :=
  (letters.mergeSort fun a b => a.toNat ≤ b.toNat).eraseReps

/-- Reads `/pattern/flags`: the first character is the delimiter, and the pattern runs to its last
occurrence. -/
def parseDelimited? (raw : String) : Option Pattern :=
  match raw.toList with
  | [] => none
  | delimiter :: rest =>
    (cutLast? delimiter rest).map fun (pattern, flags) =>
      ⟨String.ofList pattern, String.ofList (letterSet flags)⟩

/-- The regular expression that a value gives, as it is or delimited in a text. -/
def toPattern (column : String) : Value → Compiled Pattern
  | .regex p => .ok p
  | .string raw =>
    match parseDelimited? raw with
    | some p => .ok p
    | none => .error (.invalidArgument
        ("regex on '" ++ column ++ "' needs a delimited pattern, got '" ++ raw ++ "'"))
  | other => .error (.invalidArgument
      ("regex on '" ++ column ++ "' needs a string or regex, got " ++ other.elementName))

def basic (column operatorText : String) (value : Value) : Compiled Document :=
  match Operator.parse? operatorText with
  | none => .error (.invalidOperator operatorText)
  | some .equals => .ok (field column value)
  | some (.like negated) =>
    match value with
    | .string pattern => .ok (field column (negate negated (Like.toPattern pattern)))
    | _ => .error (.invalidArgument ("like on '" ++ column ++ "' needs a string pattern"))
  | some (.regex negated) => (toPattern column value).map fun p => field column (negate negated p)
  | some (.native name) => .ok (field column (operator name value))

def between (column : String) (low high : Value) (negated : Bool) : Document :=
  if negated then
    [("$or", .array [.document (field column (operator "lt" low)),
      .document (field column (operator "gt" high))])]
  else field column (.document [("$gte", low), ("$lte", high)])

/-- The integer that a day, month or year is compared with. -/
def wholeNumber (column : String) (value : Value) : Compiled Value :=
  let refused (shown : String) : Compiled Value :=
    .error (.invalidArgument ("date part on '" ++ column ++ "' needs an integer, got " ++ shown))
  match value with
  | .int32 n => .ok (.ofInt64 (Int64.ofInt n.toInt))
  | .int64 n => .ok (.ofInt64 n)
  | .double x => if Double.isIntegral x then .ok (.ofInt64 (Double.toInt64 x)) else refused value.elementName
  | .string s =>
    match Numeral.signed64? (Blank.trim s.toList) with
    | some n => .ok (.ofInt64 n)
    | none => refused ("'" ++ s ++ "'")
  | other => refused other.elementName

/-- The expression that renders a date by a format. -/
def rendered (format path : String) : Value :=
  .document [("$dateToString", .document [("format", .string format), ("date", .string path)])]

def date (column : String) (part : DatePart) (operatorText : String) (value : Value) : Compiled Document :=
  match Operator.comparison? operatorText with
  | none => .error (.invalidOperator operatorText)
  | some comparison => do
    let path := "$" ++ column
    let (extract, literal) ← match part with
      | .day => do pure (Value.document [("$dayOfMonth", .string path)], ← wholeNumber column value)
      | .month => do pure (Value.document [("$month", .string path)], ← wholeNumber column value)
      | .year => do pure (Value.document [("$year", .string path)], ← wholeNumber column value)
      | .date => pure (rendered "%Y-%m-%d" path, value)
      | .time => pure (rendered "%H:%M:%S" path, value)
    pure [("$expr", operator comparison (.array [extract, literal]))]

def refusal : RelationalForm → Construct
  | .column => .columnComparison
  | .nested => .nestedGroups
  | .inSubquery => .subqueryMembership
  | .notInSubquery => .subqueryMembership
  | .exists => .existsSubquery
  | .subquery => .subqueryComparison

/-- The filter document of one predicate. -/
def ofPredicate : Predicate → Compiled Document
  | .basic column op value => basic column op value
  | .isIn column values => .ok (field column (operator "in" (.array values)))
  | .notIn column values => .ok (field column (operator "nin" (.array values)))
  | .null column => .ok (field column .null)
  | .notNull column => .ok (notNull column)
  | .between column low high negated => .ok (between column low high negated)
  | .date column part op value => date column part op value
  | .raw expression => .ok expression
  | .relational form => .error (.unsupported (refusal form))

/-! ## Lists of clauses -/

/-- The rest of the run that a list continues, and the runs after it. -/
def continueRun {α : Type} : List (Connective × α) → List α × List (List α)
  | [] => ([], [])
  | (.and, a) :: rest =>
    let (run, later) := continueRun rest
    (a :: run, later)
  | (.or, a) :: rest =>
    let (run, later) := continueRun rest
    ([], (a :: run) :: later)

/-- The runs of And between the Ors; how the first element is joined does not matter. -/
def runs {α : Type} : List (Connective × α) → List (List α)
  | [] => []
  | (_, a) :: rest =>
    let (run, later) := continueRun rest
    (a :: run) :: later

/-- All fields of the documents in one, when no key occurs in two of them. -/
def merge? (merged : Document) : List Document → Option Document
  | [] => some merged
  | d :: rest => if d.keys.any merged.contains then none else merge? (merged ++ d) rest

/-- The document that matches what all of the documents match; empty documents add nothing. -/
def conjoin (fragments : List Document) : Document :=
  let kept := fragments.filter fun d => !d.isEmpty
  match merge? [] kept with
  | some merged => merged
  | none => [("$and", .array (kept.map .document))]

/-- The document that matches what one of the documents matches; no documents match everything. -/
def disjoin : List Document → Document
  | [] => []
  | [d] => d
  | ds => [("$or", .array (ds.map .document))]

/-- The filter documents of the clauses; the first clause without one decides the error. -/
def fragments : List Clause → Compiled (List (Connective × Document))
  | [] => .ok []
  | c :: rest => do
    let d ← ofPredicate c.predicate
    let ds ← fragments rest
    pure ((c.connective, d) :: ds)

/-- The filter document of a list of clauses. -/
def ofClauses (clauses : List Clause) : Compiled Document :=
  (fragments clauses).map fun ds => disjoin ((runs ds).map conjoin)

end DocQuery.FilterDocument
