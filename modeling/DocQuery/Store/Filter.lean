import DocQuery.Regex.Parser
import DocQuery.Store.Expression

/-!
# Filters

A filter is a document of conditions that a stored document has to meet all of:

    { path: value }             the value at the path equals, or is an array with an equal element
    { path: { $op: argument } } the value at the path passes every operator
    { $and: [f, …] }  $or  $nor other filters, joined
    { $expr: e }                the expression is true

Conditions are tested from the left up to the first one that is not met.  An operator that is not known is an
error where it is met, never a miss.
-/

namespace DocQuery.Filter

/-! ## Equality and comparison -/

/-- Equality of a value with a wanted one: an array may be equal as a whole or have an equal element, and null
is also what a missing value equals. -/
def equals : Option Value → Value → Bool
  | none, target => target.isNull
  | some (.array items), target =>
    Value.equal (.array items) target || items.any fun item => Value.equal item target
  | some v, target => Value.equal v target

/-- Whether a value is ordered to a bound as wanted; values of another bracket never are. -/
def isOrdered (wanted : Ordering → Bool) (bound v : Value) : Bool :=
  match Value.within? v bound with
  | some o => wanted o
  | none => false

/-- Comparison with a bound: some element of an array has to pass, unless the bound is an array too.  A missing
value is as large as null. -/
def compares (wanted : Ordering → Bool) (bound : Value) : Option Value → Bool
  | none => bound.isNull && wanted .eq
  | some (.array items) =>
    if bound.isArray then isOrdered wanted bound (.array items) else items.any (isOrdered wanted bound)
  | some v => isOrdered wanted bound v

/-! ## Operators on one value -/

inductive Operator where
  | equal
  | notEqual
  | comparison (wanted : Ordering → Bool)
  | among
  | notAmong
  | present
  | kind
  | remainder
  | pattern
  | patternOptions
  | negation
  | containsAll
  | length
  | someElement

def operator? (name : String) : Option Operator :=
  match name with
  | "$eq" => some .equal
  | "$ne" => some .notEqual
  | "$gt" => some (.comparison Ordering.isGT)
  | "$gte" => some (.comparison Ordering.isGE)
  | "$lt" => some (.comparison Ordering.isLT)
  | "$lte" => some (.comparison Ordering.isLE)
  | "$in" => some .among
  | "$nin" => some .notAmong
  | "$exists" => some .present
  | "$type" => some .kind
  | "$mod" => some .remainder
  | "$regex" => some .pattern
  | "$options" => some .patternOptions
  | "$not" => some .negation
  | "$all" => some .containsAll
  | "$size" => some .length
  | "$elemMatch" => some .someElement
  | _ => none

/-- Whether a value is a text that a part of matches the expression. -/
def isMatchingText (r : Regex) : Value → Bool
  | .string s => r.isMatch s.toList
  | _ => false

/-- A text, or some text of an array, has to match the pattern. -/
def matchesPattern (p : Pattern) (v : Option Value) : Outcome Bool :=
  match p.compile? with
  | none => Outcome.invalid ("bad regex /" ++ p.source ++ "/")
  | some r =>
    match v with
    | some (.array items) => .ok (items.any (isMatchingText r))
    | some v => .ok (isMatchingText r v)
    | none => .ok false

/-- One candidate of a list: a pattern or a value. -/
def meetsCandidate (v : Option Value) : Value → Outcome Bool
  | .regex p => matchesPattern p v
  | target => .ok (equals v target)

/-- Whether a value meets one of the candidates. -/
def isAmong (name : String) (v : Option Value) : Value → Outcome Bool
  | .array candidates => Outcome.any (meetsCandidate v) candidates
  | _ => Outcome.invalid (name ++ " needs an array")

/-- Whether a value equals each of the required ones; of an empty list nothing does. -/
def hasAll (v : Option Value) : Value → Outcome Bool
  | .array required => .ok (!required.isEmpty && required.all (equals v))
  | _ => Outcome.invalid "$all needs an array"

/-- Whether a value is an array of that length. -/
def hasLength (v : Option Value) (argument : Value) : Outcome Bool :=
  match argument.toInt64? with
  | none => Outcome.mismatch "$size needs a number"
  | some n =>
    match v with
    | some (.array items) => .ok ((items.length : Int) == n.toInt)
    | _ => .ok false

/-- Whether the integer of a number leaves that remainder. -/
def leaves (divisor remainder : Int64) (v : Value) : Outcome Bool :=
  match v.toInt64? with
  | some n => (Arithmetic.integerRemainder n divisor).map (· == remainder)
  | none => .ok false

/-- Divisor and remainder of a division test. -/
def divisionOf : Value → Outcome (Int64 × Int64)
  | .array [d, r] =>
    match d.toInt64?, r.toInt64? with
    | none, _ => Outcome.mismatch "$mod divisor"
    | _, none => Outcome.mismatch "$mod remainder"
    | some divisor, some remainder =>
      if divisor = 0 then Outcome.invalid "$mod divisor cannot be zero" else .ok (divisor, remainder)
  | _ => Outcome.invalid "$mod needs [divisor, remainder]"

def dividesWith (v : Option Value) (argument : Value) : Outcome Bool := do
  let (divisor, remainder) ← divisionOf argument
  match v with
  | some (.array items) => Outcome.any (leaves divisor remainder) items
  | some v => leaves divisor remainder v
  | none => pure false

/-- The test that a number or an alias of a kind stands for. -/
def kindTest? : Value → Option (Value → Bool)
  | .string name =>
    if name = "number" then some Value.isNumeric else some fun v => v.typeAlias? == some name
  | spec => spec.toInt64?.map fun code => fun v => v.typeCode? == some code.toInt

/-- Whether a value is of the kind, or an array with an element of it. -/
def hasKind (v : Value) (spec : Value) : Outcome Bool :=
  match kindTest? spec with
  | none => Outcome.invalid "$type needs a type code or alias"
  | some test =>
    match v with
    | .array items => .ok (test v || items.any test)
    | _ => .ok (test v)

/-- Whether a value is of one of the kinds; a missing value is of none. -/
def hasSomeKind (v : Option Value) (argument : Value) : Outcome Bool :=
  match v with
  | none => .ok false
  | some v =>
    match argument with
    | .array specs => Outcome.any (hasKind v) specs
    | spec => hasKind v spec

/-- The text that a field holds. -/
def textAt? (d : Document) (name : String) : Option String :=
  match d.get? name with
  | some (.string s) => some s
  | _ => none

/-- The pattern of an argument; options beside it take the place of its own. -/
def patternOf (options : Option String) : Value → Outcome Pattern
  | .regex p => .ok ⟨p.source, options.getD p.options⟩
  | .string source => .ok ⟨source, options.getD ""⟩
  | _ => Outcome.invalid "$regex needs a string or regex"

/-- Whether the first field of a document is an operator. -/
def isOperatorDocument (d : Document) : Bool :=
  match d with
  | [] => false
  | (name, _) :: _ => Expression.isOperatorName name

/-! ## Filters -/

inductive Logical where
  | conjunction
  | disjunction
  | joint
  deriving DecidableEq, Repr

def logical? (name : String) : Option Logical :=
  match name with
  | "$and" => some .conjunction
  | "$or" => some .disjunction
  | "$nor" => some .joint
  | _ => none

/-- Filters to join: at least one, and documents only. -/
def checkFilters (name : String) (items : List Value) : Outcome Unit :=
  if items.isEmpty then Outcome.invalid (name ++ " needs a non-empty array of filters")
  else if items.all Value.isDocument then .ok ()
  else Outcome.invalid (name ++ " entries must be documents")

/-- Whether elements are tested by the operators themselves, and not as documents by a filter. -/
def isElementTest (condition : Document) : Bool :=
  isOperatorDocument condition &&
    !condition.keys.any fun name => name == "$and" || name == "$or" || name == "$nor" || name == "$expr"

mutual

/-- Whether a document meets a filter. -/
def accepts : List (String × Value) → Document → Outcome Bool
  | [], _ => .ok true
  | (name, condition) :: rest, d => do
    let onValue := meets condition
    let met ← match logical? name with
      | some op =>
        match condition with
        | .array items => do
          checkFilters name items
          match op with
          | .conjunction => acceptsAll items d
          | .disjunction => acceptsAny items d
          | .joint => (acceptsAny items d).map (!·)
        | _ => Outcome.invalid (name ++ " needs a non-empty array of filters")
      | none =>
        if name = "$expr" then (Expression.evaluate condition d).map Value.truthy
        else if Expression.isOperatorName name then Outcome.unsupported name
        else onValue (Path.resolve d (Path.parse name))
    if met then accepts rest d else pure false
termination_by structural filter => filter

/-- Whether a document meets every filter of a list. -/
def acceptsAll : List Value → Document → Outcome Bool
  | [], _ => .ok true
  | .document filter :: rest, d => do
    if ← accepts filter d then acceptsAll rest d else pure false
  | _ :: rest, d => acceptsAll rest d
termination_by structural filters => filters

/-- Whether a document meets some filter of a list. -/
def acceptsAny : List Value → Document → Outcome Bool
  | [], _ => .ok false
  | .document filter :: rest, d => do
    if ← accepts filter d then pure true else acceptsAny rest d
  | _ :: rest, d => acceptsAny rest d
termination_by structural filters => filters

/-- Whether a value meets a condition: operators, a pattern, or a value to equal. -/
def meets : Value → Option Value → Outcome Bool
  | .document operators, v =>
    if isOperatorDocument operators then passes operators operators v
    else .ok (equals v (.document operators))
  | .regex p, v => matchesPattern p v
  | target, v => .ok (equals v target)
termination_by structural condition => condition

/-- Whether a value passes all operators of a list, which `whole` holds together. -/
def passes (whole : Document) : List (String × Value) → Option Value → Outcome Bool
  | [], _ => .ok true
  | (name, argument) :: rest, v => do
    if ← passesOperator whole name argument v then passes whole rest v else pure false
termination_by structural operators => operators

/-- Whether a value passes one operator. -/
def passesOperator (whole : Document) (name : String) : Value → Option Value → Outcome Bool
  | argument, v =>
    match operator? name with
    | some .equal => .ok (equals v argument)
    | some .notEqual => .ok (!equals v argument)
    | some (.comparison wanted) => .ok (compares wanted argument v)
    | some .among => isAmong name v argument
    | some .notAmong => (isAmong name v argument).map (!·)
    | some .present => .ok (argument.truthy == v.isSome)
    | some .kind => hasSomeKind v argument
    | some .remainder => dividesWith v argument
    | some .pattern => do matchesPattern (← patternOf (textAt? whole "$options") argument) v
    | some .patternOptions =>
      if Document.contains whole "$regex" then .ok true else Outcome.invalid "$options without $regex"
    | some .negation =>
      match argument with
      | .regex p => (matchesPattern p v).map (!·)
      | .document operators =>
        if isOperatorDocument operators then (passes operators operators v).map (!·)
        else Outcome.invalid "$not needs a regex or operator document"
      | _ => Outcome.invalid "$not needs a regex or operator document"
    | some .containsAll => hasAll v argument
    | some .length => hasLength v argument
    | some .someElement =>
      match argument with
      | .document condition =>
        match v with
        | some (.array items) =>
          if isElementTest condition then Outcome.any (fun item => passes condition condition (some item)) items
          else
            Outcome.any (fun item => match item with
              | .document d => accepts condition d
              | _ => .ok false) items
        | _ => .ok false
      | _ => Outcome.invalid "$elemMatch needs a document"
    | none => Outcome.unsupported name
termination_by structural argument => argument

end

end DocQuery.Filter
