import DocQuery.Store.Filter

/-!
# Pipelines

A pipeline is a list of stages; each stage is a document with one field, the stage's name and what it is given,
and takes a list of documents to another one:

    run [s₁, s₂] ds = run [s₂] (s₁ applied to ds)

Grouping keeps the groups in the order of their first members.  Sorting is stable.
-/

namespace DocQuery.Pipeline

/-! ## Projection -/

inductive FieldMode where
  | included
  | excluded
  | computed (expression : Value)

/-- A boolean or a number keeps or drops a field; anything else computes it. -/
def FieldMode.of (v : Value) : FieldMode :=
  let flag (on : Bool) : FieldMode := if on then included else excluded
  match v with
  | .boolean b => flag b
  | v =>
    if v.isNumeric then flag (match v.toFloat? with
      | some x => !Double.equal x 0
      | none => true)
    else computed v

def FieldMode.isExcluded : FieldMode → Bool
  | excluded => true
  | _ => false

def FieldMode.isComputed : FieldMode → Bool
  | computed _ => true
  | _ => false

structure Projection where
  /-- Whether the identifier stays; it does unless it is dropped by name. -/
  keepsId : Bool
  /-- The other fields, and the identifier when it is computed. -/
  fields : List (String × FieldMode)
  /-- Whether fields are named to be dropped. -/
  excludes : Bool
  /-- Whether fields are named to be kept or computed. -/
  includes : Bool

/-- The projection that a stage is given; it does not keep some fields and drop others. -/
def Projection.of (spec : Document) : Outcome Projection :=
  let modes := spec.map fun (name, v) => (name, FieldMode.of v)
  let others := modes.filter fun (name, _) => name != "_id"
  let projection : Projection := {
    keepsId := !modes.any fun (name, mode) => name == "_id" && mode.isExcluded
    fields := modes.filter fun (name, mode) => name != "_id" || mode.isComputed
    excludes := others.any fun (_, mode) => mode.isExcluded
    includes := others.any fun (_, mode) => !mode.isExcluded }
  if projection.includes && projection.excludes then
    Outcome.invalid "$project cannot mix inclusion and exclusion"
  else .ok projection

/-- The document without the named fields. -/
def Projection.drop (p : Projection) (d : Document) : Document :=
  let rest := p.fields.foldl (fun out (name, _) => (Path.unset? out (Path.parse name)).getD out) d
  if p.keepsId then rest else rest.erase "_id"

/-- Writes one named field of a document into the output. -/
def addProjected (d out : Document) : String × FieldMode → Outcome Document
  | (name, .included) =>
    match Path.resolve d (Path.parse name) with
    | some v => Outcome.lift (Path.set out (Path.parse name) v)
    | none => .ok out
  | (name, .computed e) => do
    let v ← Expression.evaluate e d
    Outcome.lift (Path.set out (Path.parse name) v)
  | (_, .excluded) => .ok out

/-- The document with the identifier and the named fields only. -/
def Projection.pick (p : Projection) (d : Document) : Outcome Document :=
  let start : Document := match p.keepsId, d.get? "_id" with
    | true, some id => [("_id", id)]
    | _, _ => []
  p.fields.foldlM (addProjected d) start

def Projection.apply (p : Projection) (d : Document) : Outcome Document :=
  if p.excludes || p.fields.isEmpty then .ok (p.drop d) else p.pick d

/-! ## Computed fields -/

/-- Writes the fields, each computed on the document as it came. -/
def addFields (fields : List (String × Value)) (d : Document) : Outcome Document :=
  fields.foldlM (fun out (name, e) => do
    let v ← Expression.evaluate e d
    Outcome.lift (Path.set out (Path.parse name) v)) d

/-! ## Groups -/

/-- Adds a document to the group of an equal key, or opens a group at the end. -/
def addMember (key : Value) (d : Document) : List (Value × List Document) → List (Value × List Document)
  | [] => [(key, [d])]
  | (k, members) :: rest =>
    if Value.equal k key then (k, members ++ [d]) :: rest else (k, members) :: addMember key d rest

/-- The groups of equal keys, each with its first key and its members in order. -/
def groupBy (key : Value) (docs : List Document) : Outcome (List (Value × List Document)) :=
  docs.foldlM (fun groups d => do
    let k ← Expression.evaluate key d
    pure (addMember k d groups)) []

/-- What an accumulator makes of the values of the members. -/
def combine (name : String) (values : List Value) : Outcome Value :=
  match name with
  | "$sum" => .ok (Arithmetic.total values)
  | "$avg" => .ok (Arithmetic.mean values)
  | "$min" => .ok (Arithmetic.extreme .lt values)
  | "$max" => .ok (Arithmetic.extreme .gt values)
  | "$first" => .ok (values.head?.getD .null)
  | "$last" => .ok (values.getLast?.getD .null)
  | "$push" => .ok (.array values)
  | "$addToSet" => .ok (.array (Arithmetic.distinct values))
  | _ => Outcome.unsupported name

/-- The value of an accumulator over a group. -/
def accumulate (name : String) (argument : Value) (members : List Document) : Outcome Value :=
  if name = "$count" then .ok (.ofCount members.length)
  else do
    let values ← Outcome.traverse (Expression.evaluate argument) members
    combine name values

/-- Adds one field of a group's row. -/
def addAccumulated (members : List Document) (row : Document) : String × Value → Outcome Document
  | (field, .document [(name, argument)]) => do
    let v ← accumulate name argument members
    pure (row.insert field v)
  | (field, _) => Outcome.invalid ("$group field '" ++ field ++ "' needs one accumulator")

/-- The row of a group. -/
def groupRow (spec : Document) (group : Value × List Document) : Outcome Document :=
  (spec.filter fun f => f.1 != "_id").foldlM (addAccumulated group.2) [("_id", group.1)]

def group (spec : Document) (docs : List Document) : Outcome (List Document) :=
  match spec.get? "_id" with
  | none => Outcome.invalid "$group needs an _id"
  | some key => do
    let groups ← groupBy key docs
    Outcome.traverse (groupRow spec) groups

/-! ## Order -/

structure SortKey where
  path : String
  descending : Bool
  deriving DecidableEq, Repr

/-- The key of a field of a sort stage. -/
def SortKey.of : String × Value → Outcome SortKey
  | (name, direction) =>
    if direction.toInt64? = some 1 then .ok ⟨name, false⟩
    else if direction.toInt64? = some (-1) then .ok ⟨name, true⟩
    else Outcome.invalid ("$sort direction for '" ++ name ++ "' must be 1 or -1")

/-- The key that stands for the order in the store. -/
def natural : String := "$natural"

/-- The order of two documents by one key; a missing value counts as null. -/
def SortKey.compare (k : SortKey) (a b : Document) : Ordering :=
  let value (d : Document) : Value := (Path.resolve d (Path.parse k.path)).getD .null
  let o := Value.compare (value a) (value b)
  if k.descending then o.swap else o

/-- The order of two documents by the first key that tells them apart. -/
def compareBy : List SortKey → Document → Document → Ordering
  | [], _, _ => .eq
  | k :: rest, a, b => (k.compare a b).then (compareBy rest a b)

/-- Puts an element behind the last one that it is not less than; the sorted elements come last first. -/
def insertSorted {α : Type} (order : α → α → Ordering) (a : α) : List α → List α
  | [] => [a]
  | b :: rest => if order a b = .lt then b :: insertSorted order a rest else a :: b :: rest

/-- The elements in order; ties stay as they came. -/
def stableSort {α : Type} (order : α → α → Ordering) (as : List α) : List α :=
  (as.foldl (fun sorted a => insertSorted order a sorted) []).reverse

/-- Sorts by the keys; the store's own order counts only when it is the only key. -/
def sortBy (keys : List SortKey) (docs : List Document) : List Document :=
  match keys with
  | [⟨path, descending⟩] =>
    if path = natural then (if descending then docs.reverse else docs)
    else stableSort (compareBy keys) docs
  | _ => stableSort (compareBy (keys.filter fun k => k.path != natural)) docs

/-! ## Stages -/

/-- A stage's name and what it is given. -/
def stageOf : Document → Outcome (String × Value)
  | [(name, argument)] => .ok (name, argument)
  | _ => Outcome.invalid "a pipeline stage must have exactly one field"

def documentOf (name : String) : Value → Outcome Document
  | .document d => .ok d
  | _ => Outcome.invalid (name ++ " needs a document")

/-- A number of documents. -/
def countOf (name : String) (v : Value) : Outcome Nat :=
  match v.toInt64? with
  | some n =>
    if 0 ≤ n.toInt then .ok n.toInt.toNat
    else Outcome.invalid (name ++ " needs a non-negative integer")
  | none => Outcome.invalid (name ++ " needs a non-negative integer")

/-- The name of the field that a count is written to. -/
def countField : Value → Outcome String
  | .string name =>
    if name.isEmpty || Expression.isOperatorName name then Outcome.invalid "$count needs a field name"
    else .ok name
  | _ => Outcome.invalid "$count needs a field name"

/-- The documents behind one stage. -/
def runStage (name : String) (argument : Value) (docs : List Document) : Outcome (List Document) :=
  let addFieldsStage : Outcome (List Document) := do
    let fields ← documentOf name argument
    Outcome.traverse (addFields fields) docs
  match name with
  | "$match" => do
    let filter ← documentOf name argument
    Outcome.keep (Filter.accepts filter) docs
  | "$project" => do
    let projection ← Projection.of (← documentOf name argument)
    Outcome.traverse projection.apply docs
  | "$addFields" => addFieldsStage
  | "$set" => addFieldsStage
  | "$group" => do group (← documentOf name argument) docs
  | "$sort" => do
    let keys ← Outcome.traverse SortKey.of (← documentOf name argument)
    pure (sortBy keys docs)
  | "$skip" => (countOf name argument).map docs.drop
  | "$limit" => do
    let n ← countOf name argument
    if n = 0 then Outcome.invalid "$limit must be positive" else pure (docs.take n)
  | "$count" => do
    let field ← countField argument
    pure (if docs.isEmpty then [] else [[(field, .ofCount docs.length)]])
  | _ => .error (.error (.unsupportedStage name))

/-- The documents behind all stages. -/
def run : List Document → List Document → Outcome (List Document)
  | [], docs => .ok docs
  | stage :: rest, docs => do
    let (name, argument) ← stageOf stage
    let docs ← runStage name argument docs
    run rest docs

end DocQuery.Pipeline
