import DocQuery.Proofs.Changes

/-!
# Updates in any order

What an operator does at its path is decided by the value that is read there, and by nothing else of the document
(`Operator.decidedAt`).  So the entries of an update whose paths part are steps that do not get in each other's
way, and an update with the same entries in another order fails too, leaves the document unchanged too, or ends in
the same fields (`changed?_agree`).
-/

namespace DocQuery.Update

open Outcome

/-! ## Entries -/

/-- One operator, with its fields in another order where it has a document of them. -/
inductive SameOperator : String × Value → String × Value → Prop where
  | self (f : String × Value) : SameOperator f f
  | fields (name : String) {fields others : Document} (h : fields.Perm others) :
      SameOperator (name, .document fields) (name, .document others)

/-- The same entries in another order: of the operators, and of the fields within each. -/
def SameEntries (update other : Document) : Prop :=
  ∃ middle, update.Perm middle ∧ List.Forall₂ SameOperator middle other

/-- A field of an operator, with the name of the operator. -/
abbrev Entry := String × String × Value

def entriesOf : String × Value → List Entry
  | (name, .document fields) => fields.map fun field => (name, field)
  | _ => []

/-- The fields of all operators. -/
def entries (update : Document) : List Entry := update.flatMap entriesOf

def Entry.path (x : Entry) : Path := Path.parse x.2.1

/-- The paths of an update part: none is, or runs along, another one. -/
def PathsPart (update : Document) : Prop := (entries update).Pairwise fun x y => x.path.Apart y.path

instance (update : Document) : Decidable (PathsPart update) :=
  inferInstanceAs (Decidable (List.Pairwise (fun x y : Entry => x.path.Apart y.path) _))

theorem SameOperator.entriesOf {f g : String × Value} (h : SameOperator f g) :
    (Update.entriesOf f).Perm (Update.entriesOf g) := by
  cases h with
  | self => exact .refl _
  | fields name h => exact h.map _

theorem SameEntries.entries {update other : Document} (h : SameEntries update other) :
    (Update.entries update).Perm (Update.entries other) := by
  obtain ⟨middle, hm, hf⟩ := h
  refine (hm.flatMap_right _).trans ?_
  clear hm
  induction hf with
  | nil => exact .nil
  | cons hfg _ ih => exact hfg.entriesOf.append ih

/-- All operators have documents of fields. -/
def Formed (update : Document) : Prop := ∀ f ∈ update, f.2.isDocument = true

theorem SameEntries.formed {update other : Document} (h : SameEntries update other) :
    Formed update ↔ Formed other := by
  obtain ⟨middle, hm, hf⟩ := h
  have hmiddle : Formed update ↔ Formed middle := forall_congr' fun f => by rw [hm.mem_iff]
  rw [hmiddle]
  clear hm hmiddle
  induction hf with
  | nil => exact Iff.rfl
  | cons hfg _ ih =>
    rw [Formed, List.forall_mem_cons, Formed, List.forall_mem_cons]
    refine and_congr ?_ ih
    cases hfg <;> exact Iff.rfl

/-! ## What an operator decides -/

variable {d e : Document} {path : String}

/-- The number that an increment writes over what is there. -/
def nextNumber (path : String) (amount : Value) : Option Value → Outcome Value
  | none => .ok amount
  | some .null => .ok amount
  | some current =>
    if current.isNumeric then .ok (incremented current amount)
    else mismatch ("cannot $inc non-numeric field '" ++ path ++ "'")

theorem increment_eq {amount : Value} (hn : amount.isNumeric = true) (d : Document) (path : String) :
    increment d path amount = nextNumber path amount (Path.resolve d (Path.parse path)) >>= fun v =>
      lift (Path.set d (Path.parse path) v) := by
  rw [increment, hn]
  cases Path.resolve d (Path.parse path) with
  | none => rfl
  | some current =>
    cases current with
    | null => rfl
    | _ => rfl

theorem increment_not_numeric {amount : Value} (hn : amount.isNumeric = false) (d : Document) (path : String) :
    increment d path amount = mismatch ("$inc on '" ++ path ++ "' needs a numeric amount") := by
  rw [increment, hn]
  rfl

theorem elementsAt_congr (h : Path.resolve e (Path.parse path) = Path.resolve d (Path.parse path)) :
    elementsAt e path = elementsAt d path := by
  rw [elementsAt, elementsAt, h]

/-- Of documents with the same value at the path, the same change is made of all, or none can be changed. -/
def DecidedAt (d : Document) (path : String) (act : Document → Outcome Document) : Prop :=
  ∃ change : Outcome (Option Change), ∀ e,
    Path.resolve e (Path.parse path) = Path.resolve d (Path.parse path) →
      act e = Step.run e ⟨Path.parse path, change⟩

/-- What is the same on all documents is decided. -/
theorem decidedAt_of_change {act : Document → Outcome Document} (change : Outcome (Option Change))
    (h : ∀ e, act e = Step.run e ⟨Path.parse path, change⟩) : DecidedAt d path act :=
  ⟨change, fun e _ => h e⟩

/-- A value that is computed from the one at the path, and then written there. -/
theorem decidedAt_of_write {act : Document → Outcome Document} (next : Outcome Value)
    (h : ∀ e, Path.resolve e (Path.parse path) = Path.resolve d (Path.parse path) →
      act e = next >>= fun v => lift (Path.set e (Path.parse path) v)) : DecidedAt d path act := by
  refine ⟨next.map fun v => some (.write v), fun e he => ?_⟩
  rw [h e he]
  cases next <;> rfl

theorem decidedAt_increment (d : Document) (path : String) (amount : Value) :
    DecidedAt d path fun e => increment e path amount := by
  by_cases hn : amount.isNumeric = true
  · refine decidedAt_of_write (nextNumber path amount (Path.resolve d (Path.parse path))) fun e he => ?_
    rw [← he]
    exact increment_eq hn e path
  · exact decidedAt_of_change (mismatch _) fun e => increment_not_numeric (Bool.eq_false_iff.2 hn) e path

theorem decidedAt_push (unique : Bool) (d : Document) (path : String) (argument : Value) :
    DecidedAt d path fun e => push unique e path argument := by
  refine decidedAt_of_write (do
    let values ← appended argument
    let items ← elementsAt d path
    pure (.array (if unique then appendNew items values else items ++ values))) fun e he => ?_
  rw [push, elementsAt_congr he, bind_assoc]
  refine bind_congr fun values => ?_
  cases elementsAt d path <;> rfl

/-- A pull of a missing array changes nothing. -/
theorem decidedAt_of_elements {act : Document → Outcome Document} (left : List Value → Outcome (List Value))
    (h : ∀ e, act e = if (Path.resolve e (Path.parse path)).isNone then .ok e
      else elementsAt e path >>= left >>= fun kept => lift (Path.set e (Path.parse path) (.array kept))) :
    DecidedAt d path act := by
  by_cases hd : (Path.resolve d (Path.parse path)).isNone = true
  · refine ⟨.ok none, fun e he => ?_⟩
    rw [h e, he, if_pos hd]
    rfl
  · refine decidedAt_of_write ((elementsAt d path >>= left).map .array) fun e he => ?_
    rw [h e, he, if_neg hd, elementsAt_congr he]
    cases elementsAt d path >>= left <;> rfl

theorem decidedAt_pull (d : Document) (path : String) (argument : Value) :
    DecidedAt d path fun e => pull e path argument := by
  refine decidedAt_of_elements (keep fun item => (isPulled argument item).map (!·)) fun e => ?_
  rw [pull, bind_assoc]

theorem decidedAt_pullAll (d : Document) (path : String) (argument : Value) :
    DecidedAt d path fun e => pullAll e path argument := by
  cases argument with
  | array values =>
    exact decidedAt_of_elements (fun items => .ok (items.filter fun item => !values.any fun v => Value.equal item v))
      fun e => by rw [pullAll, bind_assoc]; rfl
  | _ => exact decidedAt_of_change (invalid "$pullAll needs an array") fun e => rfl

/-- What an operator does is decided by the value at its path. -/
theorem Operator.decidedAt (op : Operator) (d : Document) (path : String) (argument : Value) :
    DecidedAt d path fun e => op.apply e path argument := by
  cases op with
  | set => exact decidedAt_of_write (.ok argument) fun e _ => rfl
  | unset => exact decidedAt_of_change (.ok (some .remove)) fun e => rfl
  | increment => exact decidedAt_increment d path argument
  | push unique => exact decidedAt_push unique d path argument
  | pull => exact decidedAt_pull d path argument
  | pullAll => exact decidedAt_pullAll d path argument

/-! ## Updates as steps -/

def Entry.apply (d : Document) (x : Entry) : Outcome Document := applyField x.1 d x.2

theorem Entry.decidedAt (d : Document) (x : Entry) : DecidedAt d x.2.1 fun e => Entry.apply e x := by
  obtain ⟨name, path, argument⟩ := x
  show DecidedAt d path fun e => applyField name e (path, argument)
  by_cases hid : (Path.parse path).head = "_id"
  · refine decidedAt_of_change (invalid "the _id field is immutable") fun e => ?_
    rw [applyField, if_pos hid]
    rfl
  · simp only [applyField, if_neg hid]
    cases operator? name with
    | some op => exact op.decidedAt d path argument
    | none =>
      dsimp only
      split
      · exact decidedAt_of_change (unsupported name) fun e => rfl
      · exact decidedAt_of_change (invalid "update documents may only contain operators") fun e => rfl

/-- The entries of an update, each as it is on the document at the start: as the paths part, no entry changes what
another one reads. -/
theorem exists_steps (d : Document) : ∃ step : Entry → Step, (∀ x, (step x).path = x.path) ∧
    ∀ xs : List Entry, xs.Pairwise (fun x y => x.path.Apart y.path) →
      xs.foldlM Entry.apply d = Step.runAll (xs.map step) d := by
  choose change hchange using fun x => Entry.decidedAt d x
  let step (x : Entry) : Step := ⟨x.path, change x⟩
  have hrun : ∀ xs : List Entry, xs.Pairwise (fun x y => x.path.Apart y.path) → ∀ e : Document,
      (∀ x ∈ xs, Path.resolve e x.path = Path.resolve d x.path) →
        xs.foldlM Entry.apply e = Step.runAll (xs.map step) e := by
    intro xs hp
    induction xs with
    | nil => exact fun e _ => rfl
    | cons x rest ih =>
      intro e he
      obtain ⟨hx, hrest⟩ := List.forall_mem_cons.1 he
      obtain ⟨hxrest, hprest⟩ := List.pairwise_cons.1 hp
      have hstep : Entry.apply e x = Step.run e (step x) := hchange x e hx
      rw [List.foldlM_cons, List.map_cons, Step.runAll_cons, hstep]
      cases hs : Step.run e (step x) with
      | error f => rfl
      | ok next =>
        refine ih hprest next fun y hy => ?_
        rw [Step.resolve_run (s := step x) (hxrest y hy) hs]
        exact hrest y hy
  exact ⟨step, fun x => rfl, fun xs hp => hrun xs hp d fun x _ => rfl⟩

/-- Where every operator has a document of fields, an update makes its entries one after the other. -/
theorem foldlM_applyOperator {update : Document} (h : Formed update) (d : Document) :
    update.foldlM applyOperator d = (entries update).foldlM Entry.apply d := by
  induction update generalizing d with
  | nil => rfl
  | cons f rest ih =>
    obtain ⟨name, argument⟩ := f
    obtain ⟨hf, hrest⟩ := List.forall_mem_cons.1 h
    cases argument with
    | document fields =>
      show _ = (fields.map (fun field => (name, field)) ++ entries rest).foldlM Entry.apply d
      rw [List.foldlM_cons, List.foldlM_append, List.foldlM_map]
      exact bind_congr (ih hrest)
    | _ => cases hf

/-- An operator without a document of fields is an error, at the latest where it stands. -/
theorem foldlM_applyOperator_error {update : Document} (h : ¬ Formed update) (d : Document) :
    ∃ f, update.foldlM applyOperator d = .error f := by
  induction update generalizing d with
  | nil => exact absurd (List.forall_mem_nil _) h
  | cons f rest ih =>
    rw [List.foldlM_cons]
    cases hf : applyOperator d f with
    | error e => exact ⟨e, rfl⟩
    | ok next =>
      refine ih (fun hrest => h (List.forall_mem_cons.2 ⟨?_, hrest⟩)) next
      obtain ⟨name, argument⟩ := f
      cases argument with
      | document fields => rfl
      | _ => cases hf

/-- All operators of two updates with the same entries, from the same document. -/
theorem foldlM_agree {update other : Document} (h : SameEntries update other) (hp : PathsPart update) (d : Document) :
    Agree (update.foldlM applyOperator d) (other.foldlM applyOperator d) := by
  by_cases hf : Formed update
  · obtain ⟨step, hpath, hsteps⟩ := exists_steps d
    have hother : PathsPart other := (h.entries.pairwise_iff fun hxy => Path.Apart.symm hxy).1 hp
    rw [foldlM_applyOperator hf, foldlM_applyOperator (h.formed.1 hf), hsteps _ hp, hsteps _ hother]
    refine Step.runAll_perm (h.entries.map step) (List.pairwise_map.2 (hp.imp fun hxy => ?_)) d
    rwa [hpath, hpath]
  · obtain ⟨e, he⟩ := foldlM_applyOperator_error hf d
    obtain ⟨e', he'⟩ := foldlM_applyOperator_error (fun ho => hf (h.formed.2 ho)) d
    rw [he, he']
    exact .fail e e'

/-! ## Main result -/

theorem SameEntries.isEmpty_eq {update other : Document} (h : SameEntries update other) :
    update.isEmpty = other.isEmpty := by
  obtain ⟨middle, hm, hf⟩ := h
  rw [hm.isEmpty_eq]
  cases hf <;> rfl

/-- Two updates with the same entries in another order, of which no path is or runs along another one: on every
document both fail, or both leave it as it is, or both change it, to the same fields and values up to the order of
fields. -/
theorem changed?_agree {update other : Document} (h : SameEntries update other) (hp : PathsPart update)
    (d : Document) :
    (∃ f g, changed? d update = .error f ∧ changed? d other = .error g) ∨
      (changed? d update = .ok none ∧ changed? d other = .ok none) ∨
      ∃ e e' : Document, changed? d update = .ok (some e) ∧ changed? d other = .ok (some e') ∧ e.Reordered e' := by
  have hagree := foldlM_agree h hp d
  rw [changed?, changed?, ← h.isEmpty_eq]
  by_cases hempty : update.isEmpty = true
  · rw [if_pos hempty, if_pos hempty]
    exact .inl ⟨_, _, rfl, rfl⟩
  · rw [if_neg hempty, if_neg hempty]
    generalize update.foldlM applyOperator d = a at hagree
    generalize other.foldlM applyOperator d = b at hagree
    cases hagree with
    | fail f g => exact .inl ⟨f, g, rfl, rfl⟩
    | @give e e' he =>
      show (∃ f g, Except.ok _ = _ ∧ Except.ok _ = _) ∨ (Except.ok _ = _ ∧ Except.ok _ = _) ∨
        ∃ _ _, Except.ok _ = _ ∧ Except.ok _ = _ ∧ _
      rw [← he.sameDocument d]
      by_cases hs : Value.sameDocument e d = true
      · rw [if_pos hs, if_pos hs]
        exact .inr (.inl ⟨rfl, rfl⟩)
      · rw [if_neg hs, if_neg hs]
        exact .inr (.inr ⟨e, e', rfl, rfl, he⟩)

/-- New fields of an embedded document come in the order in which they are set. -/
theorem changed?_agree_nested :
    let d : Document := [("_id", .string "1"), ("n", .int32 5), ("a", .document [("c", .boolean true)])]
    let update : Document := [("$set", .document [("a.b", .string "x"), ("a.e", .null)]),
      ("$unset", .document [("a.c", .string "")]), ("$inc", .document [("n", .int32 2)])]
    let other : Document := [("$unset", .document [("a.c", .string "")]),
      ("$set", .document [("a.e", .null), ("a.b", .string "x")]), ("$inc", .document [("n", .int32 2)])]
    SameEntries update other ∧ PathsPart update ∧
      changed? d update = .ok (some [("_id", .string "1"), ("n", .int32 7),
        ("a", .document [("b", .string "x"), ("e", .null)])]) ∧
      ∃ e e' : Document, changed? d update = .ok (some e) ∧ changed? d other = .ok (some e') ∧ e.Reordered e' := by
  intro d update other
  have hsame : SameEntries update other :=
    ⟨_, .swap _ _ _, .cons (.self _) (.cons (.fields "$set" (.swap _ _ _)) (.cons (.self _) .nil))⟩
  have hparts : PathsPart update := by decide
  have hchanged : changed? d update = .ok (some [("_id", .string "1"), ("n", .int32 7),
      ("a", .document [("b", .string "x"), ("e", .null)])]) := rfl
  refine ⟨hsame, hparts, hchanged, ?_⟩
  rcases changed?_agree hsame hparts d with ⟨f, g, hf, -⟩ | ⟨hn, -⟩ | hboth
  · rw [hchanged] at hf
    cases hf
  · rw [hchanged] at hn
    cases hn
  · exact hboth

end DocQuery.Update
