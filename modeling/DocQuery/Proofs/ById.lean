import DocQuery.Proofs.Reads

/-!
# Finding and deleting by an identifier

An identifier narrows a builder by one more clause, joined by And.  It goes into the last And run, the open one,
and leaves the runs that an Or has closed as they are:

    testAll (cs ++ [c]) d = either (closedTest cs d) (both (all (test d) (openRun cs)) (test d c))
                                                                              (testAll_concat_and)
    b.narrowed id d = ok true ↔ a closed run holds of d, or the open one does and d has the identifier
                                                                              (narrowed_eq_true_iff)

So a builder without an Or finds and deletes by identifier only, and one with an Or also what its closed runs
hold of.  Null identifies nothing for a find and narrows no delete.
-/

namespace DocQuery

open Outcome

/-! ## One clause more -/

namespace Clause

/-- The runs that an Or has closed. -/
def closedRuns (cs : List Clause) : List (List Clause) := (andRuns cs).dropLast

/-- The last run, to which an And adds. -/
def openRun (cs : List Clause) : List Clause := (andRuns cs).getLastD []

/-- Whether a closed run holds of a document, from the left up to what decides. -/
def closedTest (cs : List Clause) (d : Document) : Outcome Bool := any (all (test d)) (closedRuns cs)

/-- What an And adds to a list of runs: one more clause in the last run. -/
theorem andRuns_concat_and (first : Clause) (cs : List Clause) {c : Clause} (hc : c.connective = .and) :
    andRuns (first :: cs ++ [c]) = closedRuns (first :: cs) ++ [openRun (first :: cs) ++ [c]] := by
  unfold closedRuns openRun
  induction cs generalizing first with
  | nil =>
    show andRuns [first, c] = _
    rw [andRuns_cons_of_and first hc]
    rfl
  | cons b rest ih =>
    have hne : andRuns (b :: rest) ≠ [] := List.splitBy_ne_nil.2 (List.cons_ne_nil b rest)
    obtain ⟨run, later, hr⟩ := List.exists_cons_of_ne_nil hne
    have hb := ih b
    cases hk : b.connective with
    | or =>
      show andRuns (first :: b :: (rest ++ [c])) = _
      rw [andRuns_cons_of_or first hk, andRuns_cons_of_or first hk]
      rw [List.cons_append] at hb
      rw [hb, hr]
      rfl
    | and =>
      show andRuns (first :: b :: (rest ++ [c])) = _
      rw [andRuns_cons_of_and first hk, andRuns_cons_of_and first hk]
      rw [List.cons_append] at hb
      rw [hb, hr]
      cases later <;> simp

/-- A clause joined by And is one more condition on the open run, and on no other. -/
theorem testAll_concat_and (cs : List Clause) {c : Clause} (hc : c.connective = .and) (d : Document) :
    testAll (cs ++ [c]) d = either (closedTest cs d) (both (all (test d) (openRun cs)) (test d c)) := by
  cases cs with
  | nil =>
    show any (all (test d)) (andRuns [c]) = test d c
    rw [show andRuns [c] = [[c]] from andRuns_cons c [], any_singleton, all_singleton]
  | cons first rest =>
    show any (all (test d)) (andRuns (first :: rest ++ [c])) = _
    rw [andRuns_concat_and first rest hc, any_append, any_singleton, all_append, all_singleton, closedTest]

/-- Without an Or behind the first clause no run is closed. -/
theorem closedRuns_eq_nil {cs : List Clause} (h : ∀ c ∈ cs.tail, c.connective = .and) : closedRuns cs = [] := by
  have hlen : ∀ first rest, (∀ c ∈ rest, c.connective = .and) → (andRuns (first :: rest)).length = 1 := by
    intro first rest hr
    induction rest generalizing first with
    | nil => rfl
    | cons b rest ih =>
      obtain ⟨hb, hr⟩ := List.forall_mem_cons.1 hr
      rw [andRuns_cons_of_and first hb, List.length_cons, List.length_tail, ih b hr]
  cases cs with
  | nil => rfl
  | cons first rest =>
    obtain ⟨run, hrun⟩ := List.length_eq_one_iff.1 (hlen first rest h)
    rw [closedRuns, hrun]
    rfl

theorem closedTest_of_and {cs : List Clause} (h : ∀ c ∈ cs.tail, c.connective = .and) (d : Document) :
    closedTest cs d = .ok false := by
  rw [closedTest, closedRuns_eq_nil h]
  rfl

end Clause

/-! ## The clause of an identifier -/

/-- The kinds of values that a filter compares as they stand: null, booleans, numbers, texts, object identifiers
and dates. -/
def Value.IsScalar : Value → Prop
  | null => True
  | boolean _ => True
  | int32 _ => True
  | int64 _ => True
  | double _ => True
  | decimal _ => True
  | string _ => True
  | objectId _ => True
  | dateTime _ => True
  | _ => False

/-- The identifier equals the value, or is an array with an element that does. -/
def Document.HasId (d : Document) (id : Value) : Prop :=
  ∃ v, d.get? "_id" = some v ∧
    (Value.equal v id = true ∨ ∃ items, v = .array items ∧ ∃ item ∈ items, Value.equal item id = true)

theorem Document.hasId_iff (d : Document) {id : Value} (h : id.isNull = false) :
    Filter.equals (d.get? "_id") id = true ↔ d.HasId id := by
  unfold HasId
  cases hd : d.get? "_id" with
  | none => simp [Filter.equals, h]
  | some v =>
    cases v with
    | array items => simp [Filter.equals]
    | _ => simp [Filter.equals]

/-- A single name is read in the document itself. -/
theorem Path.resolve_of_tail_nil (d : Document) {p : Path} (h : p.tail = []) :
    resolve d p = d.get? p.head := by
  rw [resolve, h]
  cases d.get? p.head <;> rfl

theorem Filter.meets_of_isScalar {id : Value} (h : id.IsScalar) (v : Option Value) :
    meets id v = .ok (equals v id) := by
  cases id <;> first | exact h.elim | rfl

namespace Builder

theorem query_byId (b : Builder) (id : Value) :
    (b.byId id).query = { b.query with clauses := b.query.clauses ++ [⟨.and, .basic "_id" "=" id⟩] } := rfl

theorem test_byId {id : Value} (h : id.IsScalar) (d : Document) :
    Clause.test d ⟨.and, .basic "_id" "=" id⟩ = .ok (Filter.equals (d.get? "_id") id) := by
  have hf : FilterDocument.ofPredicate (.basic "_id" "=" id) = .ok [("_id", id)] := rfl
  rw [Clause.test_of_compiles hf, Filter.accepts_singleton]
  show Filter.meets id (Path.resolve d (Path.parse "_id")) = _
  rw [Filter.meets_of_isScalar h, Path.resolve_of_tail_nil d (p := Path.parse "_id") rfl]
  rfl

/-- The answer of a builder that an identifier has narrowed. -/
def narrowed (b : Builder) (id : Value) (d : Document) : Outcome Bool :=
  either (Clause.closedTest b.query.clauses d)
    (both (all (Clause.test d) (Clause.openRun b.query.clauses)) (.ok (Filter.equals (d.get? "_id") id)))

theorem testAll_byId (b : Builder) {id : Value} (h : id.IsScalar) (d : Document) :
    Clause.testAll (b.byId id).query.clauses d = b.narrowed id d := by
  rw [query_byId, narrowed, ← test_byId h d]
  exact Clause.testAll_concat_and b.query.clauses rfl d

theorem narrowed_eq_true_iff (b : Builder) {id : Value} (h : id.isNull = false) (d : Document) :
    b.narrowed id d = .ok true ↔
      Clause.closedTest b.query.clauses d = .ok true ∨
        (Clause.closedTest b.query.clauses d = .ok false ∧
          all (Clause.test d) (Clause.openRun b.query.clauses) = .ok true ∧ d.HasId id) := by
  rw [narrowed, either_eq_true_iff, both_eq_true_iff, ← Document.hasId_iff d h]
  simp

theorem aggregate_modify (b : Builder) (ms : List Modifier) :
    (b.modify ms).query.aggregate = b.query.aggregate := by
  induction ms generalizing b with
  | nil => rfl
  | cons m rest ih =>
    refine (ih (m.apply b)).trans ?_
    cases m <;> rfl

/-! ## Finding -/

theorem narrowed_of_find {b : Builder} (ha : b.query.aggregate = none) (hc : b.query.columns = [])
    (hp : b.query.projections = []) {id : Value} (hid : id.IsScalar) (hn : id.isNull = false)
    {s t : Session} {row : Document} (h : (b.find id).on s = (.ok (some row), t)) :
    b.narrowed id row = .ok true := by
  rw [find, hn, if_neg Bool.false_ne_true, first, Action.on_bind] at h
  rcases hr : ((b.byId id).read { (b.byId id).query with limit := some 1 }).on s with ⟨r, u⟩
  rw [hr] at h
  cases r with
  | error e => cases h
  | ok rows =>
    have hrow : rows.head? = some row := by
      injection h with h _
      injection h
    have hall : ∀ row ∈ rows, Clause.testAll (b.byId id).query.clauses row = .ok true :=
      testAll_of_read (q := { (b.byId id).query with limit := some 1 }) ha hc hp hr
    rw [← testAll_byId b hid]
    exact hall row (List.mem_of_head? hrow)

/-! ## Deleting -/

/-- What a delete leaves: all but what the clauses hold of. -/
theorem changing_delete_ok {q : Query} {s t : Session} {n : UInt64}
    (h : (changing (.delete q)).on s = (.ok n, t)) (handle : Nat) (name : String) :
    t.deployment.documents handle name =
      if s.connection.pretending = false ∧ handle = s.connection.write ∧ name = q.collection then
        (s.deployment.documents handle name).filter fun d => Clause.testAll q.clauses d ≠ .ok true
      else s.deployment.documents handle name := by
  obtain ⟨st, hq, h⟩ := Session.compiled_bind_ok h
  obtain ⟨filter, hf, hst⟩ := (bind_eq_ok_iff _ _ _).1 hq
  obtain ⟨-, -, hf⟩ := (bind_eq_ok_iff _ _ _).1 hf
  cases hst
  rw [Session.affecting_deleteMany_ok h]
  simp only [FilterDocument.accepts_ofClauses hf]

/-- A write that fails leaves all documents. -/
theorem documents_of_changing_error {r : Request} {s t : Session} {e : Fault}
    (h : (changing r).on s = (.error e, t)) (handle : Nat) (name : String) :
    t.deployment.documents handle name = s.deployment.documents handle name := by
  rcases Session.compiled_bind_error h with ⟨-, -, rfl⟩ | ⟨st, -, h⟩
  · rfl
  · exact Session.documents_of_affecting_error h handle name

theorem delete_some (b : Builder) {id : Value} (h : id.isNull = false) :
    b.delete (some id) = changing (.delete (b.byId id).query) := by
  show changing (.delete (if id.isNull then b else b.byId id).query) = _
  rw [h, if_neg Bool.false_ne_true]

theorem delete_ok (b : Builder) {id : Value} (hid : id.IsScalar) (hn : id.isNull = false) {s t : Session}
    {n : UInt64} (h : (b.delete (some id)).on s = (.ok n, t)) (handle : Nat) (name : String) :
    t.deployment.documents handle name =
      if s.connection.pretending = false ∧ handle = s.connection.write ∧ name = b.query.collection then
        (s.deployment.documents handle name).filter fun d => b.narrowed id d ≠ .ok true
      else s.deployment.documents handle name := by
  rw [delete_some b hn] at h
  rw [changing_delete_ok h]
  simp only [testAll_byId b hid]
  rfl

/-! ## Main result -/

/-- Finding and deleting by a scalar, for a builder without columns and output fields.  Null finds nothing and
deletes as no identifier does.  Any other one finds a row with that identifier or a row that a closed run holds
of; deletes exactly the documents that the narrowed builder says yes to, which have that identifier or are held
by a closed run, and nothing when it fails; and without an Or there are no closed runs. -/
theorem byId_spec (collection : String) (ms : List Modifier) {b : Builder}
    (hb : b = (Builder.on collection).modify ms) (hc : b.query.columns = []) (hp : b.query.projections = [])
    {id : Value} (hid : id.IsScalar) :
    (∀ s, (b.find .null).on s = (.ok none, s)) ∧ b.delete (some .null) = b.delete none ∧
      (id.isNull = false →
        (∀ s t row, (b.find id).on s = (.ok (some row), t) →
          row.HasId id ∨ Clause.closedTest b.query.clauses row = .ok true) ∧
        (∀ s t n, (b.delete (some id)).on s = (.ok n, t) → ∀ handle name,
          t.deployment.documents handle name =
            if s.connection.pretending = false ∧ handle = s.connection.write ∧ name = b.query.collection then
              (s.deployment.documents handle name).filter fun d => b.narrowed id d ≠ .ok true
            else s.deployment.documents handle name) ∧
        (∀ d, b.narrowed id d = .ok true ↔
          Clause.closedTest b.query.clauses d = .ok true ∨
            (Clause.closedTest b.query.clauses d = .ok false ∧
              all (Clause.test d) (Clause.openRun b.query.clauses) = .ok true ∧ d.HasId id)) ∧
        (∀ s t e, (b.delete (some id)).on s = (.error e, t) → ∀ handle name,
          t.deployment.documents handle name = s.deployment.documents handle name) ∧
        ((∀ c ∈ b.query.clauses.tail, c.connective = .and) →
          ∀ d, Clause.closedTest b.query.clauses d = .ok false)) := by
  have ha : b.query.aggregate = none := by
    rw [hb, aggregate_modify]
    rfl
  refine ⟨fun s => rfl, rfl, fun hn => ⟨?_, ?_, fun d => narrowed_eq_true_iff b hn d, ?_, ?_⟩⟩
  · intro s t row h
    rcases (narrowed_eq_true_iff b hn row).1 (narrowed_of_find ha hc hp hid hn h) with hr | ⟨-, -, hr⟩
    · exact .inr hr
    · exact .inl hr
  · intro s t n h handle name
    exact delete_ok b hid hn h handle name
  · intro s t e h handle name
    rw [delete_some b hn] at h
    exact documents_of_changing_error h handle name
  · exact fun h d => Clause.closedTest_of_and h d

/-- A closed run reaches a document that has another identifier. -/
theorem byId_spec_or :
    let b := (Builder.on "t").modify [.whereEq "kind" (.string "a"), .orWhereEq "kind" (.string "b")]
    let d : Document := [("_id", .string "2"), ("kind", .string "a")]
    b.narrowed (.string "1") d = .ok true ∧ ¬ d.HasId (.string "1") := by
  refine ⟨?_, ?_⟩
  · have hid : (Value.string "1").IsScalar := trivial
    have hspec := byId_spec "t" [.whereEq "kind" (.string "a"), .orWhereEq "kind" (.string "b")] rfl rfl rfl hid
    exact ((hspec.2.2 rfl).2.2.1 _).2 (.inl rfl)
  · rw [← Document.hasId_iff _ rfl]
    decide

/-- An identifier alone does not bound what is found or deleted: an array that holds it is found, a closed run
finds and deletes a document with another identifier, and null deletes all. -/
theorem other_identifiers_reached :
    let two : Document := [("_id", .string "2"), ("kind", .string "a")]
    let listed : Document := [("_id", .array [.string "1"])]
    let store : Store := { collections :=
      [("t", [two, [("_id", .string "1"), ("kind", .string "b")]]), ("u", [listed])] }
    let s : Session := { Session.inMemory "app" with deployment := { backends := [.memory store] } }
    let b := (Builder.on "t").modify [.whereEq "kind" (.string "a"), .orWhereEq "kind" (.string "b")]
    two ∈ s.deployment.documents 0 "t" ∧ ¬ two.HasId (.string "1") ∧ ¬ two.HasId .null ∧
      ((b.find (.string "1")).on s).1 = .ok (some two) ∧
      two ∉ ((b.delete (some (.string "1"))).on s).2.deployment.documents 0 "t" ∧
      two ∉ (((Builder.on "t").delete (some .null)).on s).2.deployment.documents 0 "t" ∧
      Value.equal (.array [.string "1"]) (.string "1") = false ∧
      (((Builder.on "u").find (.string "1")).on s).1 = .ok (some listed) := by
  intro two listed store s b
  have hone : ¬ two.HasId (.string "1") := by
    rw [← Document.hasId_iff _ rfl]
    decide
  have hnull : ¬ two.HasId .null := by
    rintro ⟨v, hv, h⟩
    cases hv
    rcases h with h | ⟨items, h, -⟩ <;> cases h
  have hdelete : ((b.delete (some (.string "1"))).on s).2.deployment.documents 0 "t" = [] := rfl
  have hall : (((Builder.on "t").delete (some .null)).on s).2.deployment.documents 0 "t" = [] := rfl
  refine ⟨List.mem_cons_self, hone, hnull, rfl, ?_, ?_, rfl, rfl⟩
  · rw [hdelete]
    exact List.not_mem_nil
  · rw [hall]
    exact List.not_mem_nil

end Builder

end DocQuery
