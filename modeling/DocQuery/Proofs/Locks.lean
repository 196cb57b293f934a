import DocQuery.Proofs.FilterOverflows
import DocQuery.Proofs.Selects

/-!
# Locked stores

A write that overflows leaves its store locked, and nothing else does; a locked store refuses every later call.

    poisoned after a call ↔ poisoned before, or the call is a write that overflows       (poisoned_perform_iff)
    poisoned after a run  ↔ poisoned before, or a write of the run overflows             (poisoned_run_iff)

Only updates and deletes can overflow, by their filter or by an update (`write_only`).
-/

namespace DocQuery

open Outcome

/-- The computation gives a value or an error of the store. -/
def Outcome.Settled {α : Type} (a : Outcome α) : Prop := (∃ x, a = .ok x) ∨ ∃ e, a = .error (.error e)

theorem Outcome.settled_iff {α : Type} (a : Outcome α) : a.Settled ↔ a ≠ .error .overflow := by
  unfold Settled
  match a with
  | .ok x => simp
  | .error .overflow => simp
  | .error (.error e) => simp

theorem Outcome.OverflowOnly.settled {α : Type} {cause : Prop} {a : Outcome α} (h : OverflowOnly cause a)
    (hc : ¬ cause) : a.Settled := (settled_iff a).2 fun ho => hc (h ho)

namespace Store

/-! ## One call -/

theorem answer_of_poisoned {s : Store} (hp : s.poisoned = true) (supply : IdSupply) (call : StoreCall) :
    s.answer supply call = .error (.error .poisoned) := by
  have hclosed : s.checkOpen = .error (.error .poisoned) := by rw [checkOpen, if_pos hp]
  cases call with
  | aggregate name pipeline => simp only [answer, aggregate, hclosed]; rfl
  | insertMany name docs => simp only [answer, insertMany, hclosed]; rfl
  | insertOne name d => simp only [answer, insertMany, hclosed]; rfl
  | updateMany name filter update => simp only [answer, updateMany, hclosed]; rfl
  | deleteMany name filter => simp only [answer, deleteMany, hclosed]; rfl
  | drop name => simp only [answer, drop, hclosed]; rfl

/-- A locked store refuses every call. -/
theorem perform_of_poisoned {s : Store} (hp : s.poisoned = true) (supply : IdSupply) (call : StoreCall) :
    s.perform supply call = (.error (.error .poisoned), s, call.drawn supply) := by
  rw [perform, answer_of_poisoned hp]

theorem poisoned_of_insertMany {s t : Store} {name : String} {entries : List (Value × Document)}
    (h : s.insertMany name entries = .ok t) : t.poisoned = s.poisoned := by
  rw [insertMany, bind_eq_ok_iff] at h
  obtain ⟨-, -, h⟩ := h
  obtain ⟨docs, -, h⟩ := (bind_eq_ok_iff _ _ _).1 h
  cases h
  rfl

/-- A call that succeeds leaves the lock as it was. -/
theorem poisoned_of_answer {s t : Store} {supply supply' : IdSupply} {call : StoreCall} {reply : StoreReply}
    (h : s.answer supply call = .ok (reply, t, supply')) : t.poisoned = s.poisoned := by
  cases call with
  | aggregate name pipeline =>
    obtain ⟨rows, -, h⟩ := (bind_eq_ok_iff _ _ _).1 h
    cases h
    rfl
  | insertMany name docs =>
    obtain ⟨u, hu, h⟩ := (bind_eq_ok_iff _ _ _).1 h
    cases h
    exact poisoned_of_insertMany hu
  | insertOne name d =>
    obtain ⟨u, hu, h⟩ := (bind_eq_ok_iff _ _ _).1 h
    cases h
    exact poisoned_of_insertMany hu
  | updateMany name filter update =>
    obtain ⟨⟨u, count⟩, hu, h⟩ := (bind_eq_ok_iff _ _ _).1 h
    cases h
    obtain ⟨-, -, hu⟩ := (bind_eq_ok_iff _ _ _).1 hu
    split at hu
    · cases hu
      rfl
    · obtain ⟨updated, -, hu⟩ := (bind_eq_ok_iff _ _ _).1 hu
      cases hu
      rfl
  | deleteMany name filter =>
    obtain ⟨⟨u, count⟩, hu, h⟩ := (bind_eq_ok_iff _ _ _).1 h
    cases h
    obtain ⟨-, -, hu⟩ := (bind_eq_ok_iff _ _ _).1 hu
    split at hu
    · cases hu
      rfl
    · obtain ⟨kept, -, hu⟩ := (bind_eq_ok_iff _ _ _).1 hu
      cases hu
      rfl
  | drop name =>
    obtain ⟨u, hu, h⟩ := (bind_eq_ok_iff _ _ _).1 h
    cases h
    obtain ⟨-, -, hu⟩ := (bind_eq_ok_iff _ _ _).1 hu
    cases hu
    rfl

/-- The call is a write that overflows on the store. -/
def Locks (s : Store) (supply : IdSupply) (call : StoreCall) : Prop :=
  call.isWrite = true ∧ s.answer supply call = .error .overflow

/-- What a call does to the lock. -/
theorem poisoned_perform_iff (s : Store) (supply : IdSupply) (call : StoreCall) :
    (s.perform supply call).2.1.poisoned = true ↔ s.poisoned = true ∨ s.Locks supply call := by
  unfold perform Locks
  match ha : s.answer supply call with
  | .ok (reply, t, supply') => simp [poisoned_of_answer ha]
  | .error .overflow => simp
  | .error (.error e) => simp

/-! ## Writes that overflow -/

/-- The filter of an update or a delete overflows on a document of its collection, or an update does on one that its
filter selects. -/
def MeetsOverflow (s : Store) : StoreCall → Prop
  | .updateMany name filter update => ∃ d ∈ s.documents name, Filter.HasOverflow (.document filter) (.document d) ∨
      (Filter.accepts filter d = .ok true ∧ Update.HasOverflow update d)
  | .deleteMany name filter => ∃ d ∈ s.documents name, Filter.HasOverflow (.document filter) (.document d)
  | _ => False

theorem checkOpen_only {cause : Prop} (s : Store) : OverflowOnly cause s.checkOpen := by
  unfold checkOpen
  split
  · exact .of_error _
  · exact .of_ok ()

theorem insertMany_only {cause : Prop} (s : Store) (name : String) (entries : List (Value × Document)) :
    OverflowOnly cause (s.insertMany name entries) := by
  have hnew : ∀ docs, OverflowOnly cause (appendNew name docs entries) := by
    induction entries with
    | nil => exact fun docs => .of_ok docs
    | cons entry rest ih =>
      intro docs
      obtain ⟨id, d⟩ := entry
      unfold appendNew
      split
      · exact .of_error _
      · exact ih _
  exact (checkOpen_only s).bind fun _ _ => (hnew _).bind fun _ _ => .of_ok _

theorem updateOne_only (filter update d : Document) :
    OverflowOnly (Filter.HasOverflow (.document filter) (.document d) ∨
      (Filter.accepts filter d = .ok true ∧ Update.HasOverflow update d)) (updateOne filter update d) := by
  refine ((Filter.accepts_only filter d).imp .inl).bind fun accepted ha => ?_
  cases accepted with
  | false => exact .of_ok _
  | true =>
    refine ((Update.changed?_only d update).imp fun h => .inr ⟨ha, h⟩).bind fun changed _ => ?_
    cases changed <;> exact .of_ok _

theorem updateMany_only (s : Store) (name : String) (filter update : Document) :
    OverflowOnly (s.MeetsOverflow (.updateMany name filter update)) (s.updateMany name filter update) := by
  refine (checkOpen_only s).bind fun _ _ => ?_
  cases hc : s.collection? name with
  | none => exact .of_ok _
  | some docs =>
    have hdocs : s.documents name = docs := by rw [documents, hc]; rfl
    refine OverflowOnly.bind (.traverse fun d hd => ?_) fun _ _ => .of_ok _
    exact (updateOne_only filter update d).imp fun h => ⟨d, hdocs ▸ hd, h⟩

theorem deleteMany_only (s : Store) (name : String) (filter : Document) :
    OverflowOnly (s.MeetsOverflow (.deleteMany name filter)) (s.deleteMany name filter) := by
  refine (checkOpen_only s).bind fun _ _ => ?_
  cases hc : s.collection? name with
  | none => exact .of_ok _
  | some docs =>
    have hdocs : s.documents name = docs := by rw [documents, hc]; rfl
    refine OverflowOnly.bind (.keep fun d hd => ?_) fun _ _ => .of_ok _
    exact ((Filter.accepts_only filter d).imp fun h => ⟨d, hdocs ▸ hd, h⟩).map _

/-- Of all writes only updates and deletes can overflow. -/
theorem write_only (s : Store) (supply : IdSupply) {call : StoreCall} (hw : call.isWrite = true) :
    OverflowOnly (s.MeetsOverflow call) (s.answer supply call) := by
  cases call with
  | aggregate name pipeline => cases hw
  | insertMany name docs => exact (insertMany_only s name _).bind fun _ _ => .of_ok _
  | insertOne name d => exact (insertMany_only s name _).bind fun _ _ => .of_ok _
  | updateMany name filter update => exact (updateMany_only s name filter update).bind fun _ _ => .of_ok _
  | deleteMany name filter => exact (deleteMany_only s name filter).bind fun _ _ => .of_ok _
  | drop name => exact ((checkOpen_only s).bind fun _ _ => .of_ok _).bind fun _ _ => .of_ok _

/-! ## Runs of calls -/

/-- The store after calls, one after the other, each from its own supply of new identifiers. -/
def run (s : Store) (calls : List (IdSupply × StoreCall)) : Store :=
  calls.foldl (fun s c => (s.perform c.1 c.2).2.1) s

/-- A store is locked after a run exactly when it was before or a write of the run overflows where it stands. -/
theorem poisoned_run_iff (s : Store) (calls : List (IdSupply × StoreCall)) :
    (s.run calls).poisoned = true ↔ s.poisoned = true ∨ ∃ before supply call after,
      calls = before ++ (supply, call) :: after ∧ (s.run before).Locks supply call := by
  induction calls generalizing s with
  | nil => simp [run]
  | cons first rest ih =>
    have hrun : s.run (first :: rest) = (s.perform first.1 first.2).2.1.run rest := rfl
    rw [hrun, ih, poisoned_perform_iff, or_assoc]
    -- a call that locks is the first one, with nothing before it, or one of the rest, with the first before it
    refine or_congr_right ⟨?_, ?_⟩
    · rintro (h | ⟨before, supply, call, after, rfl, h⟩)
      · exact ⟨[], first.1, first.2, rest, rfl, h⟩
      · exact ⟨first :: before, supply, call, after, rfl, h⟩
    · rintro ⟨before, supply, call, after, he, h⟩
      cases before with
      | nil =>
        obtain ⟨rfl, rfl⟩ := List.cons.inj he
        exact .inl h
      | cons head before =>
        obtain ⟨rfl, rfl⟩ := List.cons.inj he
        exact .inr ⟨before, supply, call, after, rfl, h⟩

/-- Calls of which none meets an overflow where it stands leave an open store open. -/
theorem run_open {s : Store} (hs : s.poisoned = false) {calls : List (IdSupply × StoreCall)}
    (h : ∀ before supply call after, calls = before ++ (supply, call) :: after →
      ¬ (s.run before).MeetsOverflow call) : (s.run calls).poisoned = false := by
  rw [← Bool.not_eq_true, poisoned_run_iff, not_or]
  refine ⟨by rw [hs]; exact Bool.false_ne_true, ?_⟩
  rintro ⟨before, supply, call, after, hc, hw, ho⟩
  exact h before supply call after hc (write_only _ supply hw ho)

/-- The operators of expressions leave 64 bits exactly on the operands that `Operator.Overflows` lists, and the division
test of filters on the least integer by -1.  Where an expression, a filter or an update comes to none of these, it gives
a value or an error of the store; and calls of which none comes to one, on an empty store, find it open and leave it
so. -/
theorem settled_of_no_overflow (e : Value) (filter update d : Document) (calls : List (IdSupply × StoreCall)) :
    (∀ name (op : Expression.Operator) vs, op.apply name vs = .error .overflow ↔ op.Overflows vs) ∧
    (∀ divisor remainder v, Filter.leaves divisor remainder v = .error .overflow ↔
      divisor = -1 ∧ v.toInt64? = some Int64.minValue) ∧
    (¬ Expression.HasOverflow e d → (Expression.evaluate e d).Settled) ∧
    (¬ Filter.HasOverflow (.document filter) (.document d) → (Filter.accepts filter d).Settled) ∧
    (¬ Update.HasOverflow update d → (Update.changed? d update).Settled) ∧
    ((∀ before supply call after, calls = before ++ (supply, call) :: after →
        ¬ (run {} before).MeetsOverflow call) →
      (run {} calls).checkOpen = .ok () ∧ ∀ before supply call after, calls = before ++ (supply, call) :: after →
        (run {} before).checkOpen = .ok () ∧
          (call.isWrite = true → ((run {} before).perform supply call).1.Settled)) := by
  refine ⟨fun name op vs => op.apply_eq_overflow_iff name vs, Filter.leaves_eq_overflow_iff,
    (Expression.traced e d).settled, (Filter.accepts_only filter d).settled,
    (Update.changed?_only d update).settled, ?_⟩
  intro hcalls
  refine ⟨(checkOpen_eq_ok_iff _).2 (run_open rfl hcalls), ?_⟩
  rintro before supply call after rfl
  have hbefore : (run {} before).poisoned = false := by
    refine run_open rfl ?_
    rintro earlier supply' call' later rfl
    exact hcalls earlier supply' call' (later ++ (supply, call) :: after) (by simp)
  refine ⟨(checkOpen_eq_ok_iff _).2 hbefore, fun hw => ?_⟩
  have hanswer : ((run {} before).answer supply call).Settled :=
    (write_only _ supply hw).settled (hcalls before supply call after rfl)
  unfold perform
  rcases hanswer with ⟨⟨reply, t, supply'⟩, ha⟩ | ⟨e, ha⟩
  · rw [ha]
    exact .inl ⟨reply, rfl⟩
  · rw [ha]
    exact .inr ⟨e, rfl⟩

/-- The least integer is harmless where it is subtracted from, divided by 2 or counted down: differences and sums
of integers become doubles. -/
theorem settled_of_no_overflow_least :
    let d : Document := [("_id", .int32 1), ("n", .int64 Int64.minValue)]
    let filter : Document := [("n", .document [("$mod", .array [.int32 2, .int32 0])])]
    (Expression.evaluate (.document [("$subtract", .array [.string "$n", .int32 1])]) d).Settled ∧
      (Filter.accepts filter d).Settled ∧
      (Update.changed? d [("$inc", .document [("n", .int32 (-1))])]).Settled ∧
      (run {} [({}, .insertOne "users" d), ({}, .deleteMany "users" filter)]).checkOpen = .ok () := by
  intro d filter
  have hfilter : ∀ tested, ¬ Filter.HasOverflow (.document filter) tested := by
    have hparts : ∀ fields, Value.IsPart (.document fields) (.document filter) →
        fields = filter ∨ fields = [("$mod", .array [.int32 2, .int32 0])] := by
      intro fields h
      have hnumber : ∀ n, ¬ Value.IsPart (.document fields) (.int32 n) := fun n => nofun
      simpa [filter, Value.isPart_document_iff, Value.isPart_array_iff, hnumber] using h
    rintro tested (⟨fields, e, d, hf, he, -⟩ | ⟨fields, argument, remainder, x, hf, hm, hd, -⟩)
    · rcases hparts fields hf with rfl | rfl <;> simp [filter] at he
    · rcases hparts fields hf with rfl | rfl
      · simp [filter] at hm
      · simp only [List.mem_singleton, Prod.mk.injEq, true_and] at hm
        subst hm
        cases hd
  obtain ⟨-, -, hexpression, hfilters, hupdate, hcalls⟩ := settled_of_no_overflow
    (.document [("$subtract", .array [.string "$n", .int32 1])]) filter [("$inc", .document [("n", .int32 (-1))])] d
    [({}, .insertOne "users" d), ({}, .deleteMany "users" filter)]
  refine ⟨hexpression ?_, hfilters (hfilter _), hupdate ?_, (hcalls ?_).1⟩
  · rintro ⟨name, argument, op, vs, hsub, hop, hvs, h⟩
    have hwhole : [(name, argument)] = [("$subtract", Value.array [.string "$n", .int32 1])] := by
      cases hsub with
      | self => rfl
      | field hf _ h =>
        rw [List.mem_singleton.1 hf] at h
        cases h with
        | item hi h =>
          simp only [List.mem_cons, List.not_mem_nil, or_false] at hi
          rcases hi with rfl | rfl <;> cases h
    cases hwhole
    cases hop
    cases hvs
    cases h
  · rintro ⟨mid, path, condition, items, item, ⟨before, earlier, later, after, start, hu, -⟩, -⟩
    have hmem : ("$pull", Value.document (earlier ++ (path, condition) :: later)) ∈
        [("$inc", Value.document [("n", .int32 (-1))])] := hu ▸ List.mem_append_right _ List.mem_cons_self
    simp at hmem
  · intro before supply call after he hmeets
    have hmem : (supply, call) ∈ before ++ (supply, call) :: after := List.mem_append_right _ List.mem_cons_self
    rw [← he] at hmem
    simp only [List.mem_cons, List.not_mem_nil, or_false, Prod.mk.injEq] at hmem
    rcases hmem with ⟨-, rfl⟩ | ⟨-, rfl⟩
    · exact hmeets
    · obtain ⟨d, -, ho⟩ := hmeets
      exact hfilter _ ho

/-- The remainder of the least integer by -1 overflows in a filter, in an expression and in the condition of a pull,
the time between the first and the last date in an expression.  A delete by such a filter locks the store for
every later call. -/
theorem locked_by_delete :
    Filter.accepts [("n", .document [("$mod", .array [.int32 (-1), .int32 0])])] [("n", .int64 Int64.minValue)] =
      .error .overflow ∧
    Expression.evaluate (.document [("$subtract", .array [.string "$first", .string "$last"])])
      [("first", .dateTime Int64.minValue), ("last", .dateTime Int64.maxValue)] = .error .overflow ∧
    Update.changed? [("ns", .array [.int64 Int64.minValue])]
      [("$pull", .document [("ns", .document [("$mod", .array [.int32 (-1), .int32 0])])])] = .error .overflow ∧
    ∀ supply call, ((run {} [({}, .insertOne "users" [("_id", .int32 1), ("n", .int64 Int64.minValue)]),
      ({}, .deleteMany "users" [("n", .document [("$mod", .array [.int32 (-1), .int32 0])])])]).perform
        supply call).1 = .error (.error .poisoned) := by
  refine ⟨by rfl, by rfl, by rfl, ?_⟩
  intro supply call
  rw [perform_of_poisoned (by rfl)]

end Store

end DocQuery
