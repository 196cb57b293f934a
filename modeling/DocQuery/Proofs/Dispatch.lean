import DocQuery.Builder.Terminal

/-!
# Actions on a session

`a.on s` is what an action gives and the session it leaves.  One equation for each step of a dispatch; a
sequence stops at its first failure and keeps the session as it is then:

    (a >>= f).on s = (f x).on t    where a.on s = (ok x, t)
                   = (error e, t)  where a.on s = (error e, t)                     (on_bind)
    (send h st).on s               by the reply of the backend behind h            (send_on)
    (select st r).on s             the rows of the reply, or none in a dry run     (select_on)
-/

namespace DocQuery

/-! ## Work on a state -/

section Work

variable {ε σ α β : Type}

/-- What work on a state gives, and the state after it. -/
def runOn (a : ExceptT ε (StateM σ) α) (s : σ) : Except ε α × σ := a.run.run s

theorem runOn_bind_of_ok {a : ExceptT ε (StateM σ) α} {s t : σ} {x : α} (h : runOn a s = (.ok x, t))
    (f : α → ExceptT ε (StateM σ) β) : runOn (a >>= f) s = runOn (f x) t := by
  rw [runOn, ExceptT.run_bind, StateT.run_bind, ← runOn, h]
  rfl

/-- Work stops at its first failure and keeps the state as it is then. -/
theorem runOn_bind_of_error {a : ExceptT ε (StateM σ) α} {s t : σ} {e : ε} (h : runOn a s = (.error e, t))
    (f : α → ExceptT ε (StateM σ) β) : runOn (a >>= f) s = (.error e, t) := by
  rw [runOn, ExceptT.run_bind, StateT.run_bind, ← runOn, h]
  rfl

theorem runOn_tryCatch_of_ok {a : ExceptT ε (StateM σ) α} {s t : σ} {x : α} (h : runOn a s = (.ok x, t))
    (handle : ε → ExceptT ε (StateM σ) α) : runOn (tryCatch a handle) s = (.ok x, t) := by
  rw [runOn, ExceptT.run_tryCatch, StateT.run_bind, ← runOn, h]
  rfl

/-- A handler goes on with the state that the failure has left. -/
theorem runOn_tryCatch_of_error {a : ExceptT ε (StateM σ) α} {s t : σ} {e : ε} (h : runOn a s = (.error e, t))
    (handle : ε → ExceptT ε (StateM σ) α) : runOn (tryCatch a handle) s = runOn (handle e) t := by
  rw [runOn, ExceptT.run_tryCatch, StateT.run_bind, ← runOn, h]
  rfl

end Work

/-! ## Actions -/

namespace Action

/-- What an action gives, and the session after it. -/
def on {α : Type} (a : Action α) (s : Session) : Except Fault α × Session := a.run.run s

variable {α β : Type}

@[simp] theorem on_pure (x : α) (s : Session) : (pure x : Action α).on s = (.ok x, s) := rfl

theorem on_bind_of_ok {a : Action α} {s t : Session} {x : α} (h : a.on s = (.ok x, t)) (f : α → Action β) :
    (a >>= f).on s = (f x).on t :=
  runOn_bind_of_ok h f

theorem on_bind_of_error {a : Action α} {s t : Session} {e : Fault} (h : a.on s = (.error e, t))
    (f : α → Action β) : (a >>= f).on s = (.error e, t) :=
  runOn_bind_of_error h f

theorem on_bind (a : Action α) (f : α → Action β) (s : Session) :
    (a >>= f).on s = match a.on s with
      | (.ok x, t) => (f x).on t
      | (.error e, t) => (.error e, t) := by
  rcases h : a.on s with ⟨r, t⟩
  cases r with
  | ok x => exact on_bind_of_ok h f
  | error e => exact on_bind_of_error h f

theorem on_map (f : α → β) (a : Action α) (s : Session) : (f <$> a).on s = ((a.on s).1.map f, (a.on s).2) := by
  rw [← bind_pure_comp, on_bind]
  rcases a.on s with ⟨r, t⟩
  cases r <;> rfl

@[simp] theorem on_get (s : Session) : (get : Action Session).on s = (.ok s, s) := rfl

@[simp] theorem on_modify (f : Session → Session) (s : Session) :
    (modify f : Action PUnit).on s = (.ok ⟨⟩, f s) := rfl

end Action

namespace Session

open DocQuery.Action

@[simp] theorem compiled_ok_on {α : Type} (a : α) (s : Session) : (compiled (.ok a)).on s = (.ok a, s) := rfl

@[simp] theorem compiled_error_on {α : Type} (e : CompileError) (s : Session) :
    (compiled (.error e : Compiled α)).on s = (.error (.error (.compile e)), s) := rfl

/-- What goes well behind the compiler has compiled. -/
theorem compiled_bind_ok {α β : Type} {c : Compiled α} {f : α → Action β} {s t : Session} {x : β}
    (h : (compiled c >>= f).on s = (.ok x, t)) : ∃ a, c = .ok a ∧ (f a).on s = (.ok x, t) := by
  cases c with
  | error e =>
    rw [on_bind_of_error (compiled_error_on e s)] at h
    cases h
  | ok a =>
    rw [on_bind_of_ok (compiled_ok_on a s)] at h
    exact ⟨a, rfl, h⟩

/-- What fails has failed to compile, and nothing has happened yet, or it fails later. -/
theorem compiled_bind_error {α β : Type} {c : Compiled α} {f : α → Action β} {s t : Session} {e : Fault}
    (h : (compiled c >>= f).on s = (.error e, t)) :
    (∃ e', e = .error (.compile e') ∧ t = s) ∨ ∃ a, c = .ok a ∧ (f a).on s = (.error e, t) := by
  cases c with
  | error e' =>
    rw [on_bind_of_error (compiled_error_on e' s)] at h
    cases h
    exact .inl ⟨e', rfl, rfl⟩
  | ok a =>
    rw [on_bind_of_ok (compiled_ok_on a s)] at h
    exact .inr ⟨a, rfl, h⟩

/-! ## Steps of a dispatch -/

theorem pretended_on (st : Statement) (s : Session) :
    (pretended st).on s =
      if s.connection.pretending then (.ok true, (s.count .pretended 1).record (.of st true))
      else (.ok false, s) := by
  rw [pretended, on_bind_of_ok (on_get s)]
  by_cases h : s.connection.pretending
  · rw [if_pos h, if_pos h, on_bind_of_ok (on_modify _ s), on_pure]
  · rw [if_neg h, if_neg h, on_pure]

/-- Sending makes the call; the session holds what is behind the handles then, and counts and logs the call. -/
theorem send_on (handle : Nat) (st : Statement) (s : Session) :
    (send handle st).on s = match s.deployment.perform handle st.toCall with
      | (.ok reply, deployment) =>
        (.ok reply.toOutput, ({ s with deployment }.count .executed 1).record (.of st false))
      | (.error (.error e), deployment) =>
        (.error (.error (.query (.of st e))), { s with deployment }.count .failed 1)
      | (.error .overflow, deployment) => (.error .overflow, { s with deployment }) := by
  rw [send, on_bind_of_ok (on_get s)]
  rcases s.deployment.perform handle st.toCall with ⟨r, deployment⟩
  cases r with
  | ok reply => rfl
  | error f => cases f <;> rfl

theorem select_on (st : Statement) (useRead : Bool) (s : Session) :
    (select st useRead).on s =
      if s.connection.pretending then (.ok [], (s.count .pretended 1).record (.of st true))
      else match (send (s.connection.readHandle useRead) st).on s with
        | (.ok output, t) =>
          (.ok output.toRows, (t.count .selects 1).count .returned (UInt64.ofNat output.toRows.length))
        | (.error e, t) => (.error e, t) := by
  rw [select, on_bind, pretended_on]
  by_cases h : s.connection.pretending
  · simp [h]
  · simp only [h, Bool.false_eq_true, if_false]
    rw [on_bind_of_ok (on_get s), on_bind]
    rcases (send (s.connection.readHandle useRead) st).on s with ⟨r, t⟩
    cases r <;> rfl

theorem statement_on (st : Statement) (s : Session) :
    (statement st).on s =
      if s.connection.pretending then
        (.ok (.acknowledged true), (s.count .pretended 1).record (.of st true))
      else match (send s.connection.write st).on s with
        | (.ok output, t) => (.ok output, (t.count .writes 1).updateConnection (·.noteModified true))
        | (.error e, t) => (.error e, t) := by
  rw [statement, on_bind, pretended_on]
  by_cases h : s.connection.pretending
  · simp [h]
  · simp only [h, Bool.false_eq_true, if_false]
    rw [on_bind_of_ok (on_get s), on_bind]
    rcases (send s.connection.write st).on s with ⟨r, t⟩
    cases r <;> rfl

theorem affecting_on (st : Statement) (s : Session) :
    (affecting st).on s =
      if s.connection.pretending then (.ok 0, (s.count .pretended 1).record (.of st true))
      else match (send s.connection.write st).on s with
        | (.ok output, t) =>
          (.ok output.toCount, ((t.count .writes 1).count .affected output.toCount).updateConnection
            (·.noteModified (output.toCount != 0)))
        | (.error e, t) => (.error e, t) := by
  rw [affecting, on_bind, pretended_on]
  by_cases h : s.connection.pretending
  · simp [h]
  · simp only [h, Bool.false_eq_true, if_false]
    rw [on_bind_of_ok (on_get s), on_bind]
    rcases (send s.connection.write st).on s with ⟨r, t⟩
    cases r <;> rfl

end Session

end DocQuery
