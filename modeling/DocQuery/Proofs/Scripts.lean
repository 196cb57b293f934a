import DocQuery.Proofs.Requests

/-!
# Work on a connection, step by step

A use is a terminal of a builder or a statement handed over; a script is one use after the other, each chosen by
what the ones before it gave.  A use hands over one statement at most:

    u.sent? = some (d, st) → u.run does what d.run st does, and shapes its reply      (Use.run_of_sent)
    u.sent? = none         → u.run leaves the session                                 (Use.on_of_not_sent)

and a dispatch makes one call at most, on its handle, and keeps all handles:

    ((d.run st).on s).2.deployment = what the call leaves, or the same in a dry run   (Dispatch.run_deployment)
    s.SameHandles (u.run.on s).2                                                      (Use.sameHandles)
-/

namespace DocQuery.Session

open DocQuery.Action

/-! ## Handles -/

/-- The same handles, in a dry run or not. -/
structure SameHandles (s t : Session) : Prop where
  pretending : t.connection.pretending = s.connection.pretending
  write : t.connection.write = s.connection.write
  read : t.connection.read = s.connection.read

theorem SameHandles.refl (s : Session) : s.SameHandles s := ⟨rfl, rfl, rfl⟩

theorem SameHandles.trans {s t u : Session} (h : s.SameHandles t) (k : t.SameHandles u) : s.SameHandles u :=
  ⟨k.pretending.trans h.pretending, k.write.trans h.write, k.read.trans h.read⟩

theorem sameHandles_captured (s : Session) (st : Statement) : s.SameHandles (s.captured st) := ⟨rfl, rfl, rfl⟩

theorem sameHandles_send (handle : Nat) (st : Statement) (s : Session) :
    s.SameHandles ((send handle st).on s).2 := by
  rw [send_on]
  rcases s.deployment.perform handle st.toCall with ⟨r, deployment⟩
  cases r with
  | ok reply => exact ⟨rfl, rfl, rfl⟩
  | error f => cases f <;> exact ⟨rfl, rfl, rfl⟩

theorem send_deployment (handle : Nat) (st : Statement) (s : Session) :
    ((send handle st).on s).2.deployment = (s.deployment.perform handle st.toCall).2 := by
  rw [send_on]
  rcases s.deployment.perform handle st.toCall with ⟨r, deployment⟩
  cases r with
  | ok reply => rfl
  | error f => cases f <;> rfl

namespace Dispatch

@[simp] theorem noted_deployment (d : Dispatch) (output : StatementOutput) (s : Session) :
    (d.noted output s).deployment = s.deployment := by
  cases d <;> rfl

@[simp] theorem noted_log (d : Dispatch) (output : StatementOutput) (s : Session) :
    (d.noted output s).connection.log = s.connection.log := by
  cases d <;> rfl

theorem sameHandles_noted (d : Dispatch) (output : StatementOutput) (s : Session) :
    s.SameHandles (d.noted output s) := by
  cases d <;> exact ⟨rfl, rfl, rfl⟩

theorem run_deployment (d : Dispatch) (st : Statement) (s : Session) :
    ((d.run st).on s).2.deployment =
      if s.connection.pretending then s.deployment
      else (s.deployment.perform (d.handle s.connection) st.toCall).2 := by
  rw [run_on]
  by_cases hp : s.connection.pretending
  · rw [if_pos hp, if_pos hp]
    rfl
  · rw [if_neg hp, if_neg hp, ← send_deployment]
    rcases (send (d.handle s.connection) st).on s with ⟨r, t⟩
    cases r with
    | ok output => exact d.noted_deployment output t
    | error e => rfl

theorem sameHandles_run (d : Dispatch) (st : Statement) (s : Session) : s.SameHandles ((d.run st).on s).2 := by
  rw [run_on]
  by_cases hp : s.connection.pretending
  · rw [if_pos hp]
    exact sameHandles_captured s st
  · rw [if_neg hp]
    have hsend := sameHandles_send (d.handle s.connection) st s
    rcases hs : (send (d.handle s.connection) st).on s with ⟨r, t⟩
    rw [hs] at hsend
    cases r with
    | ok output => exact hsend.trans (d.sameHandles_noted output t)
    | error e => exact hsend

end Dispatch

/-! ## Uses -/

/-- One thing done on a connection. -/
inductive Use where
  | terminal (b : Builder) (t : Terminal)
  | dispatch (d : Dispatch) (st : Statement)

namespace Use

def run : Use → Action (Answer ⊕ Reply)
  | terminal b t => .inl <$> t.run b
  | dispatch d st => .inr <$> d.run st

/-- The statement that is handed over, and in which way. -/
def sent? : Use → Option (Dispatch × Statement)
  | terminal b t =>
    match t.request? b with
    | some (d, r) => r.compile.toOption.map fun st => (d, st)
    | none => none
  | dispatch d st => some (d, st)

/-- The statement that is handed over. -/
def statement? (u : Use) : Option Statement := u.sent?.map Prod.snd

theorem sent?_terminal_iff {b : Builder} {t : Terminal} {d : Dispatch} {st : Statement} :
    (terminal b t).sent? = some (d, st) ↔ ∃ r, t.request? b = some (d, r) ∧ r.compile = .ok st := by
  rw [sent?]
  cases hr : t.request? b with
  | none => simp
  | some request =>
    obtain ⟨d', r⟩ := request
    cases hc : r.compile <;> simp [hc, Except.toOption, and_assoc]

theorem run_of_sent {u : Use} {d : Dispatch} {st : Statement} (h : u.sent? = some (d, st)) :
    ∃ shape : Reply → Answer ⊕ Reply,
      ∀ s, u.run.on s = (((d.run st).on s).1.map shape, ((d.run st).on s).2) := by
  cases u with
  | terminal b t =>
    obtain ⟨r, hr, hc⟩ := sent?_terminal_iff.1 h
    exact ((Terminal.run_of_request hr).map Sum.inl).on_of_ok hc
  | dispatch d' st' =>
    cases h
    exact ⟨Sum.inr, fun s => on_map Sum.inr (d.run st) s⟩

/-- What hands nothing over leaves the session. -/
theorem on_of_not_sent {u : Use} (h : u.sent? = none) (s : Session) : (u.run.on s).2 = s := by
  cases u with
  | terminal b t =>
    have hmap : ((terminal b t).run.on s).2 = ((t.run b).on s).2 := by rw [run, on_map]
    rw [hmap]
    cases hr : t.request? b with
    | none => exact Terminal.on_of_no_request hr s
    | some request =>
      obtain ⟨d, r⟩ := request
      cases hc : r.compile with
      | error e => rw [(Terminal.run_of_request hr).on_of_error hc s]
      | ok st =>
        have hsent := sent?_terminal_iff.2 ⟨r, hr, hc⟩
        rw [h] at hsent
        cases hsent
  | dispatch d st => cases h

theorem sameHandles (u : Use) (s : Session) : s.SameHandles (u.run.on s).2 := by
  cases hs : u.sent? with
  | none =>
    rw [on_of_not_sent hs]
    exact .refl s
  | some sent =>
    obtain ⟨d, st⟩ := sent
    obtain ⟨shape, hrun⟩ := run_of_sent hs
    rw [hrun]
    exact d.sameHandles_run st s

end Use

/-! ## Scripts -/

/-- One use after the other, each chosen by what the ones before it gave. -/
inductive Script (α : Type) where
  | done (a : α)
  | next (u : Use) (rest : Except Fault (Answer ⊕ Reply) → Script α)

namespace Script

variable {α : Type}

def run : Script α → Session → α × Session
  | done a, s => (a, s)
  | next u rest, s => (rest (u.run.on s).1).run (u.run.on s).2

/-- The statements that a run hands over, in order. -/
def statements : Script α → Session → List Statement
  | done _, _ => []
  | next u rest, s => u.statement?.toList ++ (rest (u.run.on s).1).statements (u.run.on s).2

/-- Uses that do not depend on what came before them. -/
def sequence : List Use → Script Unit
  | [] => done ()
  | u :: rest => next u fun _ => sequence rest

/-- A sequence hands over the same statements on every session. -/
theorem statements_sequence (us : List Use) (s : Session) :
    (sequence us).statements s = us.filterMap Use.statement? := by
  induction us generalizing s with
  | nil => rfl
  | cons u rest ih =>
    have hrest := ih (u.run.on s).2
    rw [sequence, statements, hrest, List.filterMap_cons]
    cases u.statement? <;> rfl

end Script

end DocQuery.Session
