import DocQuery.Proofs.DryRuns
import Mathlib

/-!
# What a connection counts, notes and logs

A scene is a connection with the views that its dry runs work on.  They share the stores and the counters; each
has a log and a note of changes of its own.  A step is done on the connection or on a view, in any order, so work
on the connection may come in the middle of a dry run.  What is to be seen of a step is its happening: a statement
and what came of it, or a setting.  The happenings of a run tell all that the connection keeps of it:

    counter after = counter before + what each happening adds                         (Accounted.run)
    note after    = a change behind the last reset, or the note before without one    (foldl_notes)
    log after     = what succeeded while it was on, behind the last flush             (foldl_logs)

`accounts_spec` says so of a fresh connection.  A dry run of a script is such a run (`run_pretend`).
-/

namespace DocQuery

/-- What a connection is told to do with its log or its note of changes. -/
inductive Setting where
  | enableLog
  | disableLog
  | flushLog
  | resetModified
  deriving DecidableEq, Repr

def Connection.set (c : Connection) : Setting → Connection
  | .enableLog => { c with log := c.log.enable }
  | .disableLog => { c with log := c.log.disable }
  | .flushLog => { c with log := c.log.flush }
  | .resetModified => { c with modified := false }

namespace Session

open DocQuery.Action

/-! ## Scenes -/

/-- A connection with the views of its dry runs, and what they share. -/
structure Scene where
  connection : Connection
  views : List Connection := []
  deployment : Deployment
  metrics : Metrics

/-- One thing done, on the connection itself or on the view of a number. -/
inductive Step where
  | use (view : Option Nat) (u : Use)
  | set (view : Option Nat) (x : Setting)
  /-- A dry run begins.  Its view is the next one; when the dry run is over nothing is done on it any more. -/
  | beginDryRun (view : Option Nat)
  /-- Other clients change the stores. -/
  | elsewhere (deployment : Deployment)

/-- What is to be seen of a step: a statement, how it was handed over and what it gave, or a setting. -/
inductive Happening where
  | sent (view : Option Nat) (d : Dispatch) (st : Statement) (result : Except Fault Reply)
  | set (view : Option Nat) (x : Setting)

namespace Scene

/-- The session that a step is done on. -/
def session? (σ : Scene) : Option Nat → Option Session
  | none => some ⟨σ.connection, σ.deployment, σ.metrics⟩
  | some i => σ.views[i]?.map fun v => ⟨v, σ.deployment, σ.metrics⟩

/-- The scene with a session put back. -/
def put (σ : Scene) (s : Session) : Option Nat → Scene
  | none => { σ with connection := s.connection, deployment := s.deployment, metrics := s.metrics }
  | some i =>
    { σ with views := σ.views.set i s.connection, deployment := s.deployment, metrics := s.metrics }

/-- A step on a view that there is not does nothing. -/
def step (σ : Scene) : Step → Scene
  | .use view u =>
    match σ.session? view with
    | some s => σ.put (u.run.on s).2 view
    | none => σ
  | .set view x =>
    match σ.session? view with
    | some s => σ.put (s.updateConnection (·.set x)) view
    | none => σ
  | .beginDryRun view =>
    match σ.session? view with
    | some s => { σ with views := σ.views ++ [s.dryRun.connection] }
    | none => σ
  | .elsewhere deployment => { σ with deployment }

def happening? (σ : Scene) : Step → Option Happening
  | .use view u =>
    match σ.session? view, u.sent? with
    | some s, some (d, st) => some (.sent view d st ((d.run st).on s).1)
    | _, _ => none
  | .set view x => (σ.session? view).map fun _ => .set view x
  | _ => none

/-- The scene after all steps. -/
def run (σ : Scene) : List Step → Scene
  | [] => σ
  | x :: rest => (σ.step x).run rest

/-- What is to be seen of all steps, in order. -/
def history (σ : Scene) : List Step → List Happening
  | [] => []
  | x :: rest => (σ.happening? x).toList ++ (σ.step x).history rest

/-- The connection is in no dry run, and its views are. -/
structure Sound (σ : Scene) : Prop where
  connection : σ.connection.pretending = false
  views : ∀ v ∈ σ.views, v.pretending = true

end Scene

/-! ## What a history holds -/

namespace Happening

/-- A statement, or none where a setting was made. -/
def isSent : Happening → Bool
  | sent .. => true
  | set .. => false

/-- The work ended on the spot, without an error. -/
def overflows : Happening → Bool
  | sent _ _ _ (.error .overflow) => true
  | _ => false

/-- The rows that a select gave. -/
def rows : Happening → Nat
  | sent _ _ _ (.ok (.rows documents)) => documents.length
  | _ => 0

/-- The documents that an update or a delete changed on the connection itself. -/
def changed : Happening → Nat
  | sent none _ _ (.ok (.count n)) => n.toNat
  | _ => 0

/-- A statement that a store answered. -/
def isAnswered : Happening → Bool
  | sent none _ _ (.ok _) => true
  | _ => false

def isSelect : Happening → Bool
  | sent none (.select _) _ (.ok _) => true
  | _ => false

/-- A statement that a store refused. -/
def isRefused : Happening → Bool
  | sent _ _ _ (.error (.error _)) => true
  | _ => false

/-- A statement that a dry run recorded. -/
def isRecorded : Happening → Bool
  | sent (some _) _ _ (.ok _) => true
  | _ => false

/-- What a happening adds to a counter. -/
def adds (x : Happening) : Metrics.Counter → Nat
  | .executed => x.isAnswered.toNat
  | .failed => x.isRefused.toNat
  | .pretended => x.isRecorded.toNat
  | .selects => x.isSelect.toNat
  | .writes => (x.isAnswered && !x.isSelect).toNat
  | .returned => x.rows
  | .affected => x.changed

/-- A statement or an insert that succeeded on the connection itself, or a count there that is not zero. -/
def modifies : Happening → Bool
  | sent none .statement _ (.ok _) => true
  | sent none .insert _ (.ok _) => true
  | sent none .insertGetId _ (.ok _) => true
  | sent none .affecting _ (.ok (.count n)) => n != 0
  | _ => false

def resets : Happening → Bool
  | set none .resetModified => true
  | _ => false

def flushes : Happening → Bool
  | set none .flushLog => true
  | _ => false

/-- Whether the log is on behind a happening, given whether it was on before. -/
def switches (on : Bool) : Happening → Bool
  | set none .enableLog => true
  | set none .disableLog => false
  | _ => on

/-- The entry of a statement that succeeded on the connection itself. -/
def entry? : Happening → Option LogEntry
  | sent none _ st (.ok _) => some (.of st false)
  | _ => none

end Happening

/-- The entries of a history: of each statement that succeeded while the log was on and that no flush came after. -/
def logged (on : Bool) : List Happening → List LogEntry
  | [] => []
  | x :: later =>
    (if on && !later.any Happening.flushes then x.entry?.toList else []) ++ logged (x.switches on) later

/-! ## Steps -/

/-- A dispatch is recorded in a dry run; else its statement is answered, refused, or ends the work on the spot. -/
theorem Dispatch.run_cases (d : Dispatch) (st : Statement) (s : Session) :
    (s.connection.pretending = true ∧ (d.run st).on s = (.ok d.dryReply, s.captured st)) ∨
      s.connection.pretending = false ∧ ∃ deployment,
        (∃ output, (d.run st).on s = (.ok (d.reply output),
          d.noted output (({ s with deployment }.count .executed 1).record (.of st false)))) ∨
        (∃ e, (d.run st).on s = (.error (.error e), { s with deployment }.count .failed 1)) ∨
        (d.run st).on s = (.error .overflow, { s with deployment }) := by
  rw [Dispatch.run_on, send_on]
  cases hp : s.connection.pretending with
  | true => exact .inl ⟨rfl, rfl⟩
  | false =>
    rcases s.deployment.perform (d.handle s.connection) st.toCall with ⟨r, deployment⟩
    refine .inr ⟨rfl, deployment, ?_⟩
    cases r with
    | ok reply => exact .inl ⟨reply.toOutput, rfl⟩
    | error f =>
      cases f with
      | error e => exact .inr (.inl ⟨_, rfl⟩)
      | overflow => exact .inr (.inr rfl)

namespace Scene

theorem Sound.session {σ : Scene} (h : σ.Sound) {view : Option Nat} {s : Session} (hs : σ.session? view = some s) :
    s.connection.pretending = view.isSome := by
  cases view with
  | none => cases hs; exact h.connection
  | some i =>
    obtain ⟨v, hv, rfl⟩ := Option.map_eq_some_iff.1 hs
    exact h.views v (List.mem_of_getElem? hv)

theorem Sound.put {σ : Scene} (h : σ.Sound) {s : Session} {view : Option Nat}
    (hs : s.connection.pretending = view.isSome) : (σ.put s view).Sound := by
  cases view with
  | none => exact ⟨hs, h.views⟩
  | some i =>
    refine ⟨h.connection, fun v hv => ?_⟩
    rcases List.mem_or_eq_of_mem_set hv with hv | rfl
    · exact h.views v hv
    · exact hs

theorem Sound.step {σ : Scene} (h : σ.Sound) (x : Step) : (σ.step x).Sound := by
  cases x with
  | use view u =>
    rw [Scene.step]
    cases hs : σ.session? view with
    | none => exact h
    | some s => exact h.put ((u.sameHandles s).pretending.trans (h.session hs))
  | set view x =>
    rw [Scene.step]
    cases hs : σ.session? view with
    | none => exact h
    | some s =>
      refine h.put (Eq.trans ?_ (h.session hs))
      cases x <;> rfl
  | beginDryRun view =>
    rw [Scene.step]
    cases hs : σ.session? view with
    | none => exact h
    | some s =>
      refine ⟨h.connection, fun v hv => ?_⟩
      rcases List.mem_append.1 hv with hv | hv
      · exact h.views v hv
      · rw [List.mem_singleton.1 hv]
        rfl
  | elsewhere deployment => exact ⟨h.connection, h.views⟩

end Scene

namespace Happening

/-- The note of changes behind a happening. -/
def notes (modified : Bool) (x : Happening) : Bool := !x.resets && (modified || x.modifies)

/-- The log behind a happening. -/
def logs (log : QueryLog) (x : Happening) : QueryLog where
  enabled := x.switches log.enabled
  entries := (if x.flushes then [] else log.entries) ++ if log.enabled then x.entry?.toList else []

end Happening

/-- What the connection of the second scene keeps is what the first one kept, and the history on top of it. -/
structure Accounted (σ : Scene) (h : List Happening) (τ : Scene) : Prop where
  counter : ∀ c, τ.metrics.get c = σ.metrics.get c + UInt64.ofNat (h.map (·.adds c)).sum
  modified : τ.connection.modified = h.foldl Happening.notes σ.connection.modified
  log : τ.connection.log = h.foldl Happening.logs σ.connection.log

namespace Accounted

section

-- What the proofs of this section compute: the session that a step leaves and what its happening holds.
attribute [local simp] Scene.put captured Session.count Session.record Session.updateConnection
  Connection.noteModified Connection.set Metrics.add Metrics.get QueryLog.enable QueryLog.disable QueryLog.flush
  Dispatch.noted Dispatch.reply Dispatch.dryReply Happening.adds Happening.isAnswered Happening.isSelect
  Happening.isRefused Happening.isRecorded Happening.rows Happening.changed Happening.notes Happening.resets
  Happening.modifies Happening.logs Happening.flushes Happening.switches Happening.entry?

theorem nil {σ τ : Scene} (hm : τ.metrics = σ.metrics) (hn : τ.connection.modified = σ.connection.modified)
    (hl : τ.connection.log = σ.connection.log) : Accounted σ [] τ :=
  ⟨fun c => by rw [hm]; exact (UInt64.add_zero _).symm, hn, hl⟩

theorem append {σ τ υ : Scene} {h later : List Happening} (hσ : Accounted σ h τ) (hτ : Accounted τ later υ) :
    Accounted σ (h ++ later) υ := by
  refine ⟨fun c => ?_, ?_, ?_⟩
  · rw [hτ.counter, hσ.counter, List.map_append, List.sum_append, UInt64.ofNat_add, UInt64.add_assoc]
  · rw [hτ.modified, hσ.modified, List.foldl_append]
  · rw [hτ.log, hσ.log, List.foldl_append]

theorem answered (σ : Scene) (d : Dispatch) (st : Statement) (output : StatementOutput) (deployment : Deployment) :
    Accounted σ [.sent none d st (.ok (d.reply output))]
      (σ.put (d.noted output (((⟨σ.connection, deployment, σ.metrics⟩ : Session).count .executed 1).record
        (.of st false))) none) := by
  refine ⟨fun c => ?_, ?_, ?_⟩
  · cases d <;> cases c <;> simp
  · cases d <;> simp
  · refine (d.noted_log output _).trans ?_
    show σ.connection.log.record (.of st false) = _
    rw [QueryLog.record]
    rcases σ.connection.log with ⟨_ | _, entries⟩ <;> simp

theorem refused (σ : Scene) (d : Dispatch) (st : Statement) (e : DatabaseError) (deployment : Deployment) :
    Accounted σ [.sent none d st (.error (.error e))]
      (σ.put ((⟨σ.connection, deployment, σ.metrics⟩ : Session).count .failed 1) none) :=
  ⟨fun c => by cases c <;> simp, by simp, by simp⟩

theorem overflowed (σ : Scene) (d : Dispatch) (st : Statement) (deployment : Deployment) :
    Accounted σ [.sent none d st (.error .overflow)] (σ.put ⟨σ.connection, deployment, σ.metrics⟩ none) :=
  ⟨fun c => by cases c <;> simp, by simp, by simp⟩

theorem recorded (σ : Scene) (i : Nat) (v : Connection) (d : Dispatch) (st : Statement) :
    Accounted σ [.sent (some i) d st (.ok d.dryReply)]
      (σ.put ((⟨v, σ.deployment, σ.metrics⟩ : Session).captured st) (some i)) :=
  ⟨fun c => by cases d <;> cases c <;> simp, by simp, by simp⟩

theorem setting {σ : Scene} {view : Option Nat} {s : Session} (hs : σ.session? view = some s) (x : Setting) :
    Accounted σ [.set view x] (σ.put (s.updateConnection (·.set x)) view) := by
  cases view with
  | none =>
    cases hs
    exact ⟨fun c => by cases c <;> simp, by cases x <;> simp, by cases x <;> simp⟩
  | some i =>
    obtain ⟨v, -, rfl⟩ := Option.map_eq_some_iff.1 hs
    exact ⟨fun c => by cases c <;> simp, by simp, by simp⟩

end

/-- A session put back as it was. -/
theorem put_back {σ : Scene} {view : Option Nat} {s : Session} (hs : σ.session? view = some s) :
    Accounted σ [] (σ.put s view) := by
  cases view with
  | none => cases hs; exact .nil rfl rfl rfl
  | some i =>
    obtain ⟨v, -, rfl⟩ := Option.map_eq_some_iff.1 hs
    exact .nil rfl rfl rfl

theorem dispatch {σ : Scene} (h : σ.Sound) {view : Option Nat} {s : Session} (hs : σ.session? view = some s)
    (d : Dispatch) (st : Statement) :
    Accounted σ [.sent view d st ((d.run st).on s).1] (σ.put ((d.run st).on s).2 view) := by
  have hview := h.session hs
  cases view with
  | none =>
    cases hs
    obtain ⟨hp, -⟩ | ⟨-, deployment, ⟨output, hon⟩ | ⟨e, hon⟩ | hon⟩ :=
      d.run_cases st ⟨σ.connection, σ.deployment, σ.metrics⟩
    · cases hview.symm.trans hp
    · rw [hon]
      exact answered σ d st output deployment
    · rw [hon]
      exact refused σ d st e deployment
    · rw [hon]
      exact overflowed σ d st deployment
  | some i =>
    obtain ⟨v, -, rfl⟩ := Option.map_eq_some_iff.1 hs
    obtain ⟨-, hon⟩ | ⟨hp, -⟩ := d.run_cases st ⟨v, σ.deployment, σ.metrics⟩
    · rw [hon]
      exact recorded σ i v d st
    · cases hview.symm.trans hp

theorem step {σ : Scene} (h : σ.Sound) (x : Step) : Accounted σ (σ.happening? x).toList (σ.step x) := by
  cases x with
  | use view u =>
    rw [Scene.happening?, Scene.step]
    cases hs : σ.session? view with
    | none => exact .nil rfl rfl rfl
    | some s =>
      cases hu : u.sent? with
      | none =>
        show Accounted σ [] (σ.put (u.run.on s).2 view)
        rw [Use.on_of_not_sent hu]
        exact put_back hs
      | some sent =>
        obtain ⟨d, st⟩ := sent
        obtain ⟨shape, hrun⟩ := Use.run_of_sent hu
        show Accounted σ [.sent view d st ((d.run st).on s).1] (σ.put (u.run.on s).2 view)
        rw [hrun]
        exact dispatch h hs d st
  | set view x =>
    rw [Scene.happening?, Scene.step]
    cases hs : σ.session? view with
    | none => exact .nil rfl rfl rfl
    | some s => exact setting hs x
  | beginDryRun view =>
    rw [Scene.step]
    cases σ.session? view <;> exact .nil rfl rfl rfl
  | elsewhere deployment => exact .nil rfl rfl rfl

theorem run {σ : Scene} (h : σ.Sound) (steps : List Step) : Accounted σ (σ.history steps) (σ.run steps) := by
  induction steps generalizing σ with
  | nil => exact .nil rfl rfl rfl
  | cons x rest ih => exact (step h x).append (ih (h.step x))

end Accounted

/-! ## Histories -/

/-- Documents may have changed behind the last reset. -/
def ModifiedIn (h : List Happening) : Prop :=
  ∃ before x after, h = before ++ x :: after ∧ x.modifies = true ∧ ∀ y ∈ after, y.resets = false

theorem Happening.resets_of_modifies {x : Happening} (h : x.modifies = true) : x.resets = false := by
  cases x with
  | sent view d st result => rfl
  | set view x => cases h

theorem modifiedIn_concat (h : List Happening) (x : Happening) :
    ModifiedIn (h ++ [x]) ↔ x.resets = false ∧ (ModifiedIn h ∨ x.modifies = true) := by
  constructor
  · rintro ⟨before, y, after, heq, hy, hafter⟩
    rcases List.eq_nil_or_concat after with rfl | ⟨after, z, rfl⟩
    · obtain ⟨-, hx⟩ := List.append_inj' heq rfl
      cases hx
      exact ⟨Happening.resets_of_modifies hy, .inr hy⟩
    · rw [List.concat_eq_append] at heq hafter
      rw [← List.cons_append, ← List.append_assoc] at heq
      obtain ⟨rfl, hx⟩ := List.append_inj' heq rfl
      cases hx
      rw [List.forall_mem_append] at hafter
      exact ⟨hafter.2 x List.mem_cons_self, .inl ⟨before, y, after, rfl, hy, hafter.1⟩⟩
  · rintro ⟨hx, ⟨before, y, after, rfl, hy, hafter⟩ | hm⟩
    · refine ⟨before, y, after ++ [x], by simp, hy, ?_⟩
      rw [List.forall_mem_append]
      exact ⟨hafter, by simpa using hx⟩
    · exact ⟨h, x, [], rfl, hm, by simp⟩

theorem foldl_notes (h : List Happening) : h.foldl Happening.notes false = true ↔ ModifiedIn h := by
  induction h using List.reverseRecOn with
  | nil => simp [ModifiedIn]
  | append_singleton h x ih =>
    rw [List.foldl_append, modifiedIn_concat, ← ih]
    simp [Happening.notes]

theorem foldl_logs (log : QueryLog) (h : List Happening) :
    (h.foldl Happening.logs log).entries =
      (if h.any Happening.flushes then [] else log.entries) ++ logged log.enabled h := by
  induction h generalizing log with
  | nil => simp [logged]
  | cons x later ih =>
    rw [List.foldl_cons, ih, logged, List.any_cons, Happening.logs]
    cases later.any Happening.flushes <;> cases x.flushes <;> simp

/-- What a store answers is a select or a write. -/
theorem sum_answered (h : List Happening) :
    (h.map (·.adds .executed)).sum = (h.map (·.adds .selects)).sum + (h.map (·.adds .writes)).sum := by
  rw [← List.sum_map_add]
  congr 1
  refine List.map_congr_left fun x _ => ?_
  cases x with
  | sent view d st result => cases view <;> cases result <;> cases d <;> rfl
  | set view x => rfl

/-- A statement that does not end the work on the spot is answered, refused or recorded. -/
theorem sum_sent {h : List Happening} (hno : ∀ x ∈ h, x.overflows = false) :
    (h.map (·.adds .executed)).sum + (h.map (·.adds .failed)).sum + (h.map (·.adds .pretended)).sum =
      h.countP Happening.isSent := by
  induction h with
  | nil => rfl
  | cons x later ih =>
    obtain ⟨hx, hlater⟩ := List.forall_mem_cons.1 hno
    have hone : x.adds .executed + x.adds .failed + x.adds .pretended = x.isSent.toNat := by
      rcases x with ⟨_ | i, d, st, (e | _) | reply⟩ | ⟨view, x⟩ <;> first | rfl | cases hx
    have hrest := ih hlater
    rw [List.countP_cons, List.map_cons, List.map_cons, List.map_cons, List.sum_cons, List.sum_cons, List.sum_cons]
    cases hs : x.isSent <;> simp [hs] at hone ⊢ <;> omega

/-! ## Dry runs as steps -/

/-- The uses of a run, in order. -/
def Script.uses {α : Type} : Script α → Session → List Use
  | .done _, _ => []
  | .next u rest, s => u :: (rest (u.run.on s).1).uses (u.run.on s).2

theorem Scene.run_uses {α : Type} (script : Script α) {σ : Scene} {i : Nat} {v : Connection}
    (hv : σ.views[i]? = some v) :
    σ.run ((script.uses ⟨v, σ.deployment, σ.metrics⟩).map (.use (some i))) =
      σ.put (script.run ⟨v, σ.deployment, σ.metrics⟩).2 (some i) := by
  induction script generalizing σ v with
  | done a =>
    obtain ⟨hlt, rfl⟩ := List.getElem?_eq_some_iff.1 hv
    show σ = { σ with views := σ.views.set i σ.views[i] }
    rw [List.set_getElem_self]
  | next u rest ih =>
    obtain ⟨hlt, -⟩ := List.getElem?_eq_some_iff.1 hv
    let s : Session := ⟨v, σ.deployment, σ.metrics⟩
    have hstep : σ.step (.use (some i) u) = σ.put (u.run.on s).2 (some i) := by
      rw [Scene.step, Scene.session?, hv]
      rfl
    have hlater := ih (u.run.on s).1 (σ := σ.put (u.run.on s).2 (some i)) (v := (u.run.on s).2.connection)
      (List.getElem?_set_self hlt)
    show (σ.step (.use (some i) u)).run _ = _
    rw [hstep]
    refine hlater.trans ?_
    show { σ with
      views := (σ.views.set i _).set i _, deployment := _, metrics := _ } = _
    rw [List.set_set]
    rfl

/-- A dry run of a script begins, uses its view alone and is over. -/
theorem run_pretend {α : Type} (script : Script α) {σ : Scene} {view : Option Nat} {s : Session}
    (hs : σ.session? view = some s) :
    let τ := σ.run (.beginDryRun view :: (script.uses s.dryRun).map (.use (some σ.views.length)))
    τ.session? view = some (s.pretend script.run).2 ∧
      τ.views[σ.views.length]?.map (·.log.entries) = some (s.pretend script.run).1.2 := by
  intro τ
  let opened : Scene := { σ with views := σ.views ++ [s.dryRun.connection] }
  have hshared : s.deployment = σ.deployment ∧ s.metrics = σ.metrics := by
    cases view with
    | none => cases hs; exact ⟨rfl, rfl⟩
    | some i => obtain ⟨v, -, rfl⟩ := Option.map_eq_some_iff.1 hs; exact ⟨rfl, rfl⟩
  have hlast : opened.views[σ.views.length]? = some s.dryRun.connection := List.getElem?_concat_length
  have hdry : s.dryRun = ⟨s.dryRun.connection, opened.deployment, opened.metrics⟩ := by
    show (⟨_, s.deployment, s.metrics⟩ : Session) = _
    rw [hshared.1, hshared.2]
    rfl
  have hτ : τ = opened.put (script.run s.dryRun).2 (some σ.views.length) := by
    have hstep : σ.step (.beginDryRun view) = opened := by rw [Scene.step, hs]
    have hrun := opened.run_uses script hlast
    rw [← hdry] at hrun
    show (σ.step (.beginDryRun view)).run _ = _
    rw [hstep]
    exact hrun
  rw [hτ]
  constructor
  · cases view with
    | none => cases hs; rfl
    | some i =>
      obtain ⟨v, hv, rfl⟩ := Option.map_eq_some_iff.1 hs
      obtain ⟨hlt, -⟩ := List.getElem?_eq_some_iff.1 hv
      have hkept : (opened.put (script.run (dryRun ⟨v, σ.deployment, σ.metrics⟩)).2 (some σ.views.length)).views[i]? =
          some v := by
        show ((σ.views ++ [_]).set σ.views.length _)[i]? = _
        rw [List.getElem?_set_ne (Nat.ne_of_gt hlt), List.getElem?_append_left hlt, hv]
      rw [Scene.session?, hkept]
      rfl
  · have hview : (opened.put (script.run s.dryRun).2 (some σ.views.length)).views[σ.views.length]? =
        some (script.run s.dryRun).2.connection := by
      obtain ⟨hlt, -⟩ := List.getElem?_eq_some_iff.1 hlast
      exact List.getElem?_set_self hlt
    rw [hview]
    rfl

/-! ## Main result -/

/-- A connection that nothing has been done on. -/
structure Fresh (s : Session) : Prop where
  pretending : s.connection.pretending = false
  modified : s.connection.modified = false
  log : s.connection.log = {}
  metrics : s.metrics = {}

/-- The scene of a connection without dry runs. -/
def scene (s : Session) : Scene := { connection := s.connection, deployment := s.deployment, metrics := s.metrics }

/-- All that a connection keeps of a run in which no call ends on the spot.  Each counter is the sum of what the
happenings add, modulo 2^64: so the executed statements are the selects and the writes, every statement handed over
is executed, refused or recorded, and rows and changed documents are those that were given.  Documents may have
changed exactly where a statement or an insert succeeded, or a count was not zero, behind the last reset.  The log
holds the statements that succeeded while it was on, behind the last flush and in order. -/
theorem accounts_spec {s : Session} (hs : s.Fresh) (steps : List Step)
    (hno : ∀ x ∈ s.scene.history steps, x.overflows = false) :
    let h := s.scene.history steps
    let σ := s.scene.run steps
    (∀ c, σ.metrics.get c = UInt64.ofNat (h.map (·.adds c)).sum) ∧
      σ.metrics.executed = σ.metrics.selects + σ.metrics.writes ∧
      σ.metrics.executed + σ.metrics.failed + σ.metrics.pretended = UInt64.ofNat (h.countP Happening.isSent) ∧
      σ.metrics.returned = UInt64.ofNat (h.map Happening.rows).sum ∧
      σ.metrics.affected = UInt64.ofNat (h.map Happening.changed).sum ∧
      (σ.connection.modified = true ↔ ModifiedIn h) ∧
      σ.connection.log.entries = logged false h := by
  intro h σ
  have ha : Accounted s.scene h σ := .run ⟨hs.pretending, by simp [scene]⟩ steps
  have hcounter : ∀ c, σ.metrics.get c = UInt64.ofNat (h.map (·.adds c)).sum := by
    intro c
    rw [ha.counter]
    show s.metrics.get c + _ = _
    rw [hs.metrics]
    cases c <;> exact UInt64.zero_add _
  have hexecuted : σ.metrics.executed = UInt64.ofNat (h.map (·.adds .executed)).sum := hcounter .executed
  refine ⟨hcounter, ?_, ?_, hcounter .returned, hcounter .affected, ?_, ?_⟩
  · have hselects : σ.metrics.selects = _ := hcounter .selects
    have hwrites : σ.metrics.writes = _ := hcounter .writes
    rw [hexecuted, hselects, hwrites, sum_answered, UInt64.ofNat_add]
  · have hfailed : σ.metrics.failed = _ := hcounter .failed
    have hpretended : σ.metrics.pretended = _ := hcounter .pretended
    rw [hexecuted, hfailed, hpretended, ← sum_sent hno, UInt64.ofNat_add, UInt64.ofNat_add]
  · rw [ha.modified, ← foldl_notes]
    show List.foldl _ s.connection.modified h = true ↔ _
    rw [hs.modified]
  · rw [ha.log]
    show (List.foldl _ s.connection.log h).entries = _
    rw [hs.log, foldl_logs]
    simp

/-- Work on the connection in the middle of a dry run, a read that does not compile, a reset, a delete of nothing,
a flush, a delete of a document and a refused insert. -/
theorem accounts_spec_mixed :
    let tasks := Builder.on "tasks"
    let d : Document := [("_id", .int32 1)]
    let steps : List Step := [.use none (.terminal tasks (.insertOne d)), .set none .enableLog, .beginDryRun none,
      .use (some 0) (.terminal tasks (.delete none)), .use none (.terminal tasks .get), .set (some 0) .flushLog,
      .use none (.terminal (tasks.modify [.join "people"]) .get), .set none .resetModified,
      .use none (.dispatch .affecting (.deleteMany "tasks" [("_id", .int32 2)])), .set none .flushLog,
      .use none (.terminal tasks (.delete none)), .use none (.dispatch .insert (.insertMany "tasks" [d, d]))]
    let s := inMemory "app"
    s.Fresh ∧ (∀ x ∈ s.scene.history steps, x.overflows = false) ∧
      (s.scene.run steps).metrics.executed + (s.scene.run steps).metrics.failed +
        (s.scene.run steps).metrics.pretended = UInt64.ofNat ((s.scene.history steps).countP Happening.isSent) ∧
      ((s.scene.run steps).connection.modified = true ↔ ModifiedIn (s.scene.history steps)) ∧
      (s.scene.run steps).connection.log.entries = logged false (s.scene.history steps) ∧
      ((s.scene.history steps).countP Happening.isSent, (logged false (s.scene.history steps)).length) = (6, 1) := by
  intro tasks d steps s
  have hfresh : s.Fresh := ⟨rfl, rfl, rfl, rfl⟩
  have hno : ∀ x ∈ s.scene.history steps, x.overflows = false := by decide
  have hall := accounts_spec hfresh steps hno
  exact ⟨hfresh, hno, hall.2.2.1, hall.2.2.2.2.2.1, hall.2.2.2.2.2.2, by decide⟩

end Session

end DocQuery
