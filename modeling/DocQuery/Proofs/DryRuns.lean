import DocQuery.Proofs.Scripts

/-!
# Dry runs

A dry run does a script on a view of the connection.  Each use records its statement there and nothing else
happens, so the whole run counts and records its statements in order:

    (u.run.on s).2 = what u hands over, recorded in s            in a dry run            (Use.on_of_pretending)
    (script.run s).2 = s.capturedAll (script.statements s)       in a dry run            (Script.run_of_pretending)
    s.pretend script.run leaves s but for the count, and gives the statements            (pretend_run)

A run that is no dry run logs what it hands over, as long as everything sent is answered:

    log after = log before ++ script.statements s                                        (Script.log_of_answered)

A sequence hands over the same in both, so its log is what the dry run foresaw (`pretend_spec`).
-/

namespace DocQuery

/-! ## Recording -/

namespace Metrics

theorem add_add (m : Metrics) (a b : UInt64) (c : Counter) : (m.add a c).add b c = m.add (a + b) c := by
  cases c <;> simp [add, UInt64.add_assoc]

theorem add_zero (m : Metrics) (c : Counter) : m.add 0 c = m := by
  cases c <;> simp [add]

end Metrics

namespace QueryLog

/-- All entries at the end, when the log is enabled. -/
def recordAll (log : QueryLog) (entries : List LogEntry) : QueryLog := entries.foldl record log

theorem recordAll_of_enabled {log : QueryLog} (h : log.enabled = true) (entries : List LogEntry) :
    log.recordAll entries = { log with entries := log.entries ++ entries } := by
  induction entries generalizing log with
  | nil => simp [recordAll]
  | cons e rest ih =>
    have hrecord : log.record e = { log with entries := log.entries ++ [e] } := by rw [record, if_pos h]
    have hrest : log.recordAll (e :: rest) = (log.record e).recordAll rest := rfl
    have hlater : { log with entries := log.entries ++ [e] }.recordAll rest =
        { log with entries := log.entries ++ [e] ++ rest } := ih h
    rw [hrest, hrecord, hlater, List.append_assoc]
    rfl

theorem recordAll_append (log : QueryLog) (entries later : List LogEntry) :
    log.recordAll (entries ++ later) = (log.recordAll entries).recordAll later := List.foldl_append

end QueryLog

namespace Session

/-- The session of a dry run that has recorded statements. -/
def capturedAll (s : Session) (sts : List Statement) : Session := sts.foldl captured s

theorem capturedAll_append (s : Session) (sts later : List Statement) :
    s.capturedAll (sts ++ later) = (s.capturedAll sts).capturedAll later := List.foldl_append

/-- Recording counts each statement and adds each to the log, and that is all. -/
theorem capturedAll_eq (s : Session) (sts : List Statement) :
    s.capturedAll sts =
      { s with
        connection := { s.connection with log := s.connection.log.recordAll (sts.map (.of · true)) }
        metrics := s.metrics.add (UInt64.ofNat sts.length) .pretended } := by
  induction sts generalizing s with
  | nil =>
    have hzero : UInt64.ofNat ([] : List Statement).length = 0 := rfl
    rw [hzero, Metrics.add_zero]
    rfl
  | cons st rest ih =>
    have hcount : UInt64.ofNat (st :: rest).length = 1 + UInt64.ofNat rest.length := by
      rw [List.length_cons, UInt64.ofNat_add, UInt64.add_comm]
      rfl
    have hrest : s.capturedAll (st :: rest) = (s.captured st).capturedAll rest := rfl
    rw [hrest, ih, hcount, ← Metrics.add_add]
    rfl

/-! ## Dry runs of scripts -/

theorem Use.on_of_pretending {s : Session} (h : s.connection.pretending = true) (u : Use) :
    (u.run.on s).2 = s.capturedAll u.statement?.toList := by
  cases hs : u.sent? with
  | none =>
    rw [on_of_not_sent hs, statement?, hs]
    rfl
  | some sent =>
    obtain ⟨d, st⟩ := sent
    obtain ⟨shape, hrun⟩ := run_of_sent hs
    rw [hrun, Dispatch.run_on, if_pos h, statement?, hs]
    rfl

theorem Script.run_of_pretending {α : Type} (script : Script α) {s : Session}
    (h : s.connection.pretending = true) : (script.run s).2 = s.capturedAll (script.statements s) := by
  induction script generalizing s with
  | done a => rfl
  | next u rest ih =>
    -- Nothing a use does ends the dry run, so the rest of the script is in it too.
    have hafter : (u.run.on s).2.connection.pretending = true := (u.sameHandles s).pretending.trans h
    rw [run, ih _ hafter, statements, capturedAll_append, ← u.on_of_pretending h]

/-- A dry run gives its statements, recorded in order, and leaves the session but for their count. -/
theorem pretend_run {α : Type} (script : Script α) (s : Session) :
    (s.pretend script.run).1.2 = (script.statements s.dryRun).map (.of · true) ∧
      (s.pretend script.run).2 =
        { s with metrics := s.metrics.add (UInt64.ofNat (script.statements s.dryRun).length) .pretended } := by
  have hview : (script.run s.dryRun).2 = s.dryRun.capturedAll (script.statements s.dryRun) :=
    script.run_of_pretending rfl
  rw [capturedAll_eq] at hview
  constructor
  · have hlog := congrArg (fun t => t.connection.log.entries) hview
    have hentries : s.dryRun.connection.log.recordAll ((script.statements s.dryRun).map (.of · true)) = _ :=
      QueryLog.recordAll_of_enabled rfl _
    rw [hentries] at hlog
    exact hlog
  · show { (script.run s.dryRun).2 with connection := s.connection } = _
    rw [hview]
    rfl

/-! ## Runs that are no dry runs -/

/-- What is sent is answered: a use fails at the compiler or not at all. -/
def Use.Answered (u : Use) (s : Session) : Prop :=
  ∀ e, (u.run.on s).1 = .error e → ∃ c, e = .error (.compile c)

/-- All that a script sends is answered. -/
def Script.Answered {α : Type} : Script α → Session → Prop
  | done _, _ => True
  | next u rest, s => u.Answered s ∧ (rest (u.run.on s).1).Answered (u.run.on s).2

theorem Use.log_of_answered {u : Use} {s : Session} (hp : s.connection.pretending = false) (ha : u.Answered s) :
    (u.run.on s).2.connection.log =
      s.connection.log.recordAll (u.statement?.toList.map (LogEntry.of · false)) := by
  cases hs : u.sent? with
  | none =>
    rw [on_of_not_sent hs, statement?, hs]
    rfl
  | some sent =>
    obtain ⟨d, st⟩ := sent
    obtain ⟨shape, hrun⟩ := run_of_sent hs
    rw [Answered, hrun] at ha
    rw [hrun, statement?, hs]
    have hsent := Dispatch.run_on d st s
    rw [hp, if_neg Bool.false_ne_true, send_on] at hsent
    rcases hperform : s.deployment.perform (d.handle s.connection) st.toCall with ⟨r, deployment⟩
    rw [hperform] at hsent
    cases r with
    | ok reply =>
      rw [hsent]
      exact d.noted_log _ _
    | error f =>
      -- What stops a call is never what the compiler says.
      cases f <;>
      · rw [hsent] at ha
        obtain ⟨c, hc⟩ := ha _ rfl
        cases hc

theorem Script.log_of_answered {α : Type} (script : Script α) {s : Session}
    (hp : s.connection.pretending = false) (ha : script.Answered s) :
    (script.run s).2.connection.log =
      s.connection.log.recordAll ((script.statements s).map (LogEntry.of · false)) := by
  induction script generalizing s with
  | done a => rfl
  | next u rest ih =>
    obtain ⟨hu, hrest⟩ := ha
    have hafter : (u.run.on s).2.connection.pretending = false := (u.sameHandles s).pretending.trans hp
    rw [run, ih _ hafter hrest, statements, List.map_append, QueryLog.recordAll_append, ← u.log_of_answered hp hu]

/-! ## Main result -/

/-- A dry run of a script gives the statements that it hands over, in order and marked as not sent; of the session
it changes the count of such statements and nothing else.  Where a sequence is run on a session that is in no dry
run, logs and has logged nothing, and all it sends is answered, it logs what a dry run of it gives, now as sent. -/
theorem pretend_spec :
    (∀ {α : Type} (script : Script α) (s : Session),
      (s.pretend script.run).1.2 = (script.statements s.dryRun).map (LogEntry.of · true) ∧
        (s.pretend script.run).2 =
          { s with metrics := s.metrics.add (UInt64.ofNat (script.statements s.dryRun).length) .pretended }) ∧
      ∀ (us : List Use) (s r : Session), r.connection.pretending = false →
        r.connection.log = { enabled := true } → (Script.sequence us).Answered r →
        ((Script.sequence us).run r).2.connection.log.entries =
          (s.pretend (Script.sequence us).run).1.2.map fun e => { e with pretended := false } := by
  refine ⟨fun script s => pretend_run script s, fun us s r hp hlog ha => ?_⟩
  -- What a sequence hands over does not depend on the session, so both lists are of the same statements.
  have henabled : r.connection.log.enabled = true := by rw [hlog]
  have hentries := QueryLog.recordAll_of_enabled henabled
    (((Script.sequence us).statements r).map (LogEntry.of · false))
  rw [Script.log_of_answered _ hp ha, hentries, (pretend_run _ s).1, Script.statements_sequence,
    Script.statements_sequence, hlog, List.map_map]
  rfl

/-- An insert, a read that is refused and a delete: both runs show the first and the last. -/
theorem pretend_spec_three :
    let tasks := Builder.on "tasks"
    let us := [Use.terminal tasks (.insertOne [("_id", .int32 1)]),
      .terminal (tasks.modify [.join "people"]) .get, .dispatch .affecting (.deleteMany "tasks" [])]
    let s := inMemory "app"
    let r := s.updateConnection fun c => { c with log := c.log.enable }
    (Script.sequence us).Answered r ∧ (us.filterMap Use.statement?).length = 2 ∧
      ((Script.sequence us).run r).2.connection.log.entries =
        (s.pretend (Script.sequence us).run).1.2.map fun e => { e with pretended := false } := by
  intro tasks us s r
  have hanswered : (Script.sequence us).Answered r := by
    refine ⟨?_, ?_, ?_, trivial⟩
    · intro e h
      cases h
    · intro e h
      cases h
      exact ⟨_, rfl⟩
    · intro e h
      cases h
  exact ⟨hanswered, rfl, pretend_spec.2 us s r rfl rfl hanswered⟩

end Session

end DocQuery
