import DcgmDiag.Module

/-!
# The pause flag over a run of commands

The module processes commands one after another; only the pause flag and the logging
severity carry over from one command to the next.  The pause flag after a sequence of
commands is computed here from the sequence alone (`lastPauseResume`: the value carried by
the last core pause/resume command) and shown to be the flag the run leaves
(`runCommands_isPaused`), from one step lemma (`processMessage_isPaused`).  The main result
is `processMessage_run_admission`: after any sequence, a command reaches
`RunDiagAndAction` exactly when it is a non-null diag run command of one of the five
versions and no pause is in force, and then it goes through the handler of its version; a
stop command always reaches `StopRunningDiag`; and only a pause/resume command changes the
flag.
-/

namespace DcgmDiag

variable {L : RunDiagLimits} (P : DiagProtocol) (mgr : ManagerCall L → DcgmReturn)

/-- The pause value a command installs: `some p` for a core `DCGM_CORE_SR_PAUSE_RESUME`
command carrying `p`, `none` for every other command. -/
def pauseSetBy : Option (ModuleCommand L) → Option Bool
  | some cmd =>
    if cmd.header.moduleId = P.moduleIdCore ∧ cmd.header.subCommand = P.coreSrPauseResume then
      some cmd.body.pause
    else none
  | none => none

/-- The pause value carried by the last core pause/resume command of a sequence, if there
is one. -/
def lastPauseResume (cmds : List (Option (ModuleCommand L))) : Option Bool :=
  cmds.reverse.findSome? (pauseSetBy P)

/-- The module state after a sequence of commands. -/
def runCommands (s : ModuleState) (cmds : List (Option (ModuleCommand L))) : ModuleState :=
  cmds.foldl (fun s c => (processMessage P mgr s c).state) s

/-- The state the module starts in: not paused. -/
def ModuleState.initial (severity : Nat) : ModuleState := ⟨false, severity⟩

/-- The command reached `RunDiagAndAction`. -/
def Reply.ReachesRunDiag (r : Reply L) : Prop :=
  ∃ drd a rv cid, ManagerCall.runDiagAndAction drd a rv cid ∈ r.calls

/-- When a command coming after the commands `pre` is to reach `RunDiagAndAction`: it is a
non-null diag run command of one of the five versions, and the last earlier pause/resume
command, if any, resumed the module. -/
def RunAdmitted (pre : List (Option (ModuleCommand L))) (c : Option (ModuleCommand L)) : Prop :=
  ∃ cmd, c = some cmd ∧ cmd.header.moduleId ≠ P.moduleIdCore ∧
    cmd.header.subCommand = P.diagSrRun ∧ (∃ k, cmd.header.version = dcgmDiagMsgRunVersion P k) ∧
    lastPauseResume P pre ≠ some true

/-! ## One command -/

/-- Only a core pause/resume command changes the pause flag. -/
lemma processMessage_isPaused (s : ModuleState) (c : Option (ModuleCommand L)) :
    (processMessage P mgr s c).state.isPaused = (pauseSetBy P c).getD s.isPaused := by
  rcases c with _ | cmd
  · rfl
  by_cases hcore : cmd.header.moduleId = P.moduleIdCore
  · by_cases hl : cmd.header.subCommand = P.coreSrLoggingChanged
    · simp [processMessage, pauseSetBy, processCoreMessage, onLoggingSeverityChange, hcore, hl,
        P.core_labels_ne]
    · simp [processMessage, pauseSetBy, processCoreMessage, hcore, hl]
      split_ifs <;> rfl
  · simp only [processMessage, pauseSetBy, hcore, if_false, false_and]
    split_ifs <;> rfl

lemma processMessage_stop (s : ModuleState) (cmd : ModuleCommand L)
    (hcore : cmd.header.moduleId ≠ P.moduleIdCore) (hstop : cmd.header.subCommand = P.diagSrStop) :
    processMessage P mgr s (some cmd) = ⟨mgr .stopRunningDiag, s, [.stopRunningDiag]⟩ := by
  simp [processMessage, processStop, hcore, hstop, P.diag_labels_ne.symm]

lemma processMessage_run (s : ModuleState) (cmd : ModuleCommand L)
    (hcore : cmd.header.moduleId ≠ P.moduleIdCore) (hrun : cmd.header.subCommand = P.diagSrRun)
    (hp : s.isPaused = false) :
    processMessage P mgr s (some cmd) =
      ⟨(processRunByVersion P mgr cmd).1, s, (processRunByVersion P mgr cmd).2⟩ := by
  simp [processMessage, hcore, hrun, hp]

/-- A run handler whose version check passes hands its request to the manager. -/
lemma processRun_of_version (k : RunVersion) (cmd : ModuleCommand L)
    (h : cmd.header.version = dcgmDiagMsgRunVersion P k) :
    ∃ drd a rv, processRun P mgr k cmd = runDiagAndAction mgr drd a rv cmd.header.connectionId := by
  cases k
  · exact ⟨_, _, _, processRunLegacy_of_version mgr _ _ _ h⟩
  · exact ⟨_, _, _, processRunLegacy_of_version mgr _ _ _ h⟩
  · exact ⟨_, _, _, processRunLegacy_of_version mgr _ _ _ h⟩
  · exact ⟨_, _, _, processRunLegacy_of_version mgr _ _ _ h⟩
  · exact ⟨_, _, _, processRunV9_of_version P mgr _ h⟩

/-- A command reaches `RunDiagAndAction` exactly when it is a non-null diag run command of
one of the five versions and the module is not paused. -/
lemma processMessage_reachesRunDiag_iff (s : ModuleState) (c : Option (ModuleCommand L)) :
    (processMessage P mgr s c).ReachesRunDiag ↔
      ∃ cmd, c = some cmd ∧ cmd.header.moduleId ≠ P.moduleIdCore ∧
        cmd.header.subCommand = P.diagSrRun ∧
        (∃ k, cmd.header.version = dcgmDiagMsgRunVersion P k) ∧ s.isPaused = false := by
  constructor
  · rintro ⟨drd, a, rv, cid, hmem⟩
    rcases c with _ | cmd
    · simp [processMessage] at hmem
    refine ⟨cmd, rfl, ?_⟩
    simp only [processMessage] at hmem
    split_ifs at hmem with hcore hrun hp hstop
    · simp only [processCoreMessage] at hmem
      split_ifs at hmem <;> simp at hmem
    · simp at hmem
    · refine ⟨hcore, hrun, ?_, by simpa using hp⟩
      by_contra hk
      simp [processRunByVersion_of_ne P mgr cmd (not_exists.1 hk)] at hmem
    · simp [processStop] at hmem
    · simp at hmem
  · rintro ⟨cmd, rfl, hcore, hrun, ⟨k, hk⟩, hp⟩
    obtain ⟨drd, a, rv, h⟩ := processRun_of_version P mgr k cmd hk
    refine ⟨drd, a, rv, cmd.header.connectionId, ?_⟩
    simp [processMessage_run P mgr s cmd hcore hrun hp, processRunByVersion_of_version P mgr cmd k hk,
      h, runDiagAndAction]

/-! ## A run of commands -/

/-- The pause flag a run leaves is the value of its last pause/resume command, or the
initial flag when there is none. -/
lemma runCommands_isPaused (s : ModuleState) (cmds : List (Option (ModuleCommand L))) :
    (runCommands P mgr s cmds).isPaused = (lastPauseResume P cmds).getD s.isPaused :=
  foldl_lastWrite _ ModuleState.isPaused (pauseSetBy P) (processMessage_isPaused P mgr) s cmds

/-- After any sequence `pre` of commands from the initial state, the next command `c`
reaches `RunDiagAndAction` exactly when it is admitted (`RunAdmitted`), and then it goes
through the handler of its version, whose version check passes; a non-core stop command
reaches `StopRunningDiag` whatever the pause flag; and no command but a core pause/resume
changes the pause flag, which is the value of the last such command. -/
theorem processMessage_run_admission (severity : Nat) (pre : List (Option (ModuleCommand L)))
    (c : Option (ModuleCommand L)) :
    let s := runCommands P mgr (.initial severity) pre
    let r := processMessage P mgr s c
    s.isPaused = (lastPauseResume P pre).getD false ∧
      (r.ReachesRunDiag ↔ RunAdmitted P pre c) ∧
      (∀ cmd k, c = some cmd → RunAdmitted P pre c →
        cmd.header.version = dcgmDiagMsgRunVersion P k →
        (r.ret, r.calls) = processRun P mgr k cmd ∧
          checkVersion cmd.header (dcgmDiagMsgRunVersion P k) = .ok) ∧
      (∀ s' cmd, c = some cmd → cmd.header.moduleId ≠ P.moduleIdCore →
        cmd.header.subCommand = P.diagSrStop →
        (processMessage P mgr s' c).calls = [.stopRunningDiag]) ∧
      (∀ s', pauseSetBy P c = none → (processMessage P mgr s' c).state.isPaused = s'.isPaused) := by
  intro s r
  have hs : s.isPaused = (lastPauseResume P pre).getD false := runCommands_isPaused P mgr _ pre
  have hpaused : s.isPaused = false ↔ lastPauseResume P pre ≠ some true := by
    rw [hs]
    rcases lastPauseResume P pre with _ | _ | _ <;> simp
  refine ⟨hs, ?_, ?_, ?_, ?_⟩
  · rw [processMessage_reachesRunDiag_iff, RunAdmitted]
    simp only [hpaused]
  · rintro cmd k rfl ⟨_, h, hcore, hrun, -, hp⟩ hk
    cases h
    refine ⟨?_, by simp [checkVersion, hk]⟩
    simp [r, processMessage_run P mgr s cmd hcore hrun (hpaused.2 hp),
      processRunByVersion_of_version P mgr cmd k hk]
  · rintro s' cmd rfl hcore hstop
    simp [processMessage_stop P mgr s' cmd hcore hstop]
  · intro s' hc
    simp [processMessage_isPaused, hc]

/-! ## The whole state, and what one command does -/

/-- The logging severity a command installs: `some v` for a core
`DCGM_CORE_SR_LOGGING_CHANGED` command carrying `v`, `none` for every other command. -/
def severitySetBy : Option (ModuleCommand L) → Option Nat
  | some cmd =>
    if cmd.header.moduleId = P.moduleIdCore ∧ cmd.header.subCommand = P.coreSrLoggingChanged then
      some cmd.body.loggingSeverity
    else none
  | none => none

/-- The severity carried by the last core logging-changed command of a sequence, if there is
one. -/
def lastLoggingChange (cmds : List (Option (ModuleCommand L))) : Option Nat :=
  cmds.reverse.findSome? (severitySetBy P)

/-- Only a core logging-changed command changes the logging severity. -/
lemma processMessage_loggingSeverity (s : ModuleState) (c : Option (ModuleCommand L)) :
    (processMessage P mgr s c).state.loggingSeverity =
      (severitySetBy P c).getD s.loggingSeverity := by
  rcases c with _ | cmd
  · rfl
  by_cases hcore : cmd.header.moduleId = P.moduleIdCore
  · by_cases hl : cmd.header.subCommand = P.coreSrLoggingChanged
    · simp [processMessage, severitySetBy, processCoreMessage, onLoggingSeverityChange, hcore, hl]
    · simp [processMessage, severitySetBy, processCoreMessage, hcore, hl]
      split_ifs <;> rfl
  · simp only [processMessage, severitySetBy, hcore, if_false, false_and]
    split_ifs <;> rfl

/-- The state one command leaves: the pause flag and the severity it installs, if any. -/
lemma processMessage_state (s : ModuleState) (c : Option (ModuleCommand L)) :
    (processMessage P mgr s c).state =
      ⟨(pauseSetBy P c).getD s.isPaused, (severitySetBy P c).getD s.loggingSeverity⟩ := by
  rw [← processMessage_isPaused, ← processMessage_loggingSeverity]

/-- What one command does, from any state: it makes at most one manager call, and then
answers with the manager's answer; without a call it answers `DCGM_ST_OK` exactly for a core
logging-changed or pause/resume command, and otherwise refuses with `BADPARAM`, `PAUSED`,
`VER_MISMATCH` or `FUNCTION_NOT_FOUND`; and only those two core commands change the state. -/
lemma processMessage_outcome (s : ModuleState) (c : Option (ModuleCommand L)) :
    let r := processMessage P mgr s c
    r.state = ⟨(pauseSetBy P c).getD s.isPaused, (severitySetBy P c).getD s.loggingSeverity⟩ ∧
      ((∃ call, r.calls = [call] ∧ r.ret = mgr call) ∨
        r.calls = [] ∧ (r.ret = .ok ↔ (pauseSetBy P c).isSome ∨ (severitySetBy P c).isSome) ∧
          r.ret ∈ [.ok, .badParam, .paused, .verMismatch, .functionNotFound]) := by
  refine ⟨processMessage_state P mgr s c, ?_⟩
  rcases c with _ | cmd
  · exact .inr ⟨rfl, by simp [processMessage, pauseSetBy, severitySetBy], by simp [processMessage]⟩
  by_cases hcore : cmd.header.moduleId = P.moduleIdCore
  · refine .inr ?_
    simp only [processMessage, processCoreMessage, pauseSetBy, severitySetBy, hcore, true_and,
      if_true]
    split_ifs <;> simp_all [P.core_labels_ne, P.core_labels_ne.symm]
  have hnone : pauseSetBy P (some cmd) = none ∧ severitySetBy P (some cmd) = none := by
    simp [pauseSetBy, severitySetBy, hcore]
  simp only [hnone, Option.isSome_none, Bool.false_eq_true, or_self, iff_false]
  by_cases hrun : cmd.header.subCommand = P.diagSrRun
  · by_cases hp : s.isPaused
    · exact .inr (by simp [processMessage, hcore, hrun, hp])
    · have hp : s.isPaused = false := by simpa using hp
      by_cases hk : ∃ k, cmd.header.version = dcgmDiagMsgRunVersion P k
      · obtain ⟨k, hk⟩ := hk
        obtain ⟨drd, a, rv, h⟩ := processRun_of_version P mgr k cmd hk
        refine .inl ⟨.runDiagAndAction drd a rv cmd.header.connectionId, ?_, ?_⟩ <;>
          simp [processMessage_run P mgr s cmd hcore hrun hp,
            processRunByVersion_of_version P mgr cmd k hk, h, runDiagAndAction]
      · exact .inr (by simp [processMessage_run P mgr s cmd hcore hrun hp,
          processRunByVersion_of_ne P mgr cmd (not_exists.1 hk)])
  · by_cases hstop : cmd.header.subCommand = P.diagSrStop
    · exact .inl ⟨.stopRunningDiag, by simp [processMessage_stop P mgr s cmd hcore hstop],
        by simp [processMessage_stop P mgr s cmd hcore hstop]⟩
    · exact .inr (by simp [processMessage, hcore, hrun, hstop])

/-- The state any run of commands leaves: the pause flag of its last pause/resume command and
the severity of its last logging-changed command, or the initial ones where there is none. -/
theorem runCommands_state (s : ModuleState) (cmds : List (Option (ModuleCommand L))) :
    runCommands P mgr s cmds =
      ⟨(lastPauseResume P cmds).getD s.isPaused, (lastLoggingChange P cmds).getD s.loggingSeverity⟩ := by
  have hseverity : (runCommands P mgr s cmds).loggingSeverity =
      (lastLoggingChange P cmds).getD s.loggingSeverity :=
    foldl_lastWrite _ ModuleState.loggingSeverity (severitySetBy P)
      (processMessage_loggingSeverity P mgr) s cmds
  rw [← runCommands_isPaused P mgr s cmds, ← hseverity]

end DcgmDiag
