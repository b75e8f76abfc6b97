import DcgmDiag.Upgrade

/-!
# `DcgmModuleDiag`: the run handlers and `ProcessMessage`

`ProcessMessage` takes a command (or a null pointer) and the module state, which holds the
pause flag `m_isPaused`, and returns a status, the next state and the calls it made into
`DcgmDiagManager`.  The manager itself is an oracle that answers each call.  A command is a
header followed by a payload; the payload is given as each cast in `ProcessMessage` reads
it (`CommandBody`), so that a result stated for every command holds whatever bytes follow
the header.

The five run handlers `ProcessRun_v5` … `ProcessRun_v9` differ only in the version they
check and the response version they bind, except that `ProcessRun_v9` receives a request
that is already canonical.  The main results are

* `processRun_legacy_agree`: on the same request, action and connection, the five handlers
  hand the manager the same canonical request;
* `processMessage_requests_terminated`: every request `ProcessMessage` hands the manager
  has a NUL in each of its character buffers.
-/

namespace DcgmDiag

variable {L : RunDiagLimits}

/-- A call the module makes into its `DcgmDiagManager`. -/
inductive ManagerCall (L : RunDiagLimits)
  /-- `RunDiagAndAction(&drd, action, drw, connectionId)`, where the response wrapper `drw`
  is given by the response version it was bound to (`SetVersion7` … `SetVersion10`). -/
  | runDiagAndAction (drd : RunDiagV8 L) (action : UInt32) (responseVersion connectionId : Nat)
  /-- `StopRunningDiag()` -/
  | stopRunningDiag
  deriving DecidableEq

/-- The state `ProcessMessage` reads and writes. -/
structure ModuleState where
  /-- `m_isPaused` -/
  isPaused : Bool
  /-- The logging severity `OnLoggingSeverityChange` installs. -/
  loggingSeverity : Nat
  deriving DecidableEq, Repr

/-- The request and action of a run message, as one `dcgm_diag_msg_run_vK` cast reads them. -/
structure RunPayload (R : Type) where
  runDiag : R
  action : UInt32
  deriving DecidableEq, Inhabited

/-- The bytes after the header, as each cast in `ProcessMessage` reads them. -/
structure CommandBody (L : RunDiagLimits) where
  /-- `((dcgm_core_msg_pause_resume_v1 *)moduleCommand)->pause` -/
  pause : Bool
  /-- The severity of `dcgm_core_msg_logging_changed_t`. -/
  loggingSeverity : Nat
  runV5 : RunPayload (RunDiagV7 L)
  runV6 : RunPayload (RunDiagV7 L)
  runV7 : RunPayload (RunDiagV7 L)
  runV8 : RunPayload (RunDiagV7 L)
  runV9 : RunPayload (RunDiagV8 L)
  deriving DecidableEq, Inhabited

/-- A `dcgm_module_command_header_t` and what follows it. -/
structure ModuleCommand (L : RunDiagLimits) where
  header : CommandHeader
  body : CommandBody L
  deriving DecidableEq

/-- The cast of a command to one run-message type. -/
def MsgRun.ofPayload {R : Type} (header : CommandHeader) (p : RunPayload R) : MsgRun R :=
  ⟨header, p.runDiag, p.action⟩

/-- What `ProcessMessage` returns, with the state it leaves and the manager calls it made. -/
structure Reply (L : RunDiagLimits) where
  ret : DcgmReturn
  state : ModuleState
  calls : List (ManagerCall L)

/-- Modelled from the spec: `DcgmModule::CheckVersion` (a base-class helper, not among the
sources) refuses a message whose header version differs from the expected one with
`DCGM_ST_VER_MISMATCH` (spec §4.4), and accepts it otherwise. -/
def checkVersion (header : CommandHeader) (compareVersion : Nat) : DcgmReturn :=
  if header.version = compareVersion then .ok else .verMismatch

@[simp] lemma checkVersion_self (header : CommandHeader) :
    checkVersion header header.version = .ok := by
  simp [checkVersion]

/-! ## The run handlers -/

section Handlers

variable (P : DiagProtocol) (mgr : ManagerCall L → DcgmReturn)

/-- The call a run handler makes once its request is sanitised; it returns the manager's
answer (a failure is only logged). -/
def runDiagAndAction (drd : RunDiagV8 L) (action : UInt32) (responseVersion connectionId : Nat) :
    DcgmReturn × List (ManagerCall L) :=
  let call := ManagerCall.runDiagAndAction drd action responseVersion connectionId
  (mgr call, [call])

/-- The body of `ProcessRun_v5` … `ProcessRun_v8`: upgrade the request, check the header
version, bind the response wrapper, sanitise the request, run it. -/
def processRunLegacy (version responseVersion : Nat) (msg : MsgRun (RunDiagV7 L)) :
    DcgmReturn × List (ManagerCall L) :=
  let drd8 := produceLatestDcgmRunDiag msg.runDiag
  match checkVersion msg.header version with
  | .ok => runDiagAndAction mgr (sanitizeRunDiag drd8) msg.action responseVersion
      msg.header.connectionId
  | err => (err, [])

/-- `DcgmModuleDiag::ProcessRun_v5`, which binds the response with `SetVersion7`. -/
def processRunV5 := processRunLegacy mgr (dcgmDiagMsgRunVersion P .v5) 7

/-- `DcgmModuleDiag::ProcessRun_v6`, which binds the response with `SetVersion8`. -/
def processRunV6 := processRunLegacy mgr (dcgmDiagMsgRunVersion P .v6) 8

/-- `DcgmModuleDiag::ProcessRun_v7`, which binds the response with `SetVersion9`. -/
def processRunV7 := processRunLegacy mgr (dcgmDiagMsgRunVersion P .v7) 9

/-- `DcgmModuleDiag::ProcessRun_v8`, which binds the response with `SetVersion10`. -/
def processRunV8 := processRunLegacy mgr (dcgmDiagMsgRunVersion P .v8) 10

/-- `DcgmModuleDiag::ProcessRun_v9`: the request is already a `dcgmRunDiag_v8`, so it is
sanitised in place, and the response is bound with `SetVersion10`. -/
def processRunV9 (msg : MsgRun (RunDiagV8 L)) : DcgmReturn × List (ManagerCall L) :=
  match checkVersion msg.header (dcgmDiagMsgRunVersion P .v9) with
  | .ok => runDiagAndAction mgr (sanitizeRunDiag msg.runDiag) msg.action 10
      msg.header.connectionId
  | err => (err, [])

/-- `DcgmModuleDiag::ProcessStop`. -/
def processStop : DcgmReturn × List (ManagerCall L) :=
  (mgr .stopRunningDiag, [.stopRunningDiag])

/-- The handler `ProcessMessage` calls for a run message of version `K`, on the command
cast to `dcgm_diag_msg_run_vK`. -/
def processRun : RunVersion → ModuleCommand L → DcgmReturn × List (ManagerCall L)
  | .v5, cmd => processRunV5 P mgr (.ofPayload cmd.header cmd.body.runV5)
  | .v6, cmd => processRunV6 P mgr (.ofPayload cmd.header cmd.body.runV6)
  | .v7, cmd => processRunV7 P mgr (.ofPayload cmd.header cmd.body.runV7)
  | .v8, cmd => processRunV8 P mgr (.ofPayload cmd.header cmd.body.runV8)
  | .v9, cmd => processRunV9 P mgr (.ofPayload cmd.header cmd.body.runV9)

lemma processRunLegacy_of_version (version responseVersion : Nat) (msg : MsgRun (RunDiagV7 L))
    (h : msg.header.version = version) :
    processRunLegacy mgr version responseVersion msg =
      runDiagAndAction mgr (sanitizeRunDiag (produceLatestDcgmRunDiag msg.runDiag)) msg.action
        responseVersion msg.header.connectionId := by
  subst h
  simp [processRunLegacy]

lemma processRunV9_of_version (msg : MsgRun (RunDiagV8 L))
    (h : msg.header.version = dcgmDiagMsgRunVersion P .v9) :
    processRunV9 P mgr msg =
      runDiagAndAction mgr (sanitizeRunDiag msg.runDiag) msg.action 10 msg.header.connectionId := by
  simp [processRunV9, ← h]

/-- On the same request, action and connection, `ProcessRun_v5` … `ProcessRun_v8` hand the
manager the same canonical request, bound to response versions 7, 8, 9 and 10; so does
`ProcessRun_v9` on the upgraded request, with response version 10. -/
theorem processRun_legacy_agree (r : RunDiagV7 L) (a : UInt32) (h : CommandHeader) :
    let drd := sanitizeRunDiag (produceLatestDcgmRunDiag r)
    let msg (k : RunVersion) : MsgRun (RunDiagV7 L) :=
      ⟨{ h with version := dcgmDiagMsgRunVersion P k }, r, a⟩
    let call (rv : Nat) := ManagerCall.runDiagAndAction drd a rv h.connectionId
    processRunV5 P mgr (msg .v5) = (mgr (call 7), [call 7]) ∧
      processRunV6 P mgr (msg .v6) = (mgr (call 8), [call 8]) ∧
      processRunV7 P mgr (msg .v7) = (mgr (call 9), [call 9]) ∧
      processRunV8 P mgr (msg .v8) = (mgr (call 10), [call 10]) ∧
      processRunV9 P mgr ⟨{ h with version := dcgmDiagMsgRunVersion P .v9 },
        produceLatestDcgmRunDiag r, a⟩ = (mgr (call 10), [call 10]) :=
  ⟨processRunLegacy_of_version mgr _ _ _ rfl, processRunLegacy_of_version mgr _ _ _ rfl,
    processRunLegacy_of_version mgr _ _ _ rfl, processRunLegacy_of_version mgr _ _ _ rfl,
    processRunV9_of_version P mgr _ rfl⟩

/-- The request a manager call carries has a NUL in each character buffer; a stop call
carries none. -/
def ManagerCall.RequestTerminated : ManagerCall L → Prop
  | .runDiagAndAction drd _ _ _ => drd.Terminated
  | .stopRunningDiag => True

lemma runDiagAndAction_requests_terminated (drd : RunDiagV8 L) (a : UInt32) (rv c : Nat) :
    ∀ call ∈ (runDiagAndAction mgr (sanitizeRunDiag drd) a rv c).2, call.RequestTerminated := by
  simpa [runDiagAndAction, ManagerCall.RequestTerminated] using sanitizeRunDiag_terminated drd

lemma processRun_requests_terminated (k : RunVersion) (cmd : ModuleCommand L) :
    ∀ call ∈ (processRun P mgr k cmd).2, call.RequestTerminated := by
  cases k <;>
    simp only [processRun, processRunV5, processRunV6, processRunV7, processRunV8, processRunV9,
      processRunLegacy] <;>
    split <;> first | exact runDiagAndAction_requests_terminated mgr _ _ _ _ | simp

end Handlers

/-! ## `ProcessMessage` -/

section Dispatch

variable (P : DiagProtocol) (mgr : ManagerCall L → DcgmReturn)

/-- Modelled from the spec: `OnLoggingSeverityChange` (a base-class method, not among the
sources) installs the severity the message carries (spec §4.4, "logging-severity
change"). -/
def onLoggingSeverityChange (s : ModuleState) (severity : Nat) : ModuleState :=
  { s with loggingSeverity := severity }

/-- `DcgmModuleDiag::ProcessCoreMessage`. -/
def processCoreMessage (s : ModuleState) (cmd : ModuleCommand L) : Reply L :=
  if cmd.header.subCommand = P.coreSrLoggingChanged then
    ⟨.ok, onLoggingSeverityChange s cmd.body.loggingSeverity, []⟩
  else if cmd.header.subCommand = P.coreSrPauseResume then
    ⟨.ok, { s with isPaused := cmd.body.pause }, []⟩
  else ⟨.functionNotFound, s, []⟩

/-- The version chain of the `DCGM_DIAG_SR_RUN` case, newest version first. -/
def processRunByVersion (cmd : ModuleCommand L) : DcgmReturn × List (ManagerCall L) :=
  let v := cmd.header.version
  if v = dcgmDiagMsgRunVersion P .v9 then processRun P mgr .v9 cmd
  else if v = dcgmDiagMsgRunVersion P .v8 then processRun P mgr .v8 cmd
  else if v = dcgmDiagMsgRunVersion P .v7 then processRun P mgr .v7 cmd
  else if v = dcgmDiagMsgRunVersion P .v6 then processRun P mgr .v6 cmd
  else if v = dcgmDiagMsgRunVersion P .v5 then processRun P mgr .v5 cmd
  else (.verMismatch, [])

/-- `DcgmModuleDiag::ProcessMessage`; `none` is a null command pointer.  A run command is
refused while the module is paused; a stop command is not. -/
def processMessage (s : ModuleState) : Option (ModuleCommand L) → Reply L
  | none => ⟨.badParam, s, []⟩
  | some cmd =>
    if cmd.header.moduleId = P.moduleIdCore then processCoreMessage P s cmd
    else if cmd.header.subCommand = P.diagSrRun then
      if s.isPaused then ⟨.paused, s, []⟩
      else
        let r := processRunByVersion P mgr cmd
        ⟨r.1, s, r.2⟩
    else if cmd.header.subCommand = P.diagSrStop then
      let r := processStop mgr
      ⟨r.1, s, r.2⟩
    else ⟨.functionNotFound, s, []⟩

lemma processRunByVersion_of_version (cmd : ModuleCommand L) (k : RunVersion)
    (h : cmd.header.version = dcgmDiagMsgRunVersion P k) :
    processRunByVersion P mgr cmd = processRun P mgr k cmd := by
  have hinj : ∀ k', dcgmDiagMsgRunVersion P k = dcgmDiagMsgRunVersion P k' ↔ k = k' :=
    fun _ => ⟨dcgmDiagMsgRunVersion_inj P, congrArg _⟩
  cases k <;> simp [processRunByVersion, h, hinj]

lemma processRunByVersion_of_ne (cmd : ModuleCommand L)
    (h : ∀ k, cmd.header.version ≠ dcgmDiagMsgRunVersion P k) :
    processRunByVersion P mgr cmd = (.verMismatch, []) := by
  simp [processRunByVersion, h]

/-- The calls of the version chain are those of one run handler. -/
lemma processRunByVersion_calls (cmd : ModuleCommand L) :
    (processRunByVersion P mgr cmd).2 = [] ∨
      ∃ k, (processRunByVersion P mgr cmd).2 = (processRun P mgr k cmd).2 := by
  by_cases h : ∃ k, cmd.header.version = dcgmDiagMsgRunVersion P k
  · obtain ⟨k, hk⟩ := h
    exact .inr ⟨k, by rw [processRunByVersion_of_version P mgr cmd k hk]⟩
  · exact .inl (by rw [processRunByVersion_of_ne P mgr cmd (not_exists.1 h)])

/-- Every request `ProcessMessage` hands the manager has a NUL in each of its character
buffers, whatever the payload of the command held. -/
theorem processMessage_requests_terminated (s : ModuleState) (c : Option (ModuleCommand L)) :
    ∀ call ∈ (processMessage P mgr s c).calls, call.RequestTerminated := by
  intro call hcall
  rcases c with _ | cmd
  · simp [processMessage] at hcall
  simp only [processMessage] at hcall
  split_ifs at hcall
  · simp [processCoreMessage] at hcall; split_ifs at hcall <;> simp at hcall
  · simp at hcall
  · rcases processRunByVersion_calls P mgr cmd with h | ⟨k, h⟩
    · simp [h] at hcall
    · exact processRun_requests_terminated P mgr k cmd call (h ▸ hcall)
  · simp_all [processStop, ManagerCall.RequestTerminated]
  · simp at hcall

end Dispatch

/-- A version-5 run command whose buffers are all `A`, with no NUL anywhere, reaches the
manager, and the request it hands over is terminated in every buffer. -/
theorem processMessage_run_v5_terminated :
    let P : DiagProtocol := ⟨0, 1, 2, 1, 2, fun _ => 100, by decide, by decide,
      fun _ => show 100 < 2 ^ 24 by decide⟩
    let L : RunDiagLimits := ⟨1, 2, 1, 2, 2, 2, 2, 2, 2, by decide, by decide, by decide,
      by decide, by decide, by decide⟩
    let r : RunDiagV7 L := { (default : RunDiagV7 L) with
      testNames := .replicate _ (.replicate _ 65), testParms := .replicate _ (.replicate _ 65),
      fakeGpuList := .replicate _ 65, gpuList := .replicate _ 65, debugLogFile := .replicate _ 65,
      statsPath := .replicate _ 65, configFileContents := .replicate _ 65,
      throttleMask := .replicate _ 65, pluginPath := .replicate _ 65 }
    let cmd : ModuleCommand L :=
      ⟨⟨5, 1, 0, dcgmDiagMsgRunVersion P .v5⟩, { (default : CommandBody L) with runV5 := ⟨r, 0⟩ }⟩
    let call := ManagerCall.runDiagAndAction (sanitizeRunDiag (produceLatestDcgmRunDiag r)) 0 7 0
    ¬r.gpuList.HasNul ∧ call ∈ (processMessage P (fun _ => .ok) ⟨false, 0⟩ (some cmd)).calls ∧
      call.RequestTerminated := by
  dsimp only
  refine ⟨by decide, ?h, processMessage_requests_terminated _ _ _ _ _ ?h⟩
  decide

end DcgmDiag
