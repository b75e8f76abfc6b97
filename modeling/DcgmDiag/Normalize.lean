import DcgmDiag.Module

/-!
# What the manager reads: the normalisation of a run request

`DcgmDiagManager` reads a run request through its scalar fields and the strings its
character buffers hold, each up to the first NUL (`RequestView`).  Seen so, the work of the
five run handlers has a short statement: the manager reads the request the client sent, with
every string cut to the capacity of its `dcgmRunDiag_v8` field minus one
(`RequestView.clip`).  Each stage keeps to it: `SafeCopyTo` and `dcgmTerminateCharBuffer`
both cut a string to the capacity minus one, and cutting twice is cutting once.

* `view_sanitizeRunDiag`, `view_sanitizeRunDiag_produceLatestDcgmRunDiag`: the in-place path
  of `ProcessRun_v9` and the upgrade path of `ProcessRun_v5` … `ProcessRun_v8`;
* `processMessage_runDiag_view`: every request `ProcessMessage` hands the manager is the
  clipped view of the request of the version the header names, with that message's action,
  the response version its handler binds and the connection of the header;
* `normalize_lossless`: a request whose buffers each hold a NUL is read unchanged, on both
  paths, when a `dcgmRunDiag_v8` test parameter is no shorter than a `dcgmRunDiag_v7` one.
-/

namespace DcgmDiag

open CharBuf

variable {L : RunDiagLimits}

/-- What a reader of a run request sees: its scalar fields, and in each character buffer the
string before the first NUL.  `_unusedBuf` is not read. -/
structure RequestView (L : RunDiagLimits) where
  version : UInt32
  flags : UInt32
  debugLevel : UInt32
  groupId : UInt64
  validate : UInt32
  testNames : Fin L.maxTestNames → List UInt8
  testParms : Fin L.maxTestParms → List UInt8
  fakeGpuList : List UInt8
  gpuList : List UInt8
  debugLogFile : List UInt8
  statsPath : List UInt8
  configFileContents : List UInt8
  throttleMask : List UInt8
  pluginPath : List UInt8
  currentIteration : UInt32
  totalIterations : UInt32
  timeoutSeconds : UInt32
  failCheckInterval : UInt32

/-- The view of a `dcgmRunDiag_v7`. -/
def RunDiagV7.view (r : RunDiagV7 L) : RequestView L where
  version := r.version
  flags := r.flags
  debugLevel := r.debugLevel
  groupId := r.groupId
  validate := r.validate
  testNames i := (r.testNames.get i).cStr
  testParms i := (r.testParms.get i).cStr
  fakeGpuList := r.fakeGpuList.cStr
  gpuList := r.gpuList.cStr
  debugLogFile := r.debugLogFile.cStr
  statsPath := r.statsPath.cStr
  configFileContents := r.configFileContents.cStr
  throttleMask := r.throttleMask.cStr
  pluginPath := r.pluginPath.cStr
  currentIteration := r.currentIteration
  totalIterations := r.totalIterations
  timeoutSeconds := r.timeoutSeconds
  failCheckInterval := r.failCheckInterval

/-- The view of a `dcgmRunDiag_v8`. -/
def RunDiagV8.view (d : RunDiagV8 L) : RequestView L where
  version := d.version
  flags := d.flags
  debugLevel := d.debugLevel
  groupId := d.groupId
  validate := d.validate
  testNames i := (d.testNames.get i).cStr
  testParms i := (d.testParms.get i).cStr
  fakeGpuList := d.fakeGpuList.cStr
  gpuList := d.gpuList.cStr
  debugLogFile := d.debugLogFile.cStr
  statsPath := d.statsPath.cStr
  configFileContents := d.configFileContents.cStr
  throttleMask := d.throttleMask.cStr
  pluginPath := d.pluginPath.cStr
  currentIteration := d.currentIteration
  totalIterations := d.totalIterations
  timeoutSeconds := d.timeoutSeconds
  failCheckInterval := d.failCheckInterval

/-- The view with every string cut to the capacity of its `dcgmRunDiag_v8` field minus one. -/
def RequestView.clip (v : RequestView L) : RequestView L :=
  { v with
    testNames := fun i => (v.testNames i).take (L.maxTestNamesLen - 1)
    testParms := fun i => (v.testParms i).take (L.maxTestParmsLenV2 - 1)
    fakeGpuList := v.fakeGpuList.take (L.gpuListLen - 1)
    gpuList := v.gpuList.take (L.gpuListLen - 1)
    debugLogFile := v.debugLogFile.take (L.pathLen - 1)
    statsPath := v.statsPath.take (L.pathLen - 1)
    configFileContents := v.configFileContents.take (L.maxConfigFileLen - 1)
    throttleMask := v.throttleMask.take (L.throttleMaskLen - 1)
    pluginPath := v.pluginPath.take (L.pathLen - 1) }

/-! ## The two paths -/

/-- The sanitising block cuts every string of the request to its capacity minus one. -/
lemma view_sanitizeRunDiag (d : RunDiagV8 L) : (sanitizeRunDiag d).view = d.view.clip := by
  simp only [RunDiagV8.view, RequestView.clip, sanitizeRunDiag, CArray.get_forEachIndex,
    cStr_dcgmTerminateCharBuffer _ L.maxTestNamesLen_pos,
    cStr_dcgmTerminateCharBuffer _ L.maxTestParmsLenV2_pos,
    cStr_dcgmTerminateCharBuffer _ L.gpuListLen_pos, cStr_dcgmTerminateCharBuffer _ L.pathLen_pos,
    cStr_dcgmTerminateCharBuffer _ L.maxConfigFileLen_pos,
    cStr_dcgmTerminateCharBuffer _ L.throttleMaskLen_pos]

/-- Clipping the upgraded request is clipping the source: `SafeCopyTo` already cut each
string to the same length, and the throttle mask is copied whole. -/
lemma clip_view_produceLatestDcgmRunDiag (r : RunDiagV7 L) :
    (produceLatestDcgmRunDiag r).view.clip = r.view.clip := by
  simp only [RunDiagV8.view, RunDiagV7.view, RequestView.clip, produceLatestDcgmRunDiag,
    CArray.get_forEachIndex, CArray.getD_val, List.take_take, min_self,
    cStr_safeCopyTo _ _ L.maxTestNamesLen_pos, cStr_safeCopyTo _ _ L.maxTestParmsLenV2_pos,
    cStr_safeCopyTo _ _ L.gpuListLen_pos, cStr_safeCopyTo _ _ L.pathLen_pos,
    cStr_safeCopyTo _ _ L.maxConfigFileLen_pos]

/-- The upgrade path of `ProcessRun_v5` … `ProcessRun_v8`: the manager reads the client's
`dcgmRunDiag_v7` with every string cut to the capacity of its `dcgmRunDiag_v8` field minus
one. -/
lemma view_sanitizeRunDiag_produceLatestDcgmRunDiag (r : RunDiagV7 L) :
    (sanitizeRunDiag (produceLatestDcgmRunDiag r)).view = r.view.clip := by
  rw [view_sanitizeRunDiag, clip_view_produceLatestDcgmRunDiag]

/-! ## Requests that arrive unchanged -/

/-- Every character buffer of a `dcgmRunDiag_v7` holds a NUL. -/
structure RunDiagV7.Terminated (r : RunDiagV7 L) : Prop where
  testNames : ∀ i, (r.testNames.get i).HasNul
  testParms : ∀ i, (r.testParms.get i).HasNul
  fakeGpuList : r.fakeGpuList.HasNul
  gpuList : r.gpuList.HasNul
  debugLogFile : r.debugLogFile.HasNul
  statsPath : r.statsPath.HasNul
  configFileContents : r.configFileContents.HasNul
  throttleMask : r.throttleMask.HasNul
  pluginPath : r.pluginPath.HasNul

/-- Every string of the view fits its `dcgmRunDiag_v8` field with a NUL after it. -/
structure RequestView.Fits (v : RequestView L) : Prop where
  testNames : ∀ i, (v.testNames i).length ≤ L.maxTestNamesLen - 1
  testParms : ∀ i, (v.testParms i).length ≤ L.maxTestParmsLenV2 - 1
  fakeGpuList : v.fakeGpuList.length ≤ L.gpuListLen - 1
  gpuList : v.gpuList.length ≤ L.gpuListLen - 1
  debugLogFile : v.debugLogFile.length ≤ L.pathLen - 1
  statsPath : v.statsPath.length ≤ L.pathLen - 1
  configFileContents : v.configFileContents.length ≤ L.maxConfigFileLen - 1
  throttleMask : v.throttleMask.length ≤ L.throttleMaskLen - 1
  pluginPath : v.pluginPath.length ≤ L.pathLen - 1

lemma RequestView.clip_eq_self {v : RequestView L} (h : v.Fits) : v.clip = v := by
  simp only [clip, List.take_of_length_le (h.testNames _), List.take_of_length_le (h.testParms _),
    List.take_of_length_le h.fakeGpuList, List.take_of_length_le h.gpuList,
    List.take_of_length_le h.debugLogFile, List.take_of_length_le h.statsPath,
    List.take_of_length_le h.configFileContents, List.take_of_length_le h.throttleMask,
    List.take_of_length_le h.pluginPath]

lemma le_pred_of_hasNul {n : Nat} {b : CharBuf n} (h : b.HasNul) : b.cStr.length ≤ n - 1 := by
  have := cStr_length_lt b h
  omega

lemma RunDiagV8.fits_view {d : RunDiagV8 L} (h : d.Terminated) : d.view.Fits where
  testNames i := le_pred_of_hasNul (h.testNames i)
  testParms i := le_pred_of_hasNul (h.testParms i)
  fakeGpuList := le_pred_of_hasNul h.fakeGpuList
  gpuList := le_pred_of_hasNul h.gpuList
  debugLogFile := le_pred_of_hasNul h.debugLogFile
  statsPath := le_pred_of_hasNul h.statsPath
  configFileContents := le_pred_of_hasNul h.configFileContents
  throttleMask := le_pred_of_hasNul h.throttleMask
  pluginPath := le_pred_of_hasNul h.pluginPath

/-- A `dcgmRunDiag_v7` test parameter fits a `dcgmRunDiag_v8` one when the latter is no
shorter. -/
lemma RunDiagV7.fits_view {r : RunDiagV7 L} (h : r.Terminated)
    (hparms : L.maxTestParmsLen ≤ L.maxTestParmsLenV2) : r.view.Fits where
  testNames i := le_pred_of_hasNul (h.testNames i)
  testParms i := (le_pred_of_hasNul (h.testParms i)).trans (Nat.sub_le_sub_right hparms 1)
  fakeGpuList := le_pred_of_hasNul h.fakeGpuList
  gpuList := le_pred_of_hasNul h.gpuList
  debugLogFile := le_pred_of_hasNul h.debugLogFile
  statsPath := le_pred_of_hasNul h.statsPath
  configFileContents := le_pred_of_hasNul h.configFileContents
  throttleMask := le_pred_of_hasNul h.throttleMask
  pluginPath := le_pred_of_hasNul h.pluginPath

/-- Normalisation loses nothing of a well-formed request: a `dcgmRunDiag_v7` whose buffers
each hold a NUL reads the same after the upgrade and the sanitising block, when a
`dcgmRunDiag_v8` test parameter is no shorter than a `dcgmRunDiag_v7` one; a `dcgmRunDiag_v8`
whose buffers each hold a NUL reads the same after the sanitising block. -/
theorem normalize_lossless (r : RunDiagV7 L) (hr : r.Terminated)
    (hparms : L.maxTestParmsLen ≤ L.maxTestParmsLenV2) (d : RunDiagV8 L) (hd : d.Terminated) :
    (sanitizeRunDiag (produceLatestDcgmRunDiag r)).view = r.view ∧
      (sanitizeRunDiag d).view = d.view := by
  rw [view_sanitizeRunDiag_produceLatestDcgmRunDiag, view_sanitizeRunDiag,
    RequestView.clip_eq_self (r.fits_view hr hparms), RequestView.clip_eq_self (d.fits_view hd)]
  exact ⟨rfl, rfl⟩

/-- A `dcgmRunDiag_v7` whose GPU list holds `0,1` and a NUL, upgraded into test parameters of
three bytes, and a zero `dcgmRunDiag_v8`, both read unchanged. -/
theorem normalize_lossless_gpu_list :
    let L : RunDiagLimits := ⟨1, 2, 1, 2, 3, 4, 2, 2, 2, by decide, by decide, by decide,
      by decide, by decide, by decide⟩
    let r : RunDiagV7 L := { (default : RunDiagV7 L) with gpuList := ⟨[48, 44, 49, 0], rfl⟩ }
    let d : RunDiagV8 L := default
    r.Terminated ∧ L.maxTestParmsLen ≤ L.maxTestParmsLenV2 ∧ d.Terminated ∧
      (sanitizeRunDiag (produceLatestDcgmRunDiag r)).view = r.view ∧
      (sanitizeRunDiag d).view = d.view := by
  dsimp only
  refine ⟨?hr, ?hp, ?hd, normalize_lossless _ ?hr ?hp _ ?hd⟩
  · constructor <;> decide
  · decide
  · constructor <;> decide

/-! ## What `ProcessMessage` hands the manager -/

/-- The response version the handler of each run-message version binds: `SetVersion7` for
`ProcessRun_v5`, `SetVersion8` for `ProcessRun_v6`, `SetVersion9` for `ProcessRun_v7` and
`SetVersion10` for `ProcessRun_v8` and `ProcessRun_v9`. -/
def RunVersion.responseVersion : RunVersion → Nat
  | .v5 => 7
  | .v6 => 8
  | .v7 => 9
  | .v8 => 10
  | .v9 => 10

/-- The request and action of a run command of version `k`, as the cast of `ProcessMessage`
to `dcgm_diag_msg_run_vK` reads them, the request seen by a reader. -/
def CommandBody.runRequest (b : CommandBody L) : RunVersion → RequestView L × UInt32
  | .v5 => (b.runV5.runDiag.view, b.runV5.action)
  | .v6 => (b.runV6.runDiag.view, b.runV6.action)
  | .v7 => (b.runV7.runDiag.view, b.runV7.action)
  | .v8 => (b.runV8.runDiag.view, b.runV8.action)
  | .v9 => (b.runV9.runDiag.view, b.runV9.action)

section Dispatch

variable (P : DiagProtocol) (mgr : ManagerCall L → DcgmReturn)

/-- A run handler whose version check passes hands the manager the clipped view of its
request, with its action, its response version and the header's connection. -/
lemma processRun_view (k : RunVersion) (cmd : ModuleCommand L)
    (h : cmd.header.version = dcgmDiagMsgRunVersion P k) :
    ∃ drd : RunDiagV8 L, drd.view = (cmd.body.runRequest k).1.clip ∧
      processRun P mgr k cmd = runDiagAndAction mgr drd (cmd.body.runRequest k).2
        k.responseVersion cmd.header.connectionId := by
  cases k
  all_goals first
    | exact ⟨_, view_sanitizeRunDiag_produceLatestDcgmRunDiag _,
        processRunLegacy_of_version mgr _ _ _ h⟩
    | exact ⟨_, view_sanitizeRunDiag _, processRunV9_of_version P mgr _ h⟩

/-- Every request `ProcessMessage` hands the manager, from any state and for any command, is
the request of the run message the header's version names, with each string cut to the
capacity of its `dcgmRunDiag_v8` field minus one; the action is that message's, the response
version the one its handler binds, and the connection the header's. -/
theorem processMessage_runDiag_view (s : ModuleState) (cmd : ModuleCommand L)
    {drd : RunDiagV8 L} {a : UInt32} {rv cid : Nat}
    (h : ManagerCall.runDiagAndAction drd a rv cid ∈ (processMessage P mgr s (some cmd)).calls) :
    ∃ k, cmd.header.version = dcgmDiagMsgRunVersion P k ∧
      drd.view = (cmd.body.runRequest k).1.clip ∧ a = (cmd.body.runRequest k).2 ∧
      rv = k.responseVersion ∧ cid = cmd.header.connectionId := by
  simp only [processMessage] at h
  split_ifs at h with hcore hrun hp hstop
  · simp only [processCoreMessage] at h
    split_ifs at h <;> simp at h
  · simp at h
  · by_cases hk : ∃ k, cmd.header.version = dcgmDiagMsgRunVersion P k
    · obtain ⟨k, hk⟩ := hk
      obtain ⟨drd', hview, hrun'⟩ := processRun_view P mgr k cmd hk
      rw [processRunByVersion_of_version P mgr cmd k hk, hrun'] at h
      simp only [runDiagAndAction, List.mem_singleton, ManagerCall.runDiagAndAction.injEq] at h
      obtain ⟨rfl, rfl, rfl, rfl⟩ := h
      exact ⟨k, hk, hview, rfl, rfl, rfl⟩
    · simp [processRunByVersion_of_ne P mgr cmd (not_exists.1 hk)] at h
  · simp [processStop] at h
  · simp at h

end Dispatch

/-- A version-8 run command on connection 3 whose buffers are all `AA`, with no NUL: it reaches
the manager bound to response version 10, with every string cut to `A`. -/
theorem processMessage_runDiag_view_v8 :
    let P : DiagProtocol := ⟨0, 1, 2, 1, 2, fun _ => 100, by decide, by decide,
      fun _ => show 100 < 2 ^ 24 by decide⟩
    let L : RunDiagLimits := ⟨1, 2, 1, 2, 2, 2, 2, 2, 2, by decide, by decide, by decide,
      by decide, by decide, by decide⟩
    let r : RunDiagV7 L := { (default : RunDiagV7 L) with
      testNames := .replicate _ (.replicate _ 65), testParms := .replicate _ (.replicate _ 65),
      fakeGpuList := .replicate _ 65, gpuList := .replicate _ 65, debugLogFile := .replicate _ 65,
      statsPath := .replicate _ 65, configFileContents := .replicate _ 65,
      throttleMask := .replicate _ 65, pluginPath := .replicate _ 65 }
    let cmd : ModuleCommand L :=
      ⟨⟨5, 1, 3, dcgmDiagMsgRunVersion P .v8⟩, { (default : CommandBody L) with runV8 := ⟨r, 0⟩ }⟩
    let drd := sanitizeRunDiag (produceLatestDcgmRunDiag r)
    r.view.gpuList = [65, 65] ∧ drd.view.gpuList = [65] ∧
      ManagerCall.runDiagAndAction drd 0 10 3 ∈
        (processMessage P (fun _ => .ok) ⟨false, 0⟩ (some cmd)).calls ∧
      ∃ k, cmd.header.version = dcgmDiagMsgRunVersion P k ∧
        drd.view = (cmd.body.runRequest k).1.clip ∧ 0 = (cmd.body.runRequest k).2 ∧
        10 = k.responseVersion ∧ 3 = cmd.header.connectionId := by
  dsimp only
  refine ⟨by decide, by decide, ?h, processMessage_runDiag_view _ _ _ _ ?h⟩
  decide

end DcgmDiag
