import DcgmDiag.Structs

/-!
# Upgrading and sanitising a run request

`ProduceLatestDcgmRunDiag` turns the `dcgmRunDiag_v7` carried by the run messages of
versions 5 to 8 into the canonical `dcgmRunDiag_v8`, field by field.  Each run handler then
forces a terminator into every character buffer of the request it hands on; the five
handlers carry the same block of code, which is `sanitizeRunDiag` here.  The main results
are

* `produceLatestDcgmRunDiag_spec`: what the upgrade keeps of each field;
* `sanitizeRunDiag_terminated`: after sanitising, every character buffer of the request,
  every test name and every test parameter included, holds a NUL.
-/

namespace DcgmDiag

open CharBuf

variable {L : RunDiagLimits}

/-- The value-initialised `dcgmRunDiag_v8 drdV8 {}`. -/
def RunDiagV8.zero (L : RunDiagLimits) : RunDiagV8 L where
  version := 0
  flags := 0
  debugLevel := 0
  groupId := 0
  validate := 0
  testNames := CArray.replicate _ (CharBuf.zero _)
  testParms := CArray.replicate _ (CharBuf.zero _)
  fakeGpuList := CharBuf.zero _
  gpuList := CharBuf.zero _
  debugLogFile := CharBuf.zero _
  statsPath := CharBuf.zero _
  configFileContents := CharBuf.zero _
  throttleMask := CharBuf.zero _
  pluginPath := CharBuf.zero _
  unusedBuf := CharBuf.zero _
  currentIteration := 0
  totalIterations := 0
  timeoutSeconds := 0
  failCheckInterval := 0

/-- `ProduceLatestDcgmRunDiag`: start from `drdV8 {}` and copy each field of the source,
the character buffers through `SafeCopyTo` and the throttle mask through `memcpy` of the
whole field. -/
def produceLatestDcgmRunDiag (drdV7 : RunDiagV7 L) : RunDiagV8 L :=
  let drdV8 := RunDiagV8.zero L
  { drdV8 with
    version := drdV7.version
    flags := drdV7.flags
    debugLevel := drdV7.debugLevel
    groupId := drdV7.groupId
    validate := drdV7.validate
    testNames := drdV8.testNames.forEachIndex fun i d => safeCopyTo d (drdV7.testNames.getD i)
    testParms := drdV8.testParms.forEachIndex fun i d => safeCopyTo d (drdV7.testParms.getD i)
    fakeGpuList := safeCopyTo drdV8.fakeGpuList drdV7.fakeGpuList
    gpuList := safeCopyTo drdV8.gpuList drdV7.gpuList
    debugLogFile := safeCopyTo drdV8.debugLogFile drdV7.debugLogFile
    statsPath := safeCopyTo drdV8.statsPath drdV7.statsPath
    configFileContents := safeCopyTo drdV8.configFileContents drdV7.configFileContents
    throttleMask := drdV7.throttleMask
    pluginPath := safeCopyTo drdV8.pluginPath drdV7.pluginPath
    currentIteration := drdV7.currentIteration
    totalIterations := drdV7.totalIterations
    timeoutSeconds := drdV7.timeoutSeconds
    failCheckInterval := drdV7.failCheckInterval }

/-- The `/* Sanitize the inputs */` block of the run handlers: terminate each character
buffer of the request, then each test name and each test parameter
(`i < DCGM_ARRAY_CAPACITY(...)`). -/
def sanitizeRunDiag (drd : RunDiagV8 L) : RunDiagV8 L :=
  { drd with
    fakeGpuList := dcgmTerminateCharBuffer drd.fakeGpuList
    gpuList := dcgmTerminateCharBuffer drd.gpuList
    debugLogFile := dcgmTerminateCharBuffer drd.debugLogFile
    statsPath := dcgmTerminateCharBuffer drd.statsPath
    configFileContents := dcgmTerminateCharBuffer drd.configFileContents
    throttleMask := dcgmTerminateCharBuffer drd.throttleMask
    pluginPath := dcgmTerminateCharBuffer drd.pluginPath
    unusedBuf := dcgmTerminateCharBuffer drd.unusedBuf
    testNames := drd.testNames.forEachIndex fun _ => dcgmTerminateCharBuffer
    testParms := drd.testParms.forEachIndex fun _ => dcgmTerminateCharBuffer }

/-- Every character buffer of a request holds a NUL: the eight single buffers, each of the
`DCGM_MAX_TEST_NAMES` test names and each of the `DCGM_MAX_TEST_PARMS` test parameters. -/
structure RunDiagV8.Terminated (drd : RunDiagV8 L) : Prop where
  fakeGpuList : drd.fakeGpuList.HasNul
  gpuList : drd.gpuList.HasNul
  debugLogFile : drd.debugLogFile.HasNul
  statsPath : drd.statsPath.HasNul
  configFileContents : drd.configFileContents.HasNul
  throttleMask : drd.throttleMask.HasNul
  pluginPath : drd.pluginPath.HasNul
  unusedBuf : drd.unusedBuf.HasNul
  testNames : ∀ i, (drd.testNames.get i).HasNul
  testParms : ∀ i, (drd.testParms.get i).HasNul

/-- Sanitising terminates every buffer, whatever the request held. -/
lemma sanitizeRunDiag_terminated (drd : RunDiagV8 L) : (sanitizeRunDiag drd).Terminated where
  fakeGpuList := hasNul_dcgmTerminateCharBuffer _ L.gpuListLen_pos
  gpuList := hasNul_dcgmTerminateCharBuffer _ L.gpuListLen_pos
  debugLogFile := hasNul_dcgmTerminateCharBuffer _ L.pathLen_pos
  statsPath := hasNul_dcgmTerminateCharBuffer _ L.pathLen_pos
  configFileContents := hasNul_dcgmTerminateCharBuffer _ L.maxConfigFileLen_pos
  throttleMask := hasNul_dcgmTerminateCharBuffer _ L.throttleMaskLen_pos
  pluginPath := hasNul_dcgmTerminateCharBuffer _ L.pathLen_pos
  unusedBuf := hasNul_dcgmTerminateCharBuffer _ L.pathLen_pos
  testNames i := by
    simpa [sanitizeRunDiag] using hasNul_dcgmTerminateCharBuffer _ L.maxTestNamesLen_pos
  testParms i := by
    simpa [sanitizeRunDiag] using hasNul_dcgmTerminateCharBuffer _ L.maxTestParmsLenV2_pos

/-- What the upgrade keeps of a `dcgmRunDiag_v7`: every scalar field, the throttle mask
byte for byte, an all-zero `_unusedBuf`, and in every other character buffer the source's
string cut to the destination capacity minus one, with a NUL after it. -/
theorem produceLatestDcgmRunDiag_spec (r : RunDiagV7 L) :
    let d := produceLatestDcgmRunDiag r
    d.version = r.version ∧ d.flags = r.flags ∧ d.debugLevel = r.debugLevel ∧
      d.groupId = r.groupId ∧ d.validate = r.validate ∧
      d.currentIteration = r.currentIteration ∧ d.totalIterations = r.totalIterations ∧
      d.timeoutSeconds = r.timeoutSeconds ∧ d.failCheckInterval = r.failCheckInterval ∧
      d.throttleMask = r.throttleMask ∧ d.unusedBuf = zero L.pathLen ∧
      (∀ i, HoldsCopyOf (d.testNames.get i) (r.testNames.get i)) ∧
      (∀ i, HoldsCopyOf (d.testParms.get i) (r.testParms.get i)) ∧
      HoldsCopyOf d.fakeGpuList r.fakeGpuList ∧ HoldsCopyOf d.gpuList r.gpuList ∧
      HoldsCopyOf d.debugLogFile r.debugLogFile ∧ HoldsCopyOf d.statsPath r.statsPath ∧
      HoldsCopyOf d.configFileContents r.configFileContents ∧
      HoldsCopyOf d.pluginPath r.pluginPath := by
  refine ⟨rfl, rfl, rfl, rfl, rfl, rfl, rfl, rfl, rfl, rfl, rfl, fun i => ?_, fun i => ?_,
    holdsCopyOf_safeCopyTo _ _ L.gpuListLen_pos, holdsCopyOf_safeCopyTo _ _ L.gpuListLen_pos,
    holdsCopyOf_safeCopyTo _ _ L.pathLen_pos, holdsCopyOf_safeCopyTo _ _ L.pathLen_pos,
    holdsCopyOf_safeCopyTo _ _ L.maxConfigFileLen_pos,
    holdsCopyOf_safeCopyTo _ _ L.pathLen_pos⟩
  · simpa [produceLatestDcgmRunDiag] using holdsCopyOf_safeCopyTo _ _ L.maxTestNamesLen_pos
  · simpa [produceLatestDcgmRunDiag] using holdsCopyOf_safeCopyTo _ _ L.maxTestParmsLenV2_pos

end DcgmDiag
