import DcgmDiag.CArray

/-!
# The wire records of the diag module

`dcgm_structs.h` and the module-message headers are not among the sources.  The records
here keep the fields that `DcgmModuleDiag.cpp` reads or writes, with the C types of those
fields.  The array bounds and the protocol codes those headers `#define` are parameters
(`RunDiagLimits`, `DiagProtocol`) that carry, as fields, the facts the code relies on: a C
array has a positive size, the labels of one `switch` differ, and `MAKE_DCGM_VERSION` puts
the struct size below bit 24 and the version number above it.
-/

namespace DcgmDiag

/-- The `dcgmReturn_t` codes that the module and the software plugin name. -/
inductive DcgmReturn
  /-- `DCGM_ST_OK` -/
  | ok
  /-- `DCGM_ST_BADPARAM` -/
  | badParam
  /-- `DCGM_ST_NOT_SUPPORTED` -/
  | notSupported
  /-- `DCGM_ST_VER_MISMATCH` -/
  | verMismatch
  /-- `DCGM_ST_FUNCTION_NOT_FOUND` -/
  | functionNotFound
  /-- `DCGM_ST_PAUSED` -/
  | paused
  /-- Any other code. -/
  | other (code : Int)
  deriving DecidableEq, Repr

/-- The array bounds of `dcgm_structs.h` that size a run request.  Each is the size of a C
array; those of the buffers the module writes are positive. -/
structure RunDiagLimits where
  /-- `DCGM_MAX_TEST_NAMES` -/
  maxTestNames : Nat
  /-- `DCGM_MAX_TEST_NAMES_LEN` -/
  maxTestNamesLen : Nat
  /-- `DCGM_MAX_TEST_PARMS` -/
  maxTestParms : Nat
  /-- `DCGM_MAX_TEST_PARMS_LEN`, the parameter length of `dcgmRunDiag_v7` -/
  maxTestParmsLen : Nat
  /-- `DCGM_MAX_TEST_PARMS_LEN_V2`, the parameter length of `dcgmRunDiag_v8` -/
  maxTestParmsLenV2 : Nat
  /-- `DCGM_GPU_LIST_LEN` -/
  gpuListLen : Nat
  /-- `DCGM_PATH_LEN` -/
  pathLen : Nat
  /-- `DCGM_MAX_CONFIG_FILE_LEN` -/
  maxConfigFileLen : Nat
  /-- `DCGM_THROTTLE_MASK_LEN` -/
  throttleMaskLen : Nat
  maxTestNamesLen_pos : 0 < maxTestNamesLen
  maxTestParmsLenV2_pos : 0 < maxTestParmsLenV2
  gpuListLen_pos : 0 < gpuListLen
  pathLen_pos : 0 < pathLen
  maxConfigFileLen_pos : 0 < maxConfigFileLen
  throttleMaskLen_pos : 0 < throttleMaskLen

variable (L : RunDiagLimits)

/-- The fields of `dcgmRunDiag_v7` that `ProduceLatestDcgmRunDiag` reads. -/
structure RunDiagV7 where
  version : UInt32
  flags : UInt32
  debugLevel : UInt32
  /-- `dcgmGpuGrp_t`, a `uintptr_t` -/
  groupId : UInt64
  /-- `dcgmPolicyValidation_t` -/
  validate : UInt32
  testNames : CArray (CharBuf L.maxTestNamesLen) L.maxTestNames
  testParms : CArray (CharBuf L.maxTestParmsLen) L.maxTestParms
  fakeGpuList : CharBuf L.gpuListLen
  gpuList : CharBuf L.gpuListLen
  debugLogFile : CharBuf L.pathLen
  statsPath : CharBuf L.pathLen
  configFileContents : CharBuf L.maxConfigFileLen
  throttleMask : CharBuf L.throttleMaskLen
  pluginPath : CharBuf L.pathLen
  currentIteration : UInt32
  totalIterations : UInt32
  timeoutSeconds : UInt32
  failCheckInterval : UInt32
  deriving DecidableEq, Inhabited

/-- `dcgmRunDiag_v8`, the canonical run request handed to `DcgmDiagManager`. -/
structure RunDiagV8 where
  version : UInt32
  flags : UInt32
  debugLevel : UInt32
  groupId : UInt64
  validate : UInt32
  testNames : CArray (CharBuf L.maxTestNamesLen) L.maxTestNames
  testParms : CArray (CharBuf L.maxTestParmsLenV2) L.maxTestParms
  fakeGpuList : CharBuf L.gpuListLen
  gpuList : CharBuf L.gpuListLen
  debugLogFile : CharBuf L.pathLen
  statsPath : CharBuf L.pathLen
  configFileContents : CharBuf L.maxConfigFileLen
  throttleMask : CharBuf L.throttleMaskLen
  pluginPath : CharBuf L.pathLen
  /-- `_unusedBuf` -/
  unusedBuf : CharBuf L.pathLen
  currentIteration : UInt32
  totalIterations : UInt32
  timeoutSeconds : UInt32
  failCheckInterval : UInt32
  deriving DecidableEq, Inhabited

/-! ## Module messages -/

/-- The fields of `dcgm_module_command_header_t` that the module reads. -/
structure CommandHeader where
  /-- `dcgmModuleId_t` -/
  moduleId : Nat
  subCommand : Nat
  connectionId : Nat
  version : Nat
  deriving DecidableEq, Repr

/-- A run message as one `ProcessRun_vK` reads it: the header, the run request and the
`dcgmPolicyAction_t`.  The response record each message also carries is only bound to the
response wrapper, never read by the module. -/
structure MsgRun (R : Type) where
  header : CommandHeader
  runDiag : R
  action : UInt32
  deriving DecidableEq

/-- The generations of `dcgm_diag_msg_run_vK` the module accepts. -/
inductive RunVersion
  | v5 | v6 | v7 | v8 | v9
  deriving DecidableEq, Repr

/-- The version number `K` of `dcgm_diag_msg_run_vK`. -/
def RunVersion.num : RunVersion → Nat
  | .v5 => 5
  | .v6 => 6
  | .v7 => 7
  | .v8 => 8
  | .v9 => 9

lemma RunVersion.num_injective : Function.Injective RunVersion.num := by
  intro a b h
  cases a <;> cases b <;> simp_all [RunVersion.num]

/-- `MAKE_DCGM_VERSION(typeName, ver)`: `sizeof(typeName) | (ver << 24)`. -/
def makeDcgmVersion (size ver : Nat) : Nat := size ||| (ver <<< 24)

lemma makeDcgmVersion_eq_add {size : Nat} (ver : Nat) (h : size < 2 ^ 24) :
    makeDcgmVersion size ver = 2 ^ 24 * ver + size := by
  rw [makeDcgmVersion, Nat.or_comm, Nat.shiftLeft_eq, Nat.mul_comm, Nat.mul_add_lt_is_or h]

/-- Two versions made from sizes below `2^24` agree only if their version numbers do. -/
lemma makeDcgmVersion_inj {s s' v v' : Nat} (hs : s < 2 ^ 24) (hs' : s' < 2 ^ 24)
    (h : makeDcgmVersion s v = makeDcgmVersion s' v') : v = v' := by
  rw [makeDcgmVersion_eq_add v hs, makeDcgmVersion_eq_add v' hs'] at h
  omega

/-- The codes that the DCGM headers `#define` for the module protocol.  Their values are not
in the sources; the fields below are what the code relies on: the case labels of each
`switch` differ, and every run-message struct is smaller than `2^24` bytes, as
`MAKE_DCGM_VERSION` requires. -/
structure DiagProtocol where
  /-- `DcgmModuleIdCore` -/
  moduleIdCore : Nat
  /-- `DCGM_CORE_SR_LOGGING_CHANGED` -/
  coreSrLoggingChanged : Nat
  /-- `DCGM_CORE_SR_PAUSE_RESUME` -/
  coreSrPauseResume : Nat
  /-- `DCGM_DIAG_SR_RUN` -/
  diagSrRun : Nat
  /-- `DCGM_DIAG_SR_STOP` -/
  diagSrStop : Nat
  /-- `sizeof(dcgm_diag_msg_run_vK)` -/
  sizeofMsgRun : RunVersion → Nat
  core_labels_ne : coreSrLoggingChanged ≠ coreSrPauseResume
  diag_labels_ne : diagSrRun ≠ diagSrStop
  sizeofMsgRun_lt : ∀ k, sizeofMsgRun k < 2 ^ 24

/-- `dcgm_diag_msg_run_versionK = MAKE_DCGM_VERSION(dcgm_diag_msg_run_vK, K)`. -/
def dcgmDiagMsgRunVersion (P : DiagProtocol) (k : RunVersion) : Nat :=
  makeDcgmVersion (P.sizeofMsgRun k) k.num

/-- The five run-message versions are pairwise distinct. -/
lemma dcgmDiagMsgRunVersion_inj (P : DiagProtocol) {k k' : RunVersion}
    (h : dcgmDiagMsgRunVersion P k = dcgmDiagMsgRunVersion P k') : k = k' :=
  RunVersion.num_injective (makeDcgmVersion_inj (P.sizeofMsgRun_lt k) (P.sizeofMsgRun_lt k') h)

end DcgmDiag
