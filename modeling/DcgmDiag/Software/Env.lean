import DcgmDiag.Plugin

/-!
# What the software checks read

The checks of `Software.cpp` read the GPU telemetry through
`DcgmRecorder::GetCurrentFieldValue`, and the host through `opendir`/`readdir`, `access`,
`readlink`, `dlopen`, `getenv` and `euidaccess`.  All of these are oracles here
(`SoftwareEnv`): a result stated for every environment holds whatever the telemetry and the
host answer.  A field value is the `int64_t` the checks read, as a `BitVec 64` compared
signed, so that the sums the checks form wrap as the machine's do.
-/

namespace DcgmDiag

/-- The telemetry fields the software plugin reads (`DCGM_FI_DEV_*`). -/
inductive FieldId
  | retiredPending | eccDbeVolTotal | retiredDbe | retiredSbe | rowRemapFailure
  | rowRemapPending | uncorrectableRemappedRows | inforomConfigValid | graphicsPids
  deriving DecidableEq, Repr

/-- A `dcgmFieldValue_v2` as the checks read it: its status and `value.i64`.  The checks
that read `value.blob[0]` read the low byte of the same union. -/
structure FieldValue where
  status : DcgmReturn
  i64 : BitVec 64
  deriving DecidableEq, Repr

/-- `value.blob[0]` of a field value: the low byte of the union. -/
def FieldValue.blob0 (v : FieldValue) : Nat := v.i64.toNat % 256

/-- The constants of `dcgm_structs.h` and `DcgmGPUHardwareLimits.h` that the checks compare
readings with; their values are not among the sources. -/
structure SoftwareLimits where
  /-- `DCGM_INT64_BLANK` -/
  int64Blank : BitVec 64
  /-- `DCGM_LIMIT_MAX_RETIRED_PAGES`, as the `int64_t` it is compared as -/
  limitMaxRetiredPages : BitVec 64

/-- `DCGM_INT64_IS_BLANK(v)`: `v >= DCGM_INT64_BLANK`, as `int64_t`. -/
def SoftwareLimits.isBlank (K : SoftwareLimits) (v : BitVec 64) : Bool := K.int64Blank.sle v

/-- The test `status != DCGM_ST_OK || DCGM_INT64_IS_BLANK(value.i64)` by which a check skips
a reading it got. -/
def SoftwareLimits.skips (K : SoftwareLimits) (v : FieldValue) : Bool :=
  v.status != .ok || K.isBlank v.i64

/-- The two constants as DCGM's headers define them: `DCGM_INT64_BLANK` is
`0x7ffffffffffffff0` and `DCGM_LIMIT_MAX_RETIRED_PAGES` is `60`.  The results hold for every
value of the constants; only the runs on fixed inputs use these. -/
def dcgmLimits : SoftwareLimits := ⟨0x7ffffffffffffff0, 60⟩

/-- `v > 0` for an `int64_t`. -/
def gtZero (v : BitVec 64) : Bool := (0 : BitVec 64).slt v

/-- An `errno` value, which is never zero. -/
structure Errno where
  code : Nat
  pos : 0 < code
  deriving DecidableEq, Repr

/-- `ENOENT` (Linux). -/
def ENOENT : Errno := ⟨2, by decide⟩

/-- `EINVAL` (Linux). -/
def EINVAL : Errno := ⟨22, by decide⟩

/-- `ENAMETOOLONG` (Linux). -/
def ENAMETOOLONG : Errno := ⟨36, by decide⟩

/-- An entry of `m_gpuInfo.gpus`, as `checkPersistenceMode` reads it. -/
structure GpuInfo where
  gpuId : Nat
  persistenceModeEnabled : Bool
  deriving DecidableEq, Repr

/-- The plugin's own data and the answers of the outside world. -/
structure SoftwareEnv where
  /-- `m_gpuList` -/
  gpuList : List Nat
  /-- `UsingFakeGpus()` -/
  usingFakeGpus : Bool
  /-- `m_gpuInfo.gpus[0 .. numGpus)` -/
  gpuInfo : List GpuInfo
  /-- `GetCurrentFieldValue(gpuId, fieldId, value, flags)`: the returned status and the value
  written, for `flags` live data (`true`) or `0` (`false`). -/
  getCurrentFieldValue : Nat → FieldId → Bool → DcgmReturn × FieldValue
  /-- `m_dcgmSystem.GetAllDevices(gpuIds)` -/
  getAllDevices : DcgmReturn × List Nat
  /-- `opendir` and the `readdir` loop: the entry names, or `none` if it cannot be opened. -/
  listDir : String → Option (List String)
  /-- `access(path, R_OK)`: `none` on success, else `errno`. -/
  accessRead : String → Option Errno
  /-- `euidaccess(".", W_OK) == 0` -/
  cwdWritable : Bool
  /-- `getcwd(cwd, 1024)`: the working directory, or `none` for the `NULL` it returns on
  failure, as for a path of 1024 bytes or more. -/
  getcwd : Option String
  /-- `readlink(path, ...)`: the whole link target, or `errno`. -/
  readlink : String → Except Errno String
  /-- `dlopen(library, RTLD_NOW)`: `none` on success, else the text of `dlerror()`. -/
  dlopen : String → Option String
  /-- `getenv(name)` -/
  getenv : String → Option String
  /-- `strerror(errno)` -/
  strerror : Errno → String

/-- A host with no GPUs on which every telemetry query succeeds with a zero reading, no
directory opens, every file is readable and every library loads, and no variable is set. -/
instance : Inhabited SoftwareEnv :=
  ⟨{ gpuList := [], usingFakeGpus := false, gpuInfo := [],
     getCurrentFieldValue := fun _ _ _ => (.ok, ⟨.ok, 0⟩), getAllDevices := (.ok, []),
     listDir := fun _ => none, accessRead := fun _ => none, cwdWritable := true, getcwd := some "/",
     readlink := fun _ => .error ENOENT, dlopen := fun _ => none, getenv := fun _ => none,
     strerror := fun _ => "" }⟩

/-- The host `default` with the GPUs `gpuList`, whose telemetry answers with `reading`, for
live data or not. -/
def telemetryEnv (gpuList : List Nat) (reading : Nat → FieldId → DcgmReturn × FieldValue) :
    SoftwareEnv :=
  { (default : SoftwareEnv) with
    gpuList := gpuList
    getCurrentFieldValue := fun g f _ => reading g f }

/-- The parameters `Go` reads from `TestParameters`, once `SetFromStruct` has applied the
caller's values to the defaults. -/
structure SoftwareParams where
  /-- `SW_STR_DO_TEST` -/
  doTest : String
  /-- `SW_STR_CHECK_FILE_CREATION` -/
  checkFileCreation : Bool
  /-- `SW_STR_SKIP_DEVICE_TEST` -/
  skipDeviceTest : Bool
  /-- `SW_STR_REQUIRE_PERSISTENCE` -/
  requirePersistence : Bool

/-- `DCGM_FR_FIELD_QUERY` for a failed query of the field named `fieldName` of GPU `gpuId`. -/
def fieldQueryError (ret : DcgmReturn) (fieldName : String) (gpuId : Nat) : DcgmError :=
  ⟨.fieldQuery, some gpuId, [.ret ret, .str fieldName, .num gpuId]⟩

end DcgmDiag
