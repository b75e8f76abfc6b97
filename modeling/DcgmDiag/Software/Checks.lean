import DcgmDiag.Software.Env

/-!
# The one-pass checks of `Software.cpp`

`checkForGraphicsProcesses`, `checkInforom` and `checkPersistenceMode` loop over `m_gpuList`,
`checkForBadEnvVaribles` over a fixed list of variable names and the lambda of
`checkLibraries` over a fixed list of libraries.  No pass reads what an earlier one did, so
each check is the concatenation of its passes.

What sets these checks apart is the result each pass may write.  A pass of `checkInforom`
writes FAIL or SKIP and a pass of `checkForGraphicsProcesses` FAIL or WARN, all through
`SetResult`, which sets every GPU: a later pass can then replace the FAIL an earlier pass
wrote for another GPU, and every GPU ends with the verdict of the last GPU that has one
(`PluginState.exec_flatMap_results_last`).  The other checks write one result only (`checkPersistenceMode_written`,
`checkForBadEnvVaribles_written`, `libraryCheck_written`).
-/

namespace DcgmDiag

variable (K : SoftwareLimits) (env : SoftwareEnv)

/-! ## `checkForGraphicsProcesses` -/

/-- The info `checkForGraphicsProcesses` adds when the graphics pids of a GPU have a failed
status. -/
def graphicsPidsStatusInfo (gpuId : Nat) (status : DcgmReturn) : List ErrorArg :=
  [.str "Error getting the graphics pids for GPU ", .num gpuId, .str ". Status = ", .ret status,
    .str " skipping check."]

/-- One pass of the GPU loop of `Software::checkForGraphicsProcesses`, which always asks for
live data. -/
def graphicsProcessesGpu (gpuId : Nat) : List PluginCall :=
  let graphicsPidsVal := env.getCurrentFieldValue gpuId .graphicsPids true
  if graphicsPidsVal.1 ≠ .ok then
    [.addErrorForGpu gpuId (fieldQueryError graphicsPidsVal.1 "graphics_pids" gpuId),
      .setResult .fail]
  else if graphicsPidsVal.2.status ≠ .ok then
    [.addInfo (graphicsPidsStatusInfo gpuId graphicsPidsVal.2.status)]
  else if graphicsPidsVal.2.blob0 ≠ 0 then
    [.addErrorForGpu gpuId ⟨.graphicsProcesses, some gpuId, []⟩, .setResult .warn]
  else []

/-- `Software::checkForGraphicsProcesses`. -/
def checkForGraphicsProcesses : List PluginCall :=
  env.gpuList.flatMap (graphicsProcessesGpu env)

/-- The verdict on one GPU of `checkForGraphicsProcesses`: FAIL when the query fails, WARN when
the reading holds graphics pids, and none when the reading has a failed status or no pid. -/
def graphicsVerdict (gpuId : Nat) : Option NvvsResult :=
  match env.getCurrentFieldValue gpuId .graphicsPids true with
  | (.ok, v) => if v.status = .ok ∧ v.blob0 ≠ 0 then some .warn else none
  | _ => some .fail

lemma exec_graphicsProcessesGpu_results (s : PluginState) (gpuId g : Nat) :
    (s.exec (graphicsProcessesGpu env gpuId)).results g =
      (graphicsVerdict env gpuId).getD (s.results g) := by
  unfold graphicsProcessesGpu graphicsVerdict
  split
  · rename_i v hv
    rw [hv]
    by_cases hs : v.status = .ok <;> by_cases hb : v.blob0 = 0 <;>
      simp [hs, hb, PluginState.apply_results, PluginCall.resultFor]
  · rename_i hv
    have hret : (env.getCurrentFieldValue gpuId .graphicsPids true).1 ≠ .ok :=
      fun h => hv _ (Prod.ext h rfl)
    simp [hret]

/-- What `checkForGraphicsProcesses` leaves for GPU `g`, for every GPU list and every reading:
the verdict of the last GPU of the list that has one, whichever GPU that is. -/
theorem checkForGraphicsProcesses_results (s : PluginState) (g : Nat) :
    (s.exec (checkForGraphicsProcesses env)).results g =
      ((env.gpuList.filterMap (graphicsVerdict env)).getLast?).getD (s.results g) :=
  PluginState.exec_flatMap_results_last _ _ g (exec_graphicsProcessesGpu_results env · · g) s _

/-! ## `checkInforom` -/

/-- The info `checkInforom` adds when it skips the inforom of a GPU. -/
def inforomSkipInfo (gpuId : Nat) (status : DcgmReturn) : List ErrorArg :=
  [.str "DCGM returned status ", .ret status, .str " for GPU ", .num gpuId,
    .str " when checking the validity of the inforom. Skipping this check."]

/-- One pass of the GPU loop of `Software::checkInforom`, which always asks for live data. -/
def inforomGpu (gpuId : Nat) : List PluginCall :=
  let inforomValidVal := env.getCurrentFieldValue gpuId .inforomConfigValid true
  if inforomValidVal.1 ≠ .ok then
    [.addErrorForGpu gpuId (fieldQueryError inforomValidVal.1 "inforom_config_valid" gpuId),
      .setResult .fail]
  else if inforomValidVal.2.status = .notSupported ∨
      (inforomValidVal.2.status = .ok ∧ K.isBlank inforomValidVal.2.i64) then
    [.addInfo (inforomSkipInfo gpuId inforomValidVal.2.status), .setResult .skip]
  else if inforomValidVal.2.status ≠ .ok then
    [.addInfo (inforomSkipInfo gpuId inforomValidVal.2.status)]
  else if inforomValidVal.2.i64 = 0 then
    [.addErrorForGpu gpuId ⟨.corruptInforom, some gpuId, [.num gpuId]⟩, .setResult .fail]
  else []

/-- `Software::checkInforom`. -/
def checkInforom : List PluginCall := env.gpuList.flatMap (inforomGpu K env)

/-- The verdict on one GPU of `checkInforom`: FAIL when the query fails or the inforom is not
valid (a zero reading), SKIP when the field is not supported or blank, and none for another
failed status or a valid inforom. -/
def inforomVerdict (gpuId : Nat) : Option NvvsResult :=
  match env.getCurrentFieldValue gpuId .inforomConfigValid true with
  | (.ok, ⟨.ok, i64⟩) => if K.isBlank i64 then some .skip else if i64 = 0 then some .fail else none
  | (.ok, ⟨.notSupported, _⟩) => some .skip
  | (.ok, _) => none
  | _ => some .fail

lemma exec_inforomGpu_results (s : PluginState) (gpuId g : Nat) :
    (s.exec (inforomGpu K env gpuId)).results g = (inforomVerdict K env gpuId).getD (s.results g) := by
  unfold inforomGpu inforomVerdict
  split
  · rename_i i64 hv
    rw [hv]
    by_cases hb : K.isBlank i64
    · simp [hb]
    · by_cases hz : i64 = 0
      · subst hz
        simp_all [BitVec.ofNat_eq_ofNat]
      · simp_all [BitVec.ofNat_eq_ofNat, PluginState.apply_results, PluginCall.resultFor]
  · rename_i hv
    simp [hv]
  · rename_i v hok hns hv
    have hs : v.status ≠ .ok := fun h => hok v.i64 (by rw [← h])
    have hn : v.status ≠ .notSupported := fun h => hns v.i64 (by rw [← h])
    simp [hv, hs, hn, PluginState.apply_results, PluginCall.resultFor]
  · rename_i _ _ hv
    have hret : (env.getCurrentFieldValue gpuId .inforomConfigValid true).1 ≠ .ok :=
      fun h => hv _ (Prod.ext h rfl)
    simp [hret]

/-- What `checkInforom` leaves for GPU `g`, for every GPU list and every reading: the verdict of
the last GPU of the list that has one, whichever GPU that is. -/
theorem checkInforom_results (s : PluginState) (g : Nat) :
    (s.exec (checkInforom K env)).results g =
      ((env.gpuList.filterMap (inforomVerdict K env)).getLast?).getD (s.results g) :=
  PluginState.exec_flatMap_results_last _ _ g (exec_inforomGpu_results K env · · g) s _

/-! ## `checkPersistenceMode` -/

/-- The inner loop of `checkPersistenceMode`: it stops at the first entry of `m_gpuInfo` for
GPU `gpuId` with persistence mode off, if there is one. -/
def persistenceModeOff (gpuId : Nat) : Bool :=
  env.gpuInfo.any fun info => info.gpuId == gpuId && !info.persistenceModeEnabled

/-- One pass of the GPU loop of `Software::checkPersistenceMode`. -/
def persistenceModeGpu (gpuId : Nat) : List PluginCall :=
  if persistenceModeOff env gpuId then
    [.addWarning ⟨.persistenceMode, some gpuId, [.num gpuId]⟩, .setResult .warn]
  else []

/-- `Software::checkPersistenceMode`. -/
def checkPersistenceMode : List PluginCall := env.gpuList.flatMap (persistenceModeGpu env)

/-- What `checkPersistenceMode` does, for every GPU list and every `m_gpuInfo`: WARN exactly
when a GPU of the list has persistence mode off, with one warning per such GPU, in list
order. -/
theorem checkPersistenceMode_spec (s : PluginState) (g : Nat) :
    (s.exec (checkPersistenceMode env)).results g =
        (if ∃ h ∈ env.gpuList, persistenceModeOff env h then .warn else s.results g) ∧
      (s.exec (checkPersistenceMode env)).warnings = s.warnings ++
        (env.gpuList.filter (persistenceModeOff env)).map fun h =>
          ⟨.persistenceMode, some h, [.num h]⟩ := by
  constructor
  · refine PluginState.exec_flatMap_results _ _ .warn g (fun s h => ?_) s _
    unfold persistenceModeGpu
    split_ifs <;> rfl
  · rw [PluginState.exec_warnings, checkPersistenceMode, List.filterMap_flatMap,
      ← flatMap_ite_singleton]
    congr 2
    funext h
    unfold persistenceModeGpu
    split_ifs <;> rfl

lemma checkPersistenceMode_written :
    ∀ c ∈ checkPersistenceMode env, c.written = none ∨ c.written = some .warn := by
  simp only [checkPersistenceMode, List.mem_flatMap, persistenceModeGpu]
  rintro c ⟨g, -, hc⟩
  split_ifs at hc <;> simp at hc
  rcases hc with rfl | rfl <;> simp [PluginCall.written]

/-! ## `checkForBadEnvVaribles` -/

/-- The variables `checkForBadEnvVaribles` looks for, in its order. -/
def checkKeys : List String :=
  ["NSIGHT_CUDA_DEBUGGER", "CUDA_INJECTION32_PATH", "CUDA_INJECTION64_PATH", "CUDA_AUTO_BOOST",
    "CUDA_ENABLE_COREDUMP_ON_EXCEPTION", "CUDA_COREDUMP_FILE", "CUDA_DEVICE_WAITS_ON_EXCEPTION",
    "CUDA_PROFILE", "COMPUTE_PROFILE", "OPENCL_PROFILE"]

/-- One pass of the loop of `checkForBadEnvVaribles`. -/
def badEnvVariable (checkKey : String) : List PluginCall :=
  match env.getenv checkKey with
  | none => []
  | some _ => [.addError ⟨.badCudaEnv, none, [.str checkKey]⟩, .setResult .warn]

/-- `Software::checkForBadEnvVaribles`. -/
def checkForBadEnvVaribles : List PluginCall := checkKeys.flatMap (badEnvVariable env)

/-- What `checkForBadEnvVaribles` does, for every environment: WARN exactly when one of its ten
variables is set, with one `DCGM_FR_BAD_CUDA_ENV` error per set variable, in the order of
`checkKeys`. -/
lemma checkForBadEnvVaribles_spec (s : PluginState) (g : Nat) :
    (s.exec (checkForBadEnvVaribles env)).results g =
        (if ∃ key ∈ checkKeys, (env.getenv key).isSome then .warn else s.results g) ∧
      (s.exec (checkForBadEnvVaribles env)).errors = s.errors ++
        (checkKeys.filter fun key => (env.getenv key).isSome).map fun key =>
          ⟨.badCudaEnv, none, [.str key]⟩ := by
  constructor
  · refine PluginState.exec_flatMap_results _ _ .warn g (fun s key => ?_) s _
    unfold badEnvVariable
    cases env.getenv key <;> rfl
  · rw [PluginState.exec_errors, checkForBadEnvVaribles, List.filterMap_flatMap,
      ← flatMap_ite_singleton]
    congr 2
    funext key
    unfold badEnvVariable
    cases env.getenv key <;> rfl

lemma checkForBadEnvVaribles_written :
    ∀ c ∈ checkForBadEnvVaribles env, c.written = none ∨ c.written = some .warn := by
  simp only [checkForBadEnvVaribles, List.mem_flatMap, badEnvVariable]
  rintro c ⟨key, -, hc⟩
  split at hc <;> simp at hc
  rcases hc with rfl | rfl <;> simp [PluginCall.written]

/-! ## `checkLibraries` -/

/-- `libraryCheck_t`. -/
inductive LibraryCheck
  | checkNvml | checkCuda | checkCudatk
  deriving DecidableEq, Repr

/-- `Software::findLib`: `dlopen` the library; on failure, the text of `dlerror()`. -/
def findLib (library : String) : Option String := env.dlopen library

/-- One pass of the library loop of the `check` lambda of `checkLibraries`. -/
def libraryProbe (failureCode : NvvsResult) (library : String) : List PluginCall :=
  match findLib env library with
  | none => []
  | some error =>
    [.addError ⟨.cannotOpenLib, none, [.str library, .str error]⟩, .setResult failureCode]

/-- The `check` lambda of `checkLibraries`: probe every library, and when one is missing add
the diagnostics as info.  It returns whether one is missing. -/
def libraryCheck (libraries diagnostics : List String) (failureCode : NvvsResult) :
    Bool × List PluginCall :=
  let failure := libraries.any fun library => (findLib env library).isSome
  (failure, libraries.flatMap (libraryProbe env failureCode) ++
    if failure then diagnostics.map fun diagnostic => .addInfo [.str diagnostic] else [])

/-- The library check writes its failure code only. -/
lemma libraryCheck_written (libraries diagnostics : List String) (failureCode : NvvsResult) :
    ∀ c ∈ (libraryCheck env libraries diagnostics failureCode).2,
      c.written = none ∨ c.written = some failureCode := by
  simp only [libraryCheck, List.mem_append, List.mem_flatMap, libraryProbe, findLib]
  rintro c (⟨library, -, hc⟩ | hc)
  · split at hc <;> simp at hc
    rcases hc with rfl | rfl <;> simp [PluginCall.written]
  · split_ifs at hc <;> simp at hc
    obtain ⟨d, -, rfl⟩ := hc
    simp [PluginCall.written]

lemma libraryCheck_calls (libraries diagnostics : List String) (failureCode : NvvsResult) :
    (libraryCheck env libraries diagnostics failureCode).2 =
      libraries.flatMap (libraryProbe env failureCode) ++
        if (libraryCheck env libraries diagnostics failureCode).1 then
          diagnostics.map fun diagnostic => .addInfo [.str diagnostic]
        else [] := rfl

/-- What the `check` lambda of `checkLibraries` does, for every answer of `dlopen`: it answers
`true` exactly when a library does not load; it then leaves the failure code and adds the
diagnostics as info, and it adds one `DCGM_FR_CANNOT_OPEN_LIB` error per library that does
not load, with the text of `dlerror()`, in order. -/
lemma libraryCheck_spec (libraries diagnostics : List String) (failureCode : NvvsResult)
    (s : PluginState) (g : Nat) :
    ((libraryCheck env libraries diagnostics failureCode).1 = true ↔
        ∃ library ∈ libraries, (findLib env library).isSome) ∧
      (s.exec (libraryCheck env libraries diagnostics failureCode).2).results g =
        (if (libraryCheck env libraries diagnostics failureCode).1 then failureCode
          else s.results g) ∧
      (s.exec (libraryCheck env libraries diagnostics failureCode).2).errors = s.errors ++
        libraries.filterMap (fun library => (findLib env library).map fun error =>
          ⟨.cannotOpenLib, none, [.str library, .str error]⟩) ∧
      (s.exec (libraryCheck env libraries diagnostics failureCode).2).info = s.info ++
        (if (libraryCheck env libraries diagnostics failureCode).1 then
          diagnostics.map fun diagnostic => [.str diagnostic] else []) := by
  have hfailure : (libraryCheck env libraries diagnostics failureCode).1 = true ↔
      ∃ library ∈ libraries, (findLib env library).isSome := by
    simp [libraryCheck]
  have hprobes := PluginState.exec_flatMap_results (libraryProbe env failureCode)
    (fun library => (findLib env library).isSome = true) failureCode g
    (fun s library => by unfold libraryProbe; split <;> simp_all [PluginCall.resultFor]) s libraries
  have hprobeErrors : ∀ library, (libraryProbe env failureCode library).filterMap
      PluginCall.error? = ((findLib env library).map fun error =>
        ⟨.cannotOpenLib, none, [.str library, .str error]⟩).toList := by
    intro library
    unfold libraryProbe
    split <;> simp_all [PluginCall.error?]
  have hprobeInfo :
      (libraries.flatMap (libraryProbe env failureCode)).filterMap PluginCall.info? = [] := by
    rw [List.filterMap_flatMap, List.flatMap_eq_nil_iff]
    intro library _
    unfold libraryProbe
    split <;> rfl
  refine ⟨hfailure, ?_, ?_, ?_⟩ <;> rw [libraryCheck_calls]
  · rw [PluginState.exec_append]
    by_cases h : (libraryCheck env libraries diagnostics failureCode).1
    · rw [if_pos h, if_pos h, PluginState.exec_results_of_forall _ _ g
        (by simp [PluginCall.resultFor]), hprobes, if_pos (hfailure.1 h)]
    · rw [if_neg h, if_neg h, PluginState.exec_nil, hprobes,
        if_neg fun h' => h (hfailure.2 h')]
  · rw [PluginState.exec_errors, List.filterMap_append, List.filterMap_flatMap]
    simp only [hprobeErrors, flatMap_toList]
    split_ifs <;> simp [PluginCall.error?]
  · rw [PluginState.exec_info, List.filterMap_append, hprobeInfo, List.nil_append]
    split_ifs
    · rw [List.filterMap_map]
      exact congrArg (s.info ++ ·) (congrFun (List.filterMap_eq_map _) diagnostics)
    · rfl

/-- `DCGM_NVML_SONAME`, `DCGM_CUDA_SONAME`, `DCGM_CUDART_SONAME` and `DCGM_CUBLAS_SONAME` with
their default `SOVERSION` of 1. -/
def nvmlSoname : String := "libnvidia-ml.so.1"
def cudaSoname : String := "libcuda.so.1"
def cudartSoname : String := "libcudart.so.1"
def cublasSoname : String := "libcublas.so.1"

/-- `Software::checkLibraries`: the libraries, diagnostics and failure code of each case.  The
CUDA case has one diagnostic, two literals the compiler joins. -/
def checkLibraries : LibraryCheck → Bool × List PluginCall
  | .checkNvml =>
    libraryCheck env [nvmlSoname]
      ["The NVML main library could not be found in the default search paths.",
        "Please check to see if it is installed or that LD_LIBRARY_PATH contains the path to " ++
          nvmlSoname,
        "Skipping remainder of tests."] .fail
  | .checkCuda =>
    libraryCheck env [cudaSoname]
      ["The CUDA main library could not be found." ++ "Skipping remainder of tests."] .warn
  | .checkCudatk =>
    libraryCheck env [cudartSoname, cublasSoname]
      ["The CUDA Toolkit libraries could not be found.",
        "Is LD_LIBRARY_PATH set to the 64-bit library path? (usually /usr/local/cuda/lib64)",
        "Some tests will not run."] .warn

/-! ## Errors and the stop flag

None of these checks raises `main_should_stop`, and each files every error it adds under the
GPU the error names. -/

lemma checkForGraphicsProcesses_attributed :
    ∀ c ∈ checkForGraphicsProcesses env, c.Attributed ∧ c ≠ .stopMain := by
  simp only [checkForGraphicsProcesses, List.forall_mem_flatMap, graphicsProcessesGpu]
  intro g _
  split_ifs <;> simp [PluginCall.Attributed, fieldQueryError]

lemma checkInforom_attributed : ∀ c ∈ checkInforom K env, c.Attributed ∧ c ≠ .stopMain := by
  simp only [checkInforom, List.forall_mem_flatMap, inforomGpu]
  intro g _
  split_ifs <;> simp [PluginCall.Attributed, fieldQueryError]

lemma checkPersistenceMode_attributed :
    ∀ c ∈ checkPersistenceMode env, c.Attributed ∧ c ≠ .stopMain := by
  simp only [checkPersistenceMode, List.forall_mem_flatMap, persistenceModeGpu]
  intro g _
  split_ifs <;> simp [PluginCall.Attributed]

lemma checkForBadEnvVaribles_attributed :
    ∀ c ∈ checkForBadEnvVaribles env, c.Attributed ∧ c ≠ .stopMain := by
  simp only [checkForBadEnvVaribles, List.forall_mem_flatMap, badEnvVariable]
  intro key _
  split <;> simp [PluginCall.Attributed]

lemma checkLibraries_attributed (checkLib : LibraryCheck) :
    ∀ c ∈ (checkLibraries env checkLib).2, c.Attributed ∧ c ≠ .stopMain := by
  have hcheck : ∀ libraries diagnostics failureCode,
      ∀ c ∈ (libraryCheck env libraries diagnostics failureCode).2,
        c.Attributed ∧ c ≠ .stopMain := by
    simp only [libraryCheck, List.forall_mem_append, List.forall_mem_flatMap, libraryProbe]
    refine fun _ _ _ => ⟨fun library _ => ?_, ?_⟩
    · split <;> simp [PluginCall.Attributed]
    · split_ifs <;> simp [PluginCall.Attributed]
  cases checkLib <;> exact hcheck _ _ _

end DcgmDiag
