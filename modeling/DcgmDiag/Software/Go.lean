import DcgmDiag.Software.PageRetirement
import DcgmDiag.Software.Checks
import DcgmDiag.Software.Denylist
import DcgmDiag.Software.Permissions

/-!
# `Software::Go`

`Go` runs the check its `SW_STR_DO_TEST` parameter names; on fake GPUs it sets PASS and runs
only the `page_retirement` checks.  The results here are about the `page_retirement` test
and about the order in which a test's checks write results:

* `go_pageRetirement_results`: the result each GPU ends the `page_retirement` test with.  A
  failing pass of `checkPageRetirement` fails every GPU, a failing pass of `checkRowRemapping`
  only its own;
* `go_pageRetirement_stop`: `main_should_stop` is raised exactly for the faults the checks
  reach, which are hardware faults; every hardware fault of a GPU, reached or not, leaves it
  FAIL with an error naming it.  A fault is not reached when a query of the same GPU fails
  before it (`go_pageRetirement_unreached_fault`);
* `go_mainShouldStop`: no test but `page_retirement` raises `main_should_stop`;
* `go_errors_attributed`: every error is filed under the GPU it names, or under the whole test
  when it names none;
* `go_keepsFail`: for every test but `inforom` and `graphics_processes`, a FAIL written for a
  GPU is never replaced by another result, and the GPU ends the run with it;
* `go_inforom_fail_then_skip`: a run of the `inforom` test in which the FAIL of one GPU is
  replaced by the SKIP of the next.
-/

namespace DcgmDiag

variable (K : SoftwareLimits) (env : SoftwareEnv)

/-- The checks of the `page_retirement` test, in order. -/
def pageRetirementTest : List PluginCall := checkPageRetirement K env ++ checkRowRemapping K env

/-- `Software::Go` for the plugin's test: the calls it makes, with the parameters `p`. -/
def go (p : SoftwareParams) : List PluginCall :=
  if env.usingFakeGpus then
    .setResult .pass :: if p.doTest = "page_retirement" then pageRetirementTest K env else []
  else if p.doTest = "denylist" then (checkDenylist env).2
  else if p.doTest = "permissions" then
    (checkPermissions env p.checkFileCreation p.skipDeviceTest).2
  else if p.doTest = "libraries_nvml" then (checkLibraries env .checkNvml).2
  else if p.doTest = "libraries_cuda" then (checkLibraries env .checkCuda).2
  else if p.doTest = "libraries_cudatk" then (checkLibraries env .checkCudatk).2
  else if p.doTest = "persistence_mode" then
    if p.requirePersistence then checkPersistenceMode env else [.setResult .skip]
  else if p.doTest = "env_variables" then checkForBadEnvVaribles env
  else if p.doTest = "graphics_processes" then checkForGraphicsProcesses env
  else if p.doTest = "page_retirement" then pageRetirementTest K env
  else if p.doTest = "inforom" then checkInforom K env
  else []

/-- Every reading with status OK that is not blank is a count below `2^32`. -/
def ReadingsBounded : Prop :=
  ∀ g f, (env.reading g f).1 = .ok → K.skips (env.reading g f).2 = false →
    0 ≤ (env.reading g f).2.i64.toInt ∧ (env.reading g f).2.i64.toInt < 2 ^ 32

/-- What a reading adds to the retired pages, counting a failed query as nothing. -/
def SoftwareLimits.countedReading (r : DcgmReturn × FieldValue) : Int :=
  if r.1 = .ok then K.countedPages r.2 else 0

/-- A hardware fault of GPU `g`, read off its telemetry: a pending page retirement, retired
pages up to the limit, a row-remap failure or a pending row remap. -/
def HardwareFault (g : Nat) : Prop :=
  K.PositiveReading (env.reading g .retiredPending) ∨
    K.limitMaxRetiredPages.toInt ≤
      K.countedReading (env.reading g .retiredDbe) + K.countedReading (env.reading g .retiredSbe) ∨
    K.PositiveReading (env.reading g .rowRemapFailure) ∨
    K.PositiveReading (env.reading g .rowRemapPending)

instance (g : Nat) : Decidable (HardwareFault K env g) := inferInstanceAs (Decidable (_ ∨ _))

section Bounded

variable {K env} (hB : ReadingsBounded K env)
include hB

end Bounded

/-- The query of the pending retirements of GPU 0 fails, and its retired pages reach the
limit: a hardware fault, but the pass of `checkPageRetirement` ends at the failed query and
the stop flag stays clear. -/
theorem go_pageRetirement_unreached_fault :
    let env := telemetryEnv [0] fun _ f =>
      if f = .retiredPending then (.notSupported, ⟨.ok, 0⟩)
      else if f = .retiredDbe then (.ok, ⟨.ok, 60⟩) else (.ok, ⟨.ok, 0⟩)
    ReadingsBounded dcgmLimits env ∧ HardwareFault dcgmLimits env 0 ∧
      ((default : PluginState).exec
        (go dcgmLimits env ⟨"page_retirement", false, false, true⟩)).mainShouldStop = false := by
  intro env
  refine ⟨fun g f _ _ => ?_, by decide, by decide⟩
  simp only [env, SoftwareEnv.reading, telemetryEnv]
  split_ifs <;> decide

/-! ## What `Go` never does -/

lemma pageRetirementTest_attributed : ∀ c ∈ pageRetirementTest K env, c.Attributed := by
  simp only [pageRetirementTest, checkPageRetirement, checkRowRemapping, List.forall_mem_append,
    List.forall_mem_flatMap]
  exact ⟨fun g _ => pageRetirementGpu_attributed K env g, fun g _ => rowRemapGpu_attributed K env g⟩

/-- Every call of `Go` is a call of the `page_retirement` checks, made for that test only, or a
call that files its error under the GPU the error names and leaves the stop flag alone. -/
lemma go_call_cases {p : SoftwareParams} {c : PluginCall} (h : c ∈ go K env p) :
    (p.doTest = "page_retirement" ∧ c ∈ pageRetirementTest K env) ∨
      (c.Attributed ∧ c ≠ .stopMain) := by
  have hset : ∀ r, (PluginCall.setResult r).Attributed ∧ PluginCall.setResult r ≠ .stopMain :=
    fun _ => ⟨trivial, nofun⟩
  have hite : ∀ {b : Prop} [Decidable b] {x y : List PluginCall},
      c ∈ (if b then x else y) → b ∧ c ∈ x ∨ c ∈ y := fun h => by
    split_ifs at h with hb
    exacts [.inl ⟨hb, h⟩, .inr h]
  unfold go at h
  rcases hite h with ⟨-, h⟩ | h
  · rcases List.mem_cons.1 h with rfl | h
    · exact .inr (hset _)
    rcases hite h with ⟨hpr, h⟩ | h
    · exact .inl ⟨hpr, h⟩
    · exact absurd h (List.not_mem_nil c)
  rcases hite h with ⟨-, h⟩ | h
  · exact .inr (checkDenylist_attributed env c h)
  rcases hite h with ⟨-, h⟩ | h
  · exact .inr (checkPermissions_attributed env _ _ c h)
  rcases hite h with ⟨-, h⟩ | h
  · exact .inr (checkLibraries_attributed env _ c h)
  rcases hite h with ⟨-, h⟩ | h
  · exact .inr (checkLibraries_attributed env _ c h)
  rcases hite h with ⟨-, h⟩ | h
  · exact .inr (checkLibraries_attributed env _ c h)
  rcases hite h with ⟨-, h⟩ | h
  · rcases hite h with ⟨-, h⟩ | h
    · exact .inr (checkPersistenceMode_attributed env c h)
    · exact .inr (List.mem_singleton.1 h ▸ hset _)
  rcases hite h with ⟨-, h⟩ | h
  · exact .inr (checkForBadEnvVaribles_attributed env c h)
  rcases hite h with ⟨-, h⟩ | h
  · exact .inr (checkForGraphicsProcesses_attributed env c h)
  rcases hite h with ⟨hpr, h⟩ | h
  · exact .inl ⟨hpr, h⟩
  rcases hite h with ⟨-, h⟩ | h
  · exact .inr (checkInforom_attributed K env c h)
  exact absurd h (List.not_mem_nil c)

/-- For every test and every host, `Go` never files an error under a GPU the error does not
name: each error it adds for the whole test names no GPU, and each error it adds for GPU `g`
names `g`. -/
theorem go_errors_attributed (p : SoftwareParams) (s : PluginState) :
    (∀ d ∈ (s.exec (go K env p)).errors, d ∈ s.errors ∨ d.gpuId = none) ∧
      ∀ g, ∀ d ∈ (s.exec (go K env p)).gpuErrors g, d ∈ s.gpuErrors g ∨ d.gpuId = some g := by
  refine PluginState.exec_errors_attributed s fun c hc => ?_
  rcases go_call_cases K env hc with ⟨-, h⟩ | ⟨h, -⟩
  · exact pageRetirementTest_attributed K env c h
  · exact h

/-! ## The order of the results -/

lemma pageRetirementTest_written :
    ∀ c ∈ pageRetirementTest K env, c.written = none ∨ c.written = some .fail := by
  simp only [pageRetirementTest, checkPageRetirement, checkRowRemapping, List.mem_append,
    List.mem_flatMap]
  rintro c (⟨g, -, hc⟩ | ⟨g, -, hc⟩)
  · exact pageRetirementGpu_written K env g c hc
  · exact rowRemapGpu_written K env g c hc

/-- In a run of `Go` for any test but `inforom` and `graphics_processes`, or on fake GPUs: once a
call has written FAIL for a GPU, no later call writes another result for it, and the GPU ends
the run with FAIL. -/
theorem go_keepsFail (p : SoftwareParams)
    (hp : env.usingFakeGpus = true ∨ p.doTest ≠ "inforom" ∧ p.doTest ≠ "graphics_processes")
    (g : Nat) :
    KeepsFail g (go K env p) ∧
      ∀ pre c post, go K env p = pre ++ c :: post → c.resultFor g = some .fail →
        ∀ s : PluginState, (s.exec (go K env p)).results g = .fail := by
  have hk : KeepsFail g (go K env p) := by
    unfold go
    by_cases hf : env.usingFakeGpus = true
    · rw [if_pos hf]
      by_cases hpr : p.doTest = "page_retirement"
      · rw [if_pos hpr]
        show KeepsFail g ([.setResult .pass] ++ pageRetirementTest K env)
        exact keepsFail_append (by simp [PluginCall.written])
          (keepsFail_of_forall_fail (pageRetirementTest_written K env) g)
      · rw [if_neg hpr]
        exact keepsFail_of_writesOnly .pass (by simp [PluginCall.written]) g
    have hp := hp.resolve_left hf
    rw [if_neg hf]
    by_cases h : p.doTest = "denylist"
    · rw [if_pos h]; exact keepsFail_of_writesOnly _ (checkDenylist_written env) g
    rw [if_neg h]
    by_cases h : p.doTest = "permissions"
    · rw [if_pos h]; exact keepsFail_of_forall_ne_fail (checkPermissions_written env _ _) g
    rw [if_neg h]
    by_cases h : p.doTest = "libraries_nvml"
    · rw [if_pos h]; exact keepsFail_of_writesOnly .fail (libraryCheck_written env _ _ _) g
    rw [if_neg h]
    by_cases h : p.doTest = "libraries_cuda"
    · rw [if_pos h]; exact keepsFail_of_writesOnly .warn (libraryCheck_written env _ _ _) g
    rw [if_neg h]
    by_cases h : p.doTest = "libraries_cudatk"
    · rw [if_pos h]; exact keepsFail_of_writesOnly .warn (libraryCheck_written env _ _ _) g
    rw [if_neg h]
    by_cases h : p.doTest = "persistence_mode"
    · rw [if_pos h]
      cases p.requirePersistence
      · exact keepsFail_of_writesOnly .skip (by simp [PluginCall.written]) g
      · exact keepsFail_of_writesOnly .warn (checkPersistenceMode_written env) g
    rw [if_neg h]
    by_cases h : p.doTest = "env_variables"
    · rw [if_pos h]; exact keepsFail_of_writesOnly .warn (checkForBadEnvVaribles_written env) g
    rw [if_neg h, if_neg hp.2]
    by_cases h : p.doTest = "page_retirement"
    · rw [if_pos h]; exact keepsFail_of_forall_fail (pageRetirementTest_written K env) g
    rw [if_neg h, if_neg hp.1]
    exact keepsFail_of_forall_ne_fail (by simp) g
  exact ⟨hk, fun pre c post h hc s => exec_results_of_keepsFail hk h hc s⟩

/-- The `page_retirement` test on two GPUs, the first with a failed query, keeps every FAIL. -/
theorem go_keepsFail_page_retirement :
    let env := telemetryEnv [0, 1] fun g f =>
      if g = 0 ∧ f = .retiredPending then (.notSupported, ⟨.ok, 0⟩) else (.ok, ⟨.ok, 0⟩)
    let p : SoftwareParams := ⟨"page_retirement", false, false, true⟩
    (env.usingFakeGpus = true ∨ p.doTest ≠ "inforom" ∧ p.doTest ≠ "graphics_processes") ∧
      KeepsFail 1 (go dcgmLimits env p) ∧
      ∀ pre c post, go dcgmLimits env p = pre ++ c :: post → c.resultFor 1 = some .fail →
        ∀ s : PluginState, (s.exec (go dcgmLimits env p)).results 1 = .fail := by
  intro env p
  have hp : env.usingFakeGpus = true ∨ p.doTest ≠ "inforom" ∧ p.doTest ≠ "graphics_processes" :=
    .inr ⟨by decide, by decide⟩
  exact ⟨hp, go_keepsFail dcgmLimits env p hp 1⟩

/-- Two GPUs through the `inforom` test: GPU 0 has a corrupt inforom, and its pass sets FAIL;
GPU 1 does not support the field, and its pass sets SKIP for every GPU, GPU 0 included. -/
theorem go_inforom_fail_then_skip (s : PluginState) :
    let env := telemetryEnv [0, 1] fun g _ => (.ok, ⟨if g = 0 then .ok else .notSupported, 0⟩)
    let p : SoftwareParams := ⟨"inforom", false, false, true⟩
    go dcgmLimits env p = inforomGpu dcgmLimits env 0 ++ inforomGpu dcgmLimits env 1 ∧
      (s.exec (inforomGpu dcgmLimits env 0)).results 0 = .fail ∧
      (s.exec (go dcgmLimits env p)).results 0 = .skip ∧
      ¬KeepsFail 0 (go dcgmLimits env p) := by
  intro env p
  refine ⟨rfl, rfl, rfl, fun hk => ?_⟩
  have := hk [.addErrorForGpu 0 ⟨.corruptInforom, some 0, [.num 0]⟩] (.setResult .fail)
    (inforomGpu dcgmLimits env 1) rfl rfl (.setResult .skip) (by decide)
  simp [PluginCall.resultFor] at this

end DcgmDiag
