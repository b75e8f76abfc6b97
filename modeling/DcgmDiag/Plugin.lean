import DcgmDiag.Structs

/-!
# The plugin side: results, errors and the stop flag

The software plugin reports through the methods of its `Plugin` base class, which is not
among the sources: `SetResult` sets the result of every GPU of the plugin's test,
`SetResultForGpu` the result of one GPU, `AddError` and `AddErrorForGpu` append an error,
`AddInfo` and `AddWarning` append a message; `main_should_stop.store(1)` raises the
process-wide stop flag.  The plugin has the one test `SW_PLUGIN_NAME`, which `Go` runs.

A check is modelled by the list of these calls it makes, in order (`PluginCall`); the state
after the calls is `PluginState.exec`.  The lemmas here read the end state off the list of
calls: a GPU's result is the last one written for it (`exec_results`), the stop flag is
raised exactly when a call raises it (`exec_mainShouldStop`), and the errors are those the
calls append, in order (`exec_errors`, `exec_gpuErrors`).
-/

namespace DcgmDiag

/-- `nvvsPluginResult_t`. -/
inductive NvvsResult
  | pass | warn | fail | skip
  deriving DecidableEq, Repr

/-- The `DCGM_FR_*` codes the modelled checks report. -/
inductive DcgmErrorCode
  | noAccessToFile | deviceCountMismatch | fileCreatePermissions | cannotOpenLib
  | denylistedDriver | fieldQuery | graphicsProcesses | persistenceMode
  | dbePendingPageRetirements | pendingPageRetirements | retiredPagesLimit | rowRemapFailure
  | uncorrectableRowRemap | pendingRowRemap | corruptInforom | badCudaEnv
  deriving DecidableEq, Repr

/-- A value formatted into a message: an error's arguments, or a piece the code streams into an
info message. -/
inductive ErrorArg
  | str (s : String)
  | num (n : Int)
  | ret (r : DcgmReturn)
  deriving DecidableEq, Repr

/-- A `DcgmError`: its code, the GPU it names (`none` for `GpuIdTag::Unknown`) and the values
`DCGM_ERROR_FORMAT_MESSAGE` formats into the code's message. -/
structure DcgmError where
  code : DcgmErrorCode
  gpuId : Option Nat
  args : List ErrorArg
  deriving DecidableEq, Repr

/-- A call of the software plugin into its `Plugin` base class, or the store to
`main_should_stop`. -/
inductive PluginCall
  /-- `SetResult(SW_PLUGIN_NAME, r)`: every GPU of the test gets `r`. -/
  | setResult (r : NvvsResult)
  /-- `SetResultForGpu(SW_PLUGIN_NAME, gpuId, r)` -/
  | setResultForGpu (gpuId : Nat) (r : NvvsResult)
  /-- `AddError(SW_PLUGIN_NAME, d)` -/
  | addError (d : DcgmError)
  /-- `AddErrorForGpu(SW_PLUGIN_NAME, gpuId, d)` -/
  | addErrorForGpu (gpuId : Nat) (d : DcgmError)
  /-- `AddInfo(SW_PLUGIN_NAME, msg)`, with `msg` the pieces streamed into it, in order. -/
  | addInfo (msg : List ErrorArg)
  /-- `AddWarning(SW_PLUGIN_NAME, d.GetMessage())`: the message of `d`. -/
  | addWarning (d : DcgmError)
  /-- `main_should_stop.store(1)` -/
  | stopMain
  deriving DecidableEq, Repr

namespace PluginCall

/-- The result the call writes for GPU `g`, if it writes one. -/
def resultFor (g : Nat) : PluginCall → Option NvvsResult
  | setResult r => some r
  | setResultForGpu h r => if h = g then some r else none
  | _ => none

/-- The result the call writes, for whichever GPUs it writes it. -/
def written : PluginCall → Option NvvsResult
  | setResult r => some r
  | setResultForGpu _ r => some r
  | _ => none

lemma written_of_resultFor {c : PluginCall} {g : Nat} {r : NvvsResult}
    (h : c.resultFor g = some r) : c.written = some r := by
  cases c <;> simp_all [resultFor, written]

/-- The error the call appends with `AddError`. -/
def error? : PluginCall → Option DcgmError
  | addError d => some d
  | _ => none

/-- The info the call appends with `AddInfo`. -/
def info? : PluginCall → Option (List ErrorArg)
  | addInfo msg => some msg
  | _ => none

/-- The warning the call appends with `AddWarning`. -/
def warning? : PluginCall → Option DcgmError
  | addWarning d => some d
  | _ => none

/-- The error the call appends for GPU `g` with `AddErrorForGpu`. -/
def gpuError? (g : Nat) : PluginCall → Option DcgmError
  | addErrorForGpu h d => if h = g then some d else none
  | _ => none

/-- The error the call adds, if it adds one, is filed under the GPU it names: an error added
for GPU `g` names `g`, and an error added for the whole test names no GPU. -/
def Attributed : PluginCall → Prop
  | addErrorForGpu g d => d.gpuId = some g
  | addError d => d.gpuId = none
  | _ => True

instance : DecidablePred Attributed := fun c => by
  cases c <;> unfold Attributed <;> infer_instance

lemma Attributed.gpuId_of_error {c : PluginCall} (h : c.Attributed) {d : DcgmError}
    (hd : c.error? = some d) : d.gpuId = none := by
  cases c <;> cases hd
  exact h

lemma Attributed.gpuId_of_gpuError {c : PluginCall} (h : c.Attributed) {g : Nat} {d : DcgmError}
    (hd : c.gpuError? g = some d) : d.gpuId = some g := by
  cases c with
  | addErrorForGpu h' d' =>
    simp only [gpuError?, Option.ite_none_right_eq_some, Option.some.injEq] at hd
    obtain ⟨rfl, rfl⟩ := hd
    exact h
  | _ => cases hd

end PluginCall

/-- The state the calls of a check act on. -/
structure PluginState where
  /-- The result of each GPU of the test. -/
  results : Nat → NvvsResult
  /-- The errors added with `AddError`, in order. -/
  errors : List DcgmError
  /-- The errors added for each GPU with `AddErrorForGpu`, in order. -/
  gpuErrors : Nat → List DcgmError
  info : List (List ErrorArg)
  warnings : List DcgmError
  /-- `main_should_stop` is set. -/
  mainShouldStop : Bool

namespace PluginState

/-- A state with PASS for every GPU and nothing reported. -/
instance : Inhabited PluginState :=
  ⟨{ results := fun _ => .pass, errors := [], gpuErrors := fun _ => [], info := [], warnings := [],
     mainShouldStop := false }⟩

/-- The effect of one call. -/
def apply (s : PluginState) : PluginCall → PluginState
  | .setResult r => { s with results := fun _ => r }
  | .setResultForGpu g r => { s with results := Function.update s.results g r }
  | .addError d => { s with errors := s.errors ++ [d] }
  | .addErrorForGpu g d =>
    { s with gpuErrors := Function.update s.gpuErrors g (s.gpuErrors g ++ [d]) }
  | .addInfo msg => { s with info := s.info ++ [msg] }
  | .addWarning d => { s with warnings := s.warnings ++ [d] }
  | .stopMain => { s with mainShouldStop := true }

/-- The state after a list of calls. -/
def exec (s : PluginState) (calls : List PluginCall) : PluginState := calls.foldl apply s

@[simp] lemma exec_nil (s : PluginState) : s.exec [] = s := rfl

@[simp] lemma exec_cons (s : PluginState) (c : PluginCall) (cs : List PluginCall) :
    s.exec (c :: cs) = (s.apply c).exec cs := rfl

@[simp] lemma apply_setResult (s : PluginState) (r : NvvsResult) :
    s.apply (.setResult r) = { s with results := fun _ => r } := rfl

lemma exec_append (s : PluginState) (a b : List PluginCall) :
    s.exec (a ++ b) = (s.exec a).exec b :=
  List.foldl_append _ _ _ _

lemma apply_results (s : PluginState) (c : PluginCall) (g : Nat) :
    (s.apply c).results g = (c.resultFor g).getD (s.results g) := by
  cases c <;> simp [apply, PluginCall.resultFor, Function.update, eq_comm]
  split_ifs <;> rfl

/-- A GPU's result after the calls is the last one written for it. -/
lemma exec_results (s : PluginState) (calls : List PluginCall) (g : Nat) :
    (s.exec calls).results g =
      (calls.reverse.findSome? (PluginCall.resultFor g)).getD (s.results g) :=
  foldl_lastWrite apply (fun s => s.results g) _ (fun s c => apply_results s c g) s calls

lemma exec_results_of_forall (s : PluginState) (calls : List PluginCall) (g : Nat)
    (h : ∀ c ∈ calls, c.resultFor g = none) : (s.exec calls).results g = s.results g := by
  rw [exec_results, List.findSome?_eq_none_iff.mpr fun c hc => h c (List.mem_reverse.mp hc)]
  rfl

/-- A loop whose pass for `a` writes `r` for GPU `g` when `P a` holds and leaves `g` alone
otherwise ends with `r` for `g` exactly when some pass writes it. -/
lemma exec_flatMap_results {α : Type} (f : α → List PluginCall) (P : α → Prop)
    [DecidablePred P] (r : NvvsResult) (g : Nat)
    (hf : ∀ (s : PluginState) a, (s.exec (f a)).results g = if P a then r else s.results g)
    (s : PluginState) (l : List α) :
    (s.exec (l.flatMap f)).results g = if ∃ a ∈ l, P a then r else s.results g := by
  induction l generalizing s with
  | nil => simp
  | cons a l ih =>
    rw [List.flatMap_cons, exec_append, ih, hf]
    by_cases ha : P a <;> simp [ha]

/-- A loop whose pass for `a` writes the verdict `v a` for GPU `g`, when it has one, ends with
the last verdict of the loop for `g`. -/
lemma exec_flatMap_results_last {α : Type} (f : α → List PluginCall)
    (v : α → Option NvvsResult) (g : Nat)
    (hf : ∀ (s : PluginState) a, (s.exec (f a)).results g = (v a).getD (s.results g))
    (s : PluginState) (l : List α) :
    (s.exec (l.flatMap f)).results g = ((l.filterMap v).getLast?).getD (s.results g) := by
  induction l generalizing s with
  | nil => simp
  | cons a l ih =>
    rw [List.flatMap_cons, exec_append, ih, hf, List.filterMap_cons]
    cases v a <;> simp [List.getLast?_cons]

lemma exec_errors (s : PluginState) (calls : List PluginCall) :
    (s.exec calls).errors = s.errors ++ calls.filterMap PluginCall.error? :=
  foldl_appendLog apply errors _ (fun s c => by cases c <;> simp [apply, PluginCall.error?]) s calls

lemma exec_info (s : PluginState) (calls : List PluginCall) :
    (s.exec calls).info = s.info ++ calls.filterMap PluginCall.info? :=
  foldl_appendLog apply info _ (fun s c => by cases c <;> simp [apply, PluginCall.info?]) s calls

lemma exec_warnings (s : PluginState) (calls : List PluginCall) :
    (s.exec calls).warnings = s.warnings ++ calls.filterMap PluginCall.warning? :=
  foldl_appendLog apply warnings _ (fun s c => by cases c <;> simp [apply, PluginCall.warning?])
    s calls

lemma exec_gpuErrors (s : PluginState) (calls : List PluginCall) (g : Nat) :
    (s.exec calls).gpuErrors g = s.gpuErrors g ++ calls.filterMap (PluginCall.gpuError? g) := by
  refine foldl_appendLog apply (fun s => s.gpuErrors g) _ (fun s c => ?_) s calls
  cases c with
  | addErrorForGpu h d =>
    by_cases hg : h = g
    · subst hg; simp [apply, PluginCall.gpuError?]
    · simp [apply, PluginCall.gpuError?, Function.update_noteq (Ne.symm hg), hg]
  | _ => simp [apply, PluginCall.gpuError?]

/-- Calls that file every error under the GPU it names leave every error so filed: each error
of the test names no GPU, and each error of GPU `g` names `g`, unless it was there before. -/
lemma exec_errors_attributed (s : PluginState) {calls : List PluginCall}
    (h : ∀ c ∈ calls, c.Attributed) :
    (∀ d ∈ (s.exec calls).errors, d ∈ s.errors ∨ d.gpuId = none) ∧
      ∀ g, ∀ d ∈ (s.exec calls).gpuErrors g, d ∈ s.gpuErrors g ∨ d.gpuId = some g := by
  refine ⟨fun d hd => ?_, fun g d hd => ?_⟩
  · rw [exec_errors, List.mem_append, List.mem_filterMap] at hd
    exact hd.imp id fun ⟨c, hc, he⟩ => (h c hc).gpuId_of_error he
  · rw [exec_gpuErrors, List.mem_append, List.mem_filterMap] at hd
    exact hd.imp id fun ⟨c, hc, he⟩ => (h c hc).gpuId_of_gpuError he

end PluginState

/-! ## Results that stay FAIL -/

/-- Once a call of `calls` has written FAIL for GPU `g`, every later call leaves the result of
`g` alone or writes FAIL again. -/
def KeepsFail (g : Nat) (calls : List PluginCall) : Prop :=
  ∀ pre c post, calls = pre ++ c :: post → c.resultFor g = some .fail →
    ∀ c' ∈ post, c'.resultFor g = none ∨ c'.resultFor g = some .fail

lemma keepsFail_of_forall_ne_fail {calls : List PluginCall}
    (h : ∀ c ∈ calls, c.written ≠ some .fail) (g : Nat) : KeepsFail g calls := by
  rintro pre c post rfl hc
  exact absurd (PluginCall.written_of_resultFor hc) (h c (by simp))

lemma keepsFail_of_forall_fail {calls : List PluginCall}
    (h : ∀ c ∈ calls, c.written = none ∨ c.written = some .fail) (g : Nat) : KeepsFail g calls := by
  rintro pre c post rfl - c' hc'
  cases hr : c'.resultFor g with
  | none => exact .inl rfl
  | some r =>
    rcases h c' (by simp [hc']) with h' | h' <;>
      simp_all [PluginCall.written_of_resultFor hr]

/-- Calls that write one result only keep a FAIL. -/
lemma keepsFail_of_writesOnly {calls : List PluginCall} (r : NvvsResult)
    (h : ∀ c ∈ calls, c.written = none ∨ c.written = some r) (g : Nat) : KeepsFail g calls := by
  by_cases hr : r = .fail
  · exact keepsFail_of_forall_fail (hr ▸ h) g
  · refine keepsFail_of_forall_ne_fail (fun c hc hf => ?_) g
    rcases h c hc with h' | h' <;> simp_all

lemma keepsFail_append {a b : List PluginCall} {g : Nat}
    (ha : ∀ c ∈ a, c.written ≠ some .fail) (hb : KeepsFail g b) : KeepsFail g (a ++ b) := by
  intro pre c post h hc
  rcases List.append_eq_append_iff.1 h with ⟨a', rfl, hb'⟩ | ⟨c', ha', hcb⟩
  · exact hb a' c post hb' hc
  · cases c' with
    | nil => exact hb [] c post (by simpa using hcb.symm) hc
    | cons x c' =>
      obtain rfl : c = x := (List.cons.inj hcb).1
      exact absurd (PluginCall.written_of_resultFor hc) (ha c (by simp [ha']))

/-- A FAIL that the calls write for `g` is the result `g` ends with, when the calls keep it. -/
lemma exec_results_of_keepsFail {g : Nat} {calls pre post : List PluginCall} {c : PluginCall}
    (hk : KeepsFail g calls) (h : calls = pre ++ c :: post) (hc : c.resultFor g = some .fail)
    (s : PluginState) : (s.exec calls).results g = .fail := by
  have hpost := hk pre c post h hc
  rw [h, PluginState.exec_append, PluginState.exec_cons, PluginState.exec_results,
    PluginState.apply_results, hc]
  cases hf : post.reverse.findSome? (PluginCall.resultFor g) with
  | none => rfl
  | some r =>
    obtain ⟨c', hc', hr⟩ := List.exists_of_findSome?_eq_some hf
    rcases hpost c' (List.mem_reverse.1 hc') with h' | h' <;> simp_all

end DcgmDiag
