import DcgmDiag.Software.Env

/-!
# `checkDenylist`

`checkDenylist` reads the entries of two directories of PCI devices, and for each entry
other than `.` and `..` asks `checkDriverPathDenylist` about two driver links under it; a
non-zero answer sets FAIL.  `checkDriverPathDenylist` reads the link with `readlink` into a
buffer of 1024 bytes and answers `1` when the base name of the target is denylisted, after
adding a `DCGM_FR_DENYLISTED_DRIVER` error.  It answers `0` when the path is missing or is
not a link, and otherwise returns the failure it met: the `errno` of `readlink`, or
`ENAMETOOLONG` for a target that fills the buffer (the build with `NDEBUG`, where the
`assert(0)` before it is gone).  `checkDenylist` cannot tell these failures from a
denylisted driver: `checkDenylist_spec` says when it answers `true`, and
`checkDenylist_eacces` is a run where it does so with no denylisted driver and no error.
-/

namespace DcgmDiag

variable (env : SoftwareEnv)

/-- `searchPaths` of `checkDenylist`. -/
def searchPaths : List String := ["/sys/bus/pci/devices", "/sys/bus/pci_express/devices"]

/-- `driverDirs` of `checkDenylist`. -/
def driverDirs : List String := ["driver", "subsystem/drivers"]

/-- `denyList` of `checkDenylist`. -/
def denyList : List String := ["nouveau"]

/-- The C string a buffer holds: its characters before the first NUL. -/
def cString (s : String) : String := ⟨s.toList.takeWhile (· ≠ Char.ofNat 0)⟩

/-- `basename(path)` of glibc's `<string.h>`, the GNU version a C++ build gets: what follows
the last `/`, or the whole path when it has none. -/
def basename (path : String) : String := ⟨(path.toList.reverse.takeWhile (· ≠ '/')).reverse⟩

/-- `Software::checkDriverPathDenylist`: its return value and the calls it makes. -/
def checkDriverPathDenylist (driverPath : String) (denyList : List String) :
    Nat × List PluginCall :=
  match env.readlink driverPath with
  | .error errorno => (if errorno = ENOENT ∨ errorno = EINVAL then 0 else errorno.code, [])
  | .ok symlinkTarget =>
    if 1024 ≤ symlinkTarget.utf8ByteSize then (ENAMETOOLONG.code, [])
    else
      match denyList.find? (· == basename (cString symlinkTarget)) with
      | some item => (1, [.addError ⟨.denylistedDriver, none, [.str item]⟩])
      | none => (0, [])

/-- The paths `checkDenylist` asks about, in order: each driver directory under each entry
other than `.` and `..` of each search path that opens. -/
def denylistProbePaths : List String :=
  searchPaths.flatMap fun searchPath =>
    (((env.listDir searchPath).getD []).filter fun entry => entry != "." && entry != "..").flatMap
      fun entry => driverDirs.map fun driverDir => searchPath ++ "/" ++ entry ++ "/" ++ driverDir

/-- One pass of the inner loop of `checkDenylist`. -/
def denylistProbe (driverPath : String) : List PluginCall :=
  let r := checkDriverPathDenylist env driverPath denyList
  r.2 ++ if r.1 ≠ 0 then [.setResult .fail] else []

/-- `Software::checkDenylist`: its return value `status` and the calls it makes. -/
def checkDenylist : Bool × List PluginCall :=
  let status := (denylistProbePaths env).any fun driverPath =>
    (checkDriverPathDenylist env driverPath denyList).1 != 0
  (status, (denylistProbePaths env).flatMap (denylistProbe env) ++
    if status then [] else [.setResult .pass])

lemma find?_beq (l : List String) (b : String) :
    l.find? (· == b) = if b ∈ l then some b else none := by
  induction l with
  | nil => simp
  | cons a l ih =>
    by_cases h : a = b
    · simp [h]
    · simp [List.find?_cons, h, ih, Ne.symm h]

/-- `readlink` gives a target that fits the buffer and whose base name is denylisted. -/
def denylistedLink (driverPath : String) : Bool :=
  match env.readlink driverPath with
  | .ok target => decide (target.utf8ByteSize < 1024) && denyList.contains (basename (cString target))
  | .error _ => false

/-- A `readlink` that `checkDriverPathDenylist` reports as a failure: an `errno` other than
`ENOENT` and `EINVAL`, or a target that fills the buffer. -/
def readlinkFault (driverPath : String) : Bool :=
  match env.readlink driverPath with
  | .ok target => decide (1024 ≤ target.utf8ByteSize)
  | .error errorno => errorno != ENOENT && errorno != EINVAL

/-- The error `checkDriverPathDenylist` adds for a denylisted link. -/
def denylistedDriverError : DcgmError := ⟨.denylistedDriver, none, [.str "nouveau"]⟩

/-- What `checkDriverPathDenylist` answers, for every `readlink`: non-zero for a denylisted
link and for a link `readlink` fails on, with an error for the first only. -/
lemma checkDriverPathDenylist_spec (driverPath : String) :
    ((checkDriverPathDenylist env driverPath denyList).1 ≠ 0 ↔
      denylistedLink env driverPath = true ∨ readlinkFault env driverPath = true) ∧
    (checkDriverPathDenylist env driverPath denyList).2 =
      if denylistedLink env driverPath then [.addError denylistedDriverError] else [] := by
  unfold checkDriverPathDenylist denylistedLink readlinkFault
  cases env.readlink driverPath with
  | error e =>
    have := e.pos
    by_cases h1 : e = ENOENT
    · simp [h1]
    · by_cases h2 : e = EINVAL
      · simp [h2]
      · simp [h1, h2]; omega
  | ok target =>
    by_cases hl : 1024 ≤ target.utf8ByteSize
    · simp [hl, Nat.not_lt.mpr hl, ENAMETOOLONG]
    · by_cases hd : basename (cString target) ∈ denyList
      · have : basename (cString target) = "nouveau" := List.mem_singleton.mp hd
        simp only [find?_beq, hd, ↓reduceIte]
        simp [hl, Nat.lt_of_not_le hl, this, denyList, denylistedDriverError]
      · simp [hl, Nat.lt_of_not_le hl, find?_beq, hd]

/-- The calls of one probe: a `DCGM_FR_DENYLISTED_DRIVER` error and FAIL for a denylisted
link, FAIL alone for a link `readlink` fails on, and nothing otherwise. -/
lemma denylistProbe_eq (driverPath : String) :
    denylistProbe env driverPath =
      if denylistedLink env driverPath then [.addError denylistedDriverError, .setResult .fail]
      else if readlinkFault env driverPath then [.setResult .fail]
      else [] := by
  obtain ⟨hne, hcalls⟩ := checkDriverPathDenylist_spec env driverPath
  dsimp only [denylistProbe]
  rw [hcalls]
  by_cases hd : denylistedLink env driverPath <;> by_cases hf : readlinkFault env driverPath <;>
    simp_all

lemma exec_denylistProbe_results (s : PluginState) (driverPath : String) (g : Nat) :
    (s.exec (denylistProbe env driverPath)).results g =
      if denylistedLink env driverPath ∨ readlinkFault env driverPath then .fail
      else s.results g := by
  rw [denylistProbe_eq]
  by_cases hd : denylistedLink env driverPath <;> by_cases hf : readlinkFault env driverPath <;>
    simp [hd, hf]

lemma denylistProbe_errors (driverPath : String) :
    (denylistProbe env driverPath).filterMap PluginCall.error? =
      if denylistedLink env driverPath then [denylistedDriverError] else [] := by
  rw [denylistProbe_eq]
  split_ifs <;> rfl

lemma checkDenylist_calls :
    (checkDenylist env).2 = (denylistProbePaths env).flatMap (denylistProbe env) ++
      if (checkDenylist env).1 then [] else [.setResult .pass] := rfl

/-- What `checkDenylist` does, for every listing and every `readlink`: it answers `true`
exactly when one of its paths is a denylisted link or a link `readlink` fails on; it leaves
FAIL then and PASS otherwise; and its errors are one `DCGM_FR_DENYLISTED_DRIVER` per
denylisted link, in order. -/
theorem checkDenylist_spec (s : PluginState) (g : Nat) :
    ((checkDenylist env).1 = true ↔ ∃ p ∈ denylistProbePaths env,
        denylistedLink env p = true ∨ readlinkFault env p = true) ∧
    (s.exec (checkDenylist env).2).results g =
      (if (checkDenylist env).1 then .fail else .pass) ∧
    (s.exec (checkDenylist env).2).errors = s.errors ++
      ((denylistProbePaths env).filter (denylistedLink env)).map fun _ => denylistedDriverError := by
  have hstatus : (checkDenylist env).1 = true ↔ ∃ p ∈ denylistProbePaths env,
      denylistedLink env p = true ∨ readlinkFault env p = true := by
    simp only [checkDenylist, List.any_eq_true, bne_iff_ne, ne_eq,
      fun p => (checkDriverPathDenylist_spec env p).1]
  refine ⟨hstatus, ?_, ?_⟩
  · rw [checkDenylist_calls, PluginState.exec_append]
    cases hb : (checkDenylist env).1
    · rfl
    · rw [if_pos rfl, PluginState.exec_nil,
        PluginState.exec_flatMap_results _ _ .fail g (exec_denylistProbe_results env · · g),
        if_pos (hstatus.1 hb), if_pos rfl]
  · rw [PluginState.exec_errors, checkDenylist_calls, List.filterMap_append,
      List.filterMap_flatMap]
    simp only [denylistProbe_errors, flatMap_ite_singleton]
    split_ifs <;> simp [PluginCall.error?]

/-- `checkDenylist` writes FAIL only, when it answers `true`, and PASS only otherwise. -/
lemma checkDenylist_written :
    ∀ c ∈ (checkDenylist env).2,
      c.written = none ∨ c.written = some (if (checkDenylist env).1 then .fail else .pass) := by
  have hstatus := (checkDenylist_spec env default 0).1
  rw [checkDenylist_calls]
  rintro c hc
  rcases List.mem_append.1 hc with hc | hc
  · obtain ⟨p, hp, hc⟩ := List.mem_flatMap.1 hc
    rw [denylistProbe_eq] at hc
    have hfault : denylistedLink env p = true ∨ readlinkFault env p = true → (checkDenylist env).1 :=
      fun h => hstatus.2 ⟨p, hp, h⟩
    split_ifs at hc with hd hf <;> simp at hc
    · rcases hc with rfl | rfl <;> simp [PluginCall.written, hfault (.inl hd)]
    · subst hc; simp [PluginCall.written, hfault (.inr hf)]
  · split_ifs at hc <;> simp_all [PluginCall.written]

/-- `checkDenylist` adds errors that name no GPU, for the whole test, and leaves the stop flag
alone. -/
lemma checkDenylist_attributed :
    ∀ c ∈ (checkDenylist env).2, c.Attributed ∧ c ≠ .stopMain := by
  rw [checkDenylist_calls]
  simp only [List.forall_mem_append, List.forall_mem_flatMap, denylistProbe_eq]
  refine ⟨fun p _ => ?_, ?_⟩ <;> split_ifs <;> simp [PluginCall.Attributed, denylistedDriverError]

end DcgmDiag
