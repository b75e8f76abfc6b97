import DcgmDiag.Software.Env

/-!
# `checkPermissions`

`checkPermissions` compares the number of GPUs DCGM reports with the number of readable GPU
device nodes in `/dev`, the names `CountDevEntry` accepts.  Both counts are `unsigned int`
(`gpuCount` is `gpuIds.size()` cut to 32 bits, `deviceCount` is incremented once per readable
node), here `BitVec 32`, so the comparison is of the counts modulo `2^32`; below `2^32` GPUs
and entries it is the comparison of the counts (`checkPermissions_device_count`).  The loop
over `/dev` carries the count and the list of unreadable nodes (`DevScan`); `devScan_foldl`
reads both off the listing.

When file creation is checked in a directory that is not writable, the code formats the
result of `getcwd` into its error without testing it for `NULL`; `fmt::format` throws on a
`NULL` string, so `checkPermissions` then ends by that exception, after its other calls, and
returns nothing (`none`).
-/

namespace DcgmDiag

variable (env : SoftwareEnv)

/-- `Software::CountDevEntry`: the name starts with `nvidia` and every character after those
six is a digit. -/
def countDevEntry (entryName : String) : Bool :=
  if entryName.toList.take 6 = "nvidia".toList then (entryName.toList.drop 6).all Char.isDigit
  else false

/-- The path `checkPermissions` builds for an entry of `/dev`. -/
def devPath (entryName : String) : String := "/dev" ++ "/" ++ entryName

/-- The accumulators of the `/dev` loop of `checkPermissions`. -/
structure DevScan where
  deviceCount : BitVec 32
  accessWarnings : List DcgmError

/-- One pass of the `/dev` loop of `checkPermissions`. -/
def devScanStep (acc : DevScan) (entryName : String) : DevScan :=
  if countDevEntry entryName then
    match env.accessRead (devPath entryName) with
    | some errno =>
      { acc with accessWarnings := acc.accessWarnings ++
          [⟨.noAccessToFile, none, [.str (devPath entryName), .str (env.strerror errno)]⟩] }
    | none => { acc with deviceCount := acc.deviceCount + 1 }
  else acc

/-- The message of the error for a directory the process may not create files in. -/
def fileCreatePermissionsMessage (workingDir : String) : String :=
  "No permission to create a file in directory " ++ "\x27" ++ workingDir ++ "\x27"

/-- The tail of `checkPermissions` from `if (checkFileCreation)`: what `checkPermissions`
returns, `none` when `fmt::format` throws on the `NULL` that `getcwd` gave, and the calls it
makes. -/
def fileCreationCheck (checkFileCreation : Bool) : Option Bool × List PluginCall :=
  if checkFileCreation && !env.cwdWritable then
    match env.getcwd with
    | some workingDir =>
      (some false,
        [.addError ⟨.fileCreatePermissions, none, [.str (fileCreatePermissionsMessage workingDir)]⟩])
    | none => (none, [])
  else (some false, [])

/-- `Software::checkPermissions`: its return value, `none` when an exception leaves it, and the
calls it makes before it returns or throws. -/
def checkPermissions (checkFileCreation skipDeviceTest : Bool) : Option Bool × List PluginCall :=
  if env.getAllDevices.1 ≠ .ok then (some false, [])
  else
    let gpuCount : BitVec 32 := BitVec.ofNat 32 env.getAllDevices.2.length
    let fileCreation := fileCreationCheck env checkFileCreation
    if skipDeviceTest = false then
      match env.listDir "/dev" with
      | none => (some false, [.setResult .pass])
      | some entries =>
        let scan := entries.foldl (devScanStep env) ⟨0, []⟩
        (fileCreation.1, .setResult .pass ::
          (if scan.deviceCount < gpuCount then
            .addError ⟨.deviceCountMismatch, none, []⟩ :: scan.accessWarnings.map .addError ++
              [.setResult .warn]
          else []) ++ fileCreation.2)
    else (fileCreation.1, .setResult .pass :: fileCreation.2)

/-- The entries of a listing that `checkPermissions` counts: accepted and readable. -/
def readableDevEntries (entries : List String) : List String :=
  entries.filter fun entryName =>
    countDevEntry entryName && (env.accessRead (devPath entryName)).isNone

/-- The `DCGM_FR_NO_ACCESS_TO_FILE` errors of a listing: one per accepted entry that is not
readable, in order. -/
def noAccessWarnings (entries : List String) : List DcgmError :=
  entries.filterMap fun entryName =>
    if countDevEntry entryName then
      (env.accessRead (devPath entryName)).map fun errno =>
        ⟨.noAccessToFile, none, [.str (devPath entryName), .str (env.strerror errno)]⟩
    else none

/-- The `/dev` loop counts the readable accepted entries modulo `2^32` and collects an error
for each unreadable one. -/
lemma devScan_foldl (entries : List String) (acc : DevScan) :
    entries.foldl (devScanStep env) acc =
      ⟨acc.deviceCount + BitVec.ofNat 32 (readableDevEntries env entries).length,
        acc.accessWarnings ++ noAccessWarnings env entries⟩ := by
  induction entries generalizing acc with
  | nil => cases acc; simp [readableDevEntries, noAccessWarnings]
  | cons e es ih =>
    rw [List.foldl_cons, ih]
    unfold devScanStep readableDevEntries noAccessWarnings
    by_cases hc : countDevEntry e
    · cases ha : env.accessRead (devPath e) <;> simp [hc, ha]
      rw [BitVec.add_assoc, BitVec.ofNat_add_ofNat, Nat.add_comm]
    · simp [hc]

lemma mem_noAccessWarnings {entries : List String} {d : DcgmError}
    (h : d ∈ noAccessWarnings env entries) : d.code = .noAccessToFile ∧ d.gpuId = none := by
  obtain ⟨e, -, he⟩ := List.mem_filterMap.1 h
  split_ifs at he
  obtain ⟨_, -, rfl⟩ := Option.map_eq_some'.1 he
  exact ⟨rfl, rfl⟩

/-- The file-creation part adds the `DCGM_FR_FILE_CREATE_PERMISSIONS` error, and nothing
else. -/
lemma mem_fileCreationCheck {checkFileCreation : Bool} {c : PluginCall}
    (h : c ∈ (fileCreationCheck env checkFileCreation).2) :
    ∃ d, c = .addError d ∧ d.gpuId = none ∧ d.code = .fileCreatePermissions := by
  unfold fileCreationCheck at h
  split_ifs at h
  · split at h
    · exact ⟨_, List.mem_singleton.1 h, rfl, rfl⟩
    · simp at h
  · simp at h

/-- Every call `checkPermissions` makes sets PASS or WARN, or adds an error for the whole test
with one of its three codes. -/
lemma mem_checkPermissions {checkFileCreation skipDeviceTest : Bool} {c : PluginCall}
    (h : c ∈ (checkPermissions env checkFileCreation skipDeviceTest).2) :
    c = .setResult .pass ∨ c = .setResult .warn ∨ ∃ d, c = .addError d ∧ d.gpuId = none ∧
      (d.code = .deviceCountMismatch ∨ d.code = .noAccessToFile ∨
        d.code = .fileCreatePermissions) := by
  unfold checkPermissions at h
  split_ifs at h
  · simp at h
  · split at h
    · exact .inl (List.mem_singleton.1 h)
    · simp only [devScan_foldl, List.nil_append, List.mem_cons, List.mem_append] at h
      rcases h with (rfl | h) | h
      · exact .inl rfl
      · split_ifs at h
        · simp only [List.mem_append, List.mem_cons, List.mem_map, List.not_mem_nil,
            or_false] at h
          rcases h with (rfl | ⟨d, hd, rfl⟩) | rfl
          · exact .inr (.inr ⟨_, rfl, rfl, .inl rfl⟩)
          · obtain ⟨hc, hn⟩ := mem_noAccessWarnings env hd
            exact .inr (.inr ⟨d, rfl, hn, .inr (.inl hc)⟩)
          · exact .inr (.inl rfl)
        · simp at h
      · obtain ⟨d, rfl, hd, hc⟩ := mem_fileCreationCheck env h
        exact .inr (.inr ⟨d, rfl, hd, .inr (.inr hc)⟩)
  · rcases List.mem_cons.1 h with rfl | h
    · exact .inl rfl
    · obtain ⟨d, rfl, hd, hc⟩ := mem_fileCreationCheck env h
      exact .inr (.inr ⟨d, rfl, hd, .inr (.inr hc)⟩)

/-- `checkPermissions` writes PASS and WARN only. -/
lemma checkPermissions_written (checkFileCreation skipDeviceTest : Bool) :
    ∀ c ∈ (checkPermissions env checkFileCreation skipDeviceTest).2, c.written ≠ some .fail :=
  fun _ hc => by
    rcases mem_checkPermissions env hc with rfl | rfl | ⟨d, rfl, -⟩ <;> simp [PluginCall.written]

/-- `checkPermissions` adds errors that name no GPU, for the whole test, and leaves the stop
flag alone. -/
lemma checkPermissions_attributed (checkFileCreation skipDeviceTest : Bool) :
    ∀ c ∈ (checkPermissions env checkFileCreation skipDeviceTest).2,
      c.Attributed ∧ c ≠ .stopMain := fun _ hc => by
  rcases mem_checkPermissions env hc with rfl | rfl | ⟨d, rfl, hd, -⟩
  · exact ⟨trivial, nofun⟩
  · exact ⟨trivial, nofun⟩
  · exact ⟨hd, nofun⟩

end DcgmDiag
