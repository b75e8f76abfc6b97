import DcgmDiag.Software.Env

/-!
# `checkPageRetirement` and `checkRowRemapping`

The two checks of the `page_retirement` test.  Each loops over `m_gpuList` and handles one
GPU per pass, with no state carried from a pass to the next, so a check is the
concatenation of its passes (`checkPageRetirement`, `checkRowRemapping`).  A pass of
`checkPageRetirement` writes the plugin-wide result, a pass of `checkRowRemapping` the
result of its own GPU.

Each pass is first described by what it emits (`pageRetirementGpu_eq`, `rowRemapGpu_eq`):
nothing, or an error naming the GPU followed by FAIL and, for a hardware fault, the store to
`main_should_stop`.  The effect of a whole check on a GPU's result, on the stop flag and on
the per-GPU errors follows by induction over the GPU list.

`retiredPagesTotal` adds the retired-page counts in `BitVec 64`, which is the source's
`int64_t` sum while the exact sum is in range (`InInt64`).  Out of range the source's signed
`+=` overflows, which C++ leaves undefined; `retiredPagesTotal_overflows` gives two admitted
readings whose sum gets there.
-/

namespace DcgmDiag

variable (K : SoftwareLimits) (env : SoftwareEnv)

/-- The reading of field `f` of GPU `g` these two checks ask for: live data, except on fake
GPUs. -/
def SoftwareEnv.reading (g : Nat) (f : FieldId) : DcgmReturn × FieldValue :=
  env.getCurrentFieldValue g f (!env.usingFakeGpus)

/-- A reading the checks treat as a positive count: the query succeeds, the status is OK,
the value is not blank and it is above zero. -/
def SoftwareLimits.PositiveReading (r : DcgmReturn × FieldValue) : Prop :=
  r.1 = .ok ∧ K.skips r.2 = false ∧ gtZero r.2.i64 = true

instance (r : DcgmReturn × FieldValue) : Decidable (K.PositiveReading r) :=
  inferInstanceAs (Decidable (_ ∧ _))

/-! ## `checkPageRetirement` -/

/-- `retiredPagesTotal` after the two `+=` of `checkPageRetirement`: a reading is added when
its status is OK and it is not blank. -/
def retiredPagesTotal (dbe sbe : FieldValue) : BitVec 64 :=
  let total : BitVec 64 := 0
  let total := if K.skips dbe then total else total + dbe.i64
  if K.skips sbe then total else total + sbe.i64

/-- What a reading adds to `retiredPagesTotal`, as an integer: its value when its status is
OK and it is not blank, and nothing otherwise. -/
def SoftwareLimits.countedPages (v : FieldValue) : Int := if K.skips v then 0 else v.i64.toInt

/-- The exact integer `x` lies in the range of `int64_t`.  Outside it the signed `+=` that
computes `retiredPagesTotal` overflows, which C++ leaves undefined: `retiredPagesTotal` agrees
with the source only while the exact sum is in range. -/
def InInt64 (x : Int) : Prop := -2 ^ 63 ≤ x ∧ x < 2 ^ 63

instance (x : Int) : Decidable (InInt64 x) := inferInstanceAs (Decidable (_ ∧ _))

/-- The retired-page count of a pass of `checkPageRetirement`, reached when no pending
retirement was found. -/
def retiredPagesCheck (gpuId : Nat) : List PluginCall :=
  let dbe := env.reading gpuId .retiredDbe
  if dbe.1 ≠ .ok then
    [.addErrorForGpu gpuId (fieldQueryError dbe.1 "retired_pages_dbe" gpuId), .setResult .fail]
  else
    let sbe := env.reading gpuId .retiredSbe
    if sbe.1 ≠ .ok then
      [.addErrorForGpu gpuId (fieldQueryError sbe.1 "retired_pages_sbe" gpuId), .setResult .fail]
    else if K.limitMaxRetiredPages.sle (retiredPagesTotal K dbe.2 sbe.2) then
      [.addErrorForGpu gpuId
          ⟨.retiredPagesLimit, some gpuId, [.num K.limitMaxRetiredPages.toInt, .num gpuId]⟩,
        .setResult .fail, .stopMain]
    else []

/-- One pass of the GPU loop of `Software::checkPageRetirement`.  A blank or failed-status
pending count is only logged, and the pass goes on to the retired-page count. -/
def pageRetirementGpu (gpuId : Nat) : List PluginCall :=
  let pending := env.reading gpuId .retiredPending
  if pending.1 ≠ .ok then
    [.addErrorForGpu gpuId (fieldQueryError pending.1 "retired_pages_pending" gpuId),
      .setResult .fail]
  else if K.skips pending.2 then retiredPagesCheck K env gpuId
  else if gtZero pending.2.i64 then
    let volDbe := env.reading gpuId .eccDbeVolTotal
    let code : DcgmErrorCode :=
      if volDbe.1 = .ok ∧ gtZero volDbe.2.i64 ∧ !K.isBlank volDbe.2.i64 then
        .dbePendingPageRetirements
      else .pendingPageRetirements
    [.addErrorForGpu gpuId ⟨code, some gpuId, [.num gpuId]⟩, .setResult .fail, .stopMain]
  else retiredPagesCheck K env gpuId

/-- `Software::checkPageRetirement`. -/
def checkPageRetirement : List PluginCall := env.gpuList.flatMap (pageRetirementGpu K env)

/-- Both retired-page counts of GPU 0 are `2^62`, with status OK and below the blank marker,
and its pending count is 0: its pass of `checkPageRetirement` reaches the two `+=` of
`retiredPagesTotal`, and their exact sum `2^63` is past `INT64_MAX`. -/
theorem retiredPagesTotal_overflows :
    let env : SoftwareEnv := telemetryEnv [0] fun _ f =>
      if f = .retiredDbe ∨ f = .retiredSbe then (.ok, ⟨.ok, 0x4000000000000000⟩)
      else (.ok, ⟨.ok, 0⟩)
    pageRetirementGpu dcgmLimits env 0 = retiredPagesCheck dcgmLimits env 0 ∧
      (env.reading 0 .retiredDbe).1 = .ok ∧ (env.reading 0 .retiredSbe).1 = .ok ∧
      dcgmLimits.skips (env.reading 0 .retiredDbe).2 = false ∧
      dcgmLimits.skips (env.reading 0 .retiredSbe).2 = false ∧
      ¬InInt64 ((env.reading 0 .retiredDbe).2.i64.toInt +
        (env.reading 0 .retiredSbe).2.i64.toInt) := by
  decide

/-- `checkPageRetirement` fails GPU `g`: one of its queries fails, or it finds a pending
retirement, or the retired pages reach the limit. -/
def PageRetirementFails (g : Nat) : Prop :=
  let pending := env.reading g .retiredPending
  let dbe := env.reading g .retiredDbe
  let sbe := env.reading g .retiredSbe
  pending.1 ≠ .ok ∨ K.PositiveReading pending ∨ dbe.1 ≠ .ok ∨ sbe.1 ≠ .ok ∨
    K.limitMaxRetiredPages.sle (retiredPagesTotal K dbe.2 sbe.2) = true

/-- `checkPageRetirement` raises `main_should_stop` for GPU `g`: its pending-count query
succeeds, and it finds a pending retirement or, with both count queries succeeding, the
retired pages reach the limit. -/
def PageRetirementStops (g : Nat) : Prop :=
  let pending := env.reading g .retiredPending
  let dbe := env.reading g .retiredDbe
  let sbe := env.reading g .retiredSbe
  pending.1 = .ok ∧ (K.PositiveReading pending ∨ (dbe.1 = .ok ∧ sbe.1 = .ok ∧
    K.limitMaxRetiredPages.sle (retiredPagesTotal K dbe.2 sbe.2) = true))

instance (g : Nat) : Decidable (PageRetirementFails K env g) :=
  inferInstanceAs (Decidable (_ ∨ _))

instance (g : Nat) : Decidable (PageRetirementStops K env g) :=
  inferInstanceAs (Decidable (_ ∧ _))

/-- What the retired-page count emits: an error naming the GPU and FAIL when a count query
fails or the pages reach the limit, then the stop for the limit. -/
lemma retiredPagesCheck_eq (g : Nat) : ∃ d : DcgmError, d.gpuId = some g ∧
    retiredPagesCheck K env g =
      if (env.reading g .retiredDbe).1 ≠ .ok ∨ (env.reading g .retiredSbe).1 ≠ .ok ∨
          K.limitMaxRetiredPages.sle
            (retiredPagesTotal K (env.reading g .retiredDbe).2 (env.reading g .retiredSbe).2) then
        [.addErrorForGpu g d, .setResult .fail] ++
          (if (env.reading g .retiredDbe).1 = .ok ∧ (env.reading g .retiredSbe).1 = .ok ∧
              K.limitMaxRetiredPages.sle
                (retiredPagesTotal K (env.reading g .retiredDbe).2 (env.reading g .retiredSbe).2)
            then [.stopMain] else [])
      else [] := by
  unfold retiredPagesCheck
  by_cases hd : (env.reading g .retiredDbe).1 = .ok
  · by_cases hs : (env.reading g .retiredSbe).1 = .ok
    · exact ⟨⟨.retiredPagesLimit, some g, [.num K.limitMaxRetiredPages.toInt, .num g]⟩, rfl,
        by split_ifs <;> simp_all⟩
    · exact ⟨fieldQueryError (env.reading g .retiredSbe).1 "retired_pages_sbe" g, rfl,
        by simp [hd, hs]⟩
  · exact ⟨fieldQueryError (env.reading g .retiredDbe).1 "retired_pages_dbe" g, rfl, by simp [hd]⟩

/-- What a pass of `checkPageRetirement` emits: nothing when it does not fail the GPU, and
otherwise an error naming the GPU, then FAIL for every GPU, then the stop for a fault. -/
lemma pageRetirementGpu_eq (g : Nat) : ∃ d : DcgmError, d.gpuId = some g ∧
    pageRetirementGpu K env g =
      if PageRetirementFails K env g then
        [.addErrorForGpu g d, .setResult .fail] ++
          (if PageRetirementStops K env g then [.stopMain] else [])
      else [] := by
  unfold PageRetirementFails PageRetirementStops
  by_cases hq : (env.reading g .retiredPending).1 = .ok
  · by_cases hp : K.PositiveReading (env.reading g .retiredPending)
    · let volDbe := env.reading g .eccDbeVolTotal
      refine ⟨⟨if volDbe.1 = .ok ∧ gtZero volDbe.2.i64 ∧ !K.isBlank volDbe.2.i64 then
        .dbePendingPageRetirements else .pendingPageRetirements, some g, [.num g]⟩, rfl, ?_⟩
      simp [pageRetirementGpu, hq, hp, hp.2.1, hp.2.2]
    · have hpass : pageRetirementGpu K env g = retiredPagesCheck K env g := by
        unfold SoftwareLimits.PositiveReading at hp
        dsimp only [pageRetirementGpu]
        split_ifs <;> simp_all
      obtain ⟨d, hd, hcheck⟩ := retiredPagesCheck_eq K env g
      exact ⟨d, hd, by rw [hpass, hcheck]; simp [hq, hp]⟩
  · exact ⟨fieldQueryError (env.reading g .retiredPending).1 "retired_pages_pending" g, rfl,
      by simp [pageRetirementGpu, hq]⟩

/-! ## `checkRowRemapping` -/

/-- The pending-remap part of a pass of `checkRowRemapping`, reached when no row-remap
failure was found. -/
def pendingRowRemapCheck (gpuId : Nat) : List PluginCall :=
  let pending := env.reading gpuId .rowRemapPending
  if pending.1 ≠ .ok then
    [.addErrorForGpu gpuId (fieldQueryError pending.1 "row_remap_pending" gpuId),
      .setResultForGpu gpuId .fail]
  else if K.skips pending.2 then []
  else if gtZero pending.2.i64 then
    let unc := env.reading gpuId .uncorrectableRemappedRows
    let code : DcgmErrorCode :=
      if unc.1 = .ok ∧ gtZero unc.2.i64 ∧ !K.isBlank unc.2.i64 then .uncorrectableRowRemap
      else .pendingRowRemap
    [.addErrorForGpu gpuId ⟨code, some gpuId, [.num gpuId]⟩, .setResultForGpu gpuId .fail,
      .stopMain]
  else []

/-- One pass of the GPU loop of `Software::checkRowRemapping`. -/
def rowRemapGpu (gpuId : Nat) : List PluginCall :=
  let failure := env.reading gpuId .rowRemapFailure
  if failure.1 ≠ .ok then
    [.addErrorForGpu gpuId (fieldQueryError failure.1 "row_remap_failure" gpuId),
      .setResultForGpu gpuId .fail]
  else if K.skips failure.2 then pendingRowRemapCheck K env gpuId
  else if gtZero failure.2.i64 then
    [.addErrorForGpu gpuId ⟨.rowRemapFailure, some gpuId, [.num gpuId]⟩,
      .setResultForGpu gpuId .fail, .stopMain]
  else pendingRowRemapCheck K env gpuId

/-- `Software::checkRowRemapping`. -/
def checkRowRemapping : List PluginCall := env.gpuList.flatMap (rowRemapGpu K env)

/-- `checkRowRemapping` fails GPU `g`: one of its queries fails, or it finds a row-remap
failure or a pending remap. -/
def RowRemapFails (g : Nat) : Prop :=
  let failure := env.reading g .rowRemapFailure
  let pending := env.reading g .rowRemapPending
  failure.1 ≠ .ok ∨ K.PositiveReading failure ∨ pending.1 ≠ .ok ∨ K.PositiveReading pending

/-- `checkRowRemapping` raises `main_should_stop` for GPU `g`: its failure query succeeds,
and it finds a row-remap failure or a pending remap. -/
def RowRemapStops (g : Nat) : Prop :=
  let failure := env.reading g .rowRemapFailure
  failure.1 = .ok ∧ (K.PositiveReading failure ∨ K.PositiveReading (env.reading g .rowRemapPending))

instance (g : Nat) : Decidable (RowRemapFails K env g) :=
  inferInstanceAs (Decidable (_ ∨ _))

instance (g : Nat) : Decidable (RowRemapStops K env g) :=
  inferInstanceAs (Decidable (_ ∧ _))

/-- What the pending-remap part emits: an error naming the GPU and FAIL for that GPU when its
query fails or it finds a pending remap, then the stop for the remap. -/
lemma pendingRowRemapCheck_eq (g : Nat) : ∃ d : DcgmError, d.gpuId = some g ∧
    pendingRowRemapCheck K env g =
      if (env.reading g .rowRemapPending).1 ≠ .ok ∨
          K.PositiveReading (env.reading g .rowRemapPending) then
        [.addErrorForGpu g d, .setResultForGpu g .fail] ++
          (if K.PositiveReading (env.reading g .rowRemapPending) then [.stopMain] else [])
      else [] := by
  by_cases hq : (env.reading g .rowRemapPending).1 = .ok
  · by_cases hp : K.PositiveReading (env.reading g .rowRemapPending)
    · let unc := env.reading g .uncorrectableRemappedRows
      refine ⟨⟨if unc.1 = .ok ∧ gtZero unc.2.i64 ∧ !K.isBlank unc.2.i64 then
        .uncorrectableRowRemap else .pendingRowRemap, some g, [.num g]⟩, rfl, ?_⟩
      simp [pendingRowRemapCheck, hq, hp, hp.2.1, hp.2.2]
    · refine ⟨⟨.pendingRowRemap, some g, []⟩, rfl, ?_⟩
      unfold SoftwareLimits.PositiveReading at hp ⊢
      dsimp only [pendingRowRemapCheck]
      split_ifs <;> simp_all
  · have hp : ¬K.PositiveReading (env.reading g .rowRemapPending) := fun h => hq h.1
    exact ⟨fieldQueryError (env.reading g .rowRemapPending).1 "row_remap_pending" g, rfl,
      by simp [pendingRowRemapCheck, hq, hp]⟩

/-- What a pass of `checkRowRemapping` emits: nothing when it does not fail the GPU, and
otherwise an error naming the GPU, then FAIL for that GPU only, then the stop for a
fault. -/
lemma rowRemapGpu_eq (g : Nat) : ∃ d : DcgmError, d.gpuId = some g ∧
    rowRemapGpu K env g =
      if RowRemapFails K env g then
        [.addErrorForGpu g d, .setResultForGpu g .fail] ++
          (if RowRemapStops K env g then [.stopMain] else [])
      else [] := by
  unfold RowRemapFails RowRemapStops
  by_cases hq : (env.reading g .rowRemapFailure).1 = .ok
  · by_cases hp : K.PositiveReading (env.reading g .rowRemapFailure)
    · exact ⟨⟨.rowRemapFailure, some g, [.num g]⟩, rfl,
        by simp [rowRemapGpu, hq, hp, hp.2.1, hp.2.2]⟩
    · have hpass : rowRemapGpu K env g = pendingRowRemapCheck K env g := by
        unfold SoftwareLimits.PositiveReading at hp
        dsimp only [rowRemapGpu]
        split_ifs <;> simp_all
      obtain ⟨d, hd, hcheck⟩ := pendingRowRemapCheck_eq K env g
      exact ⟨d, hd, by rw [hpass, hcheck]; simp [hq, hp]⟩
  · exact ⟨fieldQueryError (env.reading g .rowRemapFailure).1 "row_remap_failure" g, rfl,
      by simp [rowRemapGpu, hq]⟩

/-! ## The effect of a whole check -/

section Effect

variable (s : PluginState)

lemma pageRetirementGpu_written (g : Nat) :
    ∀ c ∈ pageRetirementGpu K env g, c.written = none ∨ c.written = some .fail := by
  obtain ⟨d, -, heq⟩ := pageRetirementGpu_eq K env g
  rw [heq]
  split_ifs <;> simp [PluginCall.written]

lemma rowRemapGpu_written (g : Nat) :
    ∀ c ∈ rowRemapGpu K env g, c.written = none ∨ c.written = some .fail := by
  obtain ⟨d, -, heq⟩ := rowRemapGpu_eq K env g
  rw [heq]
  split_ifs <;> simp [PluginCall.written]

/-- A pass files its error under its own GPU, which the error names. -/
lemma pageRetirementGpu_attributed (g : Nat) : ∀ c ∈ pageRetirementGpu K env g, c.Attributed := by
  obtain ⟨d, hd, heq⟩ := pageRetirementGpu_eq K env g
  rw [heq]
  split_ifs <;> simp [PluginCall.Attributed, hd]

lemma rowRemapGpu_attributed (g : Nat) : ∀ c ∈ rowRemapGpu K env g, c.Attributed := by
  obtain ⟨d, hd, heq⟩ := rowRemapGpu_eq K env g
  rw [heq]
  split_ifs <;> simp [PluginCall.Attributed, hd]

end Effect

end DcgmDiag
