import Nozomi.Base.Run
import Nozomi.Display.Copybit.Stretch

/-!
# The counts and the tables of the copybit device

A stretch makes room by a finish where a table of templates or the blit list is full, and goes on where that
finish fails. It stays inside of its tables where there is room for the template and the rectangles it gets
to.
-/

namespace Nozomi.Copybit

variable {dst src : CopybitImage} {dstRect srcRect : CopybitRect}
  {region : List (CopybitRect × FinishOutcome)} {outcomes : StretchOutcomes} {enableBlend : Bool}
  {ctx next : CopybitContext}

namespace CopybitContext

/-- The counts are those of the entries of the templates and of the blit list. -/
structure CountsInside (ctx : CopybitContext) : Prop where
  blitCount_le : ∀ type, ctx.blitCount type ≤ type.max
  blitList_le : ctx.blitList.length ≤ maxBlitObjectCount

/-- No access of the action is outside of an array, and it leaves the counts inside. -/
def StaysInside (ctx : CopybitContext) : CopybitAction → Prop
  | .call call =>
    ctx.call call ≠ .error .outOfBounds ∧
      ∀ status next, ctx.call call = .ok (status, next) → next.CountsInside
  | .waitLoop => ctx.waitLoop.CountsInside

end CopybitContext

/-! ### Where there is room -/

/-- The blit list is finished in front of each rectangle of the region where it is full. -/
def RegionFinishes : Nat → List (CopybitRect × FinishOutcome) → Prop
  | _, [] => True
  | count, (_, outcome) :: region =>
    if count = maxBlitObjectCount then outcome.finish = true ∧ RegionFinishes 1 region
    else RegionFinishes (count + 1) region

instance instDecidableRegionFinishes :
    ∀ (count : Nat) (region : List (CopybitRect × FinishOutcome)), Decidable (RegionFinishes count region)
  | _, [] => isTrue trivial
  | count, (_, outcome) :: region =>
    have := instDecidableRegionFinishes 1 region
    have := instDecidableRegionFinishes (count + 1) region
    inferInstanceAs (Decidable (if count = maxBlitObjectCount then
      outcome.finish = true ∧ RegionFinishes 1 region else RegionFinishes (count + 1) region))

/-- There is room for the template of a stretch that sets its destination, and for the rectangles of one that
sets its source too. The tables are empty behind an early finish that succeeds. -/
def CopybitContext.FitsStretch (ctx : CopybitContext) (dst src : CopybitImage)
    (region : List (CopybitRect × FinishOutcome)) (outcomes : StretchOutcomes) : Prop :=
  ∀ dstType ∈ surfaceTypeOf dst.format, ImagesChecked dst src dstType →
    ctx.setsDestination dst outcomes = true → ∀ srcType ∈ surfaceTypeOf src.format,
      if ctx.emptiesEarly dstType outcomes.early then
        ctx.setsSource src outcomes = true → RegionFinishes 0 region
      else
        ctx.blitCount srcType ≠ srcType.max ∧
          (ctx.setsSource src outcomes = true → RegionFinishes ctx.blitList.length region)

instance instDecidableFitsStretch (ctx : CopybitContext) (dst src : CopybitImage)
    (region : List (CopybitRect × FinishOutcome)) (outcomes : StretchOutcomes) :
    Decidable (ctx.FitsStretch dst src region outcomes) := by
  unfold CopybitContext.FitsStretch
  infer_instance

def CopybitContext.Fits (ctx : CopybitContext) : CopybitAction → Prop
  | .call (.stretch dst src _ _ region outcomes) => ctx.FitsStretch dst src region outcomes
  | .call (.blit dst src region outcomes) => ctx.FitsStretch dst src region outcomes
  | _ => True

instance instDecidableFits (ctx : CopybitContext) (action : CopybitAction) : Decidable (ctx.Fits action) := by
  unfold CopybitContext.Fits
  split <;> infer_instance

/-! ### The operations -/

namespace CopybitContext

theorem CountsInside.of_same (hinside : ctx.CountsInside) (hcount : next.blitCount = ctx.blitCount)
    (hlist : next.blitList = ctx.blitList) : next.CountsInside :=
  ⟨fun type => hcount ▸ hinside.blitCount_le type, hlist ▸ hinside.blitList_le⟩

theorem CountsInside.of_remaps (hinside : ctx.CountsInside) (hremaps : ctx.Remaps next) :
    next.CountsInside := by
  obtain ⟨c2d, table, rfl⟩ := hremaps
  exact hinside.of_same rfl rfl

theorem resetCounts_inside (ctx : CopybitContext) : ctx.resetCounts.CountsInside :=
  ⟨fun _ => Nat.zero_le _, Nat.zero_le _⟩

theorem CountsInside.finish (hinside : ctx.CountsInside) (outcome : FinishOutcome) :
    (ctx.finishCopybitInternal outcome).2.CountsInside := by
  obtain ⟨c2d, table, heq⟩ := ctx.finishCopybitInternal_eq outcome
  rw [heq]
  cases outcome.finish with
  | false => exact hinside.of_same rfl rfl
  | true => exact ⟨fun _ => Nat.zero_le _, Nat.zero_le _⟩

theorem CountsInside.setParameter (hinside : ctx.CountsInside) (name value : BitVec 32)
    (outcome : FinishOutcome) : (ctx.setParameter name value outcome).2.CountsInside := by
  unfold CopybitContext.setParameter
  split
  · exact hinside.of_same rfl rfl
  split
  · split
    · exact hinside.of_same rfl rfl
    · split <;> exact hinside.of_same rfl rfl
  split
  · dsimp only
    split
    · exact hinside.of_same rfl rfl
    · have hmasked : CountsInside
          { ctx with
            configMask := ctx.configMask ||| ((transformConfig value).2 &&& (mirrorHBit ||| mirrorVBit)) } :=
        hinside.of_same rfl rfl
      exact (hmasked.finish outcome).of_same rfl rfl
  split
  · exact hinside.of_same rfl rfl
  split
  · exact hinside.of_same rfl rfl
  split <;> exact hinside

theorem CountsInside.flushGetFence (hinside : ctx.CountsInside) (draw flush fence : Bool) :
    (ctx.flushGetFence draw flush fence).2.CountsInside := by
  obtain ⟨c2d, hdrawn⟩ := ctx.msmCopybit_eq draw
  unfold CopybitContext.flushGetFence
  dsimp only
  rw [hdrawn]
  split_ifs <;> exact hinside.of_same rfl rfl

theorem CountsInside.clearCopybit (hinside : ctx.CountsInside) (buf : CopybitImage) (rect : CopybitRect)
    (outcome : SetImageOutcome) (fill : Bool) :
    (ctx.clearCopybit buf rect outcome fill).2.CountsInside := by
  have hset := hinside.of_remaps (ctx.setImage_remaps (.target .rgb) buf ⟨true, false⟩ outcome)
  unfold CopybitContext.clearCopybit
  dsimp only
  split
  · exact hset.of_remaps (unmapGpuaddr_remaps _ _)
  · split
    · exact hset.of_same rfl rfl
    · exact hset

end CopybitContext

open CopybitContext

/-! ### A stretch -/

def LeavesInside : CopybitExit → CopybitContext → Prop
  | .returned _, next => next.CountsInside
  | .nullHandle, _ => True
  | .outOfBounds, _ => False

theorem ends_blitRegion_inside (region : List (CopybitRect × FinishOutcome)) :
    ∀ (ctx : CopybitContext) (object : C2dObject), ctx.CountsInside →
      RegionFinishes ctx.blitList.length region →
      Ends (blitRegion object dstRect srcRect region) (fun _ next => next.CountsInside) LeavesInside ctx := by
  induction region with
  | nil => exact fun ctx object hinside _ => hinside
  | cons entry region ih =>
    obtain ⟨clip, outcome⟩ := entry
    intro ctx object hinside hfinishes
    unfold blitRegion
    simp only [ends_bind, ends_get, ends_modify]
    generalize ctx.blitObjectFor object dstRect srcRect clip = added
    by_cases hfull : ctx.blitList.length = maxBlitObjectCount
    · rw [RegionFinishes, if_pos hfull] at hfinishes
      rw [if_pos hfull]
      obtain ⟨c2d, table, heq⟩ := ctx.finishCopybitInternal_eq outcome
      rw [heq, if_pos hfinishes.1, if_pos hfinishes.1]
      have hempty : (1 : Nat) ≤ maxBlitObjectCount := by decide
      exact ih _ _ ⟨fun _ => Nat.zero_le _, hempty⟩ hfinishes.2
    rw [RegionFinishes, if_neg hfull] at hfinishes
    rw [if_neg hfull]
    have hroom : ctx.blitList.length < maxBlitObjectCount :=
      Nat.lt_of_le_of_ne hinside.blitList_le hfull
    rw [ends_ite]
    refine ⟨fun hle => absurd hroom (Nat.not_lt.mpr hle), fun _ => ?_⟩
    apply ih
    · refine ⟨hinside.blitCount_le, ?_⟩
      show (ctx.blitList ++ [added]).length ≤ maxBlitObjectCount
      rw [List.length_append]
      exact hroom
    · show RegionFinishes (ctx.blitList ++ [added]).length region
      rw [List.length_append]
      exact hfinishes

theorem ends_blitAndDraw_inside {needTempSrc : Bool} {dstImage : CopybitImage} {object : C2dObject}
    {mapped : List MappedIdx} {temp : TempBuffer}
    (himage : dst.needsTemp = true → dstImage = temp.imageOf dst)
    (hinside : ctx.CountsInside) (hfinishes : RegionFinishes ctx.blitList.length region) :
    Ends (blitAndDraw dst dstRect srcRect region outcomes needTempSrc dstImage object mapped)
      (fun _ next => next.CountsInside) LeavesInside ctx := by
  unfold blitAndDraw
  rw [ends_bind]
  apply (ends_blitRegion_inside region ctx object hinside hfinishes).imp
  case hexit => exact fun _ _ hleaves => hleaves
  intro _ next hnext
  unfold drawAtOnce
  rw [ends_bind, ends_modify]
  have hdrawn : CountsInside (if (dst.needsTemp || needTempSrc || next.dstSurfaceType != .rgb) = true
      then (next.finishCopybitInternal outcomes.last).2 else next) := by
    split
    · exact hnext.finish outcomes.last
    · exact hnext
  generalize (if (dst.needsTemp || needTempSrc || next.dstSurfaceType != .rgb) = true
    then (next.finishCopybitInternal outcomes.last).2 else next) = drawn at *
  rw [ends_bind]
  cases hneeds : dst.needsTemp with
  | false => exact hdrawn.of_same rfl rfl
  | true =>
    rw [himage hneeds]
    simp only [if_true]
    apply ends_copyBack hneeds
    · exact fun _ => hdrawn.of_same rfl rfl
    · exact fun _ => hdrawn.of_remaps (foldl_unmapGpuaddr_remaps mapped drawn)

theorem ends_stretch_inside (hinside : ctx.CountsInside) (hfits : ctx.FitsStretch dst src region outcomes)
    (hblend : enableBlend = true → ctx.srcGlobalAlpha ≠ 0) :
    Ends (stretchCopybitInternal dst src dstRect srcRect region enableBlend outcomes)
      (fun _ next => next.CountsInside) LeavesInside ctx := by
  -- the counts behind the early finish, and behind what sets the destination and the source
  have hearly : ∀ type, (ctx.earlyFinished type outcomes.early).CountsInside := by
    intro type
    obtain ⟨c2d, table, heq⟩ := ctx.earlyFinished_eq type outcomes.early
    rw [heq]
    cases ctx.emptiesEarly type outcomes.early with
    | false => exact hinside.of_same rfl rfl
    | true => exact ⟨fun _ => Nat.zero_le _, Nat.zero_le _⟩
  have hdst : ∀ type,
      ((ctx.earlyFinished type outcomes.early).destinationSet type dst outcomes).2.CountsInside := by
    intro type
    obtain ⟨temp, allocated, c2d, table, heq⟩ :=
      destinationSet_eq (ctx.earlyFinished type outcomes.early) type dst outcomes
    rw [heq]
    exact (hearly type).of_same rfl rfl
  apply ends_stretch (fun _ => trivial) hblend
  case hchecks => exact fun _ _ _ => hinside
  case hallocDst =>
    intro type _ _ _
    obtain ⟨temp, allocated, heq⟩ :=
      withTempDst_eq (ctx.earlyFinished type outcomes.early) dst outcomes.allocDst
    rw [heq]
    exact (hearly type).of_same rfl rfl
  case hfailDst => exact fun type _ _ _ _ => (hdst type).of_remaps (unmapGpuaddr_remaps _ _)
  case hformat => exact fun type _ _ _ => (hdst type).of_remaps (unmapGpuaddr_remaps _ _)
  case hcopy =>
    intro type _ _ _ _ _ _ _ _ set temp allocated contents _
    have hcopied : CountsInside
        { set.2 with tempSrcBuffer := temp, allocated := allocated, contents := contents } :=
      (hdst type).of_same rfl rfl
    exact hcopied.of_remaps (unmapGpuaddr_remaps _ _)
  case hfull =>
    -- the template has no room only where the stretch does not fit
    intro type hchecked hsets srcType hsrcType hfull
    have hfits := hfits type hchecked.type_eq hchecked hsets srcType hsrcType
    obtain ⟨c2d, table, heq⟩ := ctx.earlyFinished_eq type outcomes.early
    rw [heq] at hfull
    cases hemptied : ctx.emptiesEarly type outcomes.early with
    | false =>
      rw [hemptied] at hfits hfull
      exact absurd (Nat.le_antisymm (hinside.blitCount_le srcType) hfull) hfits.1
    | true =>
      rw [hemptied] at hfull
      have hpos : 0 < srcType.max := by cases srcType <;> decide
      exact absurd hpos (Nat.not_lt.mpr hfull)
  case hfailSrc =>
    intro type _ _ srcType _ _ _ _ _ dstSet template set
    obtain ⟨hcount, hlist⟩ :=
      sourceSet_blits (ctx.earlyFinished type outcomes.early) type template.surfaceId dst src outcomes
    have hset : set.2.CountsInside := (hearly type).of_same hcount hlist
    exact (hset.of_remaps (unmapGpuaddr_remaps _ _)).of_remaps (unmapGpuaddr_remaps _ _)
  case hbody =>
    intro type hchecked hsets srcType hsrcType hroom hsetsSource dstSet template set settings _
    have hfits := hfits type hchecked.type_eq hchecked hsets srcType hsrcType
    obtain ⟨hcount, hlist⟩ :=
      sourceSet_blits (ctx.earlyFinished type outcomes.early) type template.surfaceId dst src outcomes
    have hset : set.2.CountsInside := (hearly type).of_same hcount hlist
    apply ends_blitAndDraw_inside (destinationImage_of_needsTemp _ outcomes.allocDst)
    · -- the template has room for one more
      refine ⟨fun other => ?_, hset.blitList_le⟩
      show Function.update set.2.blitCount srcType (set.2.blitCount srcType + 1) other ≤ other.max
      by_cases hother : other = srcType
      · subst hother
        rw [Function.update_self, hcount]
        exact hroom
      · rw [Function.update_of_ne hother]
        exact hset.blitCount_le other
    · show RegionFinishes set.2.blitList.length region
      obtain ⟨c2d, table, heq⟩ := ctx.earlyFinished_eq type outcomes.early
      rw [hlist, heq]
      cases hemptied : ctx.emptiesEarly type outcomes.early with
      | false =>
        rw [hemptied] at hfits
        exact hfits.2 hsetsSource
      | true =>
        rw [hemptied] at hfits
        exact hfits hsetsSource

/-! ### Runs -/

theorem statusOf_inside {code : CopybitM PUnit}
    (hends : Ends code (fun _ next => next.CountsInside) LeavesInside ctx) :
    statusOf (code ctx) ≠ .error .outOfBounds ∧
      ∀ status next, statusOf (code ctx) = .ok (status, next) → next.CountsInside := by
  unfold Ends at hends
  cases hcode : code ctx with
  | ok value next =>
    rw [hcode] at hends
    refine ⟨by rintro ⟨⟩, fun status next' h => ?_⟩
    obtain ⟨-, rfl⟩ := Prod.mk.inj (Except.ok.inj h)
    exact hends
  | error reason next =>
    rw [hcode] at hends
    cases reason with
    | returned status =>
      refine ⟨by rintro ⟨⟩, fun status' next' h => ?_⟩
      obtain ⟨-, rfl⟩ := Prod.mk.inj (Except.ok.inj h)
      exact hends
    | nullHandle =>
      constructor
      · rintro ⟨⟩
      · rintro status next ⟨⟩
    | outOfBounds => exact hends.elim

theorem staysInside_of_fits (action : CopybitAction) (hinside : ctx.CountsInside) (hfits : ctx.Fits action) :
    ctx.StaysInside action := by
  have hreturns {result : Int × CopybitContext} (hresult : result.2.CountsInside) :
      (.ok result : Except CopybitFault (Int × CopybitContext)) ≠ .error .outOfBounds ∧
        ∀ status next, (.ok result : Except CopybitFault (Int × CopybitContext)) = .ok (status, next) →
          next.CountsInside := by
    refine ⟨nofun, fun status next h => ?_⟩
    rw [Except.ok.inj h] at hresult
    exact hresult
  cases action with
  | waitLoop => exact resetCounts_inside _
  | call call =>
    cases call with
    | setParameter name value outcome => exact hreturns (hinside.setParameter name value outcome)
    | stretch dst src dstRect srcRect region outcomes =>
      apply statusOf_inside
      exact ends_stretch_inside hinside hfits fun henable => by simpa using henable
    | blit dst src region outcomes =>
      apply statusOf_inside
      exact ends_stretch_inside hinside hfits fun henable => by cases henable
    | finish outcome => exact hreturns (hinside.finish outcome)
    | flushGetFence draw flush fence => exact hreturns (hinside.flushGetFence draw flush fence)
    | clear buf rect outcome fill => exact hreturns (hinside.clearCopybit buf rect outcome fill)

theorem copybitStep_inside {action : CopybitAction} (hstays : ctx.StaysInside action)
    (hstep : copybitStep ctx action = some next) : next.CountsInside := by
  rcases copybitStep_cases hstep with ⟨rfl, -, rfl⟩ | ⟨call, status, rfl, -, hcall⟩
  · exact hstays
  · exact hstays.2 status next hcall

/-- In every run whose calls fit, every access is inside of its array and the counts stay within their
maxima. -/
theorem copybit_inside (capabilitiesMask : BitVec 32) (actions : List CopybitAction)
    (hfits : RunMeets copybitStep CopybitContext.Fits (opened capabilitiesMask) actions) :
    RunMeets copybitStep CopybitContext.StaysInside (opened capabilitiesMask) actions ∧
      ∀ last, runSteps copybitStep (opened capabilitiesMask) actions = some last → last.CountsInside := by
  have hstep : ∀ state action next, state.Fits action → state.CountsInside →
      copybitStep state action = some next → next.CountsInside :=
    fun state action next hfits hinside hstep =>
      copybitStep_inside (staysInside_of_fits action hinside hfits) hstep
  have hopened : (opened capabilitiesMask).CountsInside := ⟨fun _ => Nat.zero_le _, Nat.zero_le _⟩
  exact ⟨RunMeets.imp_of_meets CountsInside hstep
      (fun _ action hinside hfits => staysInside_of_fits action hinside hfits) _ hopened hfits,
    fun last hrun => runSteps_state_of_meets CountsInside hstep hfits hopened hrun⟩

def rgbImage (gpuaddr : BitVec 32) : CopybitImage :=
  ⟨64, 64, .rgba8888, some ⟨.client 1 0x1000 0x4000 0, usesIon, gpuaddr, 64⟩⟩
def yv12Image (gpuaddr : BitVec 32) : CopybitImage :=
  ⟨64, 64, .yv12, some ⟨.client 2 0x8000 0x2000 0, usesIon, gpuaddr, 64⟩⟩

def earlyOutcomes (early : Bool) : StretchOutcomes :=
  ⟨⟨true, early⟩, some usesIon, ⟨some 1, true⟩, some usesIon, true, ⟨some 2, true⟩, ⟨true, true⟩⟩

def planesStretch (early : Bool) : CopybitCall :=
  .stretch (rgbImage 0x100) (yv12Image 0x200) (wholeRect (rgbImage 0)) (wholeRect (yv12Image 0))
    [(wholeRect (rgbImage 0), ⟨true, true⟩)] (earlyOutcomes early)

theorem planesStretch_inside :
    RunMeets copybitStep CopybitContext.StaysInside (opened 0)
      [.call (planesStretch true), .call (planesStretch true)] :=
  (copybit_inside 0 [.call (planesStretch true), .call (planesStretch true)] (by decide +kernel)).1

/-- The second stretch takes a template behind the only one, where its early finish fails. -/
theorem planesStretch_not_inside :
    ¬ ∀ (capabilitiesMask : BitVec 32) (actions : List CopybitAction),
      RunMeets copybitStep CopybitContext.StaysInside (opened capabilitiesMask) actions := by
  intro hall
  obtain ⟨-, hsecond⟩ := hall 0 [.call (planesStretch true), .call (planesStretch false)]
  have hfault : ((copybitStep (opened 0) (.call (planesStretch true))).any fun next =>
      match next.call (planesStretch false) with
      | .error .outOfBounds => true
      | _ => false) = true := by decide +kernel
  cases hstep : copybitStep (opened 0) (.call (planesStretch true)) with
  | none =>
    rw [hstep] at hfault
    cases hfault
  | some next =>
    obtain ⟨⟨hinside, -⟩, -⟩ := hsecond next hstep
    rw [hstep, Option.any_some] at hfault
    split at hfault
    · rename_i hcall
      exact hinside hcall
    · cases hfault

end Nozomi.Copybit
