import Nozomi.Display.Copybit.Bounds

/-!
# What the calls of the copybit device keep

The templates keep the surfaces that they were created for. The settings of the client are kept too, up to the
end of a stretch that runs to its end: one that returns an error leaves them to the next.
-/

namespace Nozomi.Copybit

namespace CopybitContext

/-- What `set_parameter_copybit` collects for a stretch, with the capabilities that it decides by. -/
structure Settings where
  capabilitiesMask : BitVec 32
  configMask : BitVec 32
  isPremultipliedAlpha : Bool
  fbWidth : BitVec 32
  fbHeight : BitVec 32
  deriving DecidableEq

def Settings.cleared (settings : Settings) : Settings := ⟨settings.capabilitiesMask, 0, false, 0, 0⟩

def settings (ctx : CopybitContext) : Settings :=
  ⟨ctx.capabilitiesMask, ctx.configMask, ctx.isPremultipliedAlpha, ctx.fbWidth, ctx.fbHeight⟩

def surfaceIds (ctx : CopybitContext) (type : SurfaceType) (index : Nat) : SurfaceId :=
  (ctx.blitObject type index).surfaceId

structure Keeps (ctx next : CopybitContext) : Prop where
  surfaceIds : next.surfaceIds = ctx.surfaceIds
  settings : next.settings = ctx.settings

variable {ctx next last : CopybitContext}

theorem Keeps.refl (ctx : CopybitContext) : ctx.Keeps ctx := ⟨rfl, rfl⟩

theorem Keeps.trans (hfirst : ctx.Keeps next) (hsecond : next.Keeps last) : ctx.Keeps last :=
  ⟨hsecond.surfaceIds.trans hfirst.surfaceIds, hsecond.settings.trans hfirst.settings⟩

theorem Remaps.keeps (hremaps : ctx.Remaps next) : ctx.Keeps next := by
  obtain ⟨c2d, table, rfl⟩ := hremaps
  exact ⟨rfl, rfl⟩

theorem keeps_finish (ctx : CopybitContext) (outcome : FinishOutcome) :
    ctx.Keeps (ctx.finishCopybitInternal outcome).2 := by
  obtain ⟨c2d, table, heq⟩ := ctx.finishCopybitInternal_eq outcome
  rw [heq]
  exact ⟨rfl, rfl⟩

theorem keeps_earlyFinished (ctx : CopybitContext) (type : SurfaceType) (outcome : FinishOutcome) :
    ctx.Keeps (ctx.earlyFinished type outcome) := by
  obtain ⟨c2d, table, heq⟩ := ctx.earlyFinished_eq type outcome
  rw [heq]
  exact ⟨rfl, rfl⟩

theorem keeps_destinationSet (ctx : CopybitContext) (type : SurfaceType) (dst : CopybitImage)
    (outcomes : StretchOutcomes) : ctx.Keeps (ctx.destinationSet type dst outcomes).2 := by
  obtain ⟨temp, allocated, c2d, table, heq⟩ := destinationSet_eq ctx type dst outcomes
  rw [heq]
  exact ⟨rfl, rfl⟩

theorem keeps_sourceSet (ctx : CopybitContext) (surface : SurfaceId) (src : CopybitImage)
    (outcomes : StretchOutcomes) : ctx.Keeps (ctx.sourceSet surface src outcomes).2 := by
  obtain ⟨temp, allocated, contents, c2d, table, heq⟩ := sourceSet_eq ctx surface src outcomes
  rw [heq]
  exact ⟨rfl, rfl⟩

theorem keeps_withTemplate {type : SurfaceType} {object : C2dObject}
    (hobject : object.surfaceId = ctx.surfaceIds type (ctx.blitCount type)) :
    ctx.Keeps (ctx.withTemplate type object) := by
  refine ⟨?_, rfl⟩
  funext other index
  show (Function.update ctx.blitObject type
    (Function.update (ctx.blitObject type) (ctx.blitCount type) object) other index).surfaceId = _
  by_cases hother : other = type
  · subst hother
    rw [Function.update_self]
    by_cases hindex : index = ctx.blitCount other
    · rw [hindex, Function.update_self]
      exact hobject
    · rw [Function.update_of_ne hindex]
      rfl
  · rw [Function.update_of_ne hother]
    rfl

/-- The stretch passes the checks that it makes before it draws, and what it drew to a temporary destination is
copied back. -/
def Completes (ctx : CopybitContext) (dst src : CopybitImage) (outcomes : StretchOutcomes) : Prop :=
  (∃ type ∈ surfaceTypeOf dst.format, ImagesChecked dst src type) ∧ ctx.setsDestination dst outcomes = true ∧
    surfaceTypeOf src.format ≠ none ∧ ctx.setsSource src outcomes = true ∧
    (dst.needsTemp = true → ∀ handle ∈ dst.handle,
      copyImage (ctx.tempFor ctx.tempDstBuffer dst outcomes.allocDst).buffer handle.buffer dst.format = true)

end CopybitContext

open CopybitContext

variable {dst src : CopybitImage} {dstRect srcRect : CopybitRect}
  {region : List (CopybitRect × FinishOutcome)} {outcomes : StretchOutcomes} {enableBlend : Bool}
  {ctx next : CopybitContext}

/-! ### A stretch -/

theorem copyImage_tempFor {first second : CopybitContext} (htemp : first.tempDstBuffer = second.tempDstBuffer)
    (alloc : Option (BitVec 32)) (handle : PrivateHandle) :
    copyImage (first.tempFor first.tempDstBuffer dst alloc).buffer handle.buffer dst.format =
      copyImage (second.tempFor second.tempDstBuffer dst alloc).buffer handle.buffer dst.format := by
  rw [htemp]
  rcases tempFor_cases first second second.tempDstBuffer dst alloc with hsame | ⟨size, allocType, hfirst, hsecond⟩
  · rw [hsame]
  · rw [hfirst, hsecond]
    rfl

theorem ends_blitRegion_keeps (region : List (CopybitRect × FinishOutcome)) :
    ∀ (ctx : CopybitContext) (object : C2dObject),
      Ends (blitRegion object dstRect srcRect region) (fun _ next => ctx.Keeps next)
        (LeavesWith fun _ => False) ctx := by
  induction region with
  | nil => exact fun ctx _ => Keeps.refl ctx
  | cons entry region ih =>
    obtain ⟨clip, outcome⟩ := entry
    intro ctx object
    unfold blitRegion
    simp only [ends_bind, ends_get, ends_modify]
    have hfinished : ctx.Keeps (if ctx.blitList.length = maxBlitObjectCount
        then (ctx.finishCopybitInternal outcome).2 else ctx) := by
      split
      · exact ctx.keeps_finish outcome
      · exact Keeps.refl ctx
    generalize (if ctx.blitList.length = maxBlitObjectCount
      then (ctx.finishCopybitInternal outcome).2 else ctx) = finished at *
    rw [ends_ite]
    refine ⟨fun _ => trivial, fun _ => (ih _ _).imp (fun _ last hlast => ?_) fun _ _ hleaves => hleaves⟩
    have hadded : ctx.Keeps { finished with
        blitList := finished.blitList ++ [ctx.blitObjectFor object dstRect srcRect clip] } :=
      hfinished.trans ⟨rfl, rfl⟩
    exact hadded.trans hlast

theorem ends_blitAndDraw_keeps {needTempSrc : Bool} {dstImage : CopybitImage} {object : C2dObject}
    {mapped : List MappedIdx} {temp : TempBuffer} (himage : dst.needsTemp = true → dstImage = temp.imageOf dst) :
    Ends (blitAndDraw dst dstRect srcRect region outcomes needTempSrc dstImage object mapped)
      (fun _ next => next.surfaceIds = ctx.surfaceIds ∧ next.settings = ctx.settings.cleared)
      (LeavesWith fun next => ctx.Keeps next ∧ dst.needsTemp = true ∧
        ∀ handle ∈ dst.handle, copyImage temp.buffer handle.buffer dst.format = false) ctx := by
  have hreset : ∀ {drawn : CopybitContext}, ctx.Keeps drawn → drawn.resetSettings.surfaceIds = ctx.surfaceIds ∧
      drawn.resetSettings.settings = ctx.settings.cleared :=
    fun hdrawn => ⟨hdrawn.surfaceIds, congrArg Settings.cleared hdrawn.settings⟩
  unfold blitAndDraw
  rw [ends_bind]
  apply (ends_blitRegion_keeps region ctx object).imp
  case hexit =>
    intro reason next hleaves
    cases reason with
    | returned => exact hleaves.elim
    | nullHandle | outOfBounds => trivial
  intro _ next hnext
  unfold drawAtOnce
  rw [ends_bind, ends_modify]
  have hdrawn : ctx.Keeps (if (dst.needsTemp || needTempSrc || next.dstSurfaceType != .rgb) = true
      then (next.finishCopybitInternal outcomes.last).2 else next) := by
    split
    · exact hnext.trans (next.keeps_finish outcomes.last)
    · exact hnext
  generalize (if (dst.needsTemp || needTempSrc || next.dstSurfaceType != .rgb) = true
    then (next.finishCopybitInternal outcomes.last).2 else next) = drawn at *
  rw [ends_bind]
  cases hneeds : dst.needsTemp with
  | false => exact hreset hdrawn
  | true =>
    rw [himage hneeds]
    simp only [if_true]
    apply ends_copyBack hneeds
    · exact fun _ => hreset (hdrawn.trans ⟨rfl, rfl⟩)
    · exact fun hfails => ⟨hdrawn.trans (foldl_unmapGpuaddr_remaps mapped drawn).keeps, trivial, hfails⟩

theorem ends_stretch_keeps (hblend : enableBlend = true → ctx.srcGlobalAlpha ≠ 0) :
    Ends (stretchCopybitInternal dst src dstRect srcRect region enableBlend outcomes)
      (fun _ next => next.surfaceIds = ctx.surfaceIds ∧ next.settings = ctx.settings.cleared)
      (LeavesWith fun next => ctx.Keeps next ∧ ¬ ctx.Completes dst src outcomes) ctx := by
  have hdst : ∀ type, ctx.Keeps ((ctx.earlyFinished type outcomes.early).destinationSet type dst outcomes).2 :=
    fun type => (ctx.keeps_earlyFinished type outcomes.early).trans (keeps_destinationSet _ type dst outcomes)
  apply ends_stretch (fun _ => trivial) hblend
  case hchecks => exact fun _ _ hfails => ⟨Keeps.refl ctx, fun ⟨⟨type, _, hchecked⟩, _⟩ => hfails type hchecked⟩
  case hallocDst =>
    intro type _ hneeds hready
    obtain ⟨temp, allocated, heq⟩ :=
      withTempDst_eq (ctx.earlyFinished type outcomes.early) dst outcomes.allocDst
    rw [heq]
    refine ⟨(ctx.keeps_earlyFinished type outcomes.early).trans ⟨rfl, rfl⟩, fun hcompletes => ?_⟩
    have hsets := hcompletes.2.1
    simp [setsDestination, hneeds, hready] at hsets
  case hfailDst =>
    intro type _ _ _ hset
    refine ⟨(hdst type).trans (unmapGpuaddr_remaps _ _).keeps, fun hcompletes => ?_⟩
    have hsets := hcompletes.2.1
    simp [setsDestination, hset] at hsets
  case hformat =>
    exact fun type _ _ hnone =>
      ⟨(hdst type).trans (unmapGpuaddr_remaps _ _).keeps, fun hcompletes => hcompletes.2.2.1 hnone⟩
  case hfull => exact fun _ _ _ _ _ _ => trivial
  case hcopy =>
    intro type _ _ _ _ _ _ hneeds hcopies set temp allocated contents _
    have hcopied : ctx.Keeps
        { set.2 with tempSrcBuffer := temp, allocated := allocated, contents := contents } :=
      (hdst type).trans ⟨rfl, rfl⟩
    refine ⟨hcopied.trans (unmapGpuaddr_remaps _ _).keeps, fun hcompletes => ?_⟩
    have hsets := hcompletes.2.2.2.1
    simp [setsSource, hneeds, hcopies] at hsets
  case hfailSrc =>
    intro type _ _ _ _ _ _ _ hset dstSet template set
    refine ⟨(((hdst type).trans (keeps_sourceSet dstSet.2 template.surfaceId src outcomes)).trans
      (unmapGpuaddr_remaps _ _).keeps).trans (unmapGpuaddr_remaps _ _).keeps, fun hcompletes => ?_⟩
    have hsets := hcompletes.2.2.2.1
    simp [setsSource, hset] at hsets
  case hbody =>
    intro type hchecked hsetsDst srcType hsrcType _ hsetsSrc dstSet template set settings _
    have hkept : dstSet.2.Keeps set.2 := keeps_sourceSet dstSet.2 template.surfaceId src outcomes
    have hcount : set.2.blitCount = dstSet.2.blitCount := by
      obtain ⟨temp, allocated, contents, c2d, table, heq⟩ := sourceSet_eq dstSet.2 template.surfaceId src outcomes
      show (dstSet.2.sourceSet template.surfaceId src outcomes).2.blitCount = _
      rw [heq]
    have hbody : ctx.Keeps (set.2.withTemplate srcType { template with settings := settings }) := by
      refine ((hdst type).trans hkept).trans (keeps_withTemplate ?_)
      show template.surfaceId = set.2.surfaceIds srcType (set.2.blitCount srcType)
      rw [hkept.surfaceIds, hcount]
      rfl
    apply (ends_blitAndDraw_keeps (destinationImage_of_needsTemp _ outcomes.allocDst)).imp
    · exact fun _ next ⟨hids, hcleared⟩ => ⟨hids.trans hbody.surfaceIds, hcleared.trans (congrArg _ hbody.settings)⟩
    · intro reason next hleaves
      cases reason with
      | nullHandle | outOfBounds => trivial
      | returned status =>
        obtain ⟨hnext, hneeds, hfails⟩ := hleaves
        refine ⟨hbody.trans hnext, fun hcompletes => ?_⟩
        cases hhandle : dst.handle with
        | none => simp [CopybitImage.needsTemp, hhandle] at hneeds
        | some handle =>
          have hcopies := hcompletes.2.2.2.2 hneeds handle hhandle
          have hfails := hfails handle hhandle
          rw [copyImage_tempFor (earlyFinished_keeps ctx type outcomes.early).1, hcopies] at hfails
          cases hfails

/-! ### Calls -/

/-- The settings behind a parameter depend on those in front of it. -/
theorem settings_setParameter {first second : CopybitContext} (hsame : first.settings = second.settings)
    (name value : BitVec 32) (outcome outcome' : FinishOutcome) :
    (first.setParameter name value outcome).2.settings = (second.setParameter name value outcome').2.settings := by
  obtain ⟨hcapabilities, hmask, halpha, hwidth, hheight⟩ := Settings.mk.inj hsame
  have hfinish : ∀ (ctx : CopybitContext) (outcome : FinishOutcome) (transform : BitVec 32),
      settings { (ctx.finishCopybitInternal outcome).2 with trgTransform := transform } = ctx.settings :=
    fun ctx outcome _ => (ctx.keeps_finish outcome).settings
  unfold setParameter overridesTargetRotate
  rw [hcapabilities]
  split_ifs <;> simp only [hfinish] <;> simp only [settings, hcapabilities, hmask, halpha, hwidth, hheight]

theorem setParameter_keeps (ctx : CopybitContext) (name value : BitVec 32) (outcome : FinishOutcome) :
    (ctx.setParameter name value outcome).2.surfaceIds = ctx.surfaceIds ∧
      (ctx.setParameter name value outcome).2.capabilitiesMask = ctx.capabilitiesMask := by
  unfold setParameter
  split
  · exact ⟨rfl, rfl⟩
  split
  · split
    · exact ⟨rfl, rfl⟩
    · split <;> exact ⟨rfl, rfl⟩
  split
  · dsimp only
    split
    · exact ⟨rfl, rfl⟩
    · exact ⟨(keeps_finish _ outcome).surfaceIds, congrArg Settings.capabilitiesMask (keeps_finish _ outcome).settings⟩
  split
  · exact ⟨rfl, rfl⟩
  split
  · exact ⟨rfl, rfl⟩
  split <;> exact ⟨rfl, rfl⟩

/-- What a stretch does to the settings is said by how it ends. -/
theorem statusOf_keeps {status : Int} (hblend : enableBlend = true → ctx.srcGlobalAlpha ≠ 0)
    (hcall : statusOf (stretchCopybitInternal dst src dstRect srcRect region enableBlend outcomes ctx) =
      .ok (status, next)) :
    next.surfaceIds = ctx.surfaceIds ∧
      (next.settings = ctx.settings.cleared ∨ next.settings = ctx.settings ∧ ¬ ctx.Completes dst src outcomes) := by
  refine @statusOf_of_ends ctx (fun next => next.surfaceIds = ctx.surfaceIds ∧ (next.settings = ctx.settings.cleared ∨
    next.settings = ctx.settings ∧ ¬ ctx.Completes dst src outcomes)) _ status next
    ((ends_stretch_keeps hblend).imp ?_ ?_) hcall
  · exact fun _ next ⟨hids, hcleared⟩ => ⟨hids, .inl hcleared⟩
  · intro reason next hleaves
    cases reason with
    | nullHandle | outOfBounds => trivial
    | returned => exact ⟨hleaves.1.surfaceIds, .inr ⟨hleaves.1.settings, hleaves.2⟩⟩

theorem copybitStep_keeps {action : CopybitAction} (hstep : copybitStep ctx action = some next) :
    next.surfaceIds = ctx.surfaceIds ∧
      match action with
      | .call (.setParameter name value outcome) =>
        next.settings = (ctx.setParameter name value outcome).2.settings
      | .call (.stretch dst src _ _ _ outcomes) | .call (.blit dst src _ outcomes) =>
        next.settings = ctx.settings.cleared ∨ next.settings = ctx.settings ∧ ¬ ctx.Completes dst src outcomes
      | _ => next.settings = ctx.settings := by
  rcases copybitStep_cases hstep with ⟨rfl, -, rfl⟩ | ⟨call, status, rfl, -, hcall⟩
  · exact ⟨rfl, rfl⟩
  cases call with
  | setParameter name value outcome =>
    obtain rfl := congrArg Prod.snd (Except.ok.inj hcall)
    exact ⟨(setParameter_keeps ctx name value outcome).1, rfl⟩
  | stretch dst src dstRect srcRect region outcomes =>
    exact statusOf_keeps (fun hblend => bne_iff_ne.mp hblend) hcall
  | blit dst src region outcomes =>
    exact @statusOf_keeps dst src (wholeRect dst) (wholeRect src) region outcomes false ctx next status nofun hcall
  | finish outcome =>
    obtain rfl := congrArg Prod.snd (Except.ok.inj hcall)
    have hkept := ctx.keeps_finish outcome
    exact ⟨hkept.surfaceIds, hkept.settings⟩
  | flushGetFence draw flush fence =>
    obtain rfl := congrArg Prod.snd (Except.ok.inj hcall)
    obtain ⟨c2d, hdrawn⟩ := ctx.msmCopybit_eq draw
    unfold CopybitContext.flushGetFence
    dsimp only
    rw [hdrawn]
    split_ifs <;> exact ⟨rfl, rfl⟩
  | clear buf rect outcome fill =>
    obtain rfl := congrArg Prod.snd (Except.ok.inj hcall)
    have hset := (ctx.setImage_remaps (.target .rgb) buf ⟨true, false⟩ outcome).keeps
    unfold CopybitContext.clearCopybit
    dsimp only
    split
    · have hunmapped := unmapGpuaddr_remaps (ctx.setImage (.target .rgb) buf ⟨true, false⟩ outcome).2
        (ctx.setImage (.target .rgb) buf ⟨true, false⟩ outcome).1.2
      have hkept := hset.trans hunmapped.keeps
      exact ⟨hkept.surfaceIds, hkept.settings⟩
    · split <;> exact ⟨hset.surfaceIds, hset.settings⟩

/-! ### Runs -/

/-- The device, and the parameters that were set since a stretch returned. -/
structure SettingsRun where
  ctx : CopybitContext
  since : List (BitVec 32 × BitVec 32 × FinishOutcome)

def CopybitContext.withParameters (ctx : CopybitContext) (parameters : List (BitVec 32 × BitVec 32 × FinishOutcome)) :
    CopybitContext :=
  parameters.foldl (fun ctx parameter => (ctx.setParameter parameter.1 parameter.2.1 parameter.2.2).2) ctx

namespace SettingsRun

def step (run : SettingsRun) (action : CopybitAction) : Option SettingsRun :=
  (copybitStep run.ctx action).map fun ctx =>
    ⟨ctx, match action with
      | .call (.setParameter name value outcome) => run.since ++ [(name, value, outcome)]
      | .call (.stretch ..) | .call (.blit ..) => []
      | _ => run.since⟩

/-- A stretch uses what the parameters since the last one make of a device that was just opened. -/
def Independent (capabilitiesMask : BitVec 32) (run : SettingsRun) : CopybitAction → Prop
  | .call (.stretch ..) | .call (.blit ..) =>
    run.ctx.settings = ((opened capabilitiesMask).withParameters run.since).settings
  | _ => True

/-- A stretch that returns an error has nothing to leave. -/
def LeavesNone (run : SettingsRun) : CopybitAction → Prop
  | .call (.stretch dst src _ _ _ outcomes) | .call (.blit dst src _ outcomes) =>
    run.ctx.settings = run.ctx.settings.cleared ∨ run.ctx.Completes dst src outcomes
  | _ => True

instance instDecidableLeavesNone (run : SettingsRun) (action : CopybitAction) : Decidable (run.LeavesNone action) := by
  unfold LeavesNone Completes
  cases action with
  | call action => cases action <;> (dsimp only; infer_instance)
  | _ => dsimp only; infer_instance

instance instDecidableIndependent (capabilitiesMask : BitVec 32) (run : SettingsRun) (action : CopybitAction) :
    Decidable (run.Independent capabilitiesMask action) := by
  unfold Independent
  cases action with
  | call action => cases action <;> (dsimp only; infer_instance)
  | _ => dsimp only; infer_instance

variable {capabilitiesMask : BitVec 32} {run next : SettingsRun} {action : CopybitAction}

structure Tracked (capabilitiesMask : BitVec 32) (run : SettingsRun) : Prop where
  settings : run.ctx.settings = ((opened capabilitiesMask).withParameters run.since).settings
  capabilities : run.ctx.capabilitiesMask = capabilitiesMask

theorem Tracked.step (htracked : run.Tracked capabilitiesMask) (hleaves : run.LeavesNone action)
    (hstep : run.step action = some next) : next.Tracked capabilitiesMask := by
  obtain ⟨ctx, hctx, rfl⟩ := Option.map_eq_some_iff.mp hstep
  obtain ⟨-, hsettings⟩ := copybitStep_keeps hctx
  have hcleared : run.ctx.settings.cleared = (opened capabilitiesMask).settings :=
    congrArg (fun mask => (⟨mask, 0, false, 0, 0⟩ : Settings)) htracked.capabilities
  have hkept : ctx.settings = run.ctx.settings → ctx.settings.capabilitiesMask = capabilitiesMask :=
    fun hsame => (congrArg Settings.capabilitiesMask hsame).trans htracked.capabilities
  have hended : ctx.settings = run.ctx.settings.cleared → Tracked capabilitiesMask ⟨ctx, []⟩ :=
    fun hsame => ⟨hsame.trans hcleared, congrArg Settings.capabilitiesMask (hsame.trans hcleared)⟩
  cases action with
  | waitLoop => exact ⟨hsettings.trans htracked.settings, hkept hsettings⟩
  | call call =>
    cases call with
    | setParameter name value outcome =>
      refine ⟨?_, ?_⟩
      · unfold withParameters
        rw [List.foldl_append]
        exact hsettings.trans (settings_setParameter htracked.settings name value outcome outcome)
      · refine (congrArg Settings.capabilitiesMask hsettings).trans ?_
        exact (setParameter_keeps run.ctx name value outcome).2.trans htracked.capabilities
    | stretch | blit =>
      refine hended (hsettings.elim id fun hleft => ?_)
      exact hleft.1.trans (hleaves.resolve_right hleft.2)
    | finish | flushGetFence | clear => exact ⟨hsettings.trans htracked.settings, hkept hsettings⟩

/-- In every run whose failing stretches are begun with the settings cleared, no stretch uses what was set for
another one. -/
theorem independent_of_leavesNone (capabilitiesMask : BitVec 32) (actions : List CopybitAction)
    (hleaves : RunMeets step LeavesNone ⟨opened capabilitiesMask, []⟩ actions) :
    RunMeets step (Independent capabilitiesMask) ⟨opened capabilitiesMask, []⟩ actions := by
  refine RunMeets.imp_of_meets (Tracked capabilitiesMask)
    (fun run action next hleaves htracked hstep => htracked.step hleaves hstep) ?_ _ ⟨rfl, rfl⟩ hleaves
  intro run action htracked _
  unfold Independent
  split
  · exact htracked.settings
  · exact htracked.settings
  · trivial

def setFbWidth : CopybitAction := .call (.setParameter 7 100 ⟨true, true⟩)

theorem setFbWidth_independent :
    RunMeets step (Independent 0) ⟨opened 0, []⟩
      [setFbWidth, .call (planesStretch true), .call (planesStretch true)] :=
  independent_of_leavesNone 0 _ (by decide +kernel)

def tooWideStretch : CopybitAction :=
  .call (.stretch (rgbImage 0x100) { yv12Image 0x200 with w := 5000 } (wholeRect (rgbImage 0))
    (wholeRect (yv12Image 0)) [] (earlyOutcomes true))

theorem tooWideStretch_not_independent :
    ¬ ∀ capabilitiesMask actions,
      RunMeets step (Independent capabilitiesMask) ⟨opened capabilitiesMask, []⟩ actions := by
  intro hall
  exact absurd (hall 0 [setFbWidth, tooWideStretch, .call (planesStretch true)]) (by decide +kernel)

end SettingsRun

end Nozomi.Copybit
