import Nozomi.Display.MDPComp.Fallback
import Nozomi.Display.MDPComp.Rotation
import Nozomi.Display.Composer.Code

/-!
# Every layer on the screen once

Three engines take the layers of a list: the pipes, copybit and the renderer of the framebuffer. This
module follows a frame of the primary display from `hwc_prepare` to `hwc_set`: who takes which layer,
which buffer `FBUpdate` shows, and which layers are in it.
-/

namespace Nozomi

/-! ### The frame that is programmed -/

namespace FrameInfo

variable {numPipes : Nat} {frame : FrameInfo numPipes}

def SameFlags (frame other : FrameInfo numPipes) : Prop :=
  other = { frame with mdpToLayer := other.mdpToLayer, mdpBasePipe := other.mdpBasePipe }

theorem SameFlags.trans {first second third : FrameInfo numPipes} (hfirst : first.SameFlags second)
    (hsecond : second.SameFlags third) : first.SameFlags third := by
  rw [SameFlags] at *
  rw [hsecond, hfirst]

theorem SameLayers.sameFlags {other : FrameInfo numPipes} (hsame : frame.SameLayers other) :
    frame.SameFlags other := by
  rw [SameLayers] at hsame
  rw [SameFlags, hsame]

end FrameInfo

namespace Context

variable {numPipes : Nat} {dpy : Display} {list : DisplayContents}

theorem allocLayerPipes_sameFlags (ctx : Context numPipes) (frame : FrameInfo numPipes) :
    frame.SameFlags (allocLayerPipes dpy list ctx frame).2.1 := by
  have hloops : ∀ (ctx : Context numPipes) (based : FrameInfo numPipes), frame.SameFlags based →
      frame.SameFlags (
        let videos := allocPipes dpy (fun _ => .vg) (yuvLayers list based) ctx based
        if !videos.2.2 then (videos.1, videos.2.1, false)
        else
          allocPipes dpy (fun i => videos.1.uiPipeType (list.hwLayer i)) (uiLayers list videos.2.1) videos.1
            videos.2.1).2.1 := by
    intro ctx based hbased
    have hvideos := (@allocPipes_sameLayers _ dpy (fun _ => .vg) (yuvLayers list based) ctx based).sameFlags
    dsimp only
    split
    · exact hbased.trans hvideos
    · exact (hbased.trans hvideos).trans (allocPipes_sameLayers _ _ _).sameFlags
  rw [allocLayerPipes]
  by_cases hneeded : ctx.baseNeeded dpy list frame = true
  · rw [if_pos hneeded]
    generalize ctx.getMdpPipe dpy .any = found
    obtain ⟨next, index⟩ := found
    cases index with
    | none => rfl
    | some basePipe => exact hloops next { frame with mdpBasePipe := some basePipe } rfl
  · rw [if_neg hneeded]
    exact hloops ctx frame rfl

theorem programLayers_sameLayers (list : DisplayContents) {layers : List Nat} :
    ∀ (z : Int) (fbBatch : Bool) (ctx : Context numPipes) (frame : FrameInfo numPipes),
      frame.SameLayers (programLayers list layers z fbBatch ctx frame).2.1 := by
  induction layers with
  | nil => exact fun _ _ _ frame => .refl frame
  | cons i layers ih =>
    intro z fbBatch ctx frame
    rw [programLayers]
    split
    · split
      · dsimp only
        split
        · exact (FrameInfo.sameLayers_setPipeInfo i _).trans (ih _ _ _ _)
        · exact FrameInfo.sameLayers_setPipeInfo i _
      · exact .refl frame
    · split
      · exact ih _ _ _ _
      · exact ih _ _ _ _

theorem programMDP_sameFlags (ctx : Context numPipes) (frame : FrameInfo numPipes) :
    frame.SameFlags (programMDP dpy list ctx frame).2.1 := by
  have halloc := @allocLayerPipes_sameFlags _ dpy list { ctx with mDMAInUse := false } frame
  rw [programMDP]
  rcases hallocated : allocLayerPipes dpy list { ctx with mDMAInUse := false } frame with
    ⟨next, allocated, found⟩
  rw [hallocated] at halloc
  dsimp only
  split
  · exact halloc
  split
  · split
    · exact halloc.trans (programLayers_sameLayers list _ _ _ _).sameFlags
    · exact halloc
  · exact halloc.trans (programLayers_sameLayers list _ _ _ _).sameFlags

def servesFramebuffer (ctx : Context numPipes) (dpy : Display) : Bool :=
  ctx.target.hasOverlay && (ctx.overlay.findPipe .any dpy).isSome && ctx.driver.headD true

end Context

namespace FBUpdate

variable {numPipes : Nat} {ctx : Context numPipes} {dpy : Display}

theorem prepare_mModeOn {fbUpdate : FBUpdate numPipes} (z : Int)
    (hoff : ctx.target.hasOverlay = false → fbUpdate.mModeOn = false) :
    (fbUpdate.prepare ctx dpy z).2.1.mModeOn = ctx.servesFramebuffer dpy ∧
      (fbUpdate.prepare ctx dpy z).2.2 = ctx.servesFramebuffer dpy := by
  rw [prepare, Context.servesFramebuffer]
  cases hoverlay : ctx.target.hasOverlay with
  | false => exact ⟨hoff hoverlay, rfl⟩
  | true =>
    obtain ⟨dest, hfind, hnext⟩ | ⟨hfind, hnext⟩ := ctx.overlay.nextPipe_cases .any dpy
    · simp [Context.nextPipe, hnext, hfind, Context.configMdp]
    · simp [Context.nextPipe, hnext, hfind]

end FBUpdate

namespace MDPComp

variable {numPipes : Nat} {ctx : Context numPipes} {dpy : Display} {list : DisplayContents}

variable {fbUpdate fbUpdate' : FBUpdate numPipes} {ctx' : Context numPipes}

theorem programFrame_kept {frame frame' : FrameInfo numPipes} (hcomposed : ctx.Composed dpy list frame)
    (hprogram : programFrame list ctx dpy fbUpdate frame = (ctx', fbUpdate', frame', true)) :
    frame.map.SameFlags frame' ∧ (frame.fbCount ≠ 0 → fbUpdate'.mModeOn = true) ∧
      (frame.fbCount = 0 → fbUpdate' = fbUpdate) := by
  have hmap : frame.map.fbZ = frame.fbZ := rfl
  rw [programFrame] at hprogram
  simp only [hmap] at hprogram
  generalize hstart : (if 0 ≤ frame.fbZ then fbUpdate.prepare ctx dpy frame.fbZ
    else (ctx, fbUpdate, true)) = started at hprogram
  obtain ⟨next, fbUpdate₁, prepared⟩ := started
  cases prepared with
  | false => simp at hprogram
  | true =>
    have hsame := @Context.programMDP_sameFlags _ dpy list next frame.map
    simp only [Bool.not_true, Bool.false_eq_true, if_false, Prod.mk.injEq] at hprogram
    obtain ⟨-, rfl, rfl, -⟩ := hprogram
    refine ⟨hsame, ?_⟩
    rcases hcomposed.block with ⟨hzero, hfbZ⟩ | ⟨start, hpos, hfbZ, -⟩
    · rw [if_neg (by omega), Prod.mk.injEq, Prod.mk.injEq] at hstart
      exact ⟨fun hne => absurd hzero hne, fun _ => hstart.2.1.symm⟩
    rw [if_pos (by split at hfbZ <;> omega)] at hstart
    refine ⟨fun _ => ?_, fun hzero => absurd hzero hpos⟩
    cases hoverlay : ctx.target.hasOverlay with
    | false => simp [FBUpdate.prepare, hoverlay] at hstart
    | true =>
      obtain ⟨hmode, hret⟩ :=
        @FBUpdate.prepare_mModeOn _ ctx dpy fbUpdate frame.fbZ (by simp [hoverlay])
      rw [hstart] at hmode hret
      rw [hmode, ← hret]

theorem prepare_accepted {mdpComp mdpComp' : MDPComp numPipes}
    (hprepare : mdpComp.prepare list ctx dpy fbUpdate = (ctx', fbUpdate', mdpComp', true)) :
    mdpComp'.mCurrentFrame.layerCount = list.numAppLayers ∧
      mdpComp'.mCurrentFrame.mdpCount + mdpComp'.mCurrentFrame.fbCount = list.numAppLayers ∧
      mdpComp'.mCurrentFrame.Counted ∧
      (mdpComp'.mCurrentFrame.fbCount ≠ 0 → fbUpdate'.mModeOn = true) ∧
      (mdpComp'.mCurrentFrame.fbCount = 0 → fbUpdate' = fbUpdate) := by
  obtain heq | ⟨full, frame, hcomposed, -, -, heq⟩ := prepare_cases mdpComp list ctx dpy fbUpdate
  · rw [hprepare] at heq
    simp at heq
  rw [hprepare, composeFrame] at heq
  generalize hprogram : programFrame list ctx dpy fbUpdate frame = programmed at heq
  obtain ⟨next, fbUpdate₁, frame', done⟩ := programmed
  cases done with
  | false => simp at heq
  | true =>
    obtain ⟨hsame, hon, hoff⟩ := programFrame_kept hcomposed hprogram
    simp only [Bool.not_true, Bool.false_eq_true, if_false, Prod.mk.injEq] at heq
    obtain ⟨-, rfl, rfl, -⟩ := heq
    have hkept : ∀ kept : FrameInfo numPipes,
        (∃ redraw, kept = { frame' with needsRedraw := redraw }) →
        kept.layerCount = list.numAppLayers ∧ kept.mdpCount + kept.fbCount = list.numAppLayers ∧
          kept.Counted ∧ (kept.fbCount ≠ 0 → fbUpdate'.mModeOn = true) ∧
          (kept.fbCount = 0 → fbUpdate' = fbUpdate) := by
      rintro _ ⟨redraw, rfl⟩
      rw [hsame]
      refine ⟨hcomposed.layerCount, ?_, hcomposed.counted, hon, hoff⟩
      exact hcomposed.counts.trans (congrArg _ hcomposed.layerCount)
    cases full with
    | false => exact hkept frame' ⟨frame'.needsRedraw, rfl⟩
    | true => exact hkept _ ⟨_, rfl⟩

theorem prepare_rejected {mdpComp mdpComp' : MDPComp numPipes}
    (hprepare : mdpComp.prepare list ctx dpy fbUpdate = (ctx', fbUpdate', mdpComp', false)) :
    mdpComp' = mdpComp.reset list := by
  obtain heq | ⟨full, frame, -, -, -, heq⟩ := prepare_cases mdpComp list ctx dpy fbUpdate
  · rw [hprepare] at heq
    simp at heq
    exact heq.2.2
  rw [hprepare, composeFrame] at heq
  generalize programFrame list ctx dpy fbUpdate frame = programmed at heq
  obtain ⟨next, fbUpdate₁, frame', done⟩ := programmed
  cases done with
  | false =>
    simp at heq
    exact heq.2.2
  | true => simp at heq

end MDPComp

/-! ### Drawing -/

namespace Source

def shows (inBuffer : Nat → Bool) (i : Nat) : Source → Bool
  | .base => false
  | .layer j => decide (i = j)
  | .buffer _ => inBuffer i

end Source

namespace FrameInfo

variable {numPipes : Nat} {frame : FrameInfo numPipes} {overlay : Overlay numPipes}
  {answers : DrawAnswers numPipes} {list : DisplayContents}

def layerBuffers (frame : FrameInfo numPipes) (layers : List Nat) : List (Fin numPipes × Source) :=
  (layers.filter fun i => !frame.isFBComposed i).filterMap fun i =>
    (frame.layerPipe i).map fun dest => (dest, .layer i)

theorem queueBuffer_eq_true {dest : Fin numPipes} (source : Source)
    (hqueued : overlay.queueBuffer answers dest = some true) :
    overlay.queuedBy dest source = [(dest, source)] := by
  rw [Overlay.queueBuffer] at hqueued
  split at hqueued
  · simp at hqueued
  next hvalid =>
    simp only [Option.some.injEq, Bool.and_eq_true, decide_eq_true_eq] at hqueued
    rw [Overlay.queuedBy, if_pos ⟨by simpa using hvalid, hqueued.1⟩]

theorem drawLayers_queued {layers : List Nat} (hnodup : layers.Nodup) :
    ∀ {drawing : Drawing numPipes},
      (frame.drawLayers overlay answers list layers drawing).ret = some true →
      (∀ i ∈ layers, frame.isFBComposed i = false → drawing.mdpCompFlag i = true) →
      (frame.drawLayers overlay answers list layers drawing).queued =
          drawing.queued ++ frame.layerBuffers layers ∧
        ∀ i ∈ layers, frame.isFBComposed i = false → (frame.layerPipe i).isSome = true := by
  induction layers with
  | nil =>
    intro drawing _ _
    simp [drawLayers, layerBuffers]
  | cons i layers ih =>
    intro drawing hret hmarked
    obtain ⟨hnew, hnodup⟩ := List.nodup_cons.mp hnodup
    rw [drawLayers] at hret ⊢
    by_cases hfb : frame.isFBComposed i = true
    · rw [if_pos hfb] at hret ⊢
      obtain ⟨hqueued, hpipes⟩ := ih hnodup hret fun j hj => hmarked j (List.mem_cons_of_mem i hj)
      refine ⟨by simpa [layerBuffers, hfb] using hqueued, fun j hj hmdp => ?_⟩
      rcases List.mem_cons.mp hj with rfl | hj
      · simp [hfb] at hmdp
      · exact hpipes j hj hmdp
    rw [Bool.not_eq_true] at hfb
    have hflag := hmarked i List.mem_cons_self hfb
    rw [if_neg (by simp [hfb])] at hret ⊢
    dsimp only at hret ⊢
    cases hlayer : list.hwLayer? i with
    | none => simp [hlayer] at hret
    | some layer =>
      simp only [hlayer] at hret ⊢
      by_cases hnone : layer.handle.isNone = true
      · simp [hnone] at hret
      rw [if_neg hnone] at hret ⊢
      rcases hinfo : frame.pipeInfo i with _ | ⟨zOrder, _ | dest⟩
      · simp [hinfo] at hret
      · simp [hinfo] at hret
      simp only [hinfo, hflag, Bool.not_true, Bool.false_eq_true, if_false] at hret ⊢
      have hpipe : frame.layerPipe i = some dest := by
        rw [← layerPipe_of_pipeInfo hinfo]
      cases hrotates : answers.rotates i with
      | false => simp [hrotates] at hret
      | true =>
        simp only [hrotates, Bool.not_true, Bool.false_eq_true, if_false] at hret ⊢
        rcases hqueue : overlay.queueBuffer answers dest with _ | _ | _
        · simp [hqueue] at hret
        · simp [hqueue] at hret
        simp only [hqueue] at hret ⊢
        obtain ⟨hqueued, hpipes⟩ := ih hnodup hret fun j hj hmdp => by
          have hne : j ≠ i := by
            rintro rfl
            exact hnew hj
          show Function.update drawing.mdpCompFlag i false j = true
          rw [Function.update_of_ne hne]
          exact hmarked j (List.mem_cons_of_mem i hj) hmdp
        refine ⟨?_, fun j hj hmdp => ?_⟩
        · rw [hqueued, queueBuffer_eq_true _ hqueue]
          simp [layerBuffers, hfb, hpipe]
        · rcases List.mem_cons.mp hj with rfl | hj
          · rw [hpipe, Option.isSome_some]
          · exact hpipes j hj hmdp

theorem draw_queued {sEnabled : Bool} {numAppLayers : Nat} {mdpCompFlag : Nat → Bool}
    (hret : (frame.draw sEnabled overlay answers list numAppLayers mdpCompFlag).ret = some true)
    (hlayers : numAppLayers ≠ 0)
    (hoff : sEnabled = false → frame.mdpBasePipe = none ∧
      ∀ i < numAppLayers, frame.isFBComposed i = true)
    (hcount : frame.mdpCount = 0 → ∀ i < numAppLayers, frame.isFBComposed i = true)
    (hmarked : ∀ i < numAppLayers, frame.isFBComposed i = false → mdpCompFlag i = true) :
    (frame.draw sEnabled overlay answers list numAppLayers mdpCompFlag).queued =
        frame.mdpBasePipe.toList.map (·, .base) ++ frame.layerBuffers (List.range numAppLayers) ∧
      ∀ i < numAppLayers, frame.isFBComposed i = false → (frame.layerPipe i).isSome = true := by
  have hnoBuffers : (∀ i < numAppLayers, frame.isFBComposed i = true) →
      frame.layerBuffers (List.range numAppLayers) = [] := by
    intro hfb
    rw [layerBuffers, List.filter_eq_nil_iff.mpr, List.filterMap_nil]
    intro i hi
    simp [hfb i (List.mem_range.mp hi)]
  -- The loop, with what has been queued before.
  have hloop : ∀ start : Drawing numPipes, start.mdpCompFlag = mdpCompFlag →
      (frame.drawLayers overlay answers list
        (if frame.mdpCount ≠ 0 then List.range numAppLayers else []) start).ret = some true →
      (frame.drawLayers overlay answers list
        (if frame.mdpCount ≠ 0 then List.range numAppLayers else []) start).queued =
          start.queued ++ frame.layerBuffers (List.range numAppLayers) ∧
        ∀ i < numAppLayers, frame.isFBComposed i = false → (frame.layerPipe i).isSome = true := by
    intro start hstart hdone
    by_cases hzero : frame.mdpCount = 0
    · rw [hnoBuffers (hcount hzero)]
      refine ⟨by simp [hzero, drawLayers], fun i hi hmdp => ?_⟩
      rw [hcount hzero i hi] at hmdp
      exact Bool.noConfusion hmdp
    · rw [if_pos hzero] at hdone ⊢
      obtain ⟨hqueued, hpipes⟩ := drawLayers_queued List.nodup_range hdone fun i hi hmdp => by
        rw [hstart]
        exact hmarked i (List.mem_range.mp hi) hmdp
      exact ⟨hqueued, fun i hi => hpipes i (List.mem_range.mpr hi)⟩
  rw [draw] at hret ⊢
  dsimp only at hret ⊢
  cases hsEnabled : sEnabled with
  | false =>
    obtain ⟨hbase, hfb⟩ := hoff hsEnabled
    refine ⟨by simp [hbase, hnoBuffers hfb], fun i hi hmdp => ?_⟩
    rw [hfb i hi] at hmdp
    exact Bool.noConfusion hmdp
  | true =>
    simp only [hsEnabled, Bool.not_true, Bool.false_eq_true, hlayers, if_false] at hret ⊢
    cases hbase : frame.mdpBasePipe with
    | none =>
      simp only [hbase] at hret ⊢
      exact hloop _ rfl hret
    | some basePipe =>
      simp only [hbase] at hret ⊢
      rcases hqueue : overlay.queueBuffer answers basePipe with _ | _ | _
      · simp [hqueue] at hret
      · simp [hqueue] at hret
      · simp only [hqueue] at hret ⊢
        obtain ⟨hqueued, hpipes⟩ := hloop _ rfl hret
        rw [hqueued, queueBuffer_eq_true _ hqueue]
        exact ⟨rfl, hpipes⟩

theorem countP_layerBuffers {inBuffer : Nat → Bool} {bound i : Nat} (hi : i < bound)
    (hpipes : ∀ i < bound, frame.isFBComposed i = false → (frame.layerPipe i).isSome = true) :
    (frame.layerBuffers (List.range bound)).countP (fun entry => entry.2.shows inBuffer i) =
      if frame.isFBComposed i then 0 else 1 := by
  have hcount : ((List.range bound).filter fun i => !frame.isFBComposed i).count i =
      if frame.isFBComposed i then 0 else 1 := by
    by_cases hfb : frame.isFBComposed i = true
    · rw [if_pos hfb, List.count_eq_zero]
      simp [hfb]
    · rw [if_neg hfb, List.count_filter (by simpa using hfb)]
      exact List.count_eq_one_of_mem List.nodup_range (List.mem_range.mpr hi)
  rw [← hcount, layerBuffers, List.countP_filterMap, List.count]
  refine List.countP_congr fun j hj => ?_
  obtain ⟨hlt, hmdp⟩ := List.mem_filter.mp hj
  obtain ⟨dest, hdest⟩ :=
    Option.isSome_iff_exists.mp (hpipes j (List.mem_range.mp hlt) (by simpa using hmdp))
  simp only [hdest, Source.shows, Option.map_some, Option.getD_some, decide_eq_true_eq, beq_iff_eq]
  exact eq_comm

end FrameInfo

/-! ### Each pipe once -/

theorem Overlay.Stacked.nodup {numPipes : Nat} {overlay : Overlay numPipes}
    {planes : List (Option (Fin numPipes))} (hstacked : overlay.Stacked planes) : planes.Nodup := by
  rw [Stacked] at hstacked
  refine List.Nodup.of_map (·.bind overlay.zOrderOf) ?_
  rw [hstacked]
  exact List.nodup_range.map fun first second heq => by
    exact Int.ofNat_inj.mp (Option.some.inj heq)

namespace FrameInfo

variable {numPipes : Nat} {frame : FrameInfo numPipes}

theorem planes_perm (fbPipe : Option (Fin numPipes)) :
    (frame.planes fbPipe).Perm (frame.mdpBasePipe.toList.map some ++
      (((List.range frame.layerCount).filter fun i => !frame.isFBComposed i).map frame.layerPipe ++
        ((List.range frame.layerCount).filter fun i => frame.isFBComposed i && frame.isShown i).map
          fun _ => fbPipe)) := by
  rw [planes]
  refine List.Perm.append_left _ ?_
  have hsplit := (List.filter_append_perm (fun i => !frame.isFBComposed i)
    ((List.range frame.layerCount).filter frame.isShown)).symm.map
      fun i => if frame.isFBComposed i then fbPipe else frame.layerPipe i
  refine hsplit.trans (List.Perm.of_eq ?_)
  rw [List.map_append, List.filter_filter, List.filter_filter]
  congr 1
  · have hshown : (fun i => !frame.isFBComposed i && frame.isShown i) = fun i => !frame.isFBComposed i := by
      funext i
      cases hfb : frame.isFBComposed i <;> simp [isShown, hfb]
    rw [hshown]
    refine List.map_congr_left fun i hi => ?_
    have hmdp := (List.mem_filter.mp hi).2
    rw [if_neg (by simpa using hmdp)]
  · simp only [Bool.not_not]
    refine List.map_congr_left fun i hi => ?_
    have hfb := (List.mem_filter.mp hi).2
    rw [if_pos (by simp at hfb; exact hfb.1)]

theorem nodup_queued {fbPipe : Option (Fin numPipes)} (hapart : (frame.planes fbPipe).Nodup)
    (hpipes : ∀ i < frame.layerCount, frame.isFBComposed i = false → (frame.layerPipe i).isSome = true)
    {fbDest : List (Fin numPipes)}
    (hfb : fbDest = [] ∨ (∃ i < frame.layerCount, frame.isFBComposed i = true) ∧
      ∃ dest, fbPipe = some dest ∧ fbDest = [dest]) :
    (frame.mdpBasePipe.toList ++ ((frame.layerBuffers (List.range frame.layerCount)).map Prod.fst ++
      fbDest)).Nodup := by
  have hlayers : ∀ layers : List Nat, (∀ i ∈ layers, (frame.layerPipe i).isSome = true) →
      ((layers.filterMap fun i => (frame.layerPipe i).map fun dest => (dest, Source.layer i)).map
        Prod.fst).map some = layers.map frame.layerPipe := by
    intro layers
    induction layers with
    | nil => exact fun _ => rfl
    | cons i layers ih =>
      intro hsome
      obtain ⟨dest, hdest⟩ := Option.isSome_iff_exists.mp (hsome i List.mem_cons_self)
      rw [List.map_cons, ← ih fun j hj => hsome j (List.mem_cons_of_mem i hj)]
      simp [hdest]
  have hplanes := (frame.planes_perm fbPipe).nodup hapart
  refine List.Nodup.of_map some (hplanes.sublist ?_)
  rw [List.map_append, List.map_append, layerBuffers, hlayers]
  · refine (List.Sublist.refl _).append ((List.Sublist.refl _).append ?_)
    rcases hfb with rfl | ⟨⟨i, hi, hfb⟩, dest, rfl, rfl⟩
    · exact List.nil_sublist _
    -- The first layer of the framebuffer shows up.
    have hshown : ∃ first ∈ List.range frame.layerCount,
        (frame.isFBComposed first && frame.isShown first) = true := by
      have hex : ∃ j, frame.isFBComposed j = true := ⟨i, hfb⟩
      refine ⟨Nat.find hex, List.mem_range.mpr ((Nat.find_min' hex hfb).trans_lt hi), ?_⟩
      rw [isShown, Nat.find_spec hex]
      simpa using fun j hj => Nat.find_min hex hj
    obtain ⟨first, hfirst, hshows⟩ := hshown
    rw [List.map_singleton, List.singleton_sublist, List.mem_map]
    exact ⟨first, List.mem_filter.mpr ⟨hfirst, hshows⟩, rfl⟩
  · intro i hi
    obtain ⟨hlt, hmdp⟩ := List.mem_filter.mp hi
    exact hpipes i (List.mem_range.mp hlt) (by simpa using hmdp)

end FrameInfo

/-! ### Copybit -/

namespace CopyBit

variable {copyBit : CopyBit} {allocated : Option (Fin numRenderBuffers → Nat)}

theorem allocRenderBuffers_mCopyBitDraw :
    (copyBit.allocRenderBuffers allocated).1.mCopyBitDraw = copyBit.mCopyBitDraw := by
  rw [allocRenderBuffers.eq_def]
  split
  · rfl
  split <;> rfl

theorem allocRenderBuffers_isSome (hfound : (copyBit.allocRenderBuffers allocated).2 = true)
    (i : Fin numRenderBuffers) :
    ((copyBit.allocRenderBuffers allocated).1.mRenderBuffer i).isSome = true := by
  rw [allocRenderBuffers.eq_def] at hfound ⊢
  split
  next hall => exact hall i
  next hsome =>
    rw [if_neg hsome] at hfound
    cases allocated with
    | none => simp at hfound
    | some addresses => rfl

end CopyBit

namespace Screen

variable {screen : Screen} {list : DisplayContents}

def takes (screen : Screen) (list : DisplayContents) (video : Bool) (i : Nat) : Bool :=
  decide (i < screen.numAppLayers) && decide (screen.compositionType i = .framebuffer) &&
    (list.hwLayer i).handle.any fun hnd => hnd.video == video

@[simp] theorem claim_numAppLayers (video : Bool) (copyBit : CopyBit) :
    (screen.claim list video copyBit).numAppLayers = screen.numAppLayers := rfl

theorem claim_copyBitFlag (video : Bool) (copyBit : CopyBit) (i : Nat) :
    (screen.claim list video copyBit).copyBitFlag i =
      (screen.takes list video i || screen.copyBitFlag i) := rfl

theorem claim_compositionType (video : Bool) (copyBit : CopyBit) (i : Nat) :
    (screen.claim list video copyBit).compositionType i =
      if screen.takes list video i then .overlay else screen.compositionType i := rfl

theorem claim_copyBit (video : Bool) (copyBit : CopyBit) :
    (screen.claim list video copyBit).copyBit = some { copyBit with
      mCopyBitDraw := copyBit.mCopyBitDraw ||
        (List.range screen.numAppLayers).any (screen.takes list video) } := rfl

theorem takes_framebuffer {video : Bool} {i : Nat} (htakes : screen.takes list video i = true) :
    i < screen.numAppLayers ∧ screen.compositionType i = .framebuffer := by
  rw [takes, Bool.and_eq_true, Bool.and_eq_true, decide_eq_true_eq, decide_eq_true_eq] at htakes
  exact htakes.1

theorem claim_compositionType_of_any (video : Bool) (copyBit : CopyBit)
    (hnone : (List.range screen.numAppLayers).any (screen.takes list video) = false) :
    (screen.claim list video copyBit).compositionType = screen.compositionType := by
  funext i
  rw [claim_compositionType, if_neg]
  intro htakes
  rw [List.any_eq_false] at hnone
  exact hnone i (List.mem_range.mpr (takes_framebuffer htakes).1) htakes

theorem claim_claim (hnew : ∀ i, screen.copyBitFlag i = false)
    (hhandles : ∀ i < screen.numAppLayers, (list.hwLayer i).handle.isSome = true)
    (first second : CopyBit) {i : Nat} (hi : i < screen.numAppLayers) :
    ((screen.claim list true first).claim list false second).copyBitFlag i =
        decide (screen.compositionType i = .framebuffer) ∧
      ((screen.claim list true first).claim list false second).compositionType i =
        if screen.compositionType i = .framebuffer then .overlay else screen.compositionType i := by
  obtain ⟨hnd, hhnd⟩ := Option.isSome_iff_exists.mp (hhandles i hi)
  have htakes : ∀ (given : Screen) (video : Bool), given.numAppLayers = screen.numAppLayers →
      given.takes list video i =
        (decide (given.compositionType i = .framebuffer) && (hnd.video == video)) := by
    intro given video hgiven
    rw [takes, hgiven, hhnd]
    simp [hi]
  have hnext := htakes (screen.claim list true first) false rfl
  rw [claim_compositionType, htakes screen true rfl] at hnext
  rw [claim_copyBitFlag, claim_copyBitFlag, claim_compositionType, hnext, claim_compositionType,
    htakes screen true rfl, hnew i]
  by_cases hfb : screen.compositionType i = .framebuffer
  · cases hnd.video <;> simp [hfb]
  · simp [hfb]

theorem copybitDone_of_idle
    (hidle : ∀ copyBit, screen.copyBit = some copyBit → copyBit.mCopyBitDraw = false) :
    DisplayState.copybitDone screen = false := by
  rw [DisplayState.copybitDone]
  cases hcopyBit : screen.copyBit with
  | none => rfl
  | some copyBit => simp [hidle copyBit hcopyBit]

theorem prepareCopyBit_cases {target : CopyBitTarget} {allocated : Option (Fin numRenderBuffers → Nat)}
    {xres yres : Int} {numPipes : Nat} {fbUpdate : FBUpdate numPipes}
    (hnew : ∀ i, screen.copyBitFlag i = false)
    (hidle : ∀ copyBit, screen.copyBit = some copyBit → copyBit.mCopyBitDraw = false) :
    ∃ screen', screen.prepareCopyBit target allocated xres yres fbUpdate list = screen' ∧
      screen'.numAppLayers = screen.numAppLayers ∧ screen'.fbHandle = screen.fbHandle ∧
      screen'.mdpCompFlag = screen.mdpCompFlag ∧
      (DisplayState.copybitDone screen' = false ∧
          screen'.compositionType = screen.compositionType ∨
        DisplayState.copybitDone screen' = true ∧ fbUpdate.mModeOn = true ∧
          (∃ i < screen.numAppLayers, screen.compositionType i = .framebuffer) ∧
          ((∀ i < screen.numAppLayers, (list.hwLayer i).handle.isSome = true) →
            ∀ i < screen.numAppLayers,
              screen'.copyBitFlag i = decide (screen.compositionType i = .framebuffer) ∧
              screen'.compositionType i ≠ .framebuffer)) := by
  rw [prepareCopyBit]
  cases hcopyBit : screen.copyBit with
  | none => exact ⟨screen, rfl, rfl, rfl, rfl, .inl ⟨copybitDone_of_idle hidle, rfl⟩⟩
  | some copyBit =>
    dsimp only
    split
    · exact ⟨screen, rfl, rfl, rfl, rfl, .inl ⟨copybitDone_of_idle hidle, rfl⟩⟩
    next husable =>
    have hmode : fbUpdate.mModeOn = true := by
      rw [copyBitUsable] at husable
      simp at husable
      exact husable.2
    have hdraw := @CopyBit.allocRenderBuffers_mCopyBitDraw copyBit allocated
    have hbuffers := @CopyBit.allocRenderBuffers_isSome copyBit allocated
    rw [hidle copyBit hcopyBit] at hdraw
    rcases halloc : copyBit.allocRenderBuffers allocated with ⟨engine, _ | _⟩
    · rw [halloc] at hdraw
      refine ⟨_, rfl, rfl, rfl, rfl, .inl ⟨copybitDone_of_idle ?_, rfl⟩⟩
      intro found hfound
      rw [← Option.some.inj hfound]
      exact hdraw
    rw [halloc] at hdraw hbuffers
    dsimp only at hdraw ⊢
    simp only [Bool.not_true, Bool.false_eq_true, if_false, claim_copyBit, Option.any_some,
      Option.getD_some, hdraw, Bool.false_or]
    have hvideo := @claim_compositionType_of_any screen list true engine
    by_cases huse : (screen.canUseCopybitForRGB target xres yres fbUpdate.mZorder list ||
      (List.range screen.numAppLayers).any (screen.takes list true)) = true
    · rw [if_pos huse]
      generalize hfirst : screen.claim list true engine = first
      have hcount : first.numAppLayers = screen.numAppLayers := by rw [← hfirst, claim_numAppLayers]
      by_cases hany : ((List.range screen.numAppLayers).any (screen.takes list true) ||
        (List.range first.numAppLayers).any (first.takes list false)) = true
      · refine ⟨_, rfl, hcount, by rw [← hfirst]; rfl, by rw [← hfirst]; rfl,
          .inr ⟨?_, hmode, ?_, fun hhandles i hi => ?_⟩⟩
        · rw [DisplayState.copybitDone]
          simp only [claim_copyBit, hany, if_true, Option.map_some, Option.any_some, Bool.true_and,
            CopyBit.getCurrentRenderBuffer]
          exact hbuffers rfl _
        · rcases Bool.or_eq_true _ _ |>.mp hany with hvideos | hothers
          · obtain ⟨i, hi, htakes⟩ := List.any_eq_true.mp hvideos
            exact ⟨i, List.mem_range.mp hi, (takes_framebuffer htakes).2⟩
          · obtain ⟨i, hi, htakes⟩ := List.any_eq_true.mp hothers
            have hleft := (takes_framebuffer htakes).2
            rw [← hfirst, claim_compositionType] at hleft
            refine ⟨i, hcount ▸ List.mem_range.mp hi, ?_⟩
            split at hleft
            · exact CompositionType.noConfusion hleft
            · exact hleft
        · subst hfirst
          obtain ⟨hflag, htype⟩ := claim_claim hnew hhandles engine
            { engine with mCopyBitDraw := (List.range screen.numAppLayers).any (screen.takes list true) } hi
          refine ⟨hflag, ?_⟩
          rw [htype]
          split
          · exact CompositionType.noConfusion
          next hfb => exact hfb
      · obtain ⟨hvideos, hothers⟩ := Bool.or_eq_false_iff.mp (Bool.not_eq_true _ |>.mp hany)
        refine ⟨_, rfl, hcount, by rw [← hfirst]; rfl, by rw [← hfirst]; rfl,
          .inl ⟨copybitDone_of_idle ?_, ?_⟩⟩
        · intro found hfound
          simp only [claim_copyBit, hvideos, hothers, Bool.or_self, Bool.false_eq_true, if_false,
            Option.map_some, Option.some.injEq] at hfound
          rw [← hfound]
        · have hsecond := claim_compositionType_of_any false
            { engine with mCopyBitDraw := (List.range screen.numAppLayers).any (screen.takes list true) }
            hothers
          exact hsecond.trans (hfirst ▸ hvideo hvideos)
    · rw [if_neg huse]
      rw [Bool.or_eq_true, not_or] at huse
      have hnone := Bool.not_eq_true _ |>.mp huse.2
      refine ⟨_, rfl, rfl, rfl, rfl, .inl ⟨copybitDone_of_idle ?_, hvideo hnone⟩⟩
      intro found hfound
      simp [claim_copyBit, hdraw, hnone] at hfound
      rw [← hfound]

end Screen

/-! ### What is left to the framebuffer -/

namespace LayerCache

def ofFrame (list : DisplayContents) (isFBComposed : Nat → Bool) : LayerCache where
  layerCount := list.numAppLayers
  hnd := fun i => (list.hwLayer i).handle.map (·.address)
  isFBComposed := isFBComposed

def SameAs (first second : LayerCache) : Prop :=
  first.layerCount = second.layerCount ∧
    ∀ i < second.layerCount, first.isFBComposed i = second.isFBComposed i ∧
      (second.isFBComposed i = true → first.hnd i = second.hnd i)

theorem SameAs.symm {first second : LayerCache} (hsame : first.SameAs second) : second.SameAs first := by
  refine ⟨hsame.1.symm, fun i hi => ?_⟩
  obtain ⟨hflag, hhandle⟩ := hsame.2 i (hsame.1 ▸ hi)
  exact ⟨hflag.symm, fun hfb => (hhandle (hflag ▸ hfb)).symm⟩

theorem SameAs.trans {first second third : LayerCache} (hfirst : first.SameAs second)
    (hsecond : second.SameAs third) : first.SameAs third := by
  refine ⟨hfirst.1.trans hsecond.1, fun i hi => ?_⟩
  obtain ⟨hflag, hhandle⟩ := hsecond.2 i hi
  obtain ⟨hflag', hhandle'⟩ := hfirst.2 i (hsecond.1 ▸ hi)
  exact ⟨hflag'.trans hflag, fun hfb => (hhandle' (hflag ▸ hfb)).trans (hhandle hfb)⟩

theorem SameAs.exists_of_exists {first second : LayerCache} (hsame : first.SameAs second)
    (hexists : ∃ i < second.layerCount, second.isFBComposed i = true) :
    ∃ i < first.layerCount, first.isFBComposed i = true := by
  obtain ⟨i, hi, hfb⟩ := hexists
  exact ⟨i, hsame.1 ▸ hi, (hsame.2 i hi).1.trans hfb⟩

theorem isSameFrame_iff {numPipes : Nat} {cached : LayerCache} {list : DisplayContents}
    {frame : FrameInfo numPipes} (hcount : frame.layerCount = list.numAppLayers) :
    cached.isSameFrame list frame = true ↔ cached.SameAs (ofFrame list frame.isFBComposed) := by
  rw [isSameFrame, SameAs, ofFrame, hcount]
  simp only [decide_eq_true_eq, List.all_eq_true, List.mem_range]
  exact and_congr_right fun _ => forall_congr' fun i => imp_congr_right fun _ =>
    and_congr_left fun _ => eq_comm

theorem updateCounts_sameAs {numPipes : Nat} (cached : LayerCache) {list : DisplayContents}
    {frame : FrameInfo numPipes} (hcount : frame.layerCount = list.numAppLayers) :
    ((cached.cacheAll list).updateCounts frame).SameAs (ofFrame list frame.isFBComposed) := by
  refine ⟨hcount, fun i hi => ⟨rfl, fun _ => ?_⟩⟩
  have hlt : i < list.numAppLayers := hi
  simp [updateCounts, cacheAll, ofFrame, hlt]

end LayerCache

theorem MDPComp.prepare_remembers {numPipes : Nat} {ctx ctx' : Context numPipes} {dpy : Display}
    {list : DisplayContents} {mdpComp mdpComp' : MDPComp numPipes} {fbUpdate fbUpdate' : FBUpdate numPipes}
    {composed : Bool}
    (hprepare : mdpComp.prepare list ctx dpy fbUpdate = (ctx', fbUpdate', mdpComp', composed)) :
    mdpComp'.mCurrentFrame.layerCount = list.numAppLayers ∧
      mdpComp' = mdpComp.keep list mdpComp'.mCurrentFrame ∧
      (mdpComp'.mCurrentFrame.needsRedraw = false →
        mdpComp.mCachedFrame.SameAs (.ofFrame list mdpComp'.mCurrentFrame.isFBComposed)) := by
  cases composed with
  | false =>
    rw [prepare_rejected hprepare]
    exact ⟨rfl, rfl, fun hspared => Bool.noConfusion hspared⟩
  | true =>
    have hcount := (prepare_accepted hprepare).1
    refine ⟨hcount, ?_⟩
    obtain heq | ⟨full, frame, hcomposed, -, hredraw, heq⟩ := prepare_cases mdpComp list ctx dpy fbUpdate
    · rw [hprepare] at heq
      simp at heq
    rw [hprepare, composeFrame] at heq
    generalize hprogram : programFrame list ctx dpy fbUpdate frame = programmed at heq
    obtain ⟨next, fbUpdate₁, frame', done⟩ := programmed
    cases done with
    | false => simp at heq
    | true =>
      obtain ⟨hsame, -⟩ := programFrame_kept hcomposed hprogram
      simp only [Bool.not_true, Bool.false_eq_true, if_false, Prod.mk.injEq] at heq
      obtain ⟨-, -, rfl, -⟩ := heq
      refine ⟨rfl, fun hspared => ?_⟩
      cases full with
      | false =>
        have hkept : frame'.needsRedraw = true := by
          rw [hsame]
          exact hredraw
        have hspared' : frame'.needsRedraw = false := hspared
        rw [hkept] at hspared'
        exact Bool.noConfusion hspared'
      | true =>
        have hchanged : mdpComp.changed list dpy frame' = false := hspared
        rw [changed, Bool.or_eq_false_iff, Bool.or_eq_false_iff, Bool.or_eq_false_iff] at hchanged
        have hsameFrame : mdpComp.mCachedFrame.isSameFrame list frame' = true := by
          simpa using hchanged.1.1.1
        exact (LayerCache.isSameFrame_iff hcount).mp hsameFrame

/-! ### The second half -/

namespace DisplayContents

variable (list : DisplayContents)

/-- A buffer that was rendered for a frame has a layer of the list in it. -/
def heldIn (rendered : Option LayerCache) (i : Nat) : Bool :=
  rendered.any fun frame => decide (i < frame.layerCount) && frame.isFBComposed i &&
    decide (frame.hnd i = (list.appLayers[i]?.bind (·.handle)).map (·.address))

/-- The cached buffer was last rendered with exactly some of the layers. -/
def Kept (rendered : Nat → Option LayerCache) (layers : Nat → Bool) (fbHandle : Option Nat) : Prop :=
  ∃ address ∈ fbHandle, ∀ i < list.numAppLayers, list.heldIn (rendered address) i = layers i

instance (rendered : Nat → Option LayerCache) (layers : Nat → Bool) (fbHandle : Option Nat) :
    Decidable (list.Kept rendered layers fbHandle) :=
  inferInstanceAs (Decidable (∃ address ∈ fbHandle, _))

theorem kept_congr {rendered : Nat → Option LayerCache} {layers layers' : Nat → Bool} {fbHandle : Option Nat}
    (hsame : ∀ i < list.numAppLayers, layers i = layers' i) :
    list.Kept rendered layers fbHandle ↔ list.Kept rendered layers' fbHandle := by
  refine exists_congr fun address => and_congr_right fun _ => forall₂_congr fun i hi => ?_
  rw [hsame i hi]

end DisplayContents

namespace DisplayState

variable {numPipes : Nat} (state : DisplayState numPipes) (ctx : Context numPipes)
  (answers : DrawAnswers numPipes) (screen : Screen) (list : DisplayContents)
  (rendered : Nat → Option LayerCache)

def inBuffer (i : Nat) : Bool :=
  if copybitDone screen then screen.copyBitFlag i && answers.copies i
  else
    match state.mdpComp.getFbHandle screen.fbHandle with
    | some hnd => list.heldIn (rendered hnd) i
    | none => decide (screen.compositionType i = .framebuffer)

def timesShown (i : Nat) : Nat :=
  (state.queued ctx answers screen list).countP fun entry =>
    entry.2.shows (state.inBuffer answers screen list rendered) i

/-- Every layer is shown once, by buffers in different pipes, and beside copybit nothing is left for the
framebuffer target. -/
structure ShowsEachOnce : Prop where
  once : ∀ i < list.numAppLayers, state.timesShown ctx answers screen list rendered i = 1
  apart : ((state.queued ctx answers screen list).map Prod.fst).Nodup
  copied : copybitDone screen = true → ∀ i < list.numAppLayers, screen.compositionType i ≠ .framebuffer

def DrawsWell : Prop :=
  (∃ screen', state.hwcSet ctx .primary answers screen (some list) = some (screen', true)) ∧
    ∀ i ∈ copied screen, answers.copies i = true

end DisplayState

/-- A frame that is drawn: its counts add up, it has pipes only where they can be drawn to, and the pipes
are different. -/
structure FrameInfo.Drawable {numPipes : Nat} (frame : FrameInfo numPipes)
    (fbPipe : Option (Fin numPipes)) (sEnabled : Bool) (numAppLayers : Nat) : Prop where
  layerCount : frame.layerCount = numAppLayers
  counts : frame.mdpCount + frame.fbCount = numAppLayers
  counted : frame.Counted
  disabled : sEnabled = false → frame.mdpBasePipe = none ∧ ∀ i, frame.isFBComposed i = true
  apart : (frame.planes fbPipe).Nodup

/-- The types and flags behind `hwc_prepare`: the layers of the framebuffer are left for it, are taken by
copybit, or are not drawn again. -/
structure Screen.Marked {numPipes : Nat} (screen : Screen) (frame : FrameInfo numPipes)
    (mModeOn : Bool) (list : DisplayContents) : Prop where
  layers : screen.numAppLayers = list.numAppLayers
  mdpCompFlag : ∀ i < list.numAppLayers, frame.isFBComposed i = false → screen.mdpCompFlag i = true
  types : DisplayState.copybitDone screen = false ∧
      (∀ i < list.numAppLayers, screen.compositionType i = .framebuffer ↔
        frame.isFBComposed i = true ∧ frame.needsRedraw = true) ∨
    DisplayState.copybitDone screen = true ∧ mModeOn = true ∧ frame.needsRedraw = true ∧
      ((∀ layer ∈ list.appLayers, layer.handle.isSome = true) →
        ∀ i < list.numAppLayers, screen.copyBitFlag i = frame.isFBComposed i ∧
          screen.compositionType i ≠ .framebuffer)

namespace FrameInfo.Drawable

variable {numPipes : Nat} {frame : FrameInfo numPipes} {fbPipe : Option (Fin numPipes)}
  {sEnabled : Bool} {numAppLayers : Nat}

theorem fbCount_ne_zero_iff (hframe : frame.Drawable fbPipe sEnabled numAppLayers) :
    frame.fbCount ≠ 0 ↔ ∃ i < numAppLayers, frame.isFBComposed i = true := by
  have hcounted := hframe.counted
  rw [FrameInfo.Counted, hframe.layerCount] at hcounted
  rw [hcounted, Int.natCast_ne_zero, Finset.card_ne_zero]
  constructor
  · rintro ⟨i, hi⟩
    rw [Finset.mem_filter, Finset.mem_range] at hi
    exact ⟨i, hi⟩
  · rintro ⟨i, hi⟩
    exact ⟨i, by rwa [Finset.mem_filter, Finset.mem_range]⟩

theorem isFBComposed_of_mdpCount (hframe : frame.Drawable fbPipe sEnabled numAppLayers)
    (hzero : frame.mdpCount = 0) {i : Nat} (hi : i < numAppLayers) : frame.isFBComposed i = true := by
  have hcounts := hframe.counts
  have hcounted := hframe.counted
  rw [FrameInfo.Counted, hframe.layerCount] at hcounted
  rw [hzero, Int.zero_add, hcounted, Int.ofNat_inj] at hcounts
  have hall := Finset.eq_of_subset_of_card_le (Finset.filter_subset _ (Finset.range numAppLayers))
    (by rw [hcounts, Finset.card_range])
  have hmem := Finset.mem_range.mpr hi
  rw [← hall] at hmem
  exact (Finset.mem_filter.mp hmem).2

end FrameInfo.Drawable

namespace DisplayState

variable {numPipes : Nat} {state : DisplayState numPipes} {ctx : Context numPipes}
  {answers : DrawAnswers numPipes} {screen : Screen} {list : DisplayContents}
  {rendered : Nat → Option LayerCache}

theorem DrawsWell.queued_eq (hwell : state.DrawsWell ctx answers screen list)
    (happs : list.appLayers ≠ []) (hactive : state.isActive = true)
    (hfb : list.fbLayer.handle.isSome = true)
    (hframe : state.mdpComp.mCurrentFrame.Drawable state.fbUpdate.mDest ctx.target.sEnabled
      list.numAppLayers)
    (hmarked : screen.Marked state.mdpComp.mCurrentFrame state.fbUpdate.mModeOn list) :
    ∃ fbBuffer, state.queued ctx answers screen list =
        state.mdpComp.mCurrentFrame.mdpBasePipe.toList.map (·, .base) ++
          state.mdpComp.mCurrentFrame.layerBuffers (List.range list.numAppLayers) ++ fbBuffer ∧
      (state.fbUpdate.mModeOn = false ∧ fbBuffer = [] ∨
        state.fbUpdate.mModeOn = true ∧ ∃ dest address, state.fbUpdate.mDest = some dest ∧
          fbBuffer = [(dest, .buffer address)]) ∧
      ∀ i < list.numAppLayers, state.mdpComp.mCurrentFrame.isFBComposed i = false →
        (state.mdpComp.mCurrentFrame.layerPipe i).isSome = true := by
  obtain ⟨⟨screen', hset⟩, -⟩ := hwell
  have hnot : list.appLayers.isEmpty = false := by
    rw [List.isEmpty_eq_false_iff]
    exact happs
  have hlayers : screen.numAppLayers ≠ 0 := by
    rw [hmarked.layers, DisplayContents.numAppLayers]
    exact fun hzero => happs (List.eq_nil_of_length_eq_zero hzero)
  have hshown : (state.shownHandle screen list).isSome = true := by
    rw [shownHandle]
    split
    next hdone =>
      rw [copybitDone] at hdone
      cases hcopyBit : screen.copyBit with
      | none => simp [hcopyBit] at hdone
      | some copyBit =>
        rw [hcopyBit, Option.any_some, Bool.and_eq_true] at hdone
        exact hdone.2
    · split
      · rfl
      · rw [Option.isSome_map, hfb]
  obtain ⟨address, haddress⟩ := Option.isSome_iff_exists.mp hshown
  rw [hwcSet] at hset
  simp only [hactive, hnot, decide_true, Bool.true_or, Bool.and_self, Bool.not_true, Bool.false_eq_true,
    if_false, haddress, Option.isNone_some] at hset
  cases hret : (state.drawMDPComp ctx answers screen list).ret with
  | none => simp [hret] at hset
  | some drawn =>
    simp only [hret, Option.bind_some] at hset
    cases hupdated : state.fbUpdate.draw ctx.overlay answers with
    | none => simp [hupdated] at hset
    | some updated =>
      simp only [hupdated, Option.map_some, Option.some.injEq, Prod.mk.injEq, Bool.and_eq_true] at hset
      obtain ⟨-, ⟨hdrawn, hupdate⟩, -⟩ := hset
      rw [hdrawn] at hret
      rw [hupdate] at hupdated
      rw [drawMDPComp] at hret
      obtain ⟨hqueued, hpipes⟩ := FrameInfo.draw_queued hret hlayers
        (fun hoff => ⟨(hframe.disabled hoff).1, fun i _ => (hframe.disabled hoff).2 i⟩)
        (fun hzero i hi => hframe.isFBComposed_of_mdpCount hzero (hmarked.layers ▸ hi))
        (fun i hi hmdp => hmarked.mdpCompFlag i (hmarked.layers ▸ hi) hmdp)
      rw [hmarked.layers] at hqueued hpipes
      refine ⟨state.fbUpdate.queuedBy ctx.overlay address, ?_, ?_, hpipes⟩
      · rw [queued, haddress, Option.elim_some, drawMDPComp, hmarked.layers, hqueued]
      · rw [FBUpdate.queuedBy]
        rw [FBUpdate.draw] at hupdated
        cases hmode : state.fbUpdate.mModeOn with
        | false => exact .inl ⟨rfl, rfl⟩
        | true =>
          simp only [hmode, Bool.not_true, Bool.false_eq_true, if_false] at hupdated ⊢
          cases hdest : state.fbUpdate.mDest with
          | none => simp [hdest] at hupdated
          | some dest =>
            simp only [hdest] at hupdated
            refine .inr ⟨trivial, dest, address, rfl, ?_⟩
            exact FrameInfo.queueBuffer_eq_true _ hupdated

theorem DrawsWell.inBuffer_iff (hwell : state.DrawsWell ctx answers screen list)
    (hframe : state.mdpComp.mCurrentFrame.Drawable state.fbUpdate.mDest ctx.target.sEnabled
      list.numAppLayers)
    (hmarked : screen.Marked state.mdpComp.mCurrentFrame state.fbUpdate.mModeOn list)
    (hhandles : ∀ layer ∈ list.appLayers, layer.handle.isSome = true)
    (hcount : state.mdpComp.mCurrentFrame.fbCount ≠ 0) :
    (∀ i < list.numAppLayers, state.inBuffer answers screen list rendered i =
        state.mdpComp.mCurrentFrame.isFBComposed i) ↔
      (state.mdpComp.mCurrentFrame.needsRedraw = false →
        list.Kept rendered state.mdpComp.mCurrentFrame.isFBComposed screen.fbHandle) := by
  rcases hmarked.types with ⟨hdone, htypes⟩ | ⟨hdone, -, hredraw, htypes⟩
  · simp only [inBuffer, hdone, Bool.false_eq_true, if_false, MDPComp.getFbHandle, hcount, ne_eq, not_false_eq_true,
      true_and, Bool.not_eq_true', DisplayContents.Kept]
    cases hredraw : state.mdpComp.mCurrentFrame.needsRedraw with
    | true =>
      refine iff_of_true (fun i hi => ?_) Bool.noConfusion
      rw [if_neg (by decide), Bool.eq_iff_iff, decide_eq_true_eq, htypes i hi, and_iff_left hredraw]
    | false =>
      cases hhandle : screen.fbHandle with
      | none =>
        obtain ⟨i, hi, hfb⟩ := hframe.fbCount_ne_zero_iff.mp hcount
        refine iff_of_false (fun hall => ?_) (by simp)
        have hleft := (htypes i hi).mp (of_decide_eq_true ((hall i hi).trans hfb))
        exact Bool.false_ne_true (hredraw.symm.trans hleft.2)
      | some address => simp
  · refine iff_of_true (fun i hi => ?_) fun hspared => Bool.noConfusion (hspared.symm.trans hredraw)
    have hmem : screen.copyBitFlag i = true → answers.copies i = true := by
      intro hflag
      refine hwell.2 i ?_
      rw [copied, if_pos hdone, List.mem_filter, List.mem_range, hmarked.layers]
      exact ⟨hi, hflag⟩
    rw [inBuffer, if_pos hdone, Bool.eq_iff_iff, Bool.and_eq_true, and_iff_left_of_imp hmem,
      (htypes hhandles i hi).1]

theorem DrawsWell.showsEachOnce_iff (hwell : state.DrawsWell ctx answers screen list)
    (happs : list.appLayers ≠ []) (hactive : state.isActive = true)
    (hfb : list.fbLayer.handle.isSome = true)
    (hframe : state.mdpComp.mCurrentFrame.Drawable state.fbUpdate.mDest ctx.target.sEnabled
      list.numAppLayers)
    (hmarked : screen.Marked state.mdpComp.mCurrentFrame state.fbUpdate.mModeOn list)
    (hhandles : ∀ layer ∈ list.appLayers, layer.handle.isSome = true)
    (hoff : state.mdpComp.mCurrentFrame.fbCount = 0 → state.fbUpdate.mModeOn = false) :
    state.ShowsEachOnce ctx answers screen list rendered ↔
      (state.mdpComp.mCurrentFrame.fbCount ≠ 0 → state.fbUpdate.mModeOn = true ∧
        (state.mdpComp.mCurrentFrame.needsRedraw = false →
          list.Kept rendered state.mdpComp.mCurrentFrame.isFBComposed screen.fbHandle)) := by
  obtain ⟨fbBuffer, hqueued, hbuffer, hpipes⟩ := hwell.queued_eq happs hactive hfb hframe hmarked
  have htimes : ∀ i < list.numAppLayers, state.timesShown ctx answers screen list rendered i =
      (if state.mdpComp.mCurrentFrame.isFBComposed i then 0 else 1) +
        if state.fbUpdate.mModeOn = true ∧ state.inBuffer answers screen list rendered i = true then 1 else 0 := by
    intro i hi
    rw [timesShown, hqueued, List.countP_append, List.countP_append,
      FrameInfo.countP_layerBuffers hi hpipes]
    congr 1
    · rw [List.countP_eq_zero.mpr, Nat.zero_add]
      intro entry hentry
      obtain ⟨dest, -, rfl⟩ := List.mem_map.mp hentry
      simp [Source.shows]
    · rcases hbuffer with ⟨hmode, rfl⟩ | ⟨hmode, dest, address, -, rfl⟩
      · simp [hmode]
      · simp [hmode, Source.shows, List.countP_singleton]
  have hexists := hframe.fbCount_ne_zero_iff
  constructor
  · intro hshows hcount
    have hmode : state.fbUpdate.mModeOn = true := by
      obtain ⟨i, hi, hfbComposed⟩ := hexists.mp hcount
      have honce := hshows.once i hi
      rw [htimes i hi, if_pos hfbComposed] at honce
      split at honce
      next hboth => exact hboth.1
      next => simp at honce
    refine ⟨hmode, (hwell.inBuffer_iff hframe hmarked hhandles hcount).mp fun i hi => ?_⟩
    have honce := hshows.once i hi
    rw [htimes i hi, hmode] at honce
    cases hfbComposed : state.mdpComp.mCurrentFrame.isFBComposed i <;> simpa [hfbComposed] using honce
  · intro hserved
    refine ⟨fun i hi => ?_, ?_, fun hdone i hi => ?_⟩
    · rw [htimes i hi]
      by_cases hcount : state.mdpComp.mCurrentFrame.fbCount = 0
      · have hmdp : ¬state.mdpComp.mCurrentFrame.isFBComposed i = true := fun hfb => hexists.mpr ⟨i, hi, hfb⟩ hcount
        simp [hmdp, hoff hcount]
      · obtain ⟨hmode, hkept⟩ := hserved hcount
        rw [(hwell.inBuffer_iff hframe hmarked hhandles hcount).mpr hkept i hi, hmode]
        cases state.mdpComp.mCurrentFrame.isFBComposed i <;> rfl
    · rw [hqueued, List.append_assoc, List.map_append, List.map_append, List.map_map, ← hframe.layerCount]
      have hbase : state.mdpComp.mCurrentFrame.mdpBasePipe.toList.map
          (Prod.fst ∘ fun dest => (dest, Source.base)) =
            state.mdpComp.mCurrentFrame.mdpBasePipe.toList := List.map_id _
      rw [hbase]
      refine FrameInfo.nodup_queued hframe.apart (hframe.layerCount ▸ hpipes) ?_
      rcases hbuffer with ⟨-, rfl⟩ | ⟨hmode, dest, address, hdest, rfl⟩
      · exact .inl rfl
      · refine .inr ⟨?_, dest, hdest, rfl⟩
        rw [hframe.layerCount]
        refine hexists.mp fun hzero => ?_
        rw [hoff hzero] at hmode
        exact Bool.noConfusion hmode
    · rcases hmarked.types with ⟨hidle, -⟩ | ⟨-, -, -, htypes⟩
      · rw [hidle] at hdone
        exact Bool.noConfusion hdone
      · exact (htypes hhandles i hi).2

end DisplayState

/-! ### The first half -/

theorem FrameInfo.planes_reset_nodup {numPipes : Nat} (numLayers : Nat) (fbPipe : Option (Fin numPipes)) :
    ((FrameInfo.reset numLayers).planes fbPipe).Nodup := by
  have hshown : ∀ i, (FrameInfo.reset numLayers : FrameInfo numPipes).isShown i = decide (i = 0) := by
    intro i
    cases i with
    | zero => rfl
    | succ i =>
      have hbelow : ((List.range (i + 1)).all fun j =>
          !(FrameInfo.reset numLayers : FrameInfo numPipes).isFBComposed j) = false :=
        List.all_eq_false.mpr ⟨0, List.mem_range.mpr i.succ_pos, by simp [reset]⟩
      rw [isShown, hbelow]
      rfl
  rw [planes]
  simp only [reset, Option.toList_none, List.map_nil, List.nil_append]
  cases numLayers with
  | zero => exact List.nodup_nil
  | succ numLayers =>
    have hfilter : (List.range (numLayers + 1)).filter
        (FrameInfo.reset (numLayers + 1) : FrameInfo numPipes).isShown = [0] := by
      rw [List.range_succ_eq_map, List.filter_cons_of_pos (hshown 0), List.filter_map,
        List.filter_eq_nil_iff.mpr]
      · rfl
      · intro i _
        simp [hshown]
    rw [reset] at hfilter
    rw [hfilter]
    exact List.nodup_singleton _

namespace DisplayState

variable {numPipes : Nat} {state : DisplayState numPipes} {ctx : Context numPipes}
  {list : DisplayContents}

theorem hwcPrepare_target (state : DisplayState numPipes) (ctx : Context numPipes) (dpy : Display)
    (list : Option DisplayContents) : (state.hwcPrepare ctx dpy list).1.target = ctx.target := by
  have hupdate : ∀ (fbUpdate : FBUpdate numPipes) (ctx : Context numPipes),
      (fbUpdate.prepare ctx dpy 0).1.target = ctx.target := by
    intro fbUpdate ctx
    rw [FBUpdate.prepare]
    split
    · rfl
    · obtain ⟨dest, hfind, hnext⟩ | ⟨hfind, hnext⟩ := ctx.overlay.nextPipe_cases .any dpy
      · simp [Context.nextPipe, hnext, Context.configMdp]
      · simp [Context.nextPipe, hnext]
  cases list with
  | none => rfl
  | some list =>
    rw [hwcPrepare]
    dsimp only
    split
    · rfl
    obtain ⟨ctx', fbUpdate', mdpComp', composed, heq, hstands, -⟩ :=
      state.mdpComp.prepare_session list (state.enter ctx dpy list) dpy state.fbUpdate
    have htarget : ctx'.target = ctx.target := hstands.apart.2
    rw [compose, heq]
    cases composed with
    | true => exact htarget
    | false => exact (hupdate fbUpdate' ctx').trans htarget

/-- The framebuffer is served: where the composition leaves layers to it without drawing it again, the cached
buffer has those that were left to it before; where the composition is given up, the framebuffer can be shown. -/
def FramebufferServed (state : DisplayState numPipes) (ctx : Context numPipes) (dpy : Display)
    (list : DisplayContents) (rendered : Nat → Option LayerCache) (fbHandle : Option Nat) : Prop :=
  if (state.compose ctx dpy list).2.2.2 then
    (state.compose ctx dpy list).2.2.1.mCurrentFrame.fbCount ≠ 0 →
      (state.compose ctx dpy list).2.2.1.mCurrentFrame.needsRedraw = false →
        list.Kept rendered state.mdpComp.mCachedFrame.isFBComposed fbHandle
  else (state.compose ctx dpy list).1.servesFramebuffer dpy = true

theorem hwcPrepare_drawable {dpy : Display} (hdraws : state.draws dpy list = true)
    (happs : list.appLayers ≠ []) (hreset : state.fbUpdate.mModeOn = false) :
    ∃ ctx' fbUpdate mdpComp composed,
      state.hwcPrepare ctx dpy (some list) =
        (ctx', { state with mdpComp, fbUpdate, yuvCount := list.yuvIndices.length }) ∧
      (state.compose ctx dpy list).2.2 = (mdpComp, composed) ∧
      (composed = false → mdpComp.mCurrentFrame = .reset list.numAppLayers) ∧
      mdpComp.mCurrentFrame.Drawable fbUpdate.mDest ctx.target.sEnabled list.numAppLayers ∧
      (mdpComp.mCurrentFrame.fbCount = 0 → fbUpdate.mModeOn = false) ∧
      ∀ rendered fbHandle, (mdpComp.mCurrentFrame.fbCount ≠ 0 → fbUpdate.mModeOn = true ∧
        (mdpComp.mCurrentFrame.needsRedraw = false →
          list.Kept rendered mdpComp.mCurrentFrame.isFBComposed fbHandle)) ↔
          state.FramebufferServed ctx dpy list rendered fbHandle := by
  obtain ⟨next, fbUpdate', mdpComp', composed, heq, hstands, hsame, hstacked⟩ :=
    state.mdpComp.prepare_session list (state.enter ctx dpy list) dpy state.fbUpdate
  have hcompose : state.compose ctx dpy list = (next, fbUpdate', mdpComp', composed) := heq
  have htarget : next.target = ctx.target := hstands.apart.2
  simp only [FramebufferServed, hwcPrepare, hdraws, hcompose, Bool.not_true, Bool.false_eq_true, if_false]
  cases composed with
  | true =>
    obtain ⟨hlayerCount, hcounts, hcounted, hon, hoff⟩ := MDPComp.prepare_accepted heq
    refine ⟨_, fbUpdate', mdpComp', true, rfl, rfl, by simp, ?_, ?_, fun rendered fbHandle => ?_⟩
    · refine ⟨hlayerCount, hcounts, hcounted, fun hdisabled => ?_, (hstacked rfl).nodup⟩
      have hrefused : (state.enter ctx dpy list).isFrameDoable = false := by
        have henter : (state.enter ctx dpy list).target = ctx.target := rfl
        rw [Context.isFrameDoable, henter, hdisabled, Bool.false_and, Bool.false_and]
      rw [MDPComp.prepare, hrefused] at heq
      simp at heq
    · intro hzero
      rw [hoff hzero, hreset]
    · rw [if_pos rfl]
      refine forall_congr' fun hcount => (and_iff_right (hon hcount)).trans (imp_congr_right fun hspared => ?_)
      have hremembered := (MDPComp.prepare_remembers heq).2.2 hspared
      exact list.kept_congr fun i hi => (hremembered.2 i hi).1.symm
  | false =>
    have hframe : mdpComp'.mCurrentFrame = .reset list.numAppLayers := by
      rw [MDPComp.prepare_rejected heq]
      rfl
    have hoff : next.target.hasOverlay = false → fbUpdate'.mModeOn = false := by
      intro hoverlay
      rw [hsame (htarget ▸ hoverlay), hreset]
    obtain ⟨hmode, -⟩ := @FBUpdate.prepare_mModeOn _ next dpy fbUpdate' 0 hoff
    have hcount : (list.numAppLayers : Int) ≠ 0 := by
      rw [DisplayContents.numAppLayers, Int.natCast_ne_zero]
      exact fun hzero => happs (List.eq_nil_of_length_eq_zero hzero)
    refine ⟨_, _, mdpComp', false, rfl, rfl, fun _ => hframe, ?_, ?_, fun rendered fbHandle => ?_⟩
    · rw [hframe]
      refine ⟨rfl, Int.zero_add _, FrameInfo.counted_reset _, fun _ => ⟨rfl, fun _ => rfl⟩, ?_⟩
      exact FrameInfo.planes_reset_nodup _ _
    · rw [hframe]
      exact fun hzero => absurd hzero hcount
    · rw [hframe, if_neg Bool.false_ne_true, hmode]
      have hredraw : (FrameInfo.reset list.numAppLayers : FrameInfo numPipes).needsRedraw ≠ false := by
        simp [FrameInfo.reset]
      exact ⟨fun hserved => (hserved hcount).1, fun hserved _ =>
        ⟨hserved, fun hkept => absurd hkept hredraw⟩⟩

theorem prepareScreen_marked {target : CopyBitTarget}
    {allocated : Option (Fin numRenderBuffers → Nat)} {screen : Screen}
    (hdraws : state.draws .primary list = true) (happs : list.appLayers ≠ [])
    (hreset : state.fbUpdate.mModeOn = false) :
    ((state.prepareScreen target allocated ctx .primary (some list) (screen.reset (some list))).Marked
        (state.hwcPrepare ctx .primary (some list)).2.mdpComp.mCurrentFrame
        (state.hwcPrepare ctx .primary (some list)).2.fbUpdate.mModeOn list) ∧
      (state.prepareScreen target allocated ctx .primary (some list)
        (screen.reset (some list))).fbHandle = screen.fbHandle := by
  have hcomes : state.comesToLayers .primary list = true := by
    rw [draws] at hdraws
    simp at hdraws
    simp [comesToLayers, hdraws]
  have hany : (some list).any (fun list => !list.appLayers.isEmpty) = true := by
    simpa using happs
  obtain ⟨ctx', fbUpdate, mdpComp, composed, hprepare, hcompose, hframe, -⟩ :=
    @hwcPrepare_drawable _ state ctx list .primary hdraws happs hreset
  rcases hcall : state.compose ctx .primary list with ⟨next, fbUpdate', rest⟩
  rw [hcall] at hcompose
  dsimp only at hcompose
  subst hcompose
  rw [prepareScreen, hprepare]
  simp only [hcomes, hdraws, Bool.not_true, Bool.false_eq_true, if_false, hcall]
  -- The screen that copybit is given.
  generalize hgiven : (if composed then Screen.setMDPCompLayerFlags
    { (screen.reset (some list)).resetLayerProp with numAppLayers := list.numAppLayers }
      mdpComp.mCurrentFrame else
    { (screen.reset (some list)).resetLayerProp with numAppLayers := list.numAppLayers }) = given
  have hfacts : given.numAppLayers = list.numAppLayers ∧ given.fbHandle = screen.fbHandle ∧
      (∀ i, given.copyBitFlag i = false) ∧ given.copyBit = screen.copyBit.map (·.reset) ∧
      (∀ i < list.numAppLayers, mdpComp.mCurrentFrame.isFBComposed i = false →
        given.mdpCompFlag i = true) ∧
      ∀ i < list.numAppLayers, given.compositionType i = .framebuffer ↔
        mdpComp.mCurrentFrame.isFBComposed i = true ∧ mdpComp.mCurrentFrame.needsRedraw = true := by
    rw [← hgiven]
    cases composed with
    | true =>
      refine ⟨rfl, rfl, fun _ => rfl, rfl, fun i hi hmdp => ?_, fun i hi => ?_⟩
      · simp [Screen.setMDPCompLayerFlags, hi, hmdp]
      · simp only [if_true, Screen.setMDPCompLayerFlags, Screen.resetLayerProp, Screen.reset, hany, hi, true_and]
        cases mdpComp.mCurrentFrame.isFBComposed i <;>
          cases mdpComp.mCurrentFrame.needsRedraw <;> simp
    | false =>
      rw [hframe rfl]
      refine ⟨rfl, rfl, fun _ => rfl, rfl, fun i _ hmdp => ?_, fun i _ => ?_⟩
      · simp [FrameInfo.reset] at hmdp
      · simp [Screen.resetLayerProp, Screen.reset, happs, FrameInfo.reset]
  obtain ⟨hcount, hhandle, hnew, hcopyBit, hflags, htypes⟩ := hfacts
  have hidle : ∀ copyBit, given.copyBit = some copyBit → copyBit.mCopyBitDraw = false := by
    intro copyBit hsome
    rw [hcopyBit, Option.map_eq_some_iff] at hsome
    obtain ⟨before, -, rfl⟩ := hsome
    rfl
  obtain ⟨screen', heq, hcount', hhandle', hflags', hcases⟩ :=
    @Screen.prepareCopyBit_cases given list target allocated (ctx.target.xres .primary)
      (ctx.target.yres .primary) _ fbUpdate hnew hidle
  rw [heq]
  refine ⟨⟨hcount'.trans hcount, hflags' ▸ hflags, ?_⟩, hhandle'.trans hhandle⟩
  rcases hcases with ⟨hdone, hkept⟩ | ⟨hdone, hmode, ⟨i, hi, hleft⟩, htaken⟩
  · exact .inl ⟨hdone, hkept ▸ htypes⟩
  have hredraw := ((htypes i (hcount ▸ hi)).mp hleft).2
  refine .inr ⟨hdone, hmode, hredraw, fun hhandles j hj => ?_⟩
  have hsome : ∀ i < given.numAppLayers, (list.hwLayer i).handle.isSome = true := by
    intro i hi
    rw [hcount] at hi
    rw [DisplayContents.hwLayer, List.getD_eq_getElem?_getD, List.getElem?_eq_getElem hi,
      Option.getD_some]
    exact hhandles _ (List.getElem_mem hi)
  obtain ⟨hflag, htype⟩ := htaken hsome j (hcount ▸ hj)
  refine ⟨?_, htype⟩
  rw [hflag, Bool.eq_iff_iff, decide_eq_true_eq, htypes j hj, and_iff_left hredraw]

end DisplayState

namespace Composer

variable {numPipes : Nat}

/-- After a frame of the primary display in which nothing fails, every layer of the list is shown exactly
once if and only if the framebuffer is served: composed layers that are not drawn again are those that the cached
buffer was last rendered with, and where `MDPComp::prepare` fails the framebuffer finds a pipe that the driver
accepts. -/
theorem hwcPrepare_showsEachOnce_iff (composer : Composer numPipes) (target : CopyBitTarget)
    (allocated : Option (Fin numRenderBuffers → Nat)) (lists : Display → Option DisplayContents)
    (answers : DrawAnswers numPipes) (fbLayer : Layer) (rendered : Nat → Option LayerCache) {list : DisplayContents}
    (hlist : lists .primary = some list) (happs : list.appLayers ≠ [])
    (hactive : (composer.displays .primary).isActive = true)
    (hhandles : ∀ layer ∈ list.appLayers, layer.handle.isSome = true)
    (hfb : list.fbLayer.handle.isSome = true) (hfbLayer : fbLayer.handle.isSome = true)
    (hwell : ((composer.hwcPrepare target allocated lists).displays .primary).DrawsWell
      (composer.hwcPrepare target allocated lists).ctx answers
      ((composer.hwcPrepare target allocated lists).screens .primary) { list with fbLayer }) :
    ((composer.hwcPrepare target allocated lists).displays .primary).ShowsEachOnce
        (composer.hwcPrepare target allocated lists).ctx answers
        ((composer.hwcPrepare target allocated lists).screens .primary) { list with fbLayer } rendered ↔
      (composer.displays .primary).reset.FramebufferServed
        (composer.ctx.arrive composer.displays lists .primary) .primary list rendered
        (composer.screens .primary).fbHandle := by
  have hdraws : (composer.displays .primary).reset.draws .primary list = true := by
    have hactive' : (composer.displays .primary).reset.isActive = true := hactive
    simp [DisplayState.draws, hactive', hfb, happs]
  obtain ⟨ctx', fbUpdate, mdpComp, composed, hprepare, -, -, hframe, hoff, hserved⟩ :=
    @DisplayState.hwcPrepare_drawable _ (composer.displays .primary).reset
      (composer.ctx.arrive composer.displays lists .primary) list .primary hdraws happs rfl
  obtain ⟨hmarked, hhandle⟩ := @DisplayState.prepareScreen_marked _ (composer.displays .primary).reset
    (composer.ctx.arrive composer.displays lists .primary) list target allocated
    (composer.screens .primary) hdraws happs rfl
  have htarget := (composer.displays .primary).reset.hwcPrepare_target
    (composer.ctx.arrive composer.displays lists .primary) .primary (some list)
  have hdisplay : (composer.hwcPrepare target allocated lists).displays .primary =
      { (composer.displays .primary).reset with
        mdpComp, fbUpdate, yuvCount := list.yuvIndices.length } := by
    rw [hwcPrepare, Context.hwcPrepare]
    dsimp only
    rw [Context.prepareDisplay, hlist, hprepare]
  have hctx : (composer.hwcPrepare target allocated lists).ctx.target =
      (composer.ctx.arrive composer.displays lists .primary).target := by
    rw [← htarget, hwcPrepare, Context.hwcPrepare]
    dsimp only
    rw [Context.prepareDisplay, hlist]
  have hscreen : (composer.hwcPrepare target allocated lists).screens .primary =
      (composer.displays .primary).reset.prepareScreen target allocated
        (composer.ctx.arrive composer.displays lists .primary) .primary (some list)
        ((composer.screens .primary).reset (some list)) := by
    rw [← hlist]
    rfl
  rw [hprepare] at hmarked
  rw [← hscreen] at hmarked hhandle
  rw [← hserved, ← hhandle]
  rw [hdisplay] at hwell ⊢
  have hmarked' : ((composer.hwcPrepare target allocated lists).screens .primary).Marked
      mdpComp.mCurrentFrame fbUpdate.mModeOn { list with fbLayer } :=
    ⟨hmarked.layers, hmarked.mdpCompFlag, hmarked.types⟩
  exact hwell.showsEachOnce_iff happs hactive hfbLayer (hctx ▸ hframe) hmarked' hhandles hoff

end Composer

/-! ### A framebuffer that is not shown -/

def sampleScreen : Screen where
  numAppLayers := 0
  fbHandle := none
  compositionType := fun _ => .framebuffer
  mdpCompFlag := fun _ => false
  copyBitFlag := fun _ => false
  copyBit := none

def sampleComposer (driver : List Bool) : Composer 4 where
  ctx := sampleContext driver
  displays := fun _ => sampleDisplay
  screens := fun _ => sampleScreen

def sampleFrame (display : Display) : Option DisplayContents :=
  if display = .primary then some ⟨[sampleLayer 1 false], sampleLayer 3 false, true⟩ else none

def sampleAnswers : DrawAnswers 4 := ⟨fun _ => true, fun _ => true, fun _ => true, true⟩

def sampleCopyBitTarget : CopyBitTarget := ⟨false, 0, fun _ _ => false⟩

def samplePrepared (driver : List Bool) : Composer 4 :=
  (sampleComposer driver).hwcPrepare sampleCopyBitTarget none sampleFrame

theorem samplePrepared_drawsWell (driver : List Bool) (hdriver : driver = [] ∨ driver = [false, false]) :
    ((samplePrepared driver).displays .primary).DrawsWell (samplePrepared driver).ctx sampleAnswers
      ((samplePrepared driver).screens .primary)
      ⟨[sampleLayer 1 false], sampleLayer 3 false, true⟩ := by
  rcases hdriver with rfl | rfl
  · exact ⟨⟨_, rfl⟩, by decide⟩
  · exact ⟨⟨_, rfl⟩, by decide⟩

/-- With a driver that accepts everything the layer is shown. -/
theorem Composer.hwcPrepare_showsEachOnce_accepted :
    ((samplePrepared []).displays .primary).ShowsEachOnce (samplePrepared []).ctx sampleAnswers
      ((samplePrepared []).screens .primary) ⟨[sampleLayer 1 false], sampleLayer 3 false, true⟩ fun _ => none :=
  (@hwcPrepare_showsEachOnce_iff 4 (sampleComposer []) sampleCopyBitTarget none sampleFrame
    sampleAnswers (sampleLayer 3 false) (fun _ => none) ⟨[sampleLayer 1 false], sampleLayer 3 false, true⟩ rfl
    (by decide) rfl (by decide) rfl rfl (samplePrepared_drawsWell [] (.inl rfl))).mpr (by
      rw [DisplayState.FramebufferServed]
      decide)

/-- When the driver rejects the base pipe and then the framebuffer, the layer is on no pipe, and neither
half of the frame reports a failure. -/
theorem Composer.hwcPrepare_hidesLayer :
    ((samplePrepared [false, false]).displays .primary).DrawsWell (samplePrepared [false, false]).ctx
        sampleAnswers ((samplePrepared [false, false]).screens .primary)
        ⟨[sampleLayer 1 false], sampleLayer 3 false, true⟩ ∧
      ((samplePrepared [false, false]).displays .primary).queued (samplePrepared [false, false]).ctx
        sampleAnswers ((samplePrepared [false, false]).screens .primary)
        ⟨[sampleLayer 1 false], sampleLayer 3 false, true⟩ = [] ∧
      ¬((samplePrepared [false, false]).displays .primary).ShowsEachOnce
        (samplePrepared [false, false]).ctx sampleAnswers
        ((samplePrepared [false, false]).screens .primary)
        ⟨[sampleLayer 1 false], sampleLayer 3 false, true⟩ fun _ => none :=
  ⟨samplePrepared_drawsWell _ (.inr rfl), by decide, fun hshows => by
    have honce := hshows.once 0 (by decide)
    revert honce
    decide⟩

end Nozomi
