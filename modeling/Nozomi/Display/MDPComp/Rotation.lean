import Nozomi.Display.MDPComp.Stacking
import Nozomi.Display.Sync.Code

/-!
# The layers behind a rotator when a composition is given up

`configureLowRes` enters a rotated video in `mLayerRotMap` before the step that may fail. This module
follows the map through `MDPComp::prepare`, which starts with the empty one of `hwc_prepare`.
-/

namespace Nozomi

namespace Context

variable {numPipes : Nat}

/-! ### The map -/

def configureRotMap (ctx : Context numPipes) (layer : Layer) (i : Nat) (zOrder : Int)
    (dest : Fin numPipes) (rotMap : LayerRotMap) : LayerRotMap :=
  let configured := (ctx.configureLowRes layer zOrder dest).2
  if layer.handle.isNone then rotMap
  else if layer.isRotated then
    if ctx.rotator.headD true then
      let rotMap := rotMap.add i
      if configured then rotMap else .empty
    else rotMap
  else if configured then rotMap else .empty

def programRotMap (list : DisplayContents) :
    List Nat → Int → Bool → Context numPipes → FrameInfo numPipes → LayerRotMap → LayerRotMap
  | [], _, _, _, _, rotMap => rotMap
  | i :: layers, mdpNextZOrder, fbBatch, ctx, frame, rotMap =>
    if !frame.isFBComposed i then
      match frame.pipeInfo i with
      | some ⟨_, some dest⟩ =>
        let frame := frame.setPipeInfo i ⟨mdpNextZOrder, some dest⟩
        let rotMap := ctx.configureRotMap (list.hwLayer i) i mdpNextZOrder dest rotMap
        let (ctx, configured) := ctx.configureLowRes (list.hwLayer i) mdpNextZOrder dest
        if configured then programRotMap list layers (mdpNextZOrder + 1) fbBatch ctx frame rotMap
        else rotMap
      | _ => rotMap
    else if !fbBatch then programRotMap list layers (mdpNextZOrder + 1) true ctx frame rotMap
    else programRotMap list layers mdpNextZOrder fbBatch ctx frame rotMap

def programStart (dpy : Display) (list : DisplayContents) (ctx : Context numPipes)
    (frame : FrameInfo numPipes) : Option (Int × Context numPipes × FrameInfo numPipes) :=
  let (ctx, frame, allocated) := allocLayerPipes dpy list { ctx with mDMAInUse := false } frame
  if !allocated then none
  else
    match frame.mdpBasePipe with
    | some basePipe =>
      let (ctx, configured) := ctx.configMdp 0 basePipe
      if configured then some (1, ctx, frame) else none
    | none => some (0, ctx, frame)

end Context

namespace MDPComp

variable {numPipes : Nat} (mdpComp : MDPComp numPipes) (list : DisplayContents) (ctx : Context numPipes)
  (dpy : Display) (fbUpdate : FBUpdate numPipes)

def programFrameStart (frame : FrameInfo numPipes) :
    Option (Int × Context numPipes × FrameInfo numPipes) :=
  let frame := frame.map
  let (ctx, _, prepared) :=
    if 0 ≤ frame.fbZ then fbUpdate.prepare ctx dpy frame.fbZ else (ctx, fbUpdate, true)
  if !prepared then none else ctx.programStart dpy list frame

def layerLoop : Option (Int × Context numPipes × FrameInfo numPipes) :=
  if !ctx.isFrameDoable then none
  else
    let (frame, full) :=
      ctx.isFullFrameDoable dpy list mdpComp.mCachedFrame (.reset list.numAppLayers)
    let (frame, doable) := if full then (frame, true) else ctx.isOnlyVideoDoable dpy list frame
    if !doable then none else programFrameStart list ctx dpy fbUpdate frame

def prepareRotMap (rotMap : LayerRotMap) : LayerRotMap :=
  match mdpComp.layerLoop list ctx dpy fbUpdate with
  | none => rotMap
  | some (zOrder, ctx, frame) =>
    ctx.programRotMap list (List.range frame.layerCount) zOrder false frame rotMap

end MDPComp

/-! ### The first answer that ends the loop -/

/-- Of the layers to configure, some are rotated. The driver and the rotator agree until the rotator
refuses one, and the map holds a layer by then. -/
def RefusesLate (isRotated : Nat → Bool) (rotator driver : List Bool) (layers : List Nat)
    (held : Prop) : Prop :=
  ∃ taken i rest, layers = taken ++ i :: rest ∧ isRotated i = true ∧
    (held ∨ ∃ j ∈ taken, isRotated j = true) ∧
    rotator.getD (taken.countP isRotated) true = false ∧
    (∀ k < taken.countP isRotated, rotator.getD k true = true) ∧
    ∀ k < taken.length, driver.getD k true = true

section

variable {isRotated : Nat → Bool} {rotator driver : List Bool} {layers : List Nat} {held : Prop}

private theorem getD_tail (answers : List Bool) (k : Nat) :
    answers.tail.getD k true = answers.getD (k + 1) true := by
  cases answers <;> rfl

private theorem headD_eq_getD (answers : List Bool) : answers.headD true = answers.getD 0 true := by
  cases answers <;> rfl

theorem refusesLate_nil : ¬RefusesLate isRotated rotator driver [] held := by
  rintro ⟨taken, i, rest, heq, -⟩
  simp at heq

theorem refusesLate_refused {i : Nat} (hi : isRotated i = true) (hrefused : rotator.headD true = false) :
    RefusesLate isRotated rotator driver (i :: layers) held ↔ held := by
  rw [headD_eq_getD] at hrefused
  constructor
  · rintro ⟨taken, j, rest, heq, -, hheld, -, hserved, -⟩
    cases taken with
    | nil => simpa using hheld
    | cons first taken =>
      obtain ⟨rfl, -⟩ := List.cons.inj heq
      have hfirst := hserved 0 (by simp [hi])
      rw [hrefused] at hfirst
      exact Bool.noConfusion hfirst
  · intro hheld
    exact ⟨[], i, layers, rfl, hi, .inl hheld, by simpa using hrefused, by simp, by simp⟩

theorem refusesLate_rejected {i : Nat} (hi : isRotated i = true → rotator.headD true = true)
    (hrejected : driver.headD true = false) :
    ¬RefusesLate isRotated rotator driver (i :: layers) held := by
  rw [headD_eq_getD] at hi hrejected
  rintro ⟨taken, j, rest, heq, hj, -, hrefused, -, haccepted⟩
  cases taken with
  | nil =>
    obtain ⟨rfl, -⟩ := List.cons.inj heq
    rw [List.countP_nil, hi hj] at hrefused
    exact Bool.noConfusion hrefused
  | cons first taken =>
    have hfirst := haccepted 0 (by simp)
    rw [hrejected] at hfirst
    exact Bool.noConfusion hfirst

theorem refusesLate_configured {i : Nat} (hi : isRotated i = true → rotator.headD true = true)
    (haccepted : driver.headD true = true) :
    RefusesLate isRotated rotator driver (i :: layers) held ↔
      RefusesLate isRotated (if isRotated i then rotator.tail else rotator) driver.tail layers
        (held ∨ isRotated i = true) := by
  rw [headD_eq_getD] at hi haccepted
  -- The answers for the layers behind it are counted from the next one on.
  have hrotator : ∀ taken : List Nat, ∀ k,
      (if isRotated i then rotator.tail else rotator).getD k true =
        rotator.getD (k + if isRotated i then 1 else 0) true := by
    intro taken k
    split
    · rw [getD_tail]
    · rw [Nat.add_zero]
  constructor
  · rintro ⟨taken, j, rest, heq, hj, hheld, hrefused, hserved, hdriver⟩
    cases taken with
    | nil =>
      obtain ⟨rfl, -⟩ := List.cons.inj heq
      rw [List.countP_nil, hi hj] at hrefused
      exact Bool.noConfusion hrefused
    | cons first taken =>
      obtain ⟨rfl, rfl⟩ := List.cons.inj heq
      rw [List.countP_cons] at hrefused hserved
      refine ⟨taken, j, rest, rfl, hj, ?_, ?_, fun k hk => ?_, fun k hk => ?_⟩
      · rcases hheld with hheld | ⟨other, hother, hrotated⟩
        · exact .inl (.inl hheld)
        · rcases List.mem_cons.mp hother with rfl | hother
          · exact .inl (.inr hrotated)
          · exact .inr ⟨other, hother, hrotated⟩
      · rw [hrotator taken]
        exact hrefused
      · rw [hrotator taken]
        exact hserved _ (by omega)
      · rw [getD_tail]
        exact hdriver _ (by simpa using hk)
  · rintro ⟨taken, j, rest, rfl, hj, hheld, hrefused, hserved, hdriver⟩
    refine ⟨i :: taken, j, rest, rfl, hj, ?_, ?_, fun k hk => ?_, fun k hk => ?_⟩
    · rcases hheld with (hheld | hrotated) | ⟨other, hother, hrotated⟩
      · exact .inl hheld
      · exact .inr ⟨i, List.mem_cons_self, hrotated⟩
      · exact .inr ⟨other, List.mem_cons_of_mem i hother, hrotated⟩
    · rw [List.countP_cons, ← hrotator taken]
      exact hrefused
    · rw [List.countP_cons] at hk
      by_cases hrotated : isRotated i = true
      · cases k with
        | zero => exact hi hrotated
        | succ k =>
          have hk' := hserved k (by simp [hrotated] at hk; omega)
          rwa [hrotator taken, if_pos hrotated] at hk'
      · have hk' := hserved k (by simpa [hrotated] using hk)
        rwa [hrotator taken, if_neg hrotated, Nat.add_zero] at hk'
    · cases k with
      | zero => exact haccepted
      | succ k =>
        rw [← getD_tail]
        exact hdriver k (by simpa using hk)

end

/-! ### Every layer has its pipe -/

namespace FrameInfo

variable {numPipes : Nat} {frame : FrameInfo numPipes}

theorem map_layerToMDP_isSome {i : Nat} (hi : i < frame.layerCount) (hmdp : frame.isFBComposed i = false) :
    (frame.map.layerToMDP i).isSome = true := by
  have hfold : ∀ bound, ∀ i < bound, frame.isFBComposed i = false →
      (((List.range bound).foldl frame.mapLayer (frame.layerToMDP, 0)).1 i).isSome = true := by
    intro bound
    induction bound with
    | zero => exact fun i hi => absurd hi (Nat.not_lt_zero i)
    | succ bound ih =>
      intro i hi hmdp
      rw [List.range_succ, List.foldl_append, List.foldl_cons, List.foldl_nil, mapLayer]
      rcases Nat.lt_succ_iff_lt_or_eq.mp hi with hlt | rfl
      · split
        · exact ih i hlt hmdp
        · dsimp only
          rw [Function.update_of_ne (Nat.ne_of_lt hlt)]
          exact ih i hlt hmdp
      · rw [if_neg (by simp [hmdp])]
        dsimp only
        rw [Function.update_self]
        rfl
  exact hfold frame.layerCount i hi hmdp

theorem pipeInfo_of_layerPipe {i : Nat} {dest : Fin numPipes} (hpipe : frame.layerPipe i = some dest) :
    ∃ zOrder, frame.pipeInfo i = some ⟨zOrder, some dest⟩ := by
  rw [layerPipe] at hpipe
  obtain ⟨mdpIndex, hindex, hpipeAt⟩ := Option.bind_eq_some_iff.mp hpipe
  rw [pipeAt] at hpipeAt
  obtain ⟨⟨zOrder, index⟩, hentry, hdest⟩ := Option.bind_eq_some_iff.mp hpipeAt
  dsimp only at hdest
  exact ⟨zOrder, by rw [pipeInfo, hindex, Option.bind_some, hentry, hdest]⟩

theorem layerPipe_setPipeInfo_isSome {i j mdpIndex : Nat} (hindex : frame.layerToMDP i = some mdpIndex)
    (zOrder : Int) (dest : Fin numPipes) (hj : j = i ∨ (frame.layerPipe j).isSome = true) :
    ((frame.setPipeInfo i ⟨zOrder, some dest⟩).layerPipe j).isSome = true := by
  have hsame : (frame.setPipeInfo i ⟨zOrder, some dest⟩).layerToMDP = frame.layerToMDP := by
    rw [sameLayers_setPipeInfo i ⟨zOrder, some dest⟩]
  rw [layerPipe, hsame]
  rcases hj with rfl | hpipe
  · rw [hindex, Option.bind_some, pipeAt_setPipeInfo, if_pos hindex]
    rfl
  rw [layerPipe] at hpipe
  cases hother : frame.layerToMDP j with
  | none => simp [hother] at hpipe
  | some other =>
    rw [hother, Option.bind_some] at hpipe
    rw [Option.bind_some, pipeAt_setPipeInfo]
    split
    · rfl
    · exact hpipe

end FrameInfo

namespace Context

variable {numPipes : Nat} {dpy : Display} {list : DisplayContents}

theorem allocPipes_sameLayers (typeOf : Nat → MdpPipeType) {layers : List Nat} :
    ∀ (ctx : Context numPipes) (frame : FrameInfo numPipes),
      frame.SameLayers (allocPipes dpy typeOf layers ctx frame).2.1 := by
  induction layers with
  | nil => exact fun _ frame => .refl frame
  | cons i layers ih =>
    intro ctx frame
    rw [allocPipes]
    dsimp only
    split
    · exact (FrameInfo.sameLayers_setPipeInfo i _).trans (ih _ _)
    · exact FrameInfo.sameLayers_setPipeInfo i _

theorem allocPipes_found (typeOf : Nat → MdpPipeType) {layers : List Nat} :
    ∀ {ctx ctx' : Context numPipes} {frame frame' : FrameInfo numPipes},
      allocPipes dpy typeOf layers ctx frame = (ctx', frame', true) →
      (∀ i ∈ layers, (frame.layerToMDP i).isSome = true) →
      ∀ i, i ∈ layers ∨ (frame.layerPipe i).isSome = true → (frame'.layerPipe i).isSome = true := by
  induction layers with
  | nil =>
    intro ctx ctx' frame frame' heq _ i hi
    rw [allocPipes, Prod.mk.injEq, Prod.mk.injEq] at heq
    rw [← heq.2.1]
    exact hi.resolve_left List.not_mem_nil
  | cons first layers ih =>
    intro ctx ctx' frame frame' heq hindex i hi
    obtain ⟨mdpIndex, hfirst⟩ := Option.isSome_iff_exists.mp (hindex first List.mem_cons_self)
    rw [allocPipes] at heq
    generalize ctx.getMdpPipe dpy (typeOf first) = found at heq
    obtain ⟨next, index⟩ := found
    cases index with
    | none => simp at heq
    | some dest =>
      dsimp only at heq
      rw [if_pos (by rfl)] at heq
      have hsame : (frame.setPipeInfo first ⟨0, some dest⟩).layerToMDP = frame.layerToMDP := by
        rw [FrameInfo.sameLayers_setPipeInfo first ⟨0, some dest⟩]
      refine ih heq (by rw [hsame]; exact fun j hj => hindex j (List.mem_cons_of_mem first hj)) i ?_
      by_cases hmem : i ∈ layers
      · exact .inl hmem
      · refine .inr (FrameInfo.layerPipe_setPipeInfo_isSome hfirst 0 dest ?_)
        rcases hi with hin | hpipe
        · exact .inl ((List.mem_cons.mp hin).resolve_right hmem)
        · exact .inr hpipe

theorem isSupported_handle {ctx : Context numPipes} {i : Nat} (hsupported : ctx.isSupported dpy list i = true) :
    (list.hwLayer i).skip = false ∧ (list.hwLayer i).handle.isSome = true := by
  rw [isSupported] at hsupported
  split at hsupported
  · exact Bool.noConfusion hsupported
  next hskip =>
    refine ⟨by simpa using hskip, ?_⟩
    by_contra hnone
    have hdimension : ¬ctx.isValidDimension dpy (list.hwLayer i) = true := by
      simp [isValidDimension, hnone]
    rw [if_pos hdimension] at hsupported
    iterate 3
      split at hsupported
      · exact Bool.noConfusion hsupported
    split at hsupported <;> exact Bool.noConfusion hsupported

theorem allocLayerPipes_found {ctx ctx' : Context numPipes} {frame frame' : FrameInfo numPipes}
    (heq : allocLayerPipes dpy list ctx frame = (ctx', frame', true))
    (hcount : frame.layerCount = list.numAppLayers)
    (hindex : ∀ i < frame.layerCount, frame.isFBComposed i = false → (frame.layerToMDP i).isSome = true)
    (hskip : ∀ i < frame.layerCount, frame.isFBComposed i = false → (list.hwLayer i).skip = false) :
    (∀ i < frame.layerCount, frame.isFBComposed i = false → (frame'.layerPipe i).isSome = true) ∧
      frame'.layerCount = frame.layerCount ∧ frame'.isFBComposed = frame.isFBComposed := by
  -- The two loops over the layers, for the frame with its base pipe.
  have hloops : ∀ (ctx : Context numPipes) (based : FrameInfo numPipes),
      based.layerCount = frame.layerCount → based.isFBComposed = frame.isFBComposed →
      based.layerToMDP = frame.layerToMDP →
      (let (ctx, frame, found) := allocPipes dpy (fun _ => .vg) (yuvLayers list based) ctx based
        if !found then (ctx, frame, false)
        else allocPipes dpy (fun i => ctx.uiPipeType (list.hwLayer i)) (uiLayers list frame) ctx frame) =
        (ctx', frame', true) →
      (∀ i < frame.layerCount, frame.isFBComposed i = false → (frame'.layerPipe i).isSome = true) ∧
        frame'.layerCount = frame.layerCount ∧ frame'.isFBComposed = frame.isFBComposed := by
    intro ctx based hbasedCount hflags hbasedIndex hloops
    have hvideosSame := @allocPipes_sameLayers _ dpy (fun _ => .vg) (yuvLayers list based) ctx based
    generalize hvideos : allocPipes dpy (fun _ => .vg) (yuvLayers list based) ctx based = videos
      at hloops hvideosSame
    obtain ⟨next, middle, found⟩ := videos
    cases found with
    | false => simp at hloops
    | true =>
      dsimp only at hloops hvideosSame
      rw [if_neg (by decide)] at hloops
      have hmiddleFlags : middle.isFBComposed = frame.isFBComposed := by rw [hvideosSame, hflags]
      have hmiddleCount : middle.layerCount = frame.layerCount := by rw [hvideosSame, hbasedCount]
      have hmiddleIndex : middle.layerToMDP = frame.layerToMDP := by rw [hvideosSame, hbasedIndex]
      have hlastSame := @allocPipes_sameLayers _ dpy (fun i => next.uiPipeType (list.hwLayer i))
        (uiLayers list middle) next middle
      rw [hloops] at hlastSame
      dsimp only at hlastSame
      refine ⟨fun i hi hmdp => ?_, by rw [hlastSame, hmiddleCount], by rw [hlastSame, hmiddleFlags]⟩
      refine allocPipes_found _ hloops (fun j hj => ?_) i ?_
      · rw [uiLayers, List.mem_filter, List.mem_range, hmiddleCount, hmiddleFlags] at hj
        rw [hmiddleIndex]
        exact hindex j hj.1 (by simp at hj; exact hj.2.1)
      · -- A layer is a video or not; the first loop is for the videos.
        by_cases hvideo : (list.hwLayer i).isYuvBuffer = true
        · right
          refine allocPipes_found _ hvideos (fun j hj => ?_) i (.inl ?_)
          · rw [yuvLayers, List.mem_filter, hflags] at hj
            rw [hbasedIndex]
            exact hindex j (hcount ▸ Context.yuvIndices_lt hj.1) (by simpa using hj.2)
          · rw [yuvLayers, List.mem_filter, hflags, DisplayContents.yuvIndices, List.mem_filter,
              List.mem_range]
            exact ⟨⟨hcount ▸ hi, by simp [hskip i hi hmdp, hvideo]⟩, by simp [hmdp]⟩
        · left
          rw [uiLayers, List.mem_filter, List.mem_range, hmiddleCount, hmiddleFlags]
          exact ⟨hi, by simp [hmdp, hvideo]⟩
  rw [allocLayerPipes] at heq
  by_cases hneeded : ctx.baseNeeded dpy list frame = true
  · rw [if_pos hneeded] at heq
    generalize ctx.getMdpPipe dpy .any = found at heq
    obtain ⟨next, index⟩ := found
    cases index with
    | none => simp at heq
    | some basePipe => exact hloops next { frame with mdpBasePipe := some basePipe } rfl rfl rfl heq
  · rw [if_neg hneeded] at heq
    exact hloops ctx frame rfl rfl rfl heq

/-! ### The loop -/

theorem configureLowRes_cases (ctx : Context numPipes) {layer : Layer} (hhandle : layer.handle.isSome = true)
    (zOrder : Int) (dest : Fin numPipes) :
    ∃ ctx' configured, ctx.configureLowRes layer zOrder dest = (ctx', configured) ∧
      configured = ((!layer.isRotated || ctx.rotator.headD true) && ctx.driver.headD true) ∧
      (configured = true → ctx'.driver = ctx.driver.tail ∧
        ctx'.rotator = if layer.isRotated then ctx.rotator.tail else ctx.rotator) := by
  have hnone : ¬layer.handle.isNone = true := by
    rw [Option.isNone_iff_eq_none]
    exact Option.isSome_iff_ne_none.mp hhandle
  rw [configureLowRes, if_neg hnone]
  cases hneeds : layer.isRotated with
  | false =>
    rw [if_neg (by decide)]
    exact ⟨_, _, rfl, by simp, fun _ => ⟨rfl, by simp⟩⟩
  | true =>
    rw [if_pos rfl]
    dsimp only
    cases hserved : ctx.rotator.headD true with
    | false =>
      rw [if_neg (by decide)]
      exact ⟨_, _, rfl, by simp, by simp⟩
    | true =>
      rw [if_pos rfl]
      exact ⟨_, _, rfl, by simp, fun _ => ⟨rfl, by simp⟩⟩

theorem add_mLayer_ne_nil (rotMap : LayerRotMap) (i : Nat) : (rotMap.add i).mLayer ≠ [] := by
  rw [LayerRotMap.add]
  split
  next hfull =>
    intro hnil
    rw [hnil] at hfull
    exact absurd hfull (by decide)
  · simp

theorem configureRotMap_held (ctx : Context numPipes) {layer : Layer}
    (hhandle : layer.handle.isSome = true) (i : Nat) (zOrder : Int) (dest : Fin numPipes)
    (rotMap : LayerRotMap) :
    (ctx.configureRotMap layer i zOrder dest rotMap).mLayer ≠ [] ↔
      if layer.isRotated = true ∧ ctx.rotator.headD true = false then rotMap.mLayer ≠ []
      else (ctx.configureLowRes layer zOrder dest).2 = true ∧
        (rotMap.mLayer ≠ [] ∨ layer.isRotated = true) := by
  have hnone : ¬layer.handle.isNone = true := by
    rw [Option.isNone_iff_eq_none]
    exact Option.isSome_iff_ne_none.mp hhandle
  rw [configureRotMap, if_neg hnone]
  dsimp only
  generalize (ctx.configureLowRes layer zOrder dest).2 = configured
  cases layer.isRotated with
  | false =>
    cases configured with
    | false => simp [LayerRotMap.empty]
    | true => simp
  | true =>
    cases ctx.rotator.headD true with
    | false => simp
    | true =>
      cases configured with
      | false => simp [LayerRotMap.empty]
      | true => simp [add_mLayer_ne_nil]

theorem programRotMap_iff (list : DisplayContents) {layers : List Nat} :
    ∀ (zOrder : Int) (fbBatch : Bool) (ctx : Context numPipes) (frame : FrameInfo numPipes)
      (rotMap : LayerRotMap),
      (∀ i ∈ layers, frame.isFBComposed i = false →
        (frame.layerPipe i).isSome = true ∧ (list.hwLayer i).handle.isSome = true) →
      ((programLayers list layers zOrder fbBatch ctx frame).2.2 = false ∧
          (programRotMap list layers zOrder fbBatch ctx frame rotMap).mLayer ≠ [] ↔
        RefusesLate (fun i => (list.hwLayer i).isRotated) ctx.rotator ctx.driver
          (layers.filter fun i => !frame.isFBComposed i) (rotMap.mLayer ≠ [])) := by
  induction layers with
  | nil =>
    intro zOrder fbBatch ctx frame rotMap _
    exact iff_of_false (by simp [programLayers]) refusesLate_nil
  | cons i layers ih =>
    intro zOrder fbBatch ctx frame rotMap hlayers
    have hrest : ∀ j ∈ layers, frame.isFBComposed j = false →
        (frame.layerPipe j).isSome = true ∧ (list.hwLayer j).handle.isSome = true :=
      fun j hj => hlayers j (List.mem_cons_of_mem i hj)
    rw [programLayers, programRotMap]
    cases hfb : frame.isFBComposed i with
    | true =>
      rw [List.filter_cons_of_neg (by simp [hfb])]
      cases fbBatch with
      | false => exact ih (zOrder + 1) true ctx frame rotMap hrest
      | true => exact ih zOrder true ctx frame rotMap hrest
    | false =>
      obtain ⟨hpipe, hhandle⟩ := hlayers i List.mem_cons_self hfb
      obtain ⟨dest, hdest⟩ := Option.isSome_iff_exists.mp hpipe
      obtain ⟨zOld, hinfo⟩ := FrameInfo.pipeInfo_of_layerPipe hdest
      obtain ⟨next, configured, hconfigure, hconfigured, hanswers⟩ :=
        ctx.configureLowRes_cases hhandle zOrder dest
      have hheld := ctx.configureRotMap_held hhandle i zOrder dest rotMap
      rw [hconfigure] at hheld
      rw [List.filter_cons_of_pos (by simp [hfb]), if_pos (by decide), if_pos (by decide), hinfo]
      simp only [hconfigure]
      generalize ctx.configureRotMap (list.hwLayer i) i zOrder dest rotMap = entered at hheld ⊢
      by_cases hrefused : (list.hwLayer i).isRotated = true ∧ ctx.rotator.headD true = false
      · have hfailed : configured = false := by
          rw [hconfigured, hrefused.1, hrefused.2, Bool.not_true, Bool.false_or, Bool.false_and]
        rw [if_pos hrefused] at hheld
        rw [refusesLate_refused hrefused.1 hrefused.2, hfailed, ← hheld]
        simp
      rw [if_neg hrefused] at hheld
      have hserved : (list.hwLayer i).isRotated = true → ctx.rotator.headD true = true :=
        fun hrotated => by simpa [hrotated] using hrefused
      cases haccepted : ctx.driver.headD true with
      | false =>
        have hfailed : configured = false := by rw [hconfigured, haccepted, Bool.and_false]
        refine iff_of_false ?_ (refusesLate_rejected hserved haccepted)
        rw [hfailed] at hheld ⊢
        simpa using hheld
      | true =>
        have hdone : configured = true := by
          rw [hconfigured, haccepted, Bool.and_true, Bool.or_eq_true, Bool.not_eq_true']
          cases hrotated : (list.hwLayer i).isRotated with
          | false => exact .inl rfl
          | true => exact .inr (hserved hrotated)
        obtain ⟨hdriver, hrotator⟩ := hanswers hdone
        have hflags : (frame.setPipeInfo i ⟨zOrder, some dest⟩).isFBComposed = frame.isFBComposed := by
          rw [FrameInfo.sameLayers_setPipeInfo i ⟨zOrder, some dest⟩]
        have hnext := ih (zOrder + 1) fbBatch next (frame.setPipeInfo i ⟨zOrder, some dest⟩) entered
          (by
            intro j hj hmdp
            rw [FrameInfo.layerPipe_setPipeInfo hdest]
            exact hrest j hj (by rwa [hflags] at hmdp))
        rw [hdriver, hrotator, hflags, hheld, hdone] at hnext
        rw [refusesLate_configured hserved haccepted, hdone, if_pos rfl, if_pos rfl]
        simpa using hnext

/-- Layers enter the map in their order, each at most once. -/
theorem programRotMap_sublist (list : DisplayContents) {layers : List Nat} :
    ∀ (zOrder : Int) (fbBatch : Bool) (ctx : Context numPipes) (frame : FrameInfo numPipes)
      (rotMap : LayerRotMap),
      (programRotMap list layers zOrder fbBatch ctx frame rotMap).mLayer.Sublist (rotMap.mLayer ++ layers) := by
  have hadd : ∀ (rotMap : LayerRotMap) (i : Nat), (rotMap.add i).mLayer.Sublist (rotMap.mLayer ++ [i]) := by
    intro rotMap i
    rw [LayerRotMap.add]
    split
    · exact List.sublist_append_left _ _
    · exact List.Sublist.refl _
  have hconfigured : ∀ (ctx : Context numPipes) (layer : Layer) (i : Nat) (zOrder : Int) (dest : Fin numPipes)
      (rotMap : LayerRotMap),
      (ctx.configureRotMap layer i zOrder dest rotMap).mLayer.Sublist (rotMap.mLayer ++ [i]) := by
    intro ctx layer i zOrder dest rotMap
    rw [configureRotMap]
    split_ifs
    all_goals first
      | exact hadd rotMap i
      | exact List.sublist_append_left _ _
  induction layers with
  | nil => exact fun _ _ _ _ _ => List.sublist_append_left _ _
  | cons i layers ih =>
    intro zOrder fbBatch ctx frame rotMap
    have hskipped : (rotMap.mLayer ++ layers).Sublist (rotMap.mLayer ++ i :: layers) :=
      (List.sublist_cons_self i layers).append_left _
    rw [programRotMap]
    split
    · split
      next dest _ =>
        have hnext := hconfigured ctx (list.hwLayer i) i zOrder dest rotMap
        dsimp only
        split
        · have hlater := (ih (zOrder + 1) fbBatch (ctx.configureLowRes (list.hwLayer i) zOrder dest).1
            (frame.setPipeInfo i ⟨zOrder, some dest⟩) _).trans (hnext.append_right layers)
          rwa [List.append_assoc] at hlater
        · refine hnext.trans (List.Sublist.append_left ?_ _)
          exact List.singleton_sublist.mpr List.mem_cons_self
      · exact List.sublist_append_left _ _
    · split
      · exact (ih _ _ _ _ _).trans hskipped
      · exact (ih _ _ _ _ _).trans hskipped

theorem programStart_cases {ctx : Context numPipes} {frame : FrameInfo numPipes}
    (hcount : frame.layerCount = list.numAppLayers)
    (hindex : ∀ i < frame.layerCount, frame.isFBComposed i = false → (frame.layerToMDP i).isSome = true)
    (hskip : ∀ i < frame.layerCount, frame.isFBComposed i = false → (list.hwLayer i).skip = false) :
    (ctx.programStart dpy list frame = none ∧ (ctx.programMDP dpy list frame).2.2 = false) ∨
    ∃ zOrder start frame', ctx.programStart dpy list frame = some (zOrder, start, frame') ∧
      (ctx.programMDP dpy list frame).2.2 =
        (programLayers list (List.range frame'.layerCount) zOrder false start frame').2.2 ∧
      frame'.layerCount = frame.layerCount ∧ frame'.isFBComposed = frame.isFBComposed ∧
      ∀ i < frame.layerCount, frame.isFBComposed i = false → (frame'.layerPipe i).isSome = true := by
  rw [programStart, programMDP]
  rcases halloc : allocLayerPipes dpy list { ctx with mDMAInUse := false } frame with
    ⟨next, allocated, _ | _⟩
  · exact .inl ⟨rfl, rfl⟩
  obtain ⟨hpipes, hallocCount, hflags⟩ := allocLayerPipes_found halloc hcount hindex hskip
  simp only [Bool.not_true, Bool.false_eq_true, if_false]
  cases hbase : allocated.mdpBasePipe with
  | none => exact .inr ⟨0, next, allocated, rfl, rfl, hallocCount, hflags, hpipes⟩
  | some basePipe =>
    rcases hconfigure : next.configMdp 0 basePipe with ⟨based, _ | _⟩
    · simp [hconfigure]
    · simp only [hconfigure]
      exact .inr ⟨1, based, allocated, rfl, rfl, hallocCount, hflags, hpipes⟩

end Context

namespace MDPComp

variable {numPipes : Nat} {ctx : Context numPipes} {dpy : Display} {list : DisplayContents}

theorem programFrameStart_cases (fbUpdate : FBUpdate numPipes) {frame : FrameInfo numPipes}
    (hcomposed : ctx.Composed dpy list frame) :
    (programFrameStart list ctx dpy fbUpdate frame = none ∧
      (programFrame list ctx dpy fbUpdate frame).2.2.2 = false) ∨
    ∃ zOrder start frame', programFrameStart list ctx dpy fbUpdate frame = some (zOrder, start, frame') ∧
      (programFrame list ctx dpy fbUpdate frame).2.2.2 =
        (Context.programLayers list (List.range frame'.layerCount) zOrder false start frame').2.2 ∧
      frame'.layerCount = list.numAppLayers ∧
      ∀ i < frame'.layerCount, frame'.isFBComposed i = false →
        (frame'.layerPipe i).isSome = true ∧ (list.hwLayer i).handle.isSome = true := by
  have hsupported : ∀ i < frame.layerCount, frame.isFBComposed i = false →
      (list.hwLayer i).skip = false ∧ (list.hwLayer i).handle.isSome = true := by
    intro i hi hmdp
    apply @Context.isSupported_handle _ dpy list ctx
    by_contra hout
    rw [hcomposed.layerCount] at hi
    simp [hcomposed.unsupported i hi (by simpa using hout)] at hmdp
  rw [programFrameStart, programFrame]
  dsimp only
  generalize (if 0 ≤ frame.map.fbZ then fbUpdate.prepare ctx dpy frame.map.fbZ
    else (ctx, fbUpdate, true)) = prepared
  obtain ⟨next, fbUpdate', ret⟩ := prepared
  cases ret with
  | false => exact .inl ⟨rfl, rfl⟩
  | true =>
    dsimp only
    rw [if_neg (by decide), if_neg (by decide)]
    obtain hnone | ⟨zOrder, start, frame', heq, hprogram, hcount, hflags, hpipes⟩ :=
      @Context.programStart_cases _ dpy list next frame.map hcomposed.layerCount
        (fun i hi hmdp => FrameInfo.map_layerToMDP_isSome hi hmdp)
        (fun i hi hmdp => (hsupported i hi hmdp).1)
    · exact .inl hnone
    · refine .inr ⟨zOrder, start, frame', heq, hprogram, hcount.trans hcomposed.layerCount, ?_⟩
      rw [hcount, hflags]
      exact fun i hi hmdp => ⟨hpipes i hi hmdp, (hsupported i hi hmdp).2⟩

theorem layerLoop_cases (mdpComp : MDPComp numPipes) (list : DisplayContents) (ctx : Context numPipes)
    (dpy : Display) (fbUpdate : FBUpdate numPipes) :
    (mdpComp.layerLoop list ctx dpy fbUpdate = none ∧
      (mdpComp.prepare list ctx dpy fbUpdate).2.2.2 = false) ∨
    ∃ zOrder start frame, mdpComp.layerLoop list ctx dpy fbUpdate = some (zOrder, start, frame) ∧
      (mdpComp.prepare list ctx dpy fbUpdate).2.2.2 =
        (Context.programLayers list (List.range frame.layerCount) zOrder false start frame).2.2 ∧
      frame.layerCount = list.numAppLayers ∧
      ∀ i < frame.layerCount, frame.isFBComposed i = false →
        (frame.layerPipe i).isSome = true ∧ (list.hwLayer i).handle.isSome = true := by
  have hcompose : ∀ (full : Bool) (frame : FrameInfo numPipes),
      (mdpComp.composeFrame list full ctx dpy fbUpdate frame).2.2.2 =
        (programFrame list ctx dpy fbUpdate frame).2.2.2 := by
    intro full frame
    rw [composeFrame]
    rcases programFrame list ctx dpy fbUpdate frame with ⟨next, fbUpdate', frame', _ | _⟩
    · rfl
    · rfl
  rw [layerLoop, prepare]
  split
  · exact .inl ⟨rfl, rfl⟩
  rcases hframe : ctx.isFullFrameDoable dpy list mdpComp.mCachedFrame (.reset list.numAppLayers) with
    ⟨frame, _ | _⟩
  · rcases hvideo : ctx.isOnlyVideoDoable dpy list frame with ⟨accepted, _ | _⟩
    · exact .inl (by simp [hvideo])
    · simp only [hvideo, Bool.false_eq_true, if_false, Bool.not_true, hcompose]
      exact programFrameStart_cases fbUpdate (Context.isOnlyVideoDoable_accepted hvideo).1
  · simp only [if_true, Bool.not_true, Bool.false_eq_true, if_false, hcompose]
    exact programFrameStart_cases fbUpdate (Context.isFullFrameDoable_accepted hframe).1

theorem prepareRotMap_sublist (mdpComp : MDPComp numPipes) (list : DisplayContents) (ctx : Context numPipes)
    (dpy : Display) (fbUpdate : FBUpdate numPipes) :
    (mdpComp.prepareRotMap list ctx dpy fbUpdate .empty).mLayer.Sublist (List.range list.numAppLayers) := by
  rw [prepareRotMap]
  obtain ⟨hnone, -⟩ | ⟨zOrder, start, frame, hloop, -, hlayers, -⟩ :=
    mdpComp.layerLoop_cases list ctx dpy fbUpdate
  · rw [hnone]
    exact List.nil_sublist _
  · rw [hloop, ← hlayers]
    exact Context.programRotMap_sublist list zOrder false start frame .empty

/-- The map that `hwc_prepare` leaves to `hwc_sync` names layers of the list, each once. -/
theorem prepareRotMap_layers (mdpComp : MDPComp numPipes) (list : DisplayContents) (ctx : Context numPipes)
    (dpy : Display) (fbUpdate : FBUpdate numPipes) :
    (mdpComp.prepareRotMap list ctx dpy fbUpdate .empty).mLayer.Nodup ∧
      ∀ i ∈ (mdpComp.prepareRotMap list ctx dpy fbUpdate .empty).mLayer, i < list.numAppLayers := by
  have hlayers := mdpComp.prepareRotMap_sublist list ctx dpy fbUpdate
  exact ⟨hlayers.nodup List.nodup_range, fun i hi => List.mem_range.mp (hlayers.subset hi)⟩

/-- `prepare` gives up with an empty map unless the rotator refuses a layer behind one that it took, and
the driver has agreed until then. -/
theorem prepareRotMap_empty_iff (mdpComp : MDPComp numPipes) (list : DisplayContents)
    (ctx : Context numPipes) (dpy : Display) (fbUpdate : FBUpdate numPipes) :
    ((mdpComp.prepare list ctx dpy fbUpdate).2.2.2 = false →
        mdpComp.prepareRotMap list ctx dpy fbUpdate .empty = .empty) ↔
      ∀ zOrder start frame, mdpComp.layerLoop list ctx dpy fbUpdate = some (zOrder, start, frame) →
        ¬RefusesLate (fun i => (list.hwLayer i).isRotated) start.rotator start.driver
          ((List.range frame.layerCount).filter fun i => !frame.isFBComposed i) False := by
  have hempty : ∀ rotMap : LayerRotMap, rotMap = .empty ↔ ¬rotMap.mLayer ≠ [] := by
    intro rotMap
    rw [not_not]
    exact ⟨fun heq => by rw [heq]; rfl, fun hnil => by cases rotMap; simpa [LayerRotMap.empty] using hnil⟩
  obtain ⟨hnone, -⟩ | ⟨zOrder, start, frame, hloop, hprepare, -, hlayers⟩ :=
    mdpComp.layerLoop_cases list ctx dpy fbUpdate
  · rw [prepareRotMap, hnone]
    exact iff_of_true (fun _ => rfl) (by simp)
  have hiff := @Context.programRotMap_iff _ list (List.range frame.layerCount) zOrder false start frame
    .empty fun i hi => hlayers i (List.mem_range.mp hi)
  rw [prepareRotMap, hloop, hprepare, hempty, ← not_and, hiff]
  constructor
  · rintro hnot _ _ _ heq
    obtain ⟨rfl, rfl, rfl⟩ : zOrder = _ ∧ start = _ ∧ frame = _ := by simpa using heq
    simpa [LayerRotMap.empty] using hnot
  · intro hall
    simpa [LayerRotMap.empty] using hall zOrder start frame rfl

end MDPComp

/-! ### Two rotated videos -/

def sampleVideo (address : Nat) : Layer where
  handle := some ⟨address, true, false, false⟩
  skip := false
  transform := 4
  planeAlpha := 0xFF
  sourceCrop := ⟨0, 0, 720, 1280⟩
  displayFrame := ⟨0, 0, 1280, 720⟩
  rotatesForSize := false

def sampleVideos : DisplayContents := ⟨[sampleVideo 1, sampleVideo 2], sampleLayer 3 false, true⟩

def sampleRotator : Context 4 := { sampleContext [] with rotator := [true, false] }

/-- The second video finds no rotator, and the first one stays in the map. -/
theorem MDPComp.prepareRotMap_keepsEntry :
    (sampleComp.prepare sampleVideos sampleRotator .primary sampleUpdate).2.2.2 = false ∧
      (sampleComp.prepareRotMap sampleVideos sampleRotator .primary sampleUpdate .empty).mLayer = [0] := by
  decide

end Nozomi
