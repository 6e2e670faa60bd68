import Mathlib.Data.Nat.Nth
import Nozomi.Display.Composer.Accesses
import Nozomi.Display.Composer.Coverage

/-!
# When a round stays in its arrays

The arrays are long enough for a list of `MAX_NUM_LAYERS` layers and for a frame with as many layers of
its own as a mixer has pipes. Neither is tested: `setListStats` leaves `yuvIndices` at the first layer that
is too many, and `map` leaves `mdpToLayer` when `debug.mdpcomp.maxpermixer` admits a larger frame.
-/

namespace Nozomi

/-! ### The lists -/

namespace DisplayContents

variable {list : DisplayContents}

theorem setListStatsAccesses_inBounds_iff :
    InBounds ListArray.size list.setListStatsAccesses ↔ list.numAppLayers < maxNumLayers := by
  rw [setListStatsAccesses, inBounds_flatMap]
  constructor
  · intro hbounds
    have hlast := hbounds list.numAppLayers (List.mem_range.mpr (Nat.lt_succ_self _))
    rw [inBounds_cons] at hlast
    exact Int.ofNat_lt.mp hlast.1.2
  · intro hlength i hi
    rw [List.mem_range] at hi
    have hcount : list.yuvIndices.countP (· < i) ≤ list.numAppLayers :=
      calc list.yuvIndices.countP (· < i) ≤ list.yuvIndices.length := List.countP_le_length
        _ ≤ (List.range list.numAppLayers).length := List.length_filter_le _ _
        _ = list.numAppLayers := List.length_range
    simp only [inBounds_cons, inBounds_ite, inBounds_nil, and_true, ListArray.size, implies_true]
    omega

end DisplayContents

/-! ### The division of the layers -/

namespace FrameInfo

variable {numPipes : Nat} {frame : FrameInfo numPipes}

theorem resetAccesses_inBounds : InBounds ListArray.size resetAccesses := by decide

theorem extendDownAccesses_inBounds {batch : Int × Int} (hlayers : frame.layerCount < maxNumLayers)
    (hbatch : batch.1 ≤ frame.layerCount) :
    InBounds ListArray.size (frame.extendDownAccesses batch) := by
  rw [extendDownAccesses, inBounds_flatMap]
  intro visited hvisited
  have hstart : visited.1 ≤ frame.layerCount := by
    refine @whileStates_invariant (Int × Int) _ _ (fun state => state.1 ≤ frame.layerCount) ?_ _ batch hbatch
      visited hvisited
    intro state hstate _
    simp only
    omega
  simp only [inBounds_ite, inBounds_cons, inBounds_nil, and_true, ListArray.size, implies_true]
  omega

theorem extendUpAccesses_inBounds {batch : Int × Int} (hlayers : frame.layerCount < maxNumLayers)
    (hbatch : 0 ≤ batch.1 + batch.2) :
    InBounds ListArray.size (frame.extendUpAccesses batch) := by
  rw [extendUpAccesses, inBounds_flatMap]
  intro visited hvisited
  have hend : 0 ≤ visited.1 + visited.2 := by
    refine @whileStates_invariant _ _ _ (fun state => 0 ≤ state.1 + state.2) ?_ _ batch hbatch
      visited hvisited
    intro state hstate _
    simp only
    omega
  simp only [inBounds_ite, inBounds_cons, inBounds_nil, and_true, ListArray.size, implies_true]
  omega

theorem skipFBAccesses_inBounds {i : Nat} (hlayers : frame.layerCount < maxNumLayers)
    (hi : i ≤ frame.layerCount) : InBounds ListArray.size (frame.skipFBAccesses i) := by
  intro access haccess
  rw [skipFBAccesses, List.mem_map] at haccess
  obtain ⟨visited, hvisited, rfl⟩ := haccess
  have hle : visited.2 ≤ frame.layerCount := by
    refine @whileStates_invariant _ _ _ (fun state => state.2 ≤ frame.layerCount) ?_ _ (0, i) hi
      visited hvisited
    intro state _ htest
    rw [Bool.and_eq_true, decide_eq_true_eq] at htest
    exact htest.2
  simp only [ListArray.size]
  omega

theorem longestBatchAccesses_inBounds (batch : Int × Int) (hlayers : frame.layerCount < maxNumLayers) :
    InBounds ListArray.size (frame.longestBatchAccesses batch) := by
  rw [longestBatchAccesses, inBounds_flatMap]
  intro visited _
  rw [inBounds_ite]
  exact ⟨fun hlt => skipFBAccesses_inBounds hlayers hlt.le, fun _ => inBounds_nil⟩

theorem resetRestAccesses_inBounds (batch : Int × Int) (hlayers : frame.layerCount < maxNumLayers) :
    InBounds ListArray.size (frame.resetRestAccesses batch) := by
  rw [resetRestAccesses, inBounds_flatMap]
  intro visited _
  simp only [inBounds_ite, inBounds_cons, inBounds_nil, and_true, ListArray.size, implies_true]
  omega

theorem batchLayersAccesses_inBounds {batch : Int × Int} (hlayers : frame.layerCount < maxNumLayers)
    (hbatch : batch.2 = 0 ∨
      ∃ start count : Nat, batch = (↑start, ↑count) ∧ 0 < count ∧ frame.InFB start count) :
    InBounds ListArray.size (frame.batchLayersAccesses batch) := by
  rw [batchLayersAccesses]
  split
  · exact inBounds_nil
  split
  next hcount =>
    obtain ⟨start, count, rfl, -, hinFB⟩ := hbatch.resolve_left hcount
    obtain ⟨start', count', heq, -, -, -, -⟩ := extendDown_eq hinFB
    have hstart : (start : Int) ≤ frame.layerCount := by
      have := hinFB.1
      omega
    simp only [inBounds_append, heq]
    exact ⟨⟨extendDownAccesses_inBounds hlayers hstart,
      extendUpAccesses_inBounds hlayers (by simp only; omega)⟩, resetRestAccesses_inBounds _ hlayers⟩
  next =>
    rw [inBounds_append]
    exact ⟨longestBatchAccesses_inBounds batch hlayers, resetRestAccesses_inBounds _ hlayers⟩

end FrameInfo

namespace Context

variable {numPipes : Nat} {ctx : Context numPipes} {dpy : Display} {list : DisplayContents}

theorem updateYUVAccesses_inBounds (hlist : list.numAppLayers < maxNumLayers) :
    InBounds ListArray.size (updateYUVAccesses list) := by
  rw [updateYUVAccesses, inBounds_flatMap]
  rintro ⟨i, index⟩ hentry
  have hi := yuvIndices_lt (List.fst_mem_of_mem_zipIdx hentry)
  have hindex := List.snd_lt_of_mem_zipIdx hentry
  have hlength : list.yuvIndices.length ≤ list.numAppLayers :=
    (List.length_filter_le _ _).trans (le_of_eq List.length_range)
  simp only [inBounds_cons, inBounds_nil, and_true, ListArray.size]
  simp only at hindex
  omega

theorem updateNotSupportedAccesses_inBounds (frame : FrameInfo numPipes)
    (hlist : list.numAppLayers < maxNumLayers) :
    InBounds ListArray.size (ctx.updateNotSupportedAccesses dpy list frame) := by
  rw [updateNotSupportedAccesses, inBounds_flatMap]
  intro i hi
  rw [List.mem_range] at hi
  rw [markNotSupportedAccesses]
  simp only [inBounds_ite, inBounds_cons, inBounds_nil, and_true, ListArray.size, implies_true]
  refine ⟨trivial, fun _ => ⟨by omega, fun _ access haccess => ?_⟩⟩
  rw [List.mem_map] at haccess
  obtain ⟨j, hj, rfl⟩ := haccess
  have hlt : j < i := List.mem_range.mp (List.mem_reverse.mp (List.takeWhile_subset _ hj))
  simp only [ListArray.size]
  omega

theorem divideAccesses_inBounds {frame : FrameInfo numPipes} (hlist : list.numAppLayers < maxNumLayers)
    (hcounted : frame.Counted) (hlayers : frame.layerCount = list.numAppLayers) :
    InBounds ListArray.size (ctx.divideAccesses dpy list frame) := by
  obtain ⟨hyuv, hyuvCount, -⟩ := updateYUV_eq ctx dpy hcounted hlayers
  obtain ⟨divided, batch, heq, -, hcount, -, hbatch, -⟩ := updateNotSupported_eq ctx dpy hyuv hyuvCount
  rw [divideAccesses, heq]
  simp only [inBounds_append]
  refine ⟨⟨⟨updateYUVAccesses_inBounds hlist, updateNotSupportedAccesses_inBounds _ hlist⟩, ?_⟩,
    by decide⟩
  exact FrameInfo.batchLayersAccesses_inBounds (hcount ▸ hlist) hbatch.shape

theorem updateLayerCacheAccesses_inBounds (hlist : list.numAppLayers < maxNumLayers) :
    InBounds ListArray.size (FrameInfo.updateLayerCacheAccesses list) := by
  rw [FrameInfo.updateLayerCacheAccesses, inBounds_flatMap]
  intro i hi
  rw [List.mem_range] at hi
  simp only [inBounds_cons, inBounds_nil, and_true, ListArray.size]
  omega

theorem isFullFrameDoableAccesses_inBounds (cached : LayerCache) (frame : FrameInfo numPipes)
    (hlist : list.numAppLayers < maxNumLayers) :
    InBounds ListArray.size (ctx.isFullFrameDoableAccesses dpy list cached frame) := by
  rw [isFullFrameDoableAccesses]
  iterate 3
    split
    · exact inBounds_nil
  obtain ⟨hcached, hcachedCount, -⟩ := FrameInfo.updateLayerCache_eq cached
    (rfl : (FrameInfo.reset list.numAppLayers : FrameInfo numPipes).layerCount = list.numAppLayers)
  rw [partialMDPCompAccesses, inBounds_append, inBounds_append]
  exact ⟨⟨FrameInfo.resetAccesses_inBounds, updateLayerCacheAccesses_inBounds hlist⟩,
    divideAccesses_inBounds hlist hcached hcachedCount⟩

theorem isOnlyVideoDoableAccesses_inBounds (hlist : list.numAppLayers < maxNumLayers) :
    InBounds ListArray.size (ctx.isOnlyVideoDoableAccesses dpy list) := by
  rw [isOnlyVideoDoableAccesses]
  split
  · exact inBounds_nil
  · rw [inBounds_append]
    exact ⟨FrameInfo.resetAccesses_inBounds,
      divideAccesses_inBounds hlist (FrameInfo.counted_reset list.numAppLayers) rfl⟩

end Context

/-! ### The indices of the pipes -/

namespace FrameInfo

variable {numPipes : Nat} {frame : FrameInfo numPipes}

def mdpBelow (frame : FrameInfo numPipes) (bound : Nat) : Nat :=
  Nat.count (fun i => frame.isFBComposed i = false) bound

theorem mapLayer_foldl (layerToMDP : Nat → Option Nat) (bound : Nat) :
    ((List.range bound).foldl frame.mapLayer (layerToMDP, 0)).2 = frame.mdpBelow bound ∧
      ∀ i < bound, frame.isFBComposed i = false →
        ((List.range bound).foldl frame.mapLayer (layerToMDP, 0)).1 i = some (frame.mdpBelow i) := by
  induction bound with
  | zero => exact ⟨rfl, fun i hi => absurd hi (Nat.not_lt_zero i)⟩
  | succ bound ih =>
    obtain ⟨hcount, hindex⟩ := ih
    rw [List.range_succ, List.foldl_concat, mapLayer]
    cases hfb : frame.isFBComposed bound with
    | true =>
      refine ⟨by simp [hcount, mdpBelow, Nat.count_succ, hfb], fun i hi hmdp => ?_⟩
      rcases Nat.lt_succ_iff_lt_or_eq.mp hi with hi | rfl
      · exact hindex i hi hmdp
      · simp [hfb] at hmdp
    | false =>
      refine ⟨by simp [hcount, mdpBelow, Nat.count_succ, hfb], fun i hi hmdp => ?_⟩
      rcases Nat.lt_succ_iff_lt_or_eq.mp hi with hi | rfl
      · exact (Function.update_of_ne hi.ne _ _).trans (hindex i hi hmdp)
      · exact (Function.update_self _ _ _).trans (congrArg some hcount)

theorem mapAccesses_inBounds_iff (hlayers : frame.layerCount < maxNumLayers) :
    InBounds ListArray.size frame.mapAccesses ↔ frame.mdpBelow frame.layerCount ≤ maxPipesPerMixer := by
  rw [mapAccesses, inBounds_flatMap]
  constructor
  · intro hbounds
    by_contra hmore
    rw [not_le] at hmore
    let hasPipe : Nat → Prop := fun i => frame.isFBComposed i = false
    have hfinite : ∀ hf : (Set.ofPred hasPipe).Finite, maxPipesPerMixer < hf.toFinset.card :=
      fun hf => lt_of_lt_of_le hmore (Nat.count_le_card hf frame.layerCount)
    -- the layer behind as many layers with pipes as fit
    have hmdp : frame.isFBComposed (Nat.nth hasPipe maxPipesPerMixer) = false :=
      Nat.nth_mem maxPipesPerMixer hfinite
    have hbelow : frame.mdpBelow (Nat.nth hasPipe maxPipesPerMixer) = maxPipesPerMixer :=
      Nat.count_nth hfinite
    have hentry := hbounds _ (List.mem_range.mpr (Nat.nth_lt_of_lt_count hmore))
    rw [inBounds_cons, hmdp, (mapLayer_foldl _ _).1, hbelow] at hentry
    simp [ListArray.size] at hentry
  · intro hfew i hi
    rw [List.mem_range] at hi
    rw [inBounds_cons, (mapLayer_foldl _ _).1]
    refine ⟨⟨by simp only; omega, by simp only [ListArray.size]; omega⟩, ?_⟩
    cases hmdp : frame.isFBComposed i with
    | true => exact inBounds_nil
    | false =>
      have hless : frame.mdpBelow i < frame.mdpBelow frame.layerCount := Nat.count_strict_mono hmdp hi
      simp only [Bool.false_eq_true, if_false, inBounds_cons, inBounds_nil, and_true, ListArray.size]
      omega

/-- Every layer with a pipe of its own has an index within `mdpToLayer`. -/
structure Fits (frame : FrameInfo numPipes) : Prop where
  layerCount : frame.layerCount < maxNumLayers
  index : ∀ i < frame.layerCount, frame.isFBComposed i = false →
    ∃ mdpIndex < maxPipesPerMixer, frame.layerToMDP i = some mdpIndex

theorem fits_map (hlayers : frame.layerCount < maxNumLayers)
    (hfew : frame.mdpBelow frame.layerCount ≤ maxPipesPerMixer) : frame.map.Fits := by
  refine ⟨hlayers, fun i hi hmdp => ?_⟩
  have hless : frame.mdpBelow i < frame.mdpBelow frame.layerCount := Nat.count_strict_mono hmdp hi
  exact ⟨frame.mdpBelow i, by omega, (mapLayer_foldl _ _).2 i hi hmdp⟩

theorem Fits.of_sameFlags {other : FrameInfo numPipes} (hfits : frame.Fits) (hsame : frame.SameFlags other) :
    other.Fits := by
  rw [hsame]
  exact ⟨hfits.layerCount, hfits.index⟩

theorem Fits.pipeLayerPairAccesses_inBounds (hfits : frame.Fits) {i : Nat} (hi : i < frame.layerCount)
    (hmdp : frame.isFBComposed i = false) :
    InBounds ListArray.size (frame.pipeLayerPairAccesses i) := by
  obtain ⟨mdpIndex, hless, hindex⟩ := hfits.index i hi hmdp
  have hlayers := hfits.layerCount
  simp only [pipeLayerPairAccesses, hindex, Option.elim_some, inBounds_cons, inBounds_nil, and_true, ListArray.size]
  omega

theorem Fits.isFBComposed_inBounds (hfits : frame.Fits) {i : Nat} (hi : i < frame.layerCount) :
    InBounds ListArray.size [⟨.isFBComposed, i⟩] := by
  have hlayers := hfits.layerCount
  simp only [inBounds_cons, inBounds_nil, and_true, ListArray.size]
  omega

theorem Fits.dumpAccesses_inBounds (hfits : frame.Fits) :
    InBounds ListArray.size frame.dumpAccesses := by
  have hlayers := hfits.layerCount
  rw [dumpAccesses, inBounds_flatMap]
  intro i hi
  rw [List.mem_range] at hi
  rw [inBounds_append]
  refine ⟨by simp only [inBounds_cons, inBounds_nil, and_true, ListArray.size]; omega, ?_⟩
  cases hmdp : frame.isFBComposed i with
  | true => exact inBounds_nil
  | false => exact hfits.pipeLayerPairAccesses_inBounds hi hmdp

end FrameInfo

namespace Context

variable {numPipes : Nat} {dpy : Display} {list : DisplayContents}

theorem allocPipesAccesses_inBounds {typeOf : Nat → MdpPipeType} {reads : Nat → List (Access ListArray)}
    {skips : Nat → Bool} {layers : List Nat} :
    ∀ (ctx : Context numPipes) {frame : FrameInfo numPipes}, frame.Fits →
      (∀ i ∈ layers, InBounds ListArray.size (reads i) ∧
        (skips i = false → i < frame.layerCount ∧ frame.isFBComposed i = false)) →
      InBounds ListArray.size (allocPipesAccesses dpy typeOf reads skips layers ctx frame) := by
  induction layers with
  | nil => exact fun _ _ _ _ => inBounds_nil
  | cons i layers ih =>
    intro ctx frame hfits hlayers
    obtain ⟨hreads, hpipe⟩ := hlayers i List.mem_cons_self
    have hrest := fun j hj => hlayers j (List.mem_cons_of_mem i hj)
    rw [allocPipesAccesses, inBounds_append]
    refine ⟨hreads, ?_⟩
    cases hskips : skips i with
    | true => exact ih ctx hfits hrest
    | false =>
      obtain ⟨hi, hmdp⟩ := hpipe hskips
      dsimp only
      rw [if_neg Bool.false_ne_true, inBounds_append]
      refine ⟨hfits.pipeLayerPairAccesses_inBounds hi hmdp, ?_⟩
      split
      · have hsame := @FrameInfo.sameLayers_setPipeInfo _ frame i ⟨0, (ctx.getMdpPipe dpy (typeOf i)).2⟩
        apply ih _ (hfits.of_sameFlags hsame.sameFlags)
        rw [hsame]
        exact hrest
      · exact inBounds_nil

theorem allocLayerPipesAccesses_inBounds (ctx : Context numPipes) {frame : FrameInfo numPipes}
    (hlayers : frame.layerCount = list.numAppLayers) (hfits : frame.Fits) :
    InBounds ListArray.size (allocLayerPipesAccesses dpy list ctx frame) := by
  have hloops : ∀ (ctx : Context numPipes) (based : FrameInfo numPipes), frame.SameFlags based →
      InBounds ListArray.size (
        let videos := allocPipesAccesses dpy (fun _ => .vg)
          (fun (i : Nat) => [⟨.yuvIndices, list.yuvIndices.idxOf i⟩, ⟨.isFBComposed, i⟩])
          based.isFBComposed list.yuvIndices ctx based
        let allocated := allocPipes dpy (fun _ => .vg) (yuvLayers list based) ctx based
        videos ++ if !allocated.2.2 then []
          else
            allocPipesAccesses dpy (fun i => allocated.1.uiPipeType (list.hwLayer i))
              (fun (i : Nat) => [⟨.isFBComposed, i⟩])
              (fun i => allocated.2.1.isFBComposed i || (list.hwLayer i).isYuvBuffer)
              (List.range allocated.2.1.layerCount) allocated.1 allocated.2.1) := by
    intro ctx based hsame
    have hbased := hfits.of_sameFlags hsame
    have hcount : based.layerCount = list.numAppLayers := by rw [hsame, hlayers]
    have hvideos := (@allocPipes_sameLayers _ dpy (fun _ => .vg) (yuvLayers list based) ctx based).sameFlags
    dsimp only
    rw [inBounds_append]
    constructor
    · apply allocPipesAccesses_inBounds ctx hbased
      intro i hi
      have hlt := yuvIndices_lt hi
      have hindex := List.idxOf_lt_length_of_mem hi
      have hlength : list.yuvIndices.length ≤ list.numAppLayers :=
        (List.length_filter_le _ _).trans (le_of_eq List.length_range)
      have hmax := hbased.layerCount
      refine ⟨?_, fun hmdp => ⟨hcount ▸ hlt, hmdp⟩⟩
      simp only [inBounds_cons, inBounds_nil, and_true, ListArray.size]
      omega
    · split
      · exact inBounds_nil
      · have hallocated := hbased.of_sameFlags hvideos
        apply allocPipesAccesses_inBounds _ hallocated
        intro i hi
        rw [List.mem_range] at hi
        exact ⟨hallocated.isFBComposed_inBounds hi, fun hskips => ⟨hi, (Bool.or_eq_false_iff.mp hskips).1⟩⟩
  rw [allocLayerPipesAccesses]
  by_cases hneeded : ctx.baseNeeded dpy list frame = true
  · rw [if_pos hneeded]
    generalize ctx.getMdpPipe dpy .any = found
    obtain ⟨next, index⟩ := found
    cases index with
    | none => exact (inBounds_cons _ _).mpr ⟨by decide, inBounds_nil⟩
    | some basePipe =>
      exact (inBounds_cons _ _).mpr
        ⟨by decide, hloops next { frame with mdpBasePipe := some basePipe } rfl⟩
  · rw [if_neg hneeded]
    exact (inBounds_cons _ _).mpr ⟨by decide, hloops ctx frame rfl⟩

theorem programLayersAccesses_inBounds {layers : List Nat} :
    ∀ (z : Int) (fbBatch : Bool) (ctx : Context numPipes) {frame : FrameInfo numPipes}, frame.Fits →
      (∀ i ∈ layers, i < frame.layerCount) →
      InBounds ListArray.size (programLayersAccesses list layers z fbBatch ctx frame) := by
  induction layers with
  | nil => exact fun _ _ _ _ _ _ => inBounds_nil
  | cons i layers ih =>
    intro z fbBatch ctx frame hfits hlayers
    have hi := hlayers i List.mem_cons_self
    have hrest := fun j hj => hlayers j (List.mem_cons_of_mem i hj)
    rw [programLayersAccesses, inBounds_cons]
    refine ⟨(hfits.isFBComposed_inBounds hi) _ (List.mem_singleton_self _), ?_⟩
    cases hmdp : frame.isFBComposed i with
    | true =>
      simp only [Bool.not_true, Bool.false_eq_true, if_false]
      split
      · exact ih _ _ _ hfits hrest
      · exact ih _ _ _ hfits hrest
    | false =>
      simp only [Bool.not_false, if_true]
      rw [inBounds_append]
      refine ⟨hfits.pipeLayerPairAccesses_inBounds hi hmdp, ?_⟩
      split
      next dest _ =>
        split
        · have hsame := @FrameInfo.sameLayers_setPipeInfo _ frame i ⟨z, some dest⟩
          apply ih _ _ _ (hfits.of_sameFlags hsame.sameFlags)
          rw [hsame]
          exact hrest
        · exact inBounds_nil
      · exact inBounds_nil

theorem programMDPAccesses_inBounds (ctx : Context numPipes) {frame : FrameInfo numPipes}
    (hlayers : frame.layerCount = list.numAppLayers) (hfits : frame.Fits) :
    InBounds ListArray.size (programMDPAccesses dpy list ctx frame) := by
  have hallocated := hfits.of_sameFlags
    (@allocLayerPipes_sameFlags _ dpy list { ctx with mDMAInUse := false } frame)
  have hprogram : ∀ (z : Int) (ctx : Context numPipes) {allocated : FrameInfo numPipes}, allocated.Fits →
      InBounds ListArray.size
        (programLayersAccesses list (List.range allocated.layerCount) z false ctx allocated) :=
    fun z ctx _ hfits => programLayersAccesses_inBounds z false ctx hfits fun i hi => List.mem_range.mp hi
  rw [programMDPAccesses, inBounds_append]
  refine ⟨allocLayerPipesAccesses_inBounds _ hlayers hfits, ?_⟩
  dsimp only
  split
  · exact inBounds_nil
  split
  · split
    · exact hprogram _ _ hallocated
    · exact inBounds_nil
  · exact hprogram _ _ hallocated

/-! ### The frame that is accepted -/

variable {numPipes : Nat} {ctx : Context numPipes} {dpy : Display} {list : DisplayContents}

/-- The frame that a division starts with, when `kept` are the layers of the framebuffer. -/
def startFrame (list : DisplayContents) (kept : Nat → Bool) : FrameInfo numPipes :=
  { FrameInfo.reset list.numAppLayers with
    fbCount := ((Finset.range list.numAppLayers).filter fun i => kept i = true).card
    isFBComposed := kept }

/-- There is one block of layers for the framebuffer with every unsupported one in it and no more layers
outside of it than a mixer has pipes. -/
def OneBlock (ctx : Context numPipes) (dpy : Display) (list : DisplayContents) (kept : Nat → Bool) : Prop :=
  ∃ start count, start + count ≤ list.numAppLayers ∧ list.numAppLayers ≤ count + maxPipesPerMixer ∧
    (∀ i, start ≤ i → i < start + count →
      ctx.KeptInFB dpy list (startFrame list kept) i ∨ ctx.BetweenUnsupported dpy list i) ∧
    ∀ i < list.numAppLayers, ctx.isSupported dpy list i = false → start ≤ i ∧ i < start + count

/-- The division for which the checks accept the list, if any, leaves a mixer's pipes at most: all layers
have pipes, those are kept whose handle is the cached one, or all but the videos. -/
def DivisionFits (ctx : Context numPipes) (dpy : Display) (list : DisplayContents) (cached : LayerCache) : Prop :=
  ctx.isFrameDoable = true →
    if (ctx.isFullFrameDoable dpy list cached (.reset list.numAppLayers)).2 then
      if (ctx.fullMDPComp dpy list (.reset list.numAppLayers)).2 then list.numAppLayers ≤ maxPipesPerMixer
      else ctx.OneBlock dpy list fun i => cached.hnd i = (list.hwLayer i).handle.map (·.address)
    else (ctx.isOnlyVideoDoable dpy list (.reset list.numAppLayers)).2 → ctx.OneBlock dpy list fun _ => true

theorem Composed.mdpCount_eq {frame : FrameInfo numPipes} (hcomposed : ctx.Composed dpy list frame) :
    frame.mdpCount = frame.mdpBelow frame.layerCount := by
  have hcounts := hcomposed.counts
  have hcounted := hcomposed.counted
  have hsplit := Finset.card_filter_add_card_filter_not
    (s := Finset.range frame.layerCount) (fun i => frame.isFBComposed i = true)
  have hbelow : frame.mdpBelow frame.layerCount =
      ((Finset.range frame.layerCount).filter fun i => ¬frame.isFBComposed i = true).card := by
    rw [FrameInfo.mdpBelow, Nat.count_eq_card_filter_range]
    simp only [Bool.not_eq_true]
  rw [Finset.card_range] at hsplit
  omega

variable {frame accepted : FrameInfo numPipes} {kept : Nat → Bool}

theorem keptInFB_startFrame (hcounted : frame.Counted) (hlayers : frame.layerCount = list.numAppLayers)
    (hkept : ∀ i < list.numAppLayers, frame.isFBComposed i = kept i) {i : Nat} (hi : i < list.numAppLayers) :
    ctx.KeptInFB dpy list frame i ↔ ctx.KeptInFB dpy list (startFrame list kept) i := by
  have hcards : frame.fbCount = (startFrame list kept : FrameInfo numPipes).fbCount := by
    rw [hcounted, hlayers]
    exact congrArg _ (congrArg Finset.card (Finset.filter_congr fun j hj => by
      rw [hkept j (Finset.mem_range.mp hj)]))
  rw [KeptInFB, KeptInFB, getAvailablePipes, getAvailablePipes, hcards, hkept i hi]
  rfl

theorem divided_mdpCount_le_iff (hcounted : frame.Counted) (hlayers : frame.layerCount = list.numAppLayers)
    (hkept : ∀ i < list.numAppLayers, frame.isFBComposed i = kept i) {divided : FrameInfo numPipes}
    {batch : Int × Int}
    (hdivided : ctx.updateNotSupported dpy list (ctx.updateYUV dpy list frame) = (divided, batch))
    (haccepted : ctx.batchDoable dpy list (divided.batchLayers batch) = (accepted, true)) :
    accepted.mdpCount ≤ maxPipesPerMixer ↔ ctx.OneBlock dpy list kept := by
  obtain ⟨hyuv, hyuvCount, hyuvFlags⟩ := updateYUV_eq ctx dpy hcounted hlayers
  obtain ⟨last, batch', heq, hlast, hcount, hmdp, hbatch, hflags⟩ :=
    updateNotSupported_eq ctx dpy hyuv hyuvCount
  rw [hdivided, Prod.mk.injEq] at heq
  obtain ⟨rfl, rfl⟩ := heq
  have hleft : ∀ i < list.numAppLayers, divided.isFBComposed i = true ↔
      ctx.KeptInFB dpy list (startFrame list kept) i ∨ ctx.BetweenUnsupported dpy list i := by
    intro i hi
    rw [hflags, hyuvFlags, keptInFB_startFrame hcounted hlayers hkept hi]
  have hlarge : accepted.mdpCount = (divided.batchLayers batch).mdpCount := by
    rw [(batchDoable_eq_true haccepted).2]
    split <;> rfl
  have hin : ∀ i < list.numAppLayers, ctx.isSupported dpy list i = false → divided.isFBComposed i = true :=
    fun i hi hout => (hflags i).mpr (.inr ⟨i, i, le_refl i, le_refl i, hi, hout, hout⟩)
  rw [hlarge, OneBlock]
  rcases FrameInfo.batchLayers_eq hlast hbatch.shape with
    ⟨hzero, heq⟩ | ⟨hfb, hnone, heq⟩ | ⟨-, start, count, hrun, hlongest, hrange, heq⟩
  · have hempty : ∀ i < list.numAppLayers, divided.isFBComposed i ≠ true := by
      have hcard := hlast
      rw [FrameInfo.Counted, hzero, eq_comm, Int.natCast_eq_zero, Finset.card_eq_zero,
        Finset.filter_eq_empty_iff] at hcard
      exact fun i hi => hcard (Finset.mem_range.mpr (hcount ▸ hi))
    have hmdpAll : divided.mdpCount = list.numAppLayers := by omega
    rw [heq, hmdpAll, Int.ofNat_le]
    constructor
    · intro hfew
      exact ⟨0, 0, Nat.zero_le _, by omega, fun i _ hi => absurd hi (by omega),
        fun i hi hout => absurd (hin i hi hout) (hempty i hi)⟩
    · rintro ⟨start, count, hle, hfew, hmem, -⟩
      by_contra hmore
      exact hempty start (by omega) ((hleft start (by omega)).mpr (hmem start (le_refl _) (by omega)))
  · have hall := hlast.all_fb (by omega)
    rw [heq, hnone]
    exact iff_of_true (by decide) ⟨0, list.numAppLayers, by omega, by omega,
      fun i _ hi => (hleft i (by omega)).mp (hall i (by omega)), fun i hi _ => ⟨by omega, by omega⟩⟩
  · have hle := hrun.le
    rw [heq, hcount]
    constructor
    · intro hfew
      exact ⟨start, count, by omega, by simp only at hfew; omega,
        fun i hlow hhigh => (hleft i (by omega)).mp (hrun.mem i hlow hhigh), hbatch.covered hrange⟩
    · rintro ⟨other, length, hbound, hfew, hmem, hcovers⟩
      have hlength := hlongest other length
        ⟨by omega, fun i hlow hhigh => (hleft i (by omega)).mpr (hmem i hlow hhigh)⟩ (by
          intro hbatched
          obtain ⟨rfl, -⟩ | ⟨first, _, rfl, -, -, ⟨hfirst, hout⟩, -⟩ := hbatch
          · exact absurd rfl hbatched
          · have := hcovers first hfirst hout
            simp only
            omega)
      simp only
      omega

theorem partialMDPComp_mdpCount_le_iff {cached : LayerCache}
    (haccepted : ctx.partialMDPComp dpy list cached = (accepted, true)) :
    accepted.mdpCount ≤ maxPipesPerMixer ↔
      ctx.OneBlock dpy list fun i => cached.hnd i = (list.hwLayer i).handle.map (·.address) := by
  obtain ⟨hcached, hcachedCount, hkept⟩ := FrameInfo.updateLayerCache_eq cached
    (rfl : (FrameInfo.reset list.numAppLayers : FrameInfo numPipes).layerCount = list.numAppLayers)
  rw [partialMDPComp] at haccepted
  exact divided_mdpCount_le_iff hcached hcachedCount hkept rfl haccepted

theorem isOnlyVideoDoable_mdpCount_le_iff (haccepted : ctx.isOnlyVideoDoable dpy list frame = (accepted, true)) :
    accepted.mdpCount ≤ maxPipesPerMixer ↔ ctx.OneBlock dpy list fun _ => true := by
  rw [isOnlyVideoDoable] at haccepted
  split at haccepted
  · simp at haccepted
  · exact divided_mdpCount_le_iff (FrameInfo.counted_reset list.numAppLayers) rfl (fun _ _ => rfl) rfl haccepted

theorem isFullFrameDoable_mdpCount_le_iff {cached : LayerCache}
    (haccepted : ctx.isFullFrameDoable dpy list cached (.reset list.numAppLayers) = (accepted, true)) :
    accepted.mdpCount ≤ maxPipesPerMixer ↔
      if (ctx.fullMDPComp dpy list (.reset list.numAppLayers)).2 then list.numAppLayers ≤ maxPipesPerMixer
      else ctx.OneBlock dpy list fun i => cached.hnd i = (list.hwLayer i).handle.map (·.address) := by
  rw [isFullFrameDoable] at haccepted
  iterate 2
    split at haccepted
    · simp at haccepted
  dsimp only at haccepted
  split at haccepted
  next hfull =>
    rw [if_pos hfull, (fullMDPComp_eq_true haccepted).2]
    exact Int.ofNat_le
  next hfull =>
    rw [if_neg hfull]
    exact partialMDPComp_mdpCount_le_iff haccepted

/-- No more layers get pipes than the limit of the target. -/
theorem mdpCount_le_of_batchDoable (haccepted : ctx.batchDoable dpy list frame = (accepted, true)) :
    accepted.mdpCount ≤ ctx.target.sMaxPipesPerMixer := by
  have hcount : accepted.mdpCount = frame.mdpCount := by
    rw [(batchDoable_eq_true haccepted).2]
    split <;> rfl
  have hbase : (0 : Int) ≤ if ctx.baseNeeded dpy list frame = true then 1 else 0 := by split <;> decide
  rw [batchDoable] at haccepted
  generalize (if ctx.baseNeeded dpy list frame = true then (1 : Int) else 0) = base at haccepted hbase
  iterate 2
    split at haccepted
    · simp at haccepted
  omega

theorem mdpCount_le_of_isOnlyVideoDoable (haccepted : ctx.isOnlyVideoDoable dpy list frame = (accepted, true)) :
    accepted.mdpCount ≤ ctx.target.sMaxPipesPerMixer := by
  rw [isOnlyVideoDoable] at haccepted
  split at haccepted
  · simp at haccepted
  · exact mdpCount_le_of_batchDoable haccepted

theorem mdpCount_le_of_fullMDPComp (haccepted : ctx.fullMDPComp dpy list frame = (accepted, true)) :
    accepted.mdpCount ≤ ctx.target.sMaxPipesPerMixer := by
  rw [(fullMDPComp_eq_true haccepted).2]
  have hbase : (0 : Int) ≤ if ctx.isValidBaseLayer dpy (list.hwLayer 0) = true then 0 else 1 := by
    split <;> decide
  rw [fullMDPComp] at haccepted
  generalize (if ctx.isValidBaseLayer dpy (list.hwLayer 0) = true then (0 : Int) else 1) = base
    at haccepted hbase
  dsimp only at haccepted ⊢
  iterate 5
    split at haccepted
    · simp at haccepted
  omega

theorem mdpCount_le_of_isFullFrameDoable {cached : LayerCache}
    (haccepted : ctx.isFullFrameDoable dpy list cached frame = (accepted, true)) :
    accepted.mdpCount ≤ ctx.target.sMaxPipesPerMixer := by
  rw [isFullFrameDoable] at haccepted
  iterate 2
    split at haccepted
    · simp at haccepted
  dsimp only at haccepted
  split at haccepted
  · exact mdpCount_le_of_fullMDPComp haccepted
  · exact mdpCount_le_of_batchDoable haccepted

theorem isOnlyVideoDoable_snd (other : FrameInfo numPipes) :
    (ctx.isOnlyVideoDoable dpy list frame).2 = (ctx.isOnlyVideoDoable dpy list other).2 := by
  rw [isOnlyVideoDoable, isOnlyVideoDoable]
  split <;> rfl

theorem divisionFits_of_limit (cached : LayerCache) (hlimit : ctx.target.sMaxPipesPerMixer ≤ maxPipesPerMixer) :
    ctx.DivisionFits dpy list cached := by
  intro _
  split
  next hfull =>
    have haccepted : ctx.isFullFrameDoable dpy list cached (.reset list.numAppLayers) = (_, true) :=
      Prod.ext rfl hfull
    exact (isFullFrameDoable_mdpCount_le_iff haccepted).mp
      ((mdpCount_le_of_isFullFrameDoable haccepted).trans hlimit)
  · intro hvideo
    have haccepted : ctx.isOnlyVideoDoable dpy list (.reset list.numAppLayers) = (_, true) := Prod.ext rfl hvideo
    exact (isOnlyVideoDoable_mdpCount_le_iff haccepted).mp
      ((mdpCount_le_of_isOnlyVideoDoable haccepted).trans hlimit)

end Context

/-! ### A round -/

namespace MDPComp

variable {numPipes : Nat} {ctx : Context numPipes} {dpy : Display} {list : DisplayContents}

theorem inBounds_numAppLayers (hlist : list.numAppLayers < maxNumLayers) :
    InBounds ListArray.size (LayerCache.cacheAllAccesses list) ∧
      InBounds ListArray.size (FrameInfo.setMDPCompLayerFlagsAccesses list) := by
  constructor
  · intro access haccess
    obtain ⟨i, hi, rfl⟩ := List.mem_map.mp haccess
    rw [List.mem_range] at hi
    simp only [ListArray.size]
    omega
  · intro access haccess
    obtain ⟨i, hi, rfl⟩ := List.mem_map.mp haccess
    rw [List.mem_range] at hi
    simp only [ListArray.size]
    omega

theorem resetAccesses_inBounds (hlist : list.numAppLayers < maxNumLayers) :
    InBounds ListArray.size (resetAccesses list) :=
  (inBounds_append _ _).mpr ⟨FrameInfo.resetAccesses_inBounds, (inBounds_numAppLayers hlist).1⟩

theorem isSameFrameAccesses_inBounds (cached : LayerCache) {frame : FrameInfo numPipes}
    (hlayers : frame.layerCount < maxNumLayers) :
    InBounds ListArray.size (cached.isSameFrameAccesses list frame) := by
  have hloop : ∀ layers : List Nat, (∀ i ∈ layers, i < frame.layerCount) →
      InBounds ListArray.size (cached.sameLayersAccesses list frame layers) := by
    intro layers
    induction layers with
    | nil => exact fun _ => inBounds_nil
    | cons i layers ih =>
      intro hbound
      have hi : i < maxNumLayers := (hbound i List.mem_cons_self).trans hlayers
      have hrest := ih fun j hj => hbound j (List.mem_cons_of_mem i hj)
      simp [LayerCache.sameLayersAccesses, ListArray.size, hi, hrest]
  rw [LayerCache.isSameFrameAccesses]
  split
  · exact inBounds_nil
  · exact hloop _ fun i hi => List.mem_range.mp hi

theorem composeFrameAccesses_inBounds_iff (mdpComp : MDPComp numPipes) (sDebugLogs full : Bool)
    (fbUpdate : FBUpdate numPipes) {frame : FrameInfo numPipes} (hlist : list.numAppLayers < maxNumLayers)
    (hcomposed : ctx.Composed dpy list frame) :
    InBounds ListArray.size
        (mdpComp.composeFrameAccesses list sDebugLogs full ctx dpy fbUpdate frame) ↔
      frame.mdpCount ≤ maxPipesPerMixer := by
  have hlayers : frame.layerCount < maxNumLayers := hcomposed.layerCount ▸ hlist
  rw [composeFrameAccesses, hcomposed.mdpCount_eq, Int.ofNat_le]
  dsimp only
  rw [inBounds_append, FrameInfo.mapAccesses_inBounds_iff hlayers, and_iff_left_iff_imp]
  intro hfew
  have hfits := FrameInfo.fits_map hlayers hfew
  generalize (if 0 ≤ frame.map.fbZ then fbUpdate.prepare ctx dpy frame.map.fbZ
    else (ctx, fbUpdate, true)) = started
  obtain ⟨next, -, prepared⟩ := started
  dsimp only
  split
  · exact resetAccesses_inBounds hlist
  have hlast := hfits.of_sameFlags (@Context.programMDP_sameFlags _ dpy list next frame.map)
  rw [inBounds_append]
  refine ⟨Context.programMDPAccesses_inBounds next hcomposed.layerCount hfits, ?_⟩
  split
  · exact resetAccesses_inBounds hlist
  · simp only [inBounds_append, inBounds_ite, inBounds_nil, (inBounds_numAppLayers hlist).1,
      (inBounds_numAppLayers hlist).2, isSameFrameAccesses_inBounds _ hlast.layerCount,
      hlast.dumpAccesses_inBounds, implies_true, and_self]

theorem prepareAccesses_inBounds_iff (mdpComp : MDPComp numPipes) (sDebugLogs : Bool)
    (fbUpdate : FBUpdate numPipes) (hlist : list.numAppLayers < maxNumLayers) :
    InBounds ListArray.size (mdpComp.prepareAccesses list sDebugLogs ctx dpy fbUpdate) ↔
      ctx.target.sMaxPipesPerMixer ≤ maxPipesPerMixer ∨ ctx.DivisionFits dpy list mdpComp.mCachedFrame := by
  rw [prepareAccesses, inBounds_append, and_iff_right FrameInfo.resetAccesses_inBounds,
    or_iff_right_of_imp (Context.divisionFits_of_limit _), Context.DivisionFits]
  cases hdoable : ctx.isFrameDoable with
  | false => simp [resetAccesses_inBounds hlist]
  | true =>
    have hchecks := @Context.isFullFrameDoableAccesses_inBounds _ ctx dpy list mdpComp.mCachedFrame
      (.reset list.numAppLayers) hlist
    have hvideos := @Context.isOnlyVideoDoableAccesses_inBounds _ ctx dpy list hlist
    rcases hframe : ctx.isFullFrameDoable dpy list mdpComp.mCachedFrame (.reset list.numAppLayers) with
      ⟨frame, _ | _⟩
    · rw [Context.isOnlyVideoDoable_snd frame]
      rcases hvideo : ctx.isOnlyVideoDoable dpy list frame with ⟨accepted, _ | _⟩
      · simp [hframe, hvideo, hchecks, hvideos, resetAccesses_inBounds hlist]
      · have hcomposed := (Context.isOnlyVideoDoable_accepted hvideo).1
        simp [hframe, hvideo, hchecks, hvideos, Context.isOnlyVideoDoable_mdpCount_le_iff hvideo,
          composeFrameAccesses_inBounds_iff mdpComp sDebugLogs false fbUpdate hlist hcomposed]
    · have hcomposed := (Context.isFullFrameDoable_accepted hframe).1
      simp [hframe, hchecks, Context.isFullFrameDoable_mdpCount_le_iff hframe,
        composeFrameAccesses_inBounds_iff mdpComp sDebugLogs true fbUpdate hlist hcomposed]

end MDPComp

namespace DisplayState

variable {numPipes : Nat}

theorem hwcPrepareAccesses_inBounds_iff (state : DisplayState numPipes) (sDebugLogs : Bool)
    (ctx : Context numPipes) (dpy : Display) (list : Option DisplayContents) :
    InBounds ListArray.size (state.hwcPrepareAccesses sDebugLogs ctx dpy list) ↔
      ∀ shown, list = some shown → state.draws dpy shown = true →
        shown.numAppLayers < maxNumLayers ∧
          (ctx.target.sMaxPipesPerMixer ≤ maxPipesPerMixer ∨
            (state.enter ctx dpy shown).DivisionFits dpy shown state.mdpComp.mCachedFrame) := by
  cases list with
  | none => simp [hwcPrepareAccesses]
  | some shown =>
    simp only [Option.some.injEq, forall_eq', hwcPrepareAccesses]
    cases hdraws : state.draws dpy shown with
    | false => simp
    | true =>
      simp only [Bool.not_true, Bool.false_eq_true, if_false, inBounds_append,
        DisplayContents.setListStatsAccesses_inBounds_iff, true_implies]
      exact and_congr_right fun hlist => MDPComp.prepareAccesses_inBounds_iff _ _ _ hlist

end DisplayState

/-- `hwc_prepare` stays in its arrays exactly when each list that it prepares has at most
`MAX_NUM_LAYERS` layers, the framebuffer target included, and the limit of the property is at most
`MAX_PIPES_PER_MIXER` or the division for which the list is accepted, if any, is within that number. -/
theorem Context.hwcPrepare_inBounds_iff {numPipes : Nat} (ctx : Context numPipes) (sDebugLogs : Bool)
    (displays : Display → DisplayState numPipes) (lists : Display → Option DisplayContents) :
    InBounds ListArray.size (ctx.hwcPrepareAccesses sDebugLogs displays lists) ↔
      ∀ dpy list, lists dpy = some list → (displays dpy).draws dpy list = true →
        list.numAppLayers + 1 ≤ maxNumLayers ∧
          (ctx.target.sMaxPipesPerMixer ≤ maxPipesPerMixer ∨
            ((displays dpy).enter (ctx.arrive displays lists dpy) dpy list).DivisionFits dpy list
              (displays dpy).mdpComp.mCachedFrame) := by
  have htarget : ∀ dpy, (ctx.arrive displays lists dpy).target = ctx.target := by
    intro dpy
    cases dpy with
    | external => rfl
    | primary => exact DisplayState.hwcPrepare_target _ _ _ _
  rw [hwcPrepareAccesses, inBounds_append, DisplayState.hwcPrepareAccesses_inBounds_iff,
    DisplayState.hwcPrepareAccesses_inBounds_iff, htarget, htarget]
  constructor
  · rintro ⟨hexternal, hprimary⟩ (_ | _)
    · exact hprimary
    · exact hexternal
  · intro hall
    exact ⟨hall .external, hall .primary⟩

def wideContext : Context 8 where
  target := { sampleTarget with version := mdssV5, sMaxPipesPerMixer := 8 }
  mExtDispConfiguring := false
  mVideoTransFlag := false
  mSecuring := false
  mSecureMode := false
  mNeedsRotator := false
  mDMAInUse := false
  sIdleFallBack := false
  overlay := .init (initOverlay 3 3 2)
  driver := []
  rotator := []
  commits := []

def layersOf (addresses : List Nat) (dpy : Display) : Option DisplayContents :=
  if dpy = .primary then
    some ⟨addresses.map fun address => sampleLayer address false, sampleLayer 100 false, true⟩
  else none

/-- Thirty-three layers with the default of the property, and six with a larger one. -/
theorem Context.hwcPrepare_leavesArrays :
    ¬InBounds ListArray.size ((sampleContext []).hwcPrepareAccesses false (fun _ => sampleDisplay)
        (layersOf (List.range 32))) ∧
      ¬InBounds ListArray.size (wideContext.hwcPrepareAccesses false
        (fun _ => ⟨⟨.reset 0, sampleCache⟩, ⟨none, false, 0⟩, 0, true, false, false⟩)
        (layersOf (List.range 5))) := by
  constructor
  · intro hbounds
    have hprimary := ((inBounds_append _ _).mp hbounds).2
    rw [DisplayState.hwcPrepareAccesses_inBounds_iff] at hprimary
    exact absurd (hprimary _ rfl (by decide)).1 (by decide)
  · intro hbounds
    have hprimary := ((inBounds_append _ _).mp hbounds).2
    rw [DisplayState.hwcPrepareAccesses_inBounds_iff] at hprimary
    rcases (hprimary _ rfl (by decide)).2 with hlimit | hfits
    · exact absurd hlimit (by decide)
    · have hfew : 5 ≤ maxPipesPerMixer := hfits (by decide)
      exact absurd hfew (by decide)

end Nozomi
