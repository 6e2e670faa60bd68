import Mathlib.Order.Interval.Finset.Nat
import Nozomi.Display.MDPComp.Code

/-!
# The layers in the framebuffer are one block

The passes of `partialMDPComp` and `isOnlyVideoDoable` keep `fbCount` in step with `isFBComposed`, the
pass over the unsupported layers fills the gaps between them, and the batching ends with one run of
layers, to which `fbZ` points. The loops of the batching are stated for a run of any predicate.
-/

namespace Nozomi

/-! ### Runs of a predicate -/

/-- The positions from `start` on are a run that ends at the bound or where the predicate fails. -/
structure IsRun (inside : Nat → Bool) (bound start count : Nat) : Prop where
  pos : 0 < count
  le : start + count ≤ bound
  mem : ∀ i, start ≤ i → i < start + count → inside i = true
  ends : start + count < bound → inside (start + count) = false

namespace FrameInfo

variable {numPipes : Nat} {frame : FrameInfo numPipes}

/-! ### The loops of `batchLayers` -/

/-- What the loops of a given batch keep: the layers of the batch are in the framebuffer. -/
def InFB (frame : FrameInfo numPipes) (start count : Nat) : Prop :=
  start + count ≤ frame.layerCount ∧
    ∀ i, start ≤ i → i < start + count → frame.isFBComposed i = true

theorem extendDown_eq {start count : Nat} (hbatch : frame.InFB start count) :
    ∃ start' count' : Nat, frame.extendDown (start, count) = (↑start', ↑count') ∧
      start' ≤ start ∧ start' + count' = start + count ∧ frame.InFB start' count' ∧
      (0 < start' → frame.isFBComposed (start' - 1) = false) := by
  have hindex : ∀ start' : Nat, ((start' : Int) - 1).toNat = start' - 1 := by omega
  let invariant : Int × Int → Prop := fun batch => ∃ start' count' : Nat, batch = (↑start', ↑count') ∧
    start' ≤ start ∧ start' + count' = start + count ∧ frame.InFB start' count'
  have hbody : ∀ batch, invariant batch →
      (decide (0 < batch.1) && frame.isFBComposed (batch.1 - 1).toNat) = true →
      invariant (batch.1 - 1, batch.2 + 1) := by
    rintro _ ⟨start', count', rfl, hle, hsum, hbound, hmem⟩ htest
    simp only [Bool.and_eq_true, decide_eq_true_eq, hindex] at htest
    obtain ⟨hstart, hbelow⟩ := htest
    refine ⟨start' - 1, count' + 1, Prod.ext (by simp only; omega) (by simp), by omega, by omega, by omega, ?_⟩
    intro i hi hlt
    by_cases hfirst : i = start' - 1
    · rwa [hfirst]
    · exact hmem i (by omega) (by omega)
  have hinit : invariant (start, count) := ⟨start, count, rfl, le_refl _, rfl, hbatch⟩
  obtain ⟨start', count', heq, hle, hsum, hin⟩ := whileLoop_invariant hbody (frame.layerCount + 1) _ hinit
  have hexit := whileLoop_exit (fun batch : Int × Int => batch.1.toNat) hbody ?_ (frame.layerCount + 1) _ hinit
    (by have := hbatch.1; simp only; omega)
  · rw [heq] at hexit
    refine ⟨start', count', heq, hle, hsum, hin, fun hpos => ?_⟩
    simpa [hpos, hindex] using hexit
  · rintro batch - htest
    simp only [Bool.and_eq_true, decide_eq_true_eq] at htest ⊢
    omega

theorem extendUp_eq {start count : Nat} (hpos : 0 < count) (hbatch : frame.InFB start count) :
    ∃ count' : Nat, frame.extendUp (start, count) = (↑start, ↑count') ∧ count ≤ count' ∧
      IsRun frame.isFBComposed frame.layerCount start count' := by
  have hindex : ∀ count' : Nat, ((start : Int) + count').toNat = start + count' := by omega
  let invariant : Int × Int → Prop := fun batch => ∃ count' : Nat, batch = (↑start, ↑count') ∧
    count ≤ count' ∧ frame.InFB start count'
  have hbody : ∀ batch, invariant batch → (decide (batch.1 + batch.2 < frame.layerCount) &&
      frame.isFBComposed (batch.1 + batch.2).toNat) = true → invariant (batch.1, batch.2 + 1) := by
    rintro _ ⟨count', rfl, hle, hbound, hmem⟩ htest
    simp only [Bool.and_eq_true, decide_eq_true_eq, hindex] at htest
    obtain ⟨hlt, hnext⟩ := htest
    refine ⟨count' + 1, rfl, by omega, by omega, ?_⟩
    intro i hi hlast
    by_cases hend : i = start + count'
    · rwa [hend]
    · exact hmem i hi (by omega)
  have hinit : invariant (start, count) := ⟨count, rfl, le_refl _, hbatch⟩
  obtain ⟨count', heq, hle, hbound, hmem⟩ :=
    whileLoop_invariant hbody (frame.layerCount + 1) _ hinit
  have hexit := whileLoop_exit (fun batch : Int × Int => (frame.layerCount - (batch.1 + batch.2)).toNat)
    hbody ?_ (frame.layerCount + 1) _ hinit (by simp only; omega)
  · rw [heq] at hexit
    refine ⟨count', heq, hle, by omega, hbound, hmem, fun hlt => ?_⟩
    simp only [Bool.and_eq_false_iff, decide_eq_false_iff_not, hindex] at hexit
    rcases hexit with hexit | hexit
    · omega
    · exact hexit
  · rintro _ ⟨count', rfl, -⟩ htest
    simp only [Bool.and_eq_true, decide_eq_true_eq] at htest ⊢
    omega

theorem skipFB_eq {i : Nat} (hi : i ≤ frame.layerCount) :
    ∃ count, frame.skipFB i = (count, i + count) ∧ frame.InFB i count ∧
      (i + count < frame.layerCount → frame.isFBComposed (i + count) = false) := by
  let invariant : Nat × Nat → Prop := fun state => state.2 = i + state.1 ∧ frame.InFB i state.1
  have hbody : ∀ state, invariant state →
      (frame.isFBComposed state.2 && decide (state.2 < frame.layerCount)) = true →
      invariant (state.1 + 1, state.2 + 1) := by
    intro state ⟨hsum, hbound, hmem⟩ htest
    simp only [Bool.and_eq_true, decide_eq_true_eq] at htest
    refine ⟨by simp only; omega, by simp only; omega, ?_⟩
    intro j hj hlast
    by_cases hend : j = state.2
    · rw [hend]
      exact htest.1
    · exact hmem j hj (by simp only at hlast; omega)
  have hinit : invariant (0, i) := ⟨rfl, hi, fun j hj hlast => absurd hlast (by omega)⟩
  obtain ⟨heq, hbatch⟩ := whileLoop_invariant hbody (frame.layerCount + 1) _ hinit
  have hexit := whileLoop_exit (fun state => frame.layerCount - state.2) hbody ?_
    (frame.layerCount + 1) _ hinit (by simp only; omega)
  · refine ⟨(frame.skipFB i).1, Prod.ext rfl heq, hbatch, fun hlt => ?_⟩
    rw [heq] at hexit
    simp only [Bool.and_eq_false_iff, decide_eq_false_iff_not] at hexit
    rcases hexit with hexit | hexit
    · exact hexit
    · exact absurd hlt hexit
  · rintro state - htest
    simp only [Bool.and_eq_true, decide_eq_true_eq] at htest
    omega

theorem longestBatch_eq (batchStart : Int) {i : Nat} (hi : i < frame.layerCount)
    (hfb : frame.isFBComposed i = true) :
    ∃ start count : Nat, frame.longestBatch (batchStart, 0) = (↑start, ↑count) ∧
      IsRun frame.isFBComposed frame.layerCount start count ∧
      ∀ other length, frame.InFB other length → length ≤ count := by
  -- No block that begins in front of the position is longer than the run that was found.
  let invariant : Nat × Int × Int → Prop := fun state => state.1 ≤ frame.layerCount ∧
    (∀ other length, other < state.1 → frame.InFB other length → (length : Int) ≤ state.2.2) ∧
    (state.2.2 = 0 ∨ ∃ start count : Nat, state.2 = (↑start, ↑count) ∧
      IsRun frame.isFBComposed frame.layerCount start count)
  have hbody : ∀ state, invariant state → decide (state.1 < frame.layerCount) = true →
      invariant (frame.searchStep state) := by
    intro state ⟨hle, hlongest, hfound⟩ htest
    rw [decide_eq_true_eq] at htest
    obtain ⟨count, hskip, ⟨hbound, hmem⟩, hends⟩ := skipFB_eq hle
    rw [searchStep, hskip]
    have hnonneg : 0 ≤ state.2.2 := by
      rcases hfound with hzero | ⟨start, found, heq, -⟩
      · omega
      · rw [heq]
        omega
    -- a block that begins where the search skips ends with the skipped layers
    have hshort : ∀ other length, other ≤ state.1 + count → frame.InFB other length →
        (length : Int) ≤ max state.2.2 count := by
      intro other length hother hin
      by_cases hbefore : other < state.1
      · exact (hlongest other length hbefore hin).trans (le_max_left _ _)
      have hend : other + length ≤ state.1 + count := by
        by_contra hlonger
        have hout := hends (by have := hin.1; omega)
        rw [hin.2 _ hother (by omega)] at hout
        exact absurd hout (by decide)
      omega
    refine ⟨by simp only; split <;> omega, ?_, ?_⟩
    · intro other length hother hin
      have hlength := hshort other length (by simp only at hother; split at hother <;> omega) hin
      by_cases hlonger : state.2.2 < count
      · rw [if_pos hlonger]
        exact hlength.trans (max_le hlonger.le (le_refl _))
      · rw [if_neg hlonger]
        exact hlength.trans (max_le (le_refl _) (not_lt.mp hlonger))
    · simp only
      split
      · exact .inr ⟨state.1, count, by ext <;> simp, by omega, hbound, hmem, hends⟩
      · exact hfound
  have hinit : invariant (0, batchStart, 0) :=
    ⟨Nat.zero_le _, fun other _ hother => absurd hother (Nat.not_lt_zero other), .inl rfl⟩
  obtain ⟨hle, hlongest, hfound⟩ := whileLoop_invariant hbody (frame.layerCount + 1) _ hinit
  have hexit := whileLoop_exit (fun state => frame.layerCount - state.1) hbody ?_
    (frame.layerCount + 1) _ hinit (by simp only; omega)
  · rw [decide_eq_false_iff_not] at hexit
    have hone := hlongest i 1 (by omega) ⟨hi, fun j hj hlast => by rwa [show j = i by omega]⟩
    obtain ⟨start, count, heq, hrun⟩ := hfound.resolve_left (by omega)
    refine ⟨start, count, heq, hrun, fun other length hin => ?_⟩
    by_cases hother : other < frame.layerCount
    · have hlength := hlongest other length (by omega) hin
      rw [heq] at hlength
      exact Int.ofNat_le.mp hlength
    · have := hin.1
      omega
  · rintro state ⟨hle', -⟩ htest
    rw [decide_eq_true_eq] at htest
    obtain ⟨count, hskip, ⟨hbound, -⟩, -⟩ := skipFB_eq hle'
    rw [searchStep, hskip]
    simp only
    split <;> omega

theorem resetRest_eq {start count : Nat}
    (hrun : IsRun frame.isFBComposed frame.layerCount start count) :
    ∀ i < frame.layerCount, frame.resetRest (start, count) i = true ↔
      start ≤ i ∧ i < start + count := by
  obtain ⟨hpos, hbound, hmem, hends⟩ := hrun
  -- The loop steps over the batch and over the layer behind it, which is not in the framebuffer.
  let invariant : Nat × (Nat → Bool) → Prop := fun state =>
    (state.1 ≤ start ∨ start + count < state.1) ∧
    ∀ i < frame.layerCount, state.2 i = true ↔
      frame.isFBComposed i = true ∧ (state.1 ≤ i ∨ start ≤ i ∧ i < start + count)
  have hbody : ∀ state, invariant state → decide (state.1 < frame.layerCount) = true →
      invariant (resetStep (start, count) state) := by
    intro state ⟨hside, hkept⟩ htest
    rw [decide_eq_true_eq] at htest
    rw [resetStep]
    by_cases heq : state.1 = start
    case neg =>
      rw [if_pos (by simp only [ne_eq]; omega)]
      refine ⟨by simp only; omega, fun i hi => ?_⟩
      by_cases hself : i = state.1
      · simp [hself]
        omega
      · simp only [Function.update_of_ne hself, hkept i hi]
        refine and_congr_right fun _ => ?_
        omega
    case pos =>
      rw [if_neg (by simp [heq])]
      refine ⟨.inr (by simp only; omega), fun i hi => ?_⟩
      rw [hkept i hi]
      refine and_congr_right fun hfb => ?_
      have hbehind : i ≠ start + count := by
        intro hi'
        have hout := hends (by omega)
        rw [← hi', hfb] at hout
        exact absurd hout (by decide)
      simp only
      omega
  have hinit : invariant (0, frame.isFBComposed) := ⟨.inl (Nat.zero_le _), by simp⟩
  obtain ⟨hside, hkept⟩ := whileLoop_invariant hbody (frame.layerCount + 1) _ hinit
  have hexit := whileLoop_exit (fun state => frame.layerCount - state.1) hbody ?_
    (frame.layerCount + 1) _ hinit (by simp only; omega)
  · rw [decide_eq_false_iff_not] at hexit
    intro i hi
    rw [resetRest, hkept i hi]
    constructor
    · rintro ⟨-, hi' | hin⟩
      · omega
      · exact hin
    · exact fun hin => ⟨hmem i hin.1 hin.2, .inr hin⟩
  · intro state _ htest
    rw [decide_eq_true_eq] at htest
    rw [resetStep]
    split <;> (simp only; omega)

/-! ### The counts -/

def Counted (frame : FrameInfo numPipes) : Prop :=
  frame.fbCount = ((Finset.range frame.layerCount).filter fun i => frame.isFBComposed i = true).card

theorem counted_reset (numLayers : Nat) : (reset numLayers : FrameInfo numPipes).Counted := by
  simp [Counted, reset]

theorem Counted.all_fb (hcounted : frame.Counted) (hall : frame.fbCount = frame.layerCount) :
    ∀ i < frame.layerCount, frame.isFBComposed i = true := by
  have hfull : ∀ i ∈ Finset.range frame.layerCount, frame.isFBComposed i = true :=
    Finset.filter_card_eq (by
      rw [Counted] at hcounted
      rw [Finset.card_range]
      omega)
  exact fun i hi => hfull i (Finset.mem_range.mpr hi)

theorem toFB_layerCount (i : Nat) : (frame.toFB i).layerCount = frame.layerCount := by
  rw [toFB]
  split <;> rfl

theorem toMDP_layerCount (i : Nat) : (frame.toMDP i).layerCount = frame.layerCount := by
  rw [toMDP]
  split <;> rfl

theorem toFB_isFBComposed (i j : Nat) :
    (frame.toFB i).isFBComposed j = true ↔ j = i ∨ frame.isFBComposed j = true := by
  rw [toFB]
  split
  · exact ⟨.inr, fun hj => hj.elim (fun heq => by rwa [heq]) id⟩
  · by_cases hj : j = i
    · simp [hj]
    · simp [hj]

theorem toMDP_isFBComposed (i j : Nat) :
    (frame.toMDP i).isFBComposed j = true ↔ j ≠ i ∧ frame.isFBComposed j = true := by
  rw [toMDP]
  split
  · by_cases hj : j = i
    · simp [hj]
    · simp [hj]
  next hout => exact ⟨fun hj => ⟨fun heq => hout (heq ▸ hj), hj⟩, And.right⟩

theorem Counted.toFB (hcounted : frame.Counted) {i : Nat} (hi : i < frame.layerCount) :
    (frame.toFB i).Counted := by
  rw [FrameInfo.toFB]
  split
  · exact hcounted
  next hout =>
    have hinsert : ((Finset.range frame.layerCount).filter fun j =>
        Function.update frame.isFBComposed i true j = true) =
        insert i ((Finset.range frame.layerCount).filter fun j => frame.isFBComposed j = true) := by
      ext j
      by_cases hj : j = i
      · simp [hj, hi]
      · simp [hj]
    rw [Counted, hinsert, Finset.card_insert_of_notMem (by simp [hout]), hcounted]
    rfl

theorem Counted.toMDP (hcounted : frame.Counted) {i : Nat} (hi : i < frame.layerCount) :
    (frame.toMDP i).Counted := by
  rw [FrameInfo.toMDP]
  split
  · have herase : ((Finset.range frame.layerCount).filter fun j =>
        Function.update frame.isFBComposed i false j = true) =
        ((Finset.range frame.layerCount).filter fun j => frame.isFBComposed j = true).erase i := by
      ext j
      by_cases hj : j = i
      · simp [hj]
      · simp [hj]
    have hmem : i ∈ (Finset.range frame.layerCount).filter fun j => frame.isFBComposed j = true := by
      simp [hi, ‹frame.isFBComposed i = true›]
    rw [Counted, herase, Finset.card_erase_of_mem hmem, hcounted]
    have hpos := Finset.card_pos.mpr ⟨i, hmem⟩
    simp only
    omega
  · exact hcounted

theorem foldl_toFB (layers : List Nat) :
    ∀ frame : FrameInfo numPipes, frame.Counted → (∀ i ∈ layers, i < frame.layerCount) →
      (layers.foldl FrameInfo.toFB frame).Counted ∧
      (layers.foldl FrameInfo.toFB frame).layerCount = frame.layerCount ∧
      ∀ j, (layers.foldl FrameInfo.toFB frame).isFBComposed j = true ↔
        j ∈ layers ∨ frame.isFBComposed j = true := by
  induction layers with
  | nil => simp
  | cons i layers ih =>
    intro frame hcounted hbound
    have hi := hbound i List.mem_cons_self
    obtain ⟨hlast, hcount, hfb⟩ := ih (frame.toFB i) (hcounted.toFB hi) (by
      rw [toFB_layerCount]
      exact fun j hj => hbound j (List.mem_cons_of_mem _ hj))
    rw [toFB_layerCount] at hcount
    refine ⟨hlast, hcount, fun j => ?_⟩
    rw [List.foldl_cons, hfb, toFB_isFBComposed, List.mem_cons]
    tauto

theorem updateLayerCache_eq (cached : LayerCache) {list : DisplayContents}
    (hlist : frame.layerCount = list.numAppLayers) :
    (frame.updateLayerCache cached list).Counted ∧
      (frame.updateLayerCache cached list).layerCount = frame.layerCount ∧
      ∀ i < list.numAppLayers, (frame.updateLayerCache cached list).isFBComposed i =
        decide (cached.hnd i = (list.hwLayer i).handle.map (·.address)) := by
  have hfold : ∀ bound, ∃ last : FrameInfo numPipes,
      (List.range bound).foldl (cacheLayer cached list) { frame with fbCount := 0 } = last ∧
      last.layerCount = frame.layerCount ∧
      last.fbCount = ((Finset.range bound).filter fun i => last.isFBComposed i = true).card ∧
      ∀ i < bound, last.isFBComposed i =
        decide (cached.hnd i = (list.hwLayer i).handle.map (·.address)) := by
    intro bound
    induction bound with
    | zero => exact ⟨_, rfl, rfl, rfl, fun i hi => absurd hi (Nat.not_lt_zero i)⟩
    | succ bound ih =>
      obtain ⟨last, hlast, hcount, hcounted, hflags⟩ := ih
      have hrest : ∀ value, ((Finset.range bound).filter fun i =>
          Function.update last.isFBComposed bound value i = true) =
          (Finset.range bound).filter fun i => last.isFBComposed i = true := by
        intro value
        apply Finset.filter_congr
        intro i hi
        rw [Function.update_of_ne (Finset.mem_range.mp hi).ne]
      refine ⟨_, rfl, ?_⟩
      rw [List.range_succ, List.foldl_concat, hlast, cacheLayer, Finset.range_add_one]
      have hnext : ∀ value, value = decide (cached.hnd bound = (list.hwLayer bound).handle.map (·.address)) →
          ∀ i < bound + 1, Function.update last.isFBComposed bound value i =
            decide (cached.hnd i = (list.hwLayer i).handle.map (·.address)) := by
        intro value hvalue i hi
        rcases Nat.lt_succ_iff_lt_or_eq.mp hi with hi | rfl
        · rw [Function.update_of_ne hi.ne, hflags i hi]
        · rw [Function.update_self, hvalue]
      split
      next hsame =>
        refine ⟨hcount, ?_, hnext true (by simp [hsame])⟩
        simp [Finset.filter_insert, hrest, hcounted]
      next hother =>
        refine ⟨hcount, ?_, hnext false (by simp [hother])⟩
        simp [Finset.filter_insert, hrest, hcounted]
  obtain ⟨last, hlast, hcount, hcounted, hflags⟩ := hfold list.numAppLayers
  rw [updateLayerCache, hlast]
  refine ⟨?_, hcount, hflags⟩
  rw [Counted, countMDP, hcount, hlist]
  exact hcounted

end FrameInfo

namespace Context

variable {numPipes : Nat} {ctx : Context numPipes} {dpy : Display} {list : DisplayContents}
  {frame : FrameInfo numPipes}

theorem yuvIndices_lt {i : Nat} (hi : i ∈ list.yuvIndices) : i < list.numAppLayers := by
  rw [DisplayContents.yuvIndices] at hi
  exact List.mem_range.mp (List.mem_filter.mp hi).1

/-- A video that gets one of the available pipes. -/
def FindsPipe (ctx : Context numPipes) (dpy : Display) (list : DisplayContents) (available : Int) (i : Nat) : Prop :=
  ctx.isYUVDoable dpy (list.hwLayer i) ∧ ((i : Int) < available ∨ (list.numAppLayers : Int) - available ≤ i)

/-- A layer of the framebuffer that is no video, or a video that gets no pipe. -/
def KeptInFB (ctx : Context numPipes) (dpy : Display) (list : DisplayContents) (frame : FrameInfo numPipes)
    (i : Nat) : Prop :=
  if i ∈ list.yuvIndices then ¬ctx.FindsPipe dpy list (ctx.getAvailablePipes dpy frame) i
  else frame.isFBComposed i = true

variable {available : Int}

theorem markYUV_eq (hcounted : frame.Counted) (hlist : frame.layerCount = list.numAppLayers) {i : Nat}
    (hi : i < list.numAppLayers) :
    (ctx.markYUV dpy list available frame i).Counted ∧
      (ctx.markYUV dpy list available frame i).layerCount = list.numAppLayers ∧
      ∀ j, (ctx.markYUV dpy list available frame i).isFBComposed j = true ↔
        if j = i then ¬ctx.FindsPipe dpy list available i else frame.isFBComposed j = true := by
  have hi : i < frame.layerCount := hlist ▸ hi
  rw [markYUV, hlist]
  split
  next hpipe =>
    refine ⟨hcounted.toMDP hi, (FrameInfo.toMDP_layerCount i).trans hlist, fun j => ?_⟩
    rw [FrameInfo.toMDP_isFBComposed]
    by_cases hj : j = i
    · rw [if_pos hj]
      exact ⟨fun hmdp => absurd hj hmdp.1, fun hout => absurd hpipe hout⟩
    · simp [hj]
  next hpipe =>
    refine ⟨hcounted.toFB hi, (FrameInfo.toFB_layerCount i).trans hlist, fun j => ?_⟩
    rw [FrameInfo.toFB_isFBComposed]
    by_cases hj : j = i
    · rw [if_pos hj]
      exact ⟨fun _ => hpipe, fun _ => .inl hj⟩
    · simp [hj]

theorem foldl_markYUV_eq (layers : List Nat) (hlayers : ∀ i ∈ layers, i < list.numAppLayers)
    (hcounted : frame.Counted) (hlist : frame.layerCount = list.numAppLayers) :
    ∃ last, layers.foldl (ctx.markYUV dpy list available) frame = last ∧ last.Counted ∧
      last.layerCount = list.numAppLayers ∧ ∀ i, last.isFBComposed i = true ↔
        if i ∈ layers then ¬ctx.FindsPipe dpy list available i else frame.isFBComposed i = true := by
  induction layers generalizing frame with
  | nil => exact ⟨_, rfl, hcounted, hlist, fun i => by simp⟩
  | cons i layers ih =>
    obtain ⟨hmarked, hcount, hflag⟩ :=
      @markYUV_eq _ ctx dpy _ _ available hcounted hlist _ (hlayers i List.mem_cons_self)
    obtain ⟨last, hlast, hlastCounted, hlastCount, hflags⟩ :=
      ih (fun j hj => hlayers j (List.mem_cons_of_mem _ hj)) hmarked hcount
    refine ⟨last, hlast, hlastCounted, hlastCount, fun j => ?_⟩
    simp only [hflags, hflag, List.mem_cons]
    by_cases hj : j = i
    · simp [hj]
    · simp [hj]

theorem updateYUV_eq (ctx : Context numPipes) (dpy : Display) (hcounted : frame.Counted)
    (hlist : frame.layerCount = list.numAppLayers) :
    (ctx.updateYUV dpy list frame).Counted ∧
      (ctx.updateYUV dpy list frame).layerCount = list.numAppLayers ∧
      ∀ i, (ctx.updateYUV dpy list frame).isFBComposed i = true ↔ ctx.KeptInFB dpy list frame i := by
  rw [updateYUV]
  split
  next hnone =>
    refine ⟨hcounted, hlist, fun i => ?_⟩
    rw [KeptInFB, hnone, if_neg (List.not_mem_nil)]
  · obtain ⟨last, hlast, hlastCounted, hcount, hflags⟩ :=
      foldl_markYUV_eq list.yuvIndices (fun i hi => yuvIndices_lt hi) hcounted hlist
    rw [hlast]
    exact ⟨hlastCounted, hcount, hflags⟩

/-- A layer that is not supported, or one between two that are not. -/
def BetweenUnsupported (ctx : Context numPipes) (dpy : Display) (list : DisplayContents) (i : Nat) : Prop :=
  ∃ low high, low ≤ i ∧ i ≤ high ∧ high < list.numAppLayers ∧ ctx.isSupported dpy list low = false ∧
    ctx.isSupported dpy list high = false

/-- What `updateNotSupported` has found below a bound: no unsupported layer, or the first and the last
one, with everything between them sent to the framebuffer. -/
structure Marked (ctx : Context numPipes) (dpy : Display) (list : DisplayContents)
    (start : FrameInfo numPipes) (bound : Nat) (state : FrameInfo numPipes × Int × Int) : Prop where
  counted : state.1.Counted
  layerCount : state.1.layerCount = list.numAppLayers
  range : state = (start, -1, -2) ∧ (∀ i < bound, ctx.isSupported dpy list i = true) ∨
    ∃ min max : Nat, state.2 = (↑min, ↑max) ∧ min ≤ max ∧ max < bound ∧
      (∀ i, state.1.isFBComposed i = true ↔ min ≤ i ∧ i ≤ max ∨ start.isFBComposed i = true) ∧
      (ctx.isSupported dpy list min = false ∧ ctx.isSupported dpy list max = false) ∧
      ∀ i < bound, ctx.isSupported dpy list i = false → min ≤ i ∧ i ≤ max

theorem mem_takeWhile_reverse_range {max bound i : Nat} :
    i ∈ ((List.range bound).reverse.takeWhile fun (j : Nat) => decide ((max : Int) < j)) ↔
      max < i ∧ i < bound := by
  induction bound with
  | zero => simp
  | succ bound ih =>
    rw [List.range_succ, List.reverse_append, List.reverse_singleton, List.singleton_append,
      List.takeWhile_cons]
    split
    · rw [List.mem_cons, ih]
      simp only [decide_eq_true_eq, Int.ofNat_lt] at *
      omega
    · simp only [decide_eq_true_eq, Int.ofNat_lt] at *
      simp only [List.not_mem_nil, false_iff]
      omega

theorem Marked.step {start : FrameInfo numPipes} {bound : Nat} {state : FrameInfo numPipes × Int × Int}
    (hmarked : Marked ctx dpy list start bound state) (hbound : bound < list.numAppLayers) :
    Marked ctx dpy list start (bound + 1) (ctx.markNotSupported dpy list state bound) := by
  obtain ⟨frame, first, last⟩ := state
  obtain ⟨hcounted, hcount, hrange⟩ := hmarked
  have hi : bound < frame.layerCount := hcount ▸ hbound
  rw [markNotSupported]
  by_cases hsupported : ctx.isSupported dpy list bound = true
  case pos =>
    rw [if_pos hsupported]
    refine ⟨hcounted, hcount, ?_⟩
    rcases hrange with ⟨hnone, hall⟩ | ⟨min, max, heq, hle, hlt, hfb, hends, hin⟩
    · refine .inl ⟨hnone, fun i hi => ?_⟩
      rcases Nat.lt_succ_iff_lt_or_eq.mp hi with hi | rfl
      · exact hall i hi
      · exact hsupported
    · refine .inr ⟨min, max, heq, hle, by omega, hfb, hends, fun i hi hout => ?_⟩
      rcases Nat.lt_succ_iff_lt_or_eq.mp hi with hi | rfl
      · exact hin i hi hout
      · simp [hsupported] at hout
  case neg =>
    rw [if_neg hsupported]
    have hmarkedSelf := hcounted.toFB hi
    have hself := Bool.eq_false_iff.mpr hsupported
    rcases hrange with ⟨hnone, hall⟩ | ⟨min, max, heq, hle, hlt, hfb, hends, hin⟩
    · obtain ⟨rfl, rfl, rfl⟩ := by simpa only [Prod.mk.injEq] using hnone
      refine ⟨hmarkedSelf, (FrameInfo.toFB_layerCount bound).trans hcount,
        .inr ⟨bound, bound, rfl, le_refl _, Nat.lt_succ_self _, ?_, ⟨hself, hself⟩, ?_⟩⟩
      · intro i
        refine (FrameInfo.toFB_isFBComposed bound i).trans (or_congr_left ?_)
        omega
      · intro i hi hout
        rcases Nat.lt_succ_iff_lt_or_eq.mp hi with hi | rfl
        · simp [hall i hi] at hout
        · exact ⟨le_refl _, le_refl _⟩
    · obtain ⟨rfl, rfl⟩ := Prod.ext_iff.mp heq
      obtain ⟨hgap, hgapCount, hgapFB⟩ := FrameInfo.foldl_toFB
        ((List.range bound).reverse.takeWhile fun (j : Nat) => decide ((max : Int) < j))
        (frame.toFB bound) hmarkedSelf (by
          intro i hmem
          have := mem_takeWhile_reverse_range.mp hmem
          rw [FrameInfo.toFB_layerCount]
          omega)
      have hfirst : (if (min : Int) < 0 then (bound : Int) else min) = min := if_neg (by omega)
      simp only [if_pos (Int.natCast_nonneg max), hfirst]
      refine ⟨hgap, hgapCount.trans ((FrameInfo.toFB_layerCount bound).trans hcount),
        .inr ⟨min, bound, rfl, by omega, Nat.lt_succ_self _, ?_, ⟨hends.1, hself⟩, ?_⟩⟩
      · intro i
        rw [hgapFB, mem_takeWhile_reverse_range, FrameInfo.toFB_isFBComposed, hfb, ← or_assoc, ← or_assoc]
        refine or_congr_left ?_
        omega
      · intro i hi hout
        rcases Nat.lt_succ_iff_lt_or_eq.mp hi with hi | rfl
        · have := hin i hi hout
          omega
        · omega

/-- The batch of `updateNotSupported`: none while all layers are supported, or the layers from the first
unsupported one to the last. -/
def Batched (ctx : Context numPipes) (dpy : Display) (list : DisplayContents) (frame : FrameInfo numPipes)
    (batch : Int × Int) : Prop :=
  batch = (-1, 0) ∧ (∀ i < list.numAppLayers, ctx.isSupported dpy list i = true) ∨
    ∃ start count : Nat, batch = (↑start, ↑count) ∧ 0 < count ∧ frame.InFB start count ∧
      (start < list.numAppLayers ∧ ctx.isSupported dpy list start = false) ∧
      ∀ i < list.numAppLayers, ctx.isSupported dpy list i = false → start ≤ i ∧ i < start + count

namespace Batched

variable {batch : Int × Int} (hbatch : Batched ctx dpy list frame batch)

include hbatch

theorem shape :
    batch.2 = 0 ∨ ∃ start count : Nat, batch = (↑start, ↑count) ∧ 0 < count ∧ frame.InFB start count := by
  rcases hbatch with ⟨rfl, -⟩ | ⟨start, count, heq, hpos, hinFB, -⟩
  · exact .inl rfl
  · exact .inr ⟨start, count, heq, hpos, hinFB⟩

/-- A run around the batch holds every unsupported layer. -/
theorem covered {start count : Nat}
    (hrange : batch.2 ≠ 0 → ∀ i : Nat, batch.1 ≤ i → i < batch.1 + batch.2 → start ≤ i ∧ i < start + count) :
    ∀ i < list.numAppLayers, ctx.isSupported dpy list i = false → start ≤ i ∧ i < start + count := by
  intro i hi hout
  rcases hbatch with ⟨-, hall⟩ | ⟨low, found, rfl, hfound, -, -, hfoundRange⟩
  · simp [hall i hi] at hout
  · have := hfoundRange i hi hout
    exact hrange (by simp only; omega) i (by simp only; omega) (by simp only; omega)

end Batched

theorem updateNotSupported_eq (ctx : Context numPipes) (dpy : Display) (hcounted : frame.Counted)
    (hlist : frame.layerCount = list.numAppLayers) :
    ∃ last batch, ctx.updateNotSupported dpy list frame = (last, batch) ∧ last.Counted ∧
      last.layerCount = list.numAppLayers ∧ last.mdpCount = last.layerCount - last.fbCount ∧
      ctx.Batched dpy list last batch ∧
      ∀ i, last.isFBComposed i = true ↔ frame.isFBComposed i = true ∨ ctx.BetweenUnsupported dpy list i := by
  have hfold : ∀ bound ≤ list.numAppLayers, Marked ctx dpy list frame bound
      ((List.range bound).foldl (ctx.markNotSupported dpy list) (frame, -1, -2)) := by
    intro bound hbound
    induction bound with
    | zero => exact ⟨hcounted, hlist, .inl ⟨rfl, fun i hi => absurd hi (Nat.not_lt_zero i)⟩⟩
    | succ bound ih =>
      rw [List.range_succ, List.foldl_concat]
      exact (ih (by omega)).step (by omega)
  obtain ⟨hlast, hcount, hrange⟩ := hfold _ (le_refl _)
  rw [updateNotSupported]
  generalize (List.range list.numAppLayers).foldl (ctx.markNotSupported dpy list) (frame, -1, -2) = found
    at hlast hcount hrange
  obtain ⟨last, min, max⟩ := found
  refine ⟨last.countMDP, _, rfl, hlast, hcount, rfl, ?_⟩
  rcases hrange with ⟨hnone, hall⟩ | ⟨low, high, heq, hle, hlt, hfb, hends, hin⟩
  · obtain ⟨rfl, rfl, rfl⟩ := by simpa only [Prod.mk.injEq] using hnone
    refine ⟨.inl ⟨rfl, hall⟩, fun i => (or_iff_left ?_).symm⟩
    rintro ⟨_, outside, -, -, houtside, -, hout⟩
    simp [hall outside houtside] at hout
  obtain ⟨rfl, rfl⟩ := Prod.ext_iff.mp heq
  refine ⟨.inr ⟨low, high - low + 1, Prod.ext rfl (by simp only; omega), by omega, ⟨?_, ?_⟩,
    ⟨by omega, hends.1⟩, ?_⟩, fun i => ?_⟩
  · change low + (high - low + 1) ≤ last.layerCount
    simp only at hcount
    omega
  · exact fun i hlow hhigh => (hfb i).mpr (.inl ⟨hlow, by omega⟩)
  · intro i hi hout
    have := hin i hi hout
    omega
  · refine (hfb i).trans (or_comm.trans (or_congr_right ⟨fun hi => ?_, ?_⟩))
    · exact ⟨low, high, hi.1, hi.2, hlt, hends.1, hends.2⟩
    · rintro ⟨first, second, hfirst, hsecond, hbound, houtFirst, houtSecond⟩
      have hfirstIn := hin first (by omega) houtFirst
      have hsecondIn := hin second hbound houtSecond
      exact ⟨hfirstIn.1.trans hfirst, hsecond.trans hsecondIn.2⟩

end Context

namespace FrameInfo

variable {numPipes : Nat} {frame : FrameInfo numPipes}

theorem batchLayers_eq {batch : Int × Int} (hcounted : frame.Counted)
    (hbatch : batch.2 = 0 ∨
      ∃ start count : Nat, batch = (↑start, ↑count) ∧ 0 < count ∧ frame.InFB start count) :
    frame.fbCount = 0 ∧ frame.batchLayers batch = { frame with fbZ := -1 } ∨
    frame.fbCount ≠ 0 ∧ frame.mdpCount = 0 ∧ frame.batchLayers batch = { frame with fbZ := 0 } ∨
    frame.fbCount ≠ 0 ∧ ∃ start count : Nat, IsRun frame.isFBComposed frame.layerCount start count ∧
      (∀ other length : Nat, frame.InFB other length →
        (batch.2 ≠ 0 → other ≤ batch.1 ∧ batch.1 < other + length) → length ≤ count) ∧
      (batch.2 ≠ 0 → ∀ i : Nat, batch.1 ≤ i → i < batch.1 + batch.2 → start ≤ i ∧ i < start + count) ∧
      frame.batchLayers batch =
        { frame with
          isFBComposed := frame.resetRest (start, count)
          fbZ := start
          fbCount := count
          mdpCount := frame.layerCount - count } := by
  by_cases hfb : frame.fbCount = 0
  · exact .inl ⟨hfb, by rw [batchLayers, if_pos hfb]⟩
  by_cases hnone : frame.mdpCount = 0
  · exact .inr (.inl ⟨hfb, hnone, by rw [batchLayers, if_neg hfb, if_pos hnone]⟩)
  refine .inr (.inr ⟨hfb, ?_⟩)
  rw [batchLayers, if_neg hfb, if_neg hnone]
  by_cases hempty : batch.2 = 0
  · have hlayer : ∃ i < frame.layerCount, frame.isFBComposed i = true := by
      by_contra hnot
      rw [hcounted, Finset.filter_eq_empty_iff.mpr fun i hi hin =>
        hnot ⟨i, Finset.mem_range.mp hi, hin⟩] at hfb
      exact hfb rfl
    obtain ⟨i, hi, hin⟩ := hlayer
    obtain ⟨start, count, heq, hrun, hlongest⟩ := longestBatch_eq batch.1 hi hin
    refine ⟨start, count, hrun, fun other length hother _ => hlongest other length hother,
      fun hne => absurd hempty hne, ?_⟩
    have hbatch' : batch = (batch.1, 0) := Prod.ext rfl hempty
    rw [if_neg (by simp [hempty]), hbatch', heq]
  · obtain ⟨start, count, rfl, hpos, hin⟩ := hbatch.resolve_left hempty
    obtain ⟨start', count', hdown, hstart, hsum, hdownIn, hbefore⟩ := extendDown_eq hin
    obtain ⟨last, hup, hle, hrun⟩ := extendUp_eq (by omega) hdownIn
    refine ⟨start', last, hrun, fun other length hother hcovers => ?_,
      fun _ i hlow hhigh => by simp only at hlow hhigh; omega, ?_⟩
    · -- a block that meets the run does not go on where the run ends
      obtain ⟨hlow, hhigh⟩ := hcovers hempty
      simp only at hlow hhigh
      have hfirst : start' ≤ other := by
        by_contra hearlier
        have hout := hbefore (by omega)
        rw [hother.2 _ (by omega) (by omega)] at hout
        exact absurd hout (by decide)
      have hlast : other + length ≤ start' + last := by
        by_contra hlater
        have hout := hrun.ends (by have := hother.1; omega)
        rw [hother.2 _ (by omega) (by omega)] at hout
        exact absurd hout (by decide)
      omega
    · rw [if_pos hempty, hdown, hup]

end FrameInfo

namespace Context

variable {numPipes : Nat} {ctx : Context numPipes} {dpy : Display} {list : DisplayContents}

/-- A frame as it is accepted: the counts add up, the layers in the framebuffer are none or one block to
which `fbZ` points, one higher with a base pipe, and no unsupported layer is outside of it. -/
structure Composed (ctx : Context numPipes) (dpy : Display) (list : DisplayContents)
    (frame : FrameInfo numPipes) : Prop where
  layerCount : frame.layerCount = list.numAppLayers
  counts : frame.mdpCount + frame.fbCount = frame.layerCount
  counted : frame.fbCount =
    ((Finset.range frame.layerCount).filter fun i => frame.isFBComposed i = true).card
  block : frame.fbCount = 0 ∧ frame.fbZ = -1 ∨
    ∃ start : Nat, frame.fbCount ≠ 0 ∧
      frame.fbZ = start + (if ctx.baseNeeded dpy list frame then 1 else 0) ∧
      ∀ i < frame.layerCount, frame.isFBComposed i = true ↔
        start ≤ i ∧ (i : Int) < start + frame.fbCount
  unsupported : ∀ i < list.numAppLayers, ctx.isSupported dpy list i = false →
    frame.isFBComposed i = true

theorem card_filter_block {isFBComposed : Nat → Bool} {bound start count : Nat}
    (hle : start + count ≤ bound)
    (hblock : ∀ i < bound, isFBComposed i = true ↔ start ≤ i ∧ i < start + count) :
    ((Finset.range bound).filter fun i => isFBComposed i = true).card = count := by
  have hfilter : ((Finset.range bound).filter fun i => isFBComposed i = true) =
      Finset.Ico start (start + count) := by
    ext i
    rw [Finset.mem_filter, Finset.mem_range, Finset.mem_Ico]
    constructor
    · exact fun hi => (hblock i hi.1).mp hi.2
    · exact fun hi => ⟨by omega, (hblock i (by omega)).mpr hi⟩
  rw [hfilter, Nat.card_Ico, Nat.add_sub_cancel_left]

variable {accepted frame : FrameInfo numPipes}

theorem batchDoable_eq_true (haccepted : ctx.batchDoable dpy list frame = (accepted, true)) :
    (frame.mdpCount = 0 → ctx.baseNeeded dpy list frame = true) ∧
      accepted = if ctx.baseNeeded dpy list frame = true ∧ frame.fbCount ≠ 0 then
        { frame with fbZ := frame.fbZ + 1 } else frame := by
  rw [batchDoable] at haccepted
  generalize hbase : (if ctx.baseNeeded dpy list frame = true then (1 : Int) else 0) = base
    at haccepted
  iterate 2
    split at haccepted
    · simp at haccepted
  split at haccepted
  · simp at haccepted
  next hsome _ _ =>
    by_cases hneeded : ctx.baseNeeded dpy list frame = true
    · rw [if_pos hneeded] at hbase
      refine ⟨fun _ => hneeded, ?_⟩
      simp only [← hbase, hneeded, true_and, ne_eq, one_ne_zero, not_false_eq_true] at haccepted ⊢
      split at haccepted
      next hfb =>
        rw [if_pos hfb]
        exact (Prod.ext_iff.mp haccepted).1.symm
      next hfb =>
        rw [if_neg hfb]
        exact (Prod.ext_iff.mp haccepted).1.symm
    · rw [if_neg hneeded] at hbase
      refine ⟨fun hzero => absurd (by omega) hsome, ?_⟩
      simp only [← hbase, hneeded, false_and, ne_eq, not_true, if_false] at haccepted ⊢
      exact (Prod.ext_iff.mp haccepted).1.symm

theorem composed_of_batchDoable {batch : Int × Int} (hcounted : frame.Counted)
    (hlist : frame.layerCount = list.numAppLayers) (hmdp : frame.mdpCount = frame.layerCount - frame.fbCount)
    (hbatch : ctx.Batched dpy list frame batch)
    (haccepted : ctx.batchDoable dpy list (frame.batchLayers batch) = (accepted, true)) :
    Composed ctx dpy list accepted := by
  obtain ⟨hsome, rfl⟩ := batchDoable_eq_true haccepted
  have hin : ∀ i < list.numAppLayers, ctx.isSupported dpy list i = false →
      frame.isFBComposed i = true := by
    intro i hi hout
    rcases hbatch with ⟨-, hall⟩ | ⟨start, count, -, -, hinFB, -, hrange⟩
    · simp [hall i hi] at hout
    · exact hinFB.2 i (hrange i hi hout).1 (hrange i hi hout).2
  rcases FrameInfo.batchLayers_eq hcounted hbatch.shape with
    ⟨hzero, heq⟩ | ⟨hfb, hnone, heq⟩ | ⟨-, start, count, hrun, -, hrange, heq⟩
  · rw [heq, if_neg (by simp [hzero])]
    exact ⟨hlist, by simp only; omega, hcounted, .inl ⟨hzero, rfl⟩, hin⟩
  · -- With every layer in the framebuffer no pipe is left to be used.
    rw [heq] at hsome
    have hfirst := hcounted.all_fb (by omega) 0 (by omega)
    have hbase := hsome hnone
    simp [baseNeeded, hfirst] at hbase
  · have hblock := FrameInfo.resetRest_eq hrun
    have hpos := hrun.pos
    have hle := hrun.le
    have hcard := card_filter_block hle hblock
    have hunsupported : ∀ i < list.numAppLayers, ctx.isSupported dpy list i = false →
        frame.resetRest (start, count) i = true := by
      exact fun i hi hout => (hblock i (by omega)).mpr (hbatch.covered hrange i hi hout)
    rw [heq]
    split
    next hbase =>
      have hneeded := hbase.1
      refine ⟨hlist, by simp only; omega, by simp only [hcard], .inr ⟨start, hbase.2, ?_, ?_⟩,
        hunsupported⟩
      · exact (congrArg ((start : Int) + ·) (if_pos hneeded)).symm
      · intro i hi
        rw [hblock i hi]
        simp only
        omega
    next hbase =>
      have hneeded : ¬ctx.baseNeeded dpy list
          { frame with
            isFBComposed := frame.resetRest (start, count)
            fbZ := start
            fbCount := count
            mdpCount := frame.layerCount - count } = true :=
        fun hneeded => hbase ⟨hneeded, by simp only; omega⟩
      refine ⟨hlist, by simp only; omega, by simp only [hcard],
        .inr ⟨start, by simp only; omega, ?_, ?_⟩, hunsupported⟩
      · exact ((congrArg ((start : Int) + ·) (if_neg hneeded)).trans (Int.add_zero _)).symm
      · intro i hi
        rw [hblock i hi]
        simp only
        omega

theorem fullMDPComp_eq_true (haccepted : ctx.fullMDPComp dpy list frame = (accepted, true)) :
    (∀ i < list.numAppLayers, ctx.isSupported dpy list i = true) ∧
      accepted = { frame with
        mdpCount := frame.layerCount
        fbCount := 0
        fbZ := -1
        isFBComposed := fun _ => false } := by
  rw [fullMDPComp] at haccepted
  generalize (if ctx.isValidBaseLayer dpy (list.hwLayer 0) = true then (0 : Int) else 1) = base
    at haccepted
  iterate 3
    split at haccepted
    · simp at haccepted
  split at haccepted
  · simp at haccepted
  next hall =>
    dsimp only at haccepted
    split at haccepted
    · simp at haccepted
    split at haccepted
    · simp at haccepted
    rw [not_not, List.all_eq_true] at hall
    exact ⟨fun i hi => hall i (List.mem_range.mpr hi), (Prod.ext_iff.mp haccepted).1.symm⟩

theorem composed_fullMDPComp (haccepted : ctx.fullMDPComp dpy list (.reset list.numAppLayers) = (accepted, true)) :
    Composed ctx dpy list accepted := by
  obtain ⟨hall, rfl⟩ := fullMDPComp_eq_true haccepted
  refine ⟨rfl, by simp, by simp, .inl ⟨rfl, rfl⟩, fun i hi hout => ?_⟩
  simp [hall i hi] at hout

theorem composed_partialMDPComp {cached : LayerCache}
    (haccepted : ctx.partialMDPComp dpy list cached = (accepted, true)) : Composed ctx dpy list accepted := by
  obtain ⟨hcached, hcachedCount, -⟩ := FrameInfo.updateLayerCache_eq cached
    (rfl : (FrameInfo.reset list.numAppLayers : FrameInfo numPipes).layerCount = list.numAppLayers)
  obtain ⟨hyuv, hyuvCount, -⟩ := updateYUV_eq ctx dpy hcached hcachedCount
  obtain ⟨last, batch, heq, hlast, hcount, hmdp, hbatch, -⟩ :=
    updateNotSupported_eq ctx dpy hyuv hyuvCount
  rw [partialMDPComp] at haccepted
  simp only [heq] at haccepted
  exact composed_of_batchDoable hlast hcount hmdp hbatch haccepted

theorem composed_isOnlyVideoDoable (haccepted : ctx.isOnlyVideoDoable dpy list frame = (accepted, true)) :
    Composed ctx dpy list accepted := by
  rw [isOnlyVideoDoable] at haccepted
  split at haccepted
  · simp at haccepted
  · obtain ⟨hyuv, hyuvCount, -⟩ := updateYUV_eq ctx dpy
      (@FrameInfo.counted_reset numPipes list.numAppLayers) rfl
    obtain ⟨last, batch, heq, hlast, hcount, hmdp, hbatch, -⟩ :=
      updateNotSupported_eq ctx dpy hyuv hyuvCount
    simp only [heq] at haccepted
    exact composed_of_batchDoable hlast hcount hmdp hbatch haccepted

/-- Whichever of the three functions accepts a frame, its counts add up, and the framebuffer takes no
layer or one block of layers that holds every unsupported one. -/
theorem mdpComp_composed (ctx : Context numPipes) (dpy : Display) (list : DisplayContents)
    (cached : LayerCache) (frame accepted : FrameInfo numPipes)
    (haccepted : ctx.fullMDPComp dpy list (.reset list.numAppLayers) = (accepted, true) ∨
      ctx.partialMDPComp dpy list cached = (accepted, true) ∨
      ctx.isOnlyVideoDoable dpy list frame = (accepted, true)) :
    Composed ctx dpy list accepted := by
  rcases haccepted with hfull | hpartial | hvideo
  · exact composed_fullMDPComp hfull
  · exact composed_partialMDPComp hpartial
  · exact composed_isOnlyVideoDoable hvideo

end Context

/-! ### A small target -/

def sampleTarget : Target where
  version := mdpV41
  hasOverlay := true
  xres := fun _ => 1280
  yres := fun _ => 720
  sEnabled := true
  sMaxPipesPerMixer := 4
  numDMAPipes := 0
  dimensionInLimits := fun _ _ => true

def sampleContext (driver : List Bool) : Context 4 where
  target := sampleTarget
  mExtDispConfiguring := false
  mVideoTransFlag := false
  mSecuring := false
  mSecureMode := false
  mNeedsRotator := false
  mDMAInUse := false
  sIdleFallBack := false
  overlay := .init (initOverlay 2 2 0)
  driver := driver
  rotator := []
  commits := []

def sampleLayer (address : Nat) (skip : Bool) : Layer where
  handle := some ⟨address, false, false, false⟩
  skip := skip
  transform := 0
  planeAlpha := 0xFF
  sourceCrop := ⟨0, 0, 640, 360⟩
  displayFrame := ⟨100, 100, 740, 460⟩
  rotatesForSize := false

def sampleList : DisplayContents where
  appLayers := [sampleLayer 1 false, sampleLayer 2 true]
  fbLayer := sampleLayer 3 false
  geometryChanged := true

def sampleCache : LayerCache := ⟨0, fun _ => none, fun _ => false⟩

theorem Context.mdpComp_composed_skip :
    ((sampleContext []).partialMDPComp .primary sampleList sampleCache).1.fbZ = 2 ∧
      Composed (sampleContext []) .primary sampleList
        ((sampleContext []).partialMDPComp .primary sampleList sampleCache).1 :=
  ⟨by decide, mdpComp_composed _ _ _ sampleCache (.reset 2) _
    (.inr (.inl (Prod.ext rfl (by decide))))⟩

end Nozomi
