import Nozomi.Display.MDPComp.Allocation

/-!
# The z-orders of an accepted frame

From bottom to top a frame has its base pipe, the pipes of its layers and, where the block of the
framebuffer starts, the pipe of the framebuffer. The counter of `programMDP` gives each of them its place
in that order.
-/

namespace Nozomi

namespace FrameInfo

variable {numPipes : Nat} (frame : FrameInfo numPipes)

def isShown (i : Nat) : Bool :=
  !frame.isFBComposed i || (List.range i).all fun j => !frame.isFBComposed j

def rank (i : Nat) : Nat := (List.range i).countP frame.isShown

def planes (fbPipe : Option (Fin numPipes)) : List (Option (Fin numPipes)) :=
  frame.mdpBasePipe.toList.map some ++
    ((List.range frame.layerCount).filter frame.isShown).map fun i =>
      if frame.isFBComposed i then fbPipe else frame.layerPipe i

theorem rank_succ (i : Nat) : frame.rank (i + 1) = frame.rank i + if frame.isShown i then 1 else 0 := by
  rw [rank, rank, List.range_succ, List.countP_append, List.countP_singleton]

theorem isShown_congr {frame other : FrameInfo numPipes}
    (hflags : other.isFBComposed = frame.isFBComposed) : other.isShown = frame.isShown := by
  funext i
  rw [isShown, hflags, isShown]

theorem rank_congr {frame other : FrameInfo numPipes}
    (hflags : other.isFBComposed = frame.isFBComposed) : other.rank = frame.rank := by
  funext i
  rw [rank, isShown_congr hflags, rank]

theorem map_rank_filter (bound : Nat) :
    ((List.range bound).filter frame.isShown).map frame.rank = List.range (frame.rank bound) := by
  induction bound with
  | zero => rfl
  | succ bound ih =>
    rw [List.range_succ, List.filter_append, List.map_append, ih, rank_succ]
    by_cases hshown : frame.isShown bound = true
    · rw [if_pos hshown, List.range_succ, List.filter_singleton, hshown]
      rfl
    · rw [if_neg hshown, List.filter_singleton, Bool.not_eq_true _ |>.mp hshown]
      simp

theorem rank_eq_self {start : Nat} (hbelow : ∀ i < start, frame.isFBComposed i = false) :
    frame.rank start = start := by
  rw [rank, List.countP_eq_length.mpr, List.length_range]
  intro i hi
  simp [isShown, hbelow i (List.mem_range.mp hi)]

end FrameInfo

def Overlay.Stacked {numPipes : Nat} (overlay : Overlay numPipes)
    (planes : List (Option (Fin numPipes))) : Prop :=
  planes.map (·.bind overlay.zOrderOf) = (List.range planes.length).map fun (z : Nat) => some (z : Int)

theorem FrameInfo.stacked_planes {numPipes : Nat} {frame : FrameInfo numPipes}
    {overlay : Overlay numPipes} {fbPipe : Option (Fin numPipes)} {base : Nat}
    (hbase : frame.mdpBasePipe.toList.map overlay.zOrderOf =
      (List.range base).map (fun (z : Nat) => some (z : Int)))
    (hlayers : ∀ i < frame.layerCount, frame.isFBComposed i = false →
      (frame.layerPipe i).bind overlay.zOrderOf = some ((base + frame.rank i : Nat) : Int))
    (hfbPipe : ∀ i < frame.layerCount, frame.isFBComposed i = true → frame.isShown i = true →
      fbPipe.bind overlay.zOrderOf = some ((base + frame.rank i : Nat) : Int)) :
    overlay.Stacked (frame.planes fbPipe) := by
  have hlength : frame.mdpBasePipe.toList.length = base := by
    simpa using congrArg List.length hbase
  have hshown : ((List.range frame.layerCount).filter frame.isShown).length =
      frame.rank frame.layerCount := by
    rw [rank, List.countP_eq_length_filter]
  have htotal : (frame.planes fbPipe).length = base + frame.rank frame.layerCount := by
    rw [planes, List.length_append, List.length_map, List.length_map, hlength, hshown]
  have hmap : ((List.range frame.layerCount).filter frame.isShown).map
      (fun i => (if frame.isFBComposed i then fbPipe else frame.layerPipe i).bind overlay.zOrderOf) =
      ((List.range frame.layerCount).filter frame.isShown).map
        fun i => some ((base + frame.rank i : Nat) : Int) := by
    refine List.map_congr_left fun i hi => ?_
    obtain ⟨hlt, hshows⟩ := List.mem_filter.mp hi
    rw [List.mem_range] at hlt
    by_cases hfb : frame.isFBComposed i = true
    · rw [if_pos hfb]
      exact hfbPipe i hlt hfb hshows
    · rw [if_neg hfb]
      exact hlayers i hlt (Bool.not_eq_true _ |>.mp hfb)
  rw [Overlay.Stacked, htotal, List.range_add, List.map_append, ← hbase, planes, List.map_append,
    List.map_map, List.map_map, List.map_map, ← map_rank_filter, List.map_map]
  exact congrArg₂ (· ++ ·) (List.map_congr_left fun _ _ => rfl) hmap

namespace Context

variable {numPipes : Nat} {before : Context numPipes} {dpy : Display}

theorem programLayers_session (list : DisplayContents) {count : Nat} :
    ∀ (bound : Nat) (z : Int) (fbBatch : Bool) (ctx : Context numPipes) (frame : FrameInfo numPipes)
      (committed : List (Fin numPipes)) (pending : Finset (Fin numPipes)),
      ctx.InSession before dpy committed pending →
      frame.Distinct (List.range' bound count) pending →
      (fbBatch = !(List.range bound).all fun j => !frame.isFBComposed j) →
      ∃ ctx' frame' programmed,
        programLayers list (List.range' bound count) z fbBatch ctx frame =
          (ctx', frame', programmed) ∧
        ctx.Keeps ctx' (· ∉ pending) ∧ ctx'.Stands before dpy ∧ frame.SameLayers frame' ∧
        frame'.layerPipe = frame.layerPipe ∧
        (programmed = true → ∀ i, bound ≤ i → i < bound + count → frame.isFBComposed i = false →
          (frame.layerPipe i).bind ctx'.overlay.zOrderOf = some (z + frame.rank i - frame.rank bound)) := by
  induction count with
  | zero =>
    intro bound z fbBatch ctx frame committed pending hsession _ _
    exact ⟨ctx, frame, true, rfl, fun _ _ => rfl, .inl ⟨committed, pending, hsession⟩,
      .refl frame, rfl, fun _ i _ _ => by omega⟩
  | succ count ih =>
    intro bound z fbBatch ctx frame committed pending hsession hdistinct hbatch
    rw [List.range'_succ] at hdistinct
    rw [List.range'_succ, programLayers]
    have hnext : ∀ fbBatch', fbBatch' = (fbBatch || frame.isFBComposed bound) →
        fbBatch' = !(List.range (bound + 1)).all fun j => !frame.isFBComposed j := by
      intro fbBatch' heq
      rw [heq, hbatch, List.range_succ, List.all_append]
      simp
    have hrank := frame.rank_succ bound
    by_cases hfb : frame.isFBComposed bound = true
    · have hshown : frame.isShown bound = !fbBatch := by
        rw [hbatch, FrameInfo.isShown, hfb]
        simp
      have hlater : ∀ i, bound ≤ i → frame.isFBComposed i = false → bound + 1 ≤ i := by
        intro i hi hmdp
        rcases Nat.lt_or_eq_of_le hi with hi | rfl
        · exact hi
        · simp [hfb] at hmdp
      rw [if_neg (by simp [hfb])]
      cases fbBatch with
      | false =>
        rw [if_pos (by simp)]
        obtain ⟨ctx', frame', programmed, heq, hkeeps, hstands, hsame, hpipes, hz⟩ :=
          ih (bound + 1) (z + 1) true ctx frame committed pending hsession hdistinct.tail
            (hnext true (by simp [hfb]))
        refine ⟨ctx', frame', programmed, heq, hkeeps, hstands, hsame, hpipes, ?_⟩
        intro hprogrammed i hlow hhigh hmdp
        rw [hz hprogrammed i (hlater i hlow hmdp) (by omega) hmdp, hrank, hshown]
        simp
        omega
      | true =>
        rw [if_neg (by simp)]
        obtain ⟨ctx', frame', programmed, heq, hkeeps, hstands, hsame, hpipes, hz⟩ :=
          ih (bound + 1) z true ctx frame committed pending hsession hdistinct.tail
            (hnext true (by simp))
        refine ⟨ctx', frame', programmed, heq, hkeeps, hstands, hsame, hpipes, ?_⟩
        intro hprogrammed i hlow hhigh hmdp
        rw [hz hprogrammed i (hlater i hlow hmdp) (by omega) hmdp, hrank, hshown]
        simp
    · rw [Bool.not_eq_true] at hfb
      rw [if_pos (by simp [hfb])]
      have hshown : frame.isShown bound = true := by
        rw [FrameInfo.isShown, hfb]
        rfl
      split
      next zOld dest hinfo =>
        have hdest := FrameInfo.layerPipe_of_pipeInfo hinfo
        have hmem := hdistinct.mem bound List.mem_cons_self hfb dest hdest
        have hentry := @FrameInfo.sameLayers_setPipeInfo _ frame bound ⟨z, some dest⟩
        have hentryPipes := funext (FrameInfo.layerPipe_setPipeInfo hdest z)
        obtain ⟨next, configured, heq, hkeeps, ⟨rfl, hzDest, hsession'⟩ | ⟨rfl, hfailed⟩⟩ :=
          configureLowRes_session hsession hmem (list.hwLayer bound) z
        · rw [heq]
          have hflags : (frame.setPipeInfo bound ⟨z, some dest⟩).isFBComposed = frame.isFBComposed := by
            rw [hentry]
          obtain ⟨ctx', frame', programmed, heq', hkeeps', hstands, hsame, hpipes, hz⟩ :=
            ih (bound + 1) (z + 1) fbBatch next _ _ _ hsession' (hdistinct.setPipeInfo hfb hdest z)
              (by rw [hflags]; exact hnext fbBatch (by simp [hfb]))
          refine ⟨ctx', frame', programmed, heq', ?_, hstands, hentry.trans hsame,
            hpipes.trans hentryPipes, ?_⟩
          · intro pipe hpipe
            exact (hkeeps' pipe fun hmem => hpipe (Finset.mem_of_mem_erase hmem)).trans
              (hkeeps pipe fun heq => hpipe (heq ▸ hmem))
          · intro hprogrammed i hlow hhigh hmdp
            rcases Nat.lt_or_eq_of_le hlow with hlow | rfl
            · have hstep := hz hprogrammed i hlow (by omega) (by rw [hflags]; exact hmdp)
              rw [hentryPipes, FrameInfo.rank_congr hflags] at hstep
              rw [hstep, hrank, hshown]
              simp
              omega
            · -- What comes later keeps the pipe of this layer.
              rw [hdest, Option.bind_some, Overlay.zOrderOf, hkeeps' dest (by simp),
                ← Overlay.zOrderOf, hzDest]
              simp
        · rw [heq]
          refine ⟨next, _, false, rfl, fun pipe hpipe => hkeeps pipe ?_, ?_, hentry, hentryPipes,
            by simp⟩
          · rintro rfl
            exact hpipe hmem
          · rcases hfailed with hsession' | hrejected
            · exact .inl ⟨committed, pending, hsession'⟩
            · exact .inr ⟨committed, dest, hrejected⟩
      next =>
        exact ⟨ctx, frame, false, rfl, fun _ _ => rfl, .inl ⟨committed, pending, hsession⟩,
          .refl frame, rfl, by simp⟩

variable {ctx : Context numPipes} {frame : FrameInfo numPipes} {list : DisplayContents}

theorem programMDP_session (list : DisplayContents) {committed : List (Fin numPipes)}
    (hsession : ctx.InSession before dpy committed ∅) (hblank : frame.Blank) (hmapped : frame.Mapped) :
    ∃ ctx' frame' programmed, ctx.programMDP dpy list frame = (ctx', frame', programmed) ∧
      ctx.Keeps ctx' (· ∈ committed) ∧ ctx'.Stands before dpy ∧
      (programmed = true → ∀ fbPipe : Option (Fin numPipes),
        (∀ i < frame.layerCount, frame.isFBComposed i = true → frame.isShown i = true →
          fbPipe.bind ctx'.overlay.zOrderOf =
            some (((if ctx.baseNeeded dpy list frame then 1 else 0) + frame.rank i : Nat) : Int)) →
        ctx'.overlay.Stacked (frame'.planes fbPipe)) := by
  have hcleared : ({ ctx with mDMAInUse := false } : Context numPipes).InSession before dpy committed ∅ :=
    ⟨hsession.session, hsession.commits, hsession.target⟩
  obtain ⟨next, allocated, found, pending, heq, hnext, hassigned, hframe, hbase, hkeeps⟩ :=
    allocLayerPipes_session list hcleared hblank.assigned hblank.2
  have hcount : allocated.layerCount = frame.layerCount := by rw [hframe]
  have hflags : allocated.isFBComposed = frame.isFBComposed := by rw [hframe]
  have hmapped' : allocated.Mapped := by
    rw [hframe]
    exact hmapped
  have hdistinct := hassigned.distinct hmapped'
  have hkeeps' : ctx.Keeps next (· ∈ committed) := fun pipe hpipe => hkeeps pipe (.inl hpipe)
  have hstacked : ∀ (frame' : FrameInfo numPipes), allocated.SameLayers frame' →
      ∀ (base : Nat) {overlay : Overlay numPipes} {fbPipe : Option (Fin numPipes)},
      frame'.mdpBasePipe.toList.map overlay.zOrderOf =
        (List.range base).map (fun (z : Nat) => some (z : Int)) →
      (∀ i < frame.layerCount, frame.isFBComposed i = false →
        (frame'.layerPipe i).bind overlay.zOrderOf = some ((base + frame.rank i : Nat) : Int)) →
      (∀ i < frame.layerCount, frame.isFBComposed i = true → frame.isShown i = true →
        fbPipe.bind overlay.zOrderOf = some ((base + frame.rank i : Nat) : Int)) →
      overlay.Stacked (frame'.planes fbPipe) := by
    intro frame' hsame base overlay fbPipe hbase hlayers hfbPipe
    have hcount' : frame'.layerCount = frame.layerCount := by rw [hsame, hcount]
    have hflags' : frame'.isFBComposed = frame.isFBComposed := by rw [hsame, hflags]
    apply FrameInfo.stacked_planes hbase
    · rw [hcount', hflags', FrameInfo.rank_congr hflags']
      exact hlayers
    · rw [hcount', hflags', FrameInfo.rank_congr hflags', FrameInfo.isShown_congr hflags']
      exact hfbPipe
  rw [programMDP, heq]
  cases found with
  | false =>
    exact ⟨next, allocated, false, rfl, hkeeps', .inl ⟨committed, pending, hnext⟩, by simp⟩
  | true =>
    have hneeded : allocated.mdpBasePipe.isSome = true ↔ ctx.baseNeeded dpy list frame = true := hbase rfl
    cases hbasePipe : allocated.mdpBasePipe with
    | none =>
      rw [hbasePipe] at hdistinct hneeded
      rw [List.range_eq_range'] at hdistinct
      obtain ⟨last, frame', programmed, heq', hlast, hstands, hsame, hpipes, hz⟩ :=
        programLayers_session list 0 0 false next allocated committed pending hnext hdistinct rfl
      refine ⟨last, frame', programmed, by simpa [hbasePipe, List.range_eq_range'] using heq', ?_, hstands,
        ?_⟩
      · intro pipe hpipe
        exact (hlast pipe fun hmem => hnext.session.disjoint pipe hmem hpipe).trans (hkeeps' pipe hpipe)
      · intro hprogrammed fbPipe hfbPipe
        rw [if_neg (by simpa using hneeded)] at hfbPipe
        refine hstacked frame' hsame 0 (by rw [hsame, hbasePipe]; rfl) ?_ hfbPipe
        intro i hi hmdp
        rw [hpipes, hz hprogrammed i (Nat.zero_le i) (by omega) (by rw [hflags]; exact hmdp),
          FrameInfo.rank_congr hflags]
        simp [FrameInfo.rank]
    | some basePipe =>
      rw [hbasePipe] at hdistinct hneeded
      rw [List.range_eq_range'] at hdistinct
      have hmem := (hassigned.base basePipe hbasePipe).1
      have hkept : ∀ pipe ∈ committed, pipe ≠ basePipe := by
        rintro pipe hpipe rfl
        exact hnext.session.disjoint pipe hmem hpipe
      obtain ⟨based, accepted, heq', hbased, hzBase, ⟨rfl, hsession'⟩ | ⟨rfl, hrejected⟩⟩ :=
        configMdp_session hnext hmem 0
      · obtain ⟨last, frame', programmed, heq'', hlast, hstands, hsame, hpipes, hz⟩ :=
          programLayers_session list 0 1 false based allocated _ _ hsession' hdistinct rfl
        refine ⟨last, frame', programmed, by simpa [hbasePipe, heq', List.range_eq_range'] using heq'', ?_,
          hstands, ?_⟩
        · intro pipe hpipe
          have hstays := hlast pipe fun hmem' =>
            hnext.session.disjoint pipe (Finset.mem_of_mem_erase hmem') hpipe
          exact hstays.trans ((hbased pipe (hkept pipe hpipe)).trans (hkeeps' pipe hpipe))
        · intro hprogrammed fbPipe hfbPipe
          rw [if_pos (by simpa using hneeded)] at hfbPipe
          refine hstacked frame' hsame 1 ?_ ?_ hfbPipe
          · have hzLast : last.overlay.zOrderOf basePipe = some 0 := by
              rw [Overlay.zOrderOf, hlast basePipe (by simp), ← Overlay.zOrderOf, hzBase]
            rw [hsame]
            simp [hbasePipe, hzLast]
          · intro i hi hmdp
            rw [hpipes, hz hprogrammed i (Nat.zero_le i) (by omega) (by rw [hflags]; exact hmdp),
              FrameInfo.rank_congr hflags]
            simp [FrameInfo.rank]
      · refine ⟨based, allocated, false, by simp [hbasePipe, heq'], ?_,
          .inr ⟨committed, basePipe, hrejected⟩, by simp⟩
        exact fun pipe hpipe => (hbased pipe (hkept pipe hpipe)).trans (hkeeps' pipe hpipe)

/-! ### The frame that is accepted -/

theorem baseNeeded_congr {ctx' : Context numPipes} (htarget : ctx'.target = ctx.target) (list : DisplayContents)
    (frame : FrameInfo numPipes) : ctx'.baseNeeded dpy list frame = ctx.baseNeeded dpy list frame := by
  rw [baseNeeded, isValidBaseLayer, htarget, baseNeeded, isValidBaseLayer]

theorem isFullFrameDoable_accepted {cached : LayerCache} {accepted : FrameInfo numPipes}
    (haccepted : ctx.isFullFrameDoable dpy list cached (.reset list.numAppLayers) = (accepted, true)) :
    Composed ctx dpy list accepted ∧ accepted.Blank ∧ accepted.needsRedraw = true := by
  rw [isFullFrameDoable] at haccepted
  split at haccepted
  · simp at haccepted
  split at haccepted
  · simp at haccepted
  dsimp only at haccepted
  split at haccepted
  next hfull =>
    have heq : ctx.fullMDPComp dpy list (.reset list.numAppLayers) = (accepted, true) := haccepted
    refine ⟨composed_fullMDPComp heq, ?_⟩
    rw [(fullMDPComp_eq_true heq).2]
    exact ⟨⟨rfl, rfl⟩, rfl⟩
  next =>
    refine ⟨composed_partialMDPComp haccepted, FrameInfo.blank_of_slots list.numAppLayers ?_⟩
    have hslots : accepted.slots = ((ctx.updateNotSupported dpy list (ctx.updateYUV dpy list
        ((FrameInfo.reset list.numAppLayers).updateLayerCache cached list))).1.batchLayers _).slots :=
      slots_of_batchDoable haccepted
    simpa using hslots

theorem isOnlyVideoDoable_accepted {accepted : FrameInfo numPipes}
    (haccepted : ctx.isOnlyVideoDoable dpy list frame = (accepted, true)) :
    Composed ctx dpy list accepted ∧ accepted.Blank ∧ accepted.needsRedraw = true := by
  refine ⟨composed_isOnlyVideoDoable haccepted, ?_⟩
  rw [isOnlyVideoDoable] at haccepted
  split at haccepted
  · simp at haccepted
  · have hslots : accepted.slots = ((ctx.updateNotSupported dpy list (ctx.updateYUV dpy list
        (FrameInfo.reset list.numAppLayers))).1.batchLayers _).slots :=
      slots_of_batchDoable haccepted
    exact FrameInfo.blank_of_slots list.numAppLayers (by simpa using hslots)

theorem Composed.fbZ_eq (hcomposed : Composed ctx dpy list frame) {i : Nat} (hi : i < frame.layerCount)
    (hfb : frame.isFBComposed i = true) (hshown : frame.isShown i = true) :
    frame.fbZ = (((if ctx.baseNeeded dpy list frame then 1 else 0) + frame.rank i : Nat) : Int) := by
  have hfirst : ∀ j < i, frame.isFBComposed j = false := by
    intro j hj
    simp only [FrameInfo.isShown, hfb, Bool.not_true, Bool.false_or, List.all_eq_true] at hshown
    simpa using hshown j (List.mem_range.mpr hj)
  rw [frame.rank_eq_self hfirst]
  rcases hcomposed.block with ⟨hzero, -⟩ | ⟨start, -, hfbZ, hblock⟩
  · have hcounted := hcomposed.counted
    rw [hzero, eq_comm, Int.natCast_eq_zero, Finset.card_eq_zero] at hcounted
    have hmem : i ∈ (Finset.range frame.layerCount).filter fun i => frame.isFBComposed i = true :=
      Finset.mem_filter.mpr ⟨Finset.mem_range.mpr hi, hfb⟩
    simp [hcounted] at hmem
  · obtain ⟨hle, hlt⟩ := (hblock i hi).mp hfb
    have hstart : i = start := by
      by_contra hne
      have hin := (hblock start (by omega)).mpr ⟨le_rfl, by omega⟩
      simp [hfirst start (by omega)] at hin
    rw [hfbZ, hstart]
    split <;> omega

end Context

namespace MDPComp

variable {numPipes : Nat} {ctx : Context numPipes} {dpy : Display} {list : DisplayContents}

theorem programFrame_session (fbUpdate : FBUpdate numPipes) {frame : FrameInfo numPipes}
    (hcomposed : ctx.Composed dpy list frame) (hblank : frame.Blank) :
    ∃ ctx' fbUpdate' frame' programmed,
      programFrame list ctx dpy fbUpdate frame = (ctx', fbUpdate', frame', programmed) ∧
      ctx'.Stands ctx dpy ∧ (ctx.target.hasOverlay = false → fbUpdate' = fbUpdate) ∧
      (programmed = true → ctx'.overlay.Stacked (frame'.planes fbUpdate'.mDest)) := by
  have hstart := ctx.inSession_start dpy
  have hblank' : frame.map.Blank := hblank
  have hcomposed' : ctx.Composed dpy list frame.map :=
    ⟨hcomposed.layerCount, hcomposed.counts, hcomposed.counted, hcomposed.block, hcomposed.unsupported⟩
  rw [programFrame]
  dsimp only
  by_cases hfbZ : 0 ≤ frame.map.fbZ
  · rw [if_pos hfbZ]
    cases hoverlay : ctx.target.hasOverlay with
    | false =>
      rw [FBUpdate.prepare, hoverlay]
      exact ⟨ctx, fbUpdate, frame.map, false, rfl, .inl ⟨[], ∅, hstart⟩, fun _ => rfl, by simp⟩
    | true =>
      obtain ⟨next, fbUpdate', ret, heq, -, ⟨rfl, -, hsession⟩ | ⟨dest, -, hdest, -, hend⟩⟩ :=
        FBUpdate.prepare_session hstart hoverlay fbUpdate frame.map.fbZ
      · rw [heq]
        exact ⟨next, fbUpdate', frame.map, false, rfl, .inl ⟨[], ∅, hsession⟩, by simp, by simp⟩
      rcases hend with ⟨rfl, hz, hsession⟩ | ⟨rfl, hrejected⟩
      · obtain ⟨last, frame', programmed, heq', hkeeps, hstands, hstacked⟩ :=
          Context.programMDP_session list hsession hblank' frame.mapped_map
        rw [heq]
        refine ⟨last, fbUpdate', frame', programmed, by simp [heq'], hstands, by simp,
          fun hprogrammed => ?_⟩
        refine hstacked hprogrammed fbUpdate'.mDest fun i hi hfb hshown => ?_
        rw [hdest, Option.bind_some, Overlay.zOrderOf, hkeeps dest (by simp), ← Overlay.zOrderOf, hz,
          hcomposed'.fbZ_eq hi hfb hshown, Context.baseNeeded_congr hsession.target]
      · rw [heq]
        exact ⟨next, fbUpdate', frame.map, false, rfl, .inr ⟨[], dest, hrejected⟩, by simp, by simp⟩
  · rw [if_neg hfbZ]
    obtain ⟨last, frame', programmed, heq, -, hstands, hstacked⟩ :=
      Context.programMDP_session list hstart hblank' frame.mapped_map
    refine ⟨last, fbUpdate, frame', programmed, by simp [heq], hstands, fun _ => rfl,
      fun hprogrammed => ?_⟩
    refine hstacked hprogrammed fbUpdate.mDest fun i hi hfb hshown => ?_
    have hfbZ' := hcomposed'.fbZ_eq hi hfb hshown
    omega

theorem prepare_cases (mdpComp : MDPComp numPipes) (list : DisplayContents) (ctx : Context numPipes)
    (dpy : Display) (fbUpdate : FBUpdate numPipes) :
    mdpComp.prepare list ctx dpy fbUpdate = (ctx, fbUpdate, mdpComp.reset list, false) ∨
    ∃ full frame, ctx.Composed dpy list frame ∧ frame.Blank ∧ frame.needsRedraw = true ∧
      mdpComp.prepare list ctx dpy fbUpdate =
        mdpComp.composeFrame list full ctx dpy fbUpdate frame := by
  rw [prepare]
  split
  · exact .inl rfl
  rcases hframe : ctx.isFullFrameDoable dpy list mdpComp.mCachedFrame (.reset list.numAppLayers) with
    ⟨frame, _ | _⟩
  · rcases hvideo : ctx.isOnlyVideoDoable dpy list frame with ⟨accepted, _ | _⟩
    · exact .inl (by simp [hvideo])
    · obtain ⟨hcomposed, hblank, hredraw⟩ := Context.isOnlyVideoDoable_accepted hvideo
      exact .inr ⟨false, accepted, hcomposed, hblank, hredraw, by simp [hvideo]⟩
  · obtain ⟨hcomposed, hblank, hredraw⟩ := Context.isFullFrameDoable_accepted hframe
    exact .inr ⟨true, frame, hcomposed, hblank, hredraw, by simp⟩

theorem prepare_session (mdpComp : MDPComp numPipes) (list : DisplayContents) (ctx : Context numPipes)
    (dpy : Display) (fbUpdate : FBUpdate numPipes) :
    ∃ ctx' fbUpdate' mdpComp' composed,
      mdpComp.prepare list ctx dpy fbUpdate = (ctx', fbUpdate', mdpComp', composed) ∧
      ctx'.Stands ctx dpy ∧ (ctx.target.hasOverlay = false → fbUpdate' = fbUpdate) ∧
      (composed = true →
        ctx'.overlay.Stacked (mdpComp'.mCurrentFrame.planes fbUpdate'.mDest)) := by
  obtain heq | ⟨full, frame, hcomposed, hblank, -, heq⟩ := prepare_cases mdpComp list ctx dpy fbUpdate
  · exact ⟨ctx, fbUpdate, mdpComp.reset list, false, heq, .inl ⟨[], ∅, ctx.inSession_start dpy⟩,
      fun _ => rfl, by simp⟩
  obtain ⟨ctx', fbUpdate', frame', programmed, hprogram, hstands, hsame, hstacked⟩ :=
    programFrame_session fbUpdate hcomposed hblank
  rw [heq, composeFrame, hprogram]
  cases programmed with
  | false => exact ⟨ctx', fbUpdate', mdpComp.reset list, false, rfl, hstands, hsame, by simp⟩
  | true =>
    refine ⟨ctx', fbUpdate', _, true, rfl, hstands, hsame, fun _ => ?_⟩
    rw [keep]
    cases full with
    | false => exact hstacked rfl
    | true => exact hstacked rfl

/-- When `prepare` returns 0, the base pipe, the pipes of the layers in the order of the list, and the
framebuffer in the place of its block have the z-orders 0, 1, 2 and so on. -/
theorem prepare_stacked (mdpComp : MDPComp numPipes) (list : DisplayContents) (ctx : Context numPipes)
    (dpy : Display) (fbUpdate : FBUpdate numPipes) {ctx' : Context numPipes}
    {fbUpdate' : FBUpdate numPipes} {mdpComp' : MDPComp numPipes}
    (hprepare : mdpComp.prepare list ctx dpy fbUpdate = (ctx', fbUpdate', mdpComp', true)) :
    ctx'.overlay.Stacked (mdpComp'.mCurrentFrame.planes fbUpdate'.mDest) := by
  obtain ⟨last, lastUpdate, lastComp, composed, heq, -, -, hstacked⟩ :=
    prepare_session mdpComp list ctx dpy fbUpdate
  rw [hprepare, Prod.mk.injEq, Prod.mk.injEq, Prod.mk.injEq] at heq
  obtain ⟨rfl, rfl, rfl, rfl⟩ := heq
  exact hstacked rfl

end MDPComp

def sampleComp : MDPComp 4 := ⟨.reset 0, sampleCache⟩

def sampleUpdate : FBUpdate 4 := ⟨none, false, 0⟩

theorem MDPComp.prepare_stacked_skip :
    let round := sampleComp.prepare sampleList (sampleContext []) .primary sampleUpdate
    round.2.2.1.mCurrentFrame.planes round.2.1.mDest = [some 1, some 2, some 0] ∧
      round.1.overlay.Stacked (round.2.2.1.mCurrentFrame.planes round.2.1.mDest) :=
  ⟨by decide, prepare_stacked sampleComp sampleList (sampleContext []) .primary sampleUpdate
    (Prod.ext rfl (Prod.ext rfl (Prod.ext rfl (by decide))))⟩

end Nozomi
