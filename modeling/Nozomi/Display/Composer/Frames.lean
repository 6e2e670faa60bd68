import Nozomi.Display.Composer.Coverage

/-!
# What a frame draws when its list was not prepared

`hwc_prepare` passes over a list whose framebuffer target has no handle, while `hwc_set` draws it. The
frame of `MDPComp` and the number of layers are then those of an older list. This module says which
layers `MDPComp::draw` looks at, and that it gives buffers only to pipes of the same round.
-/

namespace Nozomi

/-! ### The pipes of a round -/

variable {numPipes : Nat}

theorem Overlay.configDone_sPipeUsageBitmap (overlay : Overlay numPipes) :
    overlay.configDone.sPipeUsageBitmap = overlay.sPipeUsageBitmap := by
  rw [configDone]
  split <;> rfl

namespace Context

variable {numPipes : Nat} {ctx before : Context numPipes} {dpy : Display}

theorem Stands.used_committed (hstands : ctx.Stands before dpy) {pipe : Fin numPipes}
    (hused : pipe ∈ ctx.overlay.sPipeUsageBitmap) :
    pipe ∈ before.overlay.sPipeUsageBitmap ∨ (pipe, true) ∈ ctx.commits := by
  rcases hstands with ⟨committed, pending, hsession⟩ | ⟨committed, failed, hrejected⟩
  · refine ((hsession.session.used pipe).mp hused).imp_right fun hmem => ?_
    rw [hsession.commits]
    exact List.mem_append_right _ (List.mem_map_of_mem hmem)
  · refine ((hrejected.rejected.used pipe).mp hused).1.imp_right fun hmem => ?_
    rw [hrejected.commits]
    exact List.mem_append_left _ (List.mem_append_right _ (List.mem_map_of_mem hmem))

theorem Stands.commits_subset (hstands : ctx.Stands before dpy) : before.commits ⊆ ctx.commits := by
  rcases hstands with ⟨committed, pending, hsession⟩ | ⟨committed, failed, hrejected⟩
  · rw [hsession.commits]
    exact List.subset_append_left _ _
  · rw [hrejected.commits, List.append_assoc]
    exact List.subset_append_left _ _

end Context

theorem FBUpdate.prepare_stands (fbUpdate : FBUpdate numPipes) (ctx : Context numPipes) (dpy : Display)
    (fbZorder : Int) : (fbUpdate.prepare ctx dpy fbZorder).1.Stands ctx dpy := by
  cases hoverlay : ctx.target.hasOverlay with
  | false =>
    rw [prepare, hoverlay]
    exact .inl ⟨[], ∅, ctx.inSession_start dpy⟩
  | true =>
    obtain ⟨ctx', fbUpdate', ret, heq, -, ⟨-, -, hend⟩ | ⟨dest, -, -, -, ⟨-, -, hend⟩ | ⟨-, hend⟩⟩⟩ :=
      prepare_session (ctx.inSession_start dpy) hoverlay fbUpdate fbZorder
    · rw [heq]
      exact .inl ⟨_, _, hend⟩
    · rw [heq]
      exact .inl ⟨_, _, hend⟩
    · rw [heq]
      exact .inr ⟨_, _, hend⟩

namespace DisplayState

variable {numPipes : Nat} (state : DisplayState numPipes) (ctx : Context numPipes) (dpy : Display)

def roundCommits (list : Option DisplayContents) : List (Fin numPipes × Bool) :=
  if list.any (state.draws dpy) then (state.hwcPrepare ctx dpy list).1.commits else []

theorem hwcPrepare_used (list : Option DisplayContents) {pipe : Fin numPipes}
    (hused : pipe ∈ (state.hwcPrepare ctx dpy list).1.overlay.sPipeUsageBitmap) :
    pipe ∈ ctx.overlay.sPipeUsageBitmap ∨ (pipe, true) ∈ state.roundCommits ctx dpy list := by
  cases list with
  | none => exact .inl hused
  | some list =>
    by_cases hdraws : state.draws dpy list = true
    · rw [roundCommits, Option.any_some, if_pos hdraws]
      obtain ⟨ctx', fbUpdate', mdpComp', composed, heq, hstands, -⟩ :=
        state.mdpComp.prepare_session list (state.enter ctx dpy list) dpy state.fbUpdate
      have hcompose : state.compose ctx dpy list = (ctx', fbUpdate', mdpComp', composed) := heq
      rw [hwcPrepare, hdraws, hcompose] at hused ⊢
      cases composed with
      | true => exact hstands.used_committed hused
      | false =>
        have hlast := fbUpdate'.prepare_stands ctx' dpy 0
        rcases hlast.used_committed hused with hbefore | hcommitted
        · exact (hstands.used_committed hbefore).imp_right fun hmem => hlast.commits_subset hmem
        · exact .inr hcommitted
    · rw [Bool.not_eq_true] at hdraws
      rw [hwcPrepare, hdraws] at hused
      exact .inl hused

end DisplayState

namespace Context

variable {numPipes : Nat} (ctx : Context numPipes) (displays : Display → DisplayState numPipes)
  (lists : Display → Option DisplayContents)

def roundCommits : List (Fin numPipes × Bool) :=
  [Display.external, Display.primary].flatMap fun dpy =>
    (displays dpy).reset.roundCommits (ctx.arrive displays lists dpy) dpy (lists dpy)

theorem hwcPrepare_used_committed {pipe : Fin numPipes}
    (hused : pipe ∈ (ctx.hwcPrepare displays lists).1.overlay.sPipeUsageBitmap) :
    (pipe, true) ∈ ctx.roundCommits displays lists := by
  rw [hwcPrepare] at hused
  dsimp only at hused
  rw [Overlay.configDone_sPipeUsageBitmap, prepareDisplay] at hused
  rw [roundCommits, List.flatMap_cons, List.flatMap_cons, List.flatMap_nil, List.append_nil,
    List.mem_append]
  rcases (displays .primary).reset.hwcPrepare_used _ _ _ hused with hbefore | hcommitted
  · rw [arrive] at hbefore
    rcases (displays .external).reset.hwcPrepare_used _ _ _ hbefore with hbegin | hcommitted
    · simp [begin, Overlay.configBegin] at hbegin
    · exact .inl hcommitted
  · exact .inr hcommitted

end Context

/-! ### The layers that are looked at -/

namespace FrameInfo

variable {numPipes : Nat} {frame : FrameInfo numPipes} {overlay : Overlay numPipes}
  {answers : DrawAnswers numPipes} {list : DisplayContents}

theorem queuedBy_used {dest : Fin numPipes} {source : Source} {entry : Fin numPipes × Source}
    (hentry : entry ∈ overlay.queuedBy dest source) : entry.1 ∈ overlay.sPipeUsageBitmap := by
  rw [Overlay.queuedBy] at hentry
  split at hentry
  next hused => rw [List.mem_singleton.mp hentry]; exact hused.2
  next => simp at hentry

theorem drawLayers_queued_used (layers : List Nat) (drawing : Drawing numPipes) :
    ∀ entry ∈ (frame.drawLayers overlay answers list layers drawing).queued,
      entry ∈ drawing.queued ∨ entry.1 ∈ overlay.sPipeUsageBitmap := by
  have happend : ∀ (dest : Fin numPipes) (i : Nat) (queued : List (Fin numPipes × Source)),
      ∀ entry ∈ queued ++ overlay.queuedBy dest (.layer i),
        entry ∈ queued ∨ entry.1 ∈ overlay.sPipeUsageBitmap :=
    fun dest i queued entry hentry => (List.mem_append.mp hentry).imp_right queuedBy_used
  fun_induction drawLayers with
  | case1 | case3 | case4 | case5 | case6 | case8 => exact fun _ => .inl
  | case2 | case7 => assumption
  | case9 | case10 => exact happend _ _ _
  | case11 i layers drawing _ _ _ _ _ _ dest _ _ _ _ _ ih =>
    exact fun entry hentry => (ih entry hentry).elim (happend dest i drawing.queued entry) .inr

theorem drawLayers_touched (layers : List Nat) (drawing : Drawing numPipes) :
    drawing.touched ⊆ (frame.drawLayers overlay answers list layers drawing).touched ∧
      ∀ i ∈ (frame.drawLayers overlay answers list layers drawing).touched,
        i ∈ drawing.touched ∨ i ∈ layers ∧ frame.isFBComposed i = false := by
  have hlook : ∀ {touched : List Nat} {i : Nat} (layers : List Nat), ¬frame.isFBComposed i = true →
      ∀ j ∈ touched ++ [i], j ∈ touched ∨ j ∈ i :: layers ∧ frame.isFBComposed j = false := by
    intro touched i layers hmdp j hj
    rcases List.mem_append.mp hj with hold | hnew
    · exact .inl hold
    · rw [List.mem_singleton.mp hnew]
      exact .inr ⟨List.mem_cons_self, Bool.not_eq_true _ |>.mp hmdp⟩
  fun_induction drawLayers with
  | case1 => exact ⟨List.Subset.refl _, fun _ => .inl⟩
  | case2 i layers drawing hfb ih =>
    exact ⟨ih.1, fun j hj => (ih.2 j hj).imp_right fun hmem => ⟨List.mem_cons_of_mem i hmem.1, hmem.2⟩⟩
  | case3 | case4 | case5 | case6 | case8 | case9 | case10 =>
    exact ⟨List.subset_append_left _ _, hlook _ ‹_›⟩
  | case7 | case11 =>
    rename_i ih
    refine ⟨fun j hj => ih.1 (List.mem_append_left _ hj), fun j hj => ?_⟩
    rcases ih.2 j hj with hold | hnew
    · exact hlook _ ‹_› j hold
    · exact .inr ⟨List.mem_cons_of_mem _ hnew.1, hnew.2⟩

theorem drawLayers_head_touched {i : Nat} (hmdp : frame.isFBComposed i = false) (layers : List Nat)
    (drawing : Drawing numPipes) :
    i ∈ (frame.drawLayers overlay answers list (i :: layers) drawing).touched := by
  have hself : i ∈ drawing.touched ++ [i] := List.mem_append_right _ (List.mem_singleton_self i)
  rw [drawLayers, if_neg (by simp [hmdp])]
  dsimp only
  split
  · exact hself
  split
  · exact hself
  split
  · exact hself
  · exact hself
  split
  · exact (drawLayers_touched layers _).1 hself
  split
  · exact hself
  split
  · exact hself
  · exact hself
  · exact (drawLayers_touched layers _).1 hself

theorem drawLayers_touches {layers : List Nat} (hmdp : ∃ i ∈ layers, frame.isFBComposed i = false)
    (drawing : Drawing numPipes) :
    ∃ i ∈ layers, i ∈ (frame.drawLayers overlay answers list layers drawing).touched := by
  induction layers with
  | nil => simp at hmdp
  | cons i layers ih =>
    by_cases hfb : frame.isFBComposed i = true
    · obtain ⟨j, hj, hmdp⟩ := hmdp
      have hrest : j ∈ layers := by
        refine (List.mem_cons.mp hj).resolve_left ?_
        rintro rfl
        simp [hfb] at hmdp
      obtain ⟨k, hk, htouched⟩ := ih ⟨j, hrest, hmdp⟩
      rw [drawLayers, if_pos hfb]
      exact ⟨k, List.mem_cons_of_mem i hk, htouched⟩
    · rw [Bool.not_eq_true] at hfb
      exact ⟨i, List.mem_cons_self, drawLayers_head_touched hfb layers drawing⟩

def goesOn (frame : FrameInfo numPipes) (list : DisplayContents) (i : Nat) : Bool :=
  frame.isFBComposed i ||
    (list.hwLayer? i).any (·.handle.isSome) && (frame.pipeInfo i).any (·.index.isSome)

theorem drawLayers_reaches_iff {bound : Nat} {outside : List Nat} (houtside : ∀ i ∈ outside, bound ≤ i)
    {inside : List Nat} :
    ∀ {drawing : Drawing numPipes}, (∀ i, drawing.mdpCompFlag i = false) → (∀ i ∈ inside, i < bound) →
      (∀ i ∈ drawing.touched, i < bound) →
      ((∃ i ∈ (frame.drawLayers overlay answers list (inside ++ outside) drawing).touched, bound ≤ i) ↔
        (∀ i ∈ inside, frame.goesOn list i = true) ∧ ∃ i ∈ outside, frame.isFBComposed i = false) := by
  induction inside with
  | nil =>
    intro drawing _ _ htouched
    simp only [List.nil_append, List.not_mem_nil, false_implies, implies_true, true_and]
    constructor
    · rintro ⟨i, hi, hbound⟩
      rcases (drawLayers_touched outside drawing).2 i hi with hold | hnew
      · exact absurd (htouched i hold) (by omega)
      · exact ⟨i, hnew⟩
    · intro hmdp
      obtain ⟨i, hi, htouched⟩ := drawLayers_touches hmdp drawing
      exact ⟨i, htouched, houtside i hi⟩
  | cons i inside ih =>
    intro drawing hflags hinside htouched
    have hrest : ∀ j ∈ inside, j < bound := fun j hj => hinside j (List.mem_cons_of_mem i hj)
    rw [List.cons_append, List.forall_mem_cons, drawLayers]
    by_cases hfb : frame.isFBComposed i = true
    · rw [if_pos hfb, ih hflags hrest htouched, goesOn, hfb]
      simp
    have htouched' : ∀ j ∈ drawing.touched ++ [i], j < bound := by
      intro j hj
      rcases List.mem_append.mp hj with hold | hnew
      · exact htouched j hold
      · rw [List.mem_singleton.mp hnew]
        exact hinside i List.mem_cons_self
    -- Where the loop ends, nothing outside has been looked at.
    have hends : frame.goesOn list i = false →
        ((∃ j ∈ drawing.touched ++ [i], bound ≤ j) ↔
          (frame.goesOn list i = true ∧ ∀ j ∈ inside, frame.goesOn list j = true) ∧
            ∃ j ∈ outside, frame.isFBComposed j = false) := by
      intro hstop
      rw [hstop]
      refine iff_of_false ?_ (by simp)
      rintro ⟨j, hj, hbound⟩
      exact absurd (htouched' j hj) (by omega)
    rw [if_neg hfb]
    rw [Bool.not_eq_true] at hfb
    dsimp only
    cases hlayer : list.hwLayer? i with
    | none => exact hends (by simp [goesOn, hfb, hlayer])
    | some layer =>
      dsimp only
      split
      next hnone => exact hends (by simp [goesOn, hfb, hlayer, Option.isNone_iff_eq_none.mp hnone])
      next hsome =>
      rcases hinfo : frame.pipeInfo i with _ | ⟨zOrder, _ | dest⟩
      · exact hends (by simp [goesOn, hinfo, hfb])
      · exact hends (by simp [goesOn, hinfo, hfb])
      have hhandle : layer.handle.isSome = true := by
        rw [Option.isSome_iff_ne_none]
        simpa using hsome
      have hgoes : frame.goesOn list i = true := by simp [goesOn, hlayer, hinfo, hhandle]
      dsimp only
      rw [if_pos (by simp [hflags i]), hgoes,
        @ih { drawing with touched := drawing.touched ++ [i] } hflags hrest htouched']
      simp

def comesToLoop (frame : FrameInfo numPipes) (sEnabled : Bool) (overlay : Overlay numPipes)
    (answers : DrawAnswers numPipes) : Bool :=
  sEnabled && decide (frame.mdpCount ≠ 0) &&
    frame.mdpBasePipe.all fun basePipe => overlay.queueBuffer answers basePipe == some true

theorem draw_cases (sEnabled : Bool) (numAppLayers : Nat) (mdpCompFlag : Nat → Bool) :
    ∃ start : Drawing numPipes, start.touched = [] ∧ start.mdpCompFlag = mdpCompFlag ∧
      (∀ entry ∈ start.queued, entry.1 ∈ overlay.sPipeUsageBitmap) ∧
      (frame.comesToLoop sEnabled overlay answers = true →
        frame.draw sEnabled overlay answers list numAppLayers mdpCompFlag =
          frame.drawLayers overlay answers list (List.range numAppLayers) start) ∧
      (frame.comesToLoop sEnabled overlay answers = false →
        ∃ ret, frame.draw sEnabled overlay answers list numAppLayers mdpCompFlag =
          { start with ret := ret }) := by
  have hlayers : ∀ start : Drawing numPipes, frame.mdpCount = 0 →
      frame.drawLayers overlay answers list
        (if frame.mdpCount ≠ 0 then List.range numAppLayers else []) start =
          { start with ret := some true } := by
    intro start hzero
    simp [hzero, drawLayers]
  rw [draw, comesToLoop]
  dsimp only
  cases sEnabled with
  | false => exact ⟨⟨[], [], mdpCompFlag, some true⟩, rfl, rfl, by simp, by simp, fun _ => ⟨_, rfl⟩⟩
  | true =>
    by_cases hnone : numAppLayers = 0
    · refine ⟨⟨[], [], mdpCompFlag, some true⟩, rfl, rfl, by simp, fun _ => ?_, fun _ => ⟨some true, ?_⟩⟩
      · simp [hnone, drawLayers]
      · simp [hnone]
    simp only [Bool.not_true, Bool.false_eq_true, hnone, if_false, Bool.true_and]
    cases hbase : frame.mdpBasePipe with
    | none =>
      refine ⟨⟨[], [], mdpCompFlag, some true⟩, rfl, rfl, by simp, fun hcomes => ?_,
        fun hstops => ⟨some true, ?_⟩⟩
      · have hpos : frame.mdpCount ≠ 0 := by simpa using hcomes
        simp only [if_pos hpos]
      · exact hlayers _ (by simpa using hstops)
    | some basePipe =>
      refine ⟨⟨[], overlay.queuedBy basePipe .base, mdpCompFlag, some true⟩, rfl, rfl,
        fun _ => queuedBy_used, ?_⟩
      simp only [Option.all_some]
      rcases overlay.queueBuffer answers basePipe with _ | _ | _
      · exact ⟨by simp, fun _ => ⟨none, rfl⟩⟩
      · exact ⟨by simp, fun _ => ⟨some false, rfl⟩⟩
      · refine ⟨fun hcomes => ?_, fun hstops => ⟨some true, ?_⟩⟩
        · have hpos : frame.mdpCount ≠ 0 := by simpa using hcomes
          simp only [if_pos hpos]
        · exact hlayers _ (by simpa using hstops)

theorem draw_queued_used (sEnabled : Bool) (numAppLayers : Nat) (mdpCompFlag : Nat → Bool) :
    ∀ entry ∈ (frame.draw sEnabled overlay answers list numAppLayers mdpCompFlag).queued,
      entry.1 ∈ overlay.sPipeUsageBitmap := by
  obtain ⟨start, -, -, hused, hloop, hends⟩ :=
    @draw_cases _ frame overlay answers list sEnabled numAppLayers mdpCompFlag
  intro entry hentry
  cases hcomes : frame.comesToLoop sEnabled overlay answers with
  | true =>
    rw [hloop hcomes] at hentry
    exact (drawLayers_queued_used _ start entry hentry).elim (hused entry) id
  | false =>
    obtain ⟨ret, heq⟩ := hends hcomes
    rw [heq] at hentry
    exact hused entry hentry

theorem draw_touched_lt (sEnabled : Bool) (numAppLayers : Nat) (mdpCompFlag : Nat → Bool) :
    ∀ i ∈ (frame.draw sEnabled overlay answers list numAppLayers mdpCompFlag).touched,
      i < numAppLayers := by
  obtain ⟨start, htouched, -, -, hloop, hends⟩ :=
    @draw_cases _ frame overlay answers list sEnabled numAppLayers mdpCompFlag
  intro i hi
  cases hcomes : frame.comesToLoop sEnabled overlay answers with
  | true =>
    rw [hloop hcomes] at hi
    rcases (drawLayers_touched _ start).2 i hi with hold | hnew
    · rw [htouched] at hold
      exact absurd hold List.not_mem_nil
    · exact List.mem_range.mp hnew.1
  | false =>
    obtain ⟨ret, heq⟩ := hends hcomes
    rw [heq] at hi
    rw [htouched] at hi
    exact absurd hi List.not_mem_nil

theorem draw_reaches_iff {sEnabled : Bool} {numAppLayers : Nat} {mdpCompFlag : Nat → Bool}
    (hflags : ∀ i, mdpCompFlag i = false) (bound : Nat) :
    (∃ i ∈ (frame.draw sEnabled overlay answers list numAppLayers mdpCompFlag).touched, bound ≤ i) ↔
      frame.comesToLoop sEnabled overlay answers = true ∧
        (∀ i < bound, i < numAppLayers → frame.goesOn list i = true) ∧
        ∃ i, bound ≤ i ∧ i < numAppLayers ∧ frame.isFBComposed i = false := by
  obtain ⟨start, htouched, hstart, -, hloop, hends⟩ :=
    @draw_cases _ frame overlay answers list sEnabled numAppLayers mdpCompFlag
  cases hcomes : frame.comesToLoop sEnabled overlay answers with
  | true =>
    generalize hcut : min bound numAppLayers = cut
    have hsplit : List.range numAppLayers =
        List.range cut ++ (List.range (numAppLayers - cut)).map (cut + ·) := by
      rw [← List.range_add, Nat.add_sub_cancel' (by omega)]
    have houtside : ∀ i, i ∈ (List.range (numAppLayers - cut)).map (cut + ·) ↔
        bound ≤ i ∧ i < numAppLayers := by
      intro i
      rw [List.mem_map]
      constructor
      · rintro ⟨j, hj, rfl⟩
        rw [List.mem_range] at hj
        omega
      · rintro ⟨hle, hlt⟩
        exact ⟨i - cut, by rw [List.mem_range]; omega, by omega⟩
    rw [hloop hcomes, hsplit, drawLayers_reaches_iff (fun i hi => ((houtside i).mp hi).1)
      (fun i => by rw [hstart]; exact hflags i)
      (fun i hi => by rw [List.mem_range] at hi; omega) (by simp [htouched])]
    simp only [true_and]
    refine and_congr ?_ ?_
    · constructor
      · exact fun hall i hbound hlt => hall i (List.mem_range.mpr (by omega))
      · intro hall i hi
        rw [List.mem_range] at hi
        exact hall i (by omega) (by omega)
    · refine exists_congr fun i => ?_
      rw [houtside, and_assoc]
  | false =>
    obtain ⟨ret, heq⟩ := hends hcomes
    rw [heq]
    simp [htouched]

end FrameInfo

/-! ### Frames -/

/-- What changes between two calls of the composer: the state of the external display, the flags that
other threads set, and the answers that the driver and the rotator are going to give. -/
structure ComposerEnvironment where
  connected : Bool
  isPause : Bool
  mExtDispConfiguring : Bool
  mSecuring : Bool
  mSecureMode : Bool
  sIdleFallBack : Bool
  driver : List Bool
  rotator : List Bool

/-- A frame: `hwc_prepare` and `hwc_set` for the same lists. -/
structure Frame (numPipes : Nat) where
  allocated : Option (Fin numRenderBuffers → Nat)
  lists : Display → Option DisplayContents
  answers : Display → DrawAnswers numPipes

/-- What happens to the composer from frame to frame. -/
inductive FrameAction (numPipes : Nat) where
  | frame (frame : Frame numPipes)
  | hwcBlank (accepted : Bool) (dpy : Display) (blank : Bool)
  | change (environment : ComposerEnvironment)

namespace Composer

variable {numPipes : Nat} (target : CopyBitTarget) (composer : Composer numPipes)

def change (environment : ComposerEnvironment) : Composer numPipes where
  ctx := { composer.ctx with
    mExtDispConfiguring := environment.mExtDispConfiguring
    mSecuring := environment.mSecuring
    mSecureMode := environment.mSecureMode
    sIdleFallBack := environment.sIdleFallBack
    driver := environment.driver
    rotator := environment.rotator }
  displays := fun
    | .primary => composer.displays .primary
    | .external => { composer.displays .external with
        connected := environment.connected
        isPause := environment.isPause }
  screens := composer.screens

def prepared (frame : Frame numPipes) : Composer numPipes :=
  composer.hwcPrepare target frame.allocated frame.lists

def frameStep (composer : Composer numPipes) : FrameAction numPipes → Option (Composer numPipes)
  | .frame frame => (composer.prepared target frame).hwcSet frame.answers frame.lists
  | .hwcBlank accepted dpy blank => some (composer.hwcBlank accepted dpy blank)
  | .change environment => some (composer.change environment)

def drawing (frame : Frame numPipes) (dpy : Display) (list : DisplayContents) : Drawing numPipes :=
  ((composer.prepared target frame).displays dpy).drawMDPComp (composer.prepared target frame).ctx
    (frame.answers dpy) ((composer.prepared target frame).screens dpy) list

/-- In a frame `MDPComp::draw` only looks at layers of the list, and only queues to pipes that were
committed in the frame. -/
def DrawsOwn : FrameAction numPipes → Prop
  | .frame frame => ∀ dpy list, frame.lists dpy = some list →
      ((composer.prepared target frame).displays dpy).shows dpy list = true →
      (∀ i ∈ (composer.drawing target frame dpy list).touched, i < list.numAppLayers) ∧
        ∀ entry ∈ (composer.drawing target frame dpy list).queued,
          (entry.1, true) ∈ composer.ctx.roundCommits composer.displays frame.lists
  | _ => True

/-- An older frame comes to light: the framebuffer target has no handle, `draw` comes to its loop with
the frame that was left, goes on behind every layer of the list, and finds a layer outside of it. -/
def ShowsStale (frame : Frame numPipes) (dpy : Display) (list : DisplayContents) : Prop :=
  let left := (composer.displays dpy).mdpComp.mCurrentFrame
  let numAppLayers := (composer.screens dpy).numAppLayers
  list.fbLayer.handle = none ∧
    left.comesToLoop composer.ctx.target.sEnabled (composer.prepared target frame).ctx.overlay
      (frame.answers dpy) = true ∧
    (∀ i < list.numAppLayers, i < numAppLayers → left.goesOn list i = true) ∧
    ∃ i, list.numAppLayers ≤ i ∧ i < numAppLayers ∧ left.isFBComposed i = false

def DrawsFresh : FrameAction numPipes → Prop
  | .frame frame => ∀ dpy list, frame.lists dpy = some list →
      (composer.displays dpy).shows dpy list = true → ¬composer.ShowsStale target frame dpy list
  | _ => True

end Composer

theorem Screen.prepareCopyBit_numAppLayers (screen : Screen) (target : CopyBitTarget)
    (allocated : Option (Fin numRenderBuffers → Nat)) (xres yres : Int) (fbUpdate : FBUpdate numPipes)
    (list : DisplayContents) :
    (screen.prepareCopyBit target allocated xres yres fbUpdate list).numAppLayers =
      screen.numAppLayers := by
  rw [prepareCopyBit]
  split
  · rfl
  dsimp only
  split
  · rfl
  split
  · rfl
  split <;> rfl

namespace DisplayState

variable {numPipes : Nat} (state : DisplayState numPipes) {ctx : Context numPipes} {dpy : Display}
  {list : DisplayContents} {target : CopyBitTarget} {allocated : Option (Fin numRenderBuffers → Nat)}
  {screen : Screen}

theorem prepareScreen_numAppLayers (hdraws : state.draws dpy list = true) :
    (state.prepareScreen target allocated ctx dpy (some list) screen).numAppLayers =
      list.numAppLayers := by
  have hcomes : state.comesToLayers dpy list = true := by
    rw [draws] at hdraws
    rw [comesToLayers]
    cases dpy <;> simp at hdraws ⊢ <;> simp [hdraws]
  rw [prepareScreen]
  simp only [hcomes, hdraws, Bool.not_true, Bool.false_eq_true, if_false,
    Screen.prepareCopyBit_numAppLayers]
  split <;> rfl

theorem prepareScreen_passedOver (hcomes : state.comesToLayers dpy list = true)
    (hdraws : state.draws dpy list = false) :
    state.prepareScreen target allocated ctx dpy (some list) screen = screen.resetLayerProp := by
  rw [prepareScreen]
  simp only [hcomes, hdraws, Bool.not_true, Bool.not_false, Bool.false_eq_true, if_false, if_true]

theorem hwcPrepare_passedOver (hdraws : state.draws dpy list = false) :
    state.hwcPrepare ctx dpy (some list) = (ctx, state) := by
  rw [hwcPrepare, hdraws]
  rfl

theorem hwcPrepare_shows (given : Option DisplayContents) :
    (state.hwcPrepare ctx dpy given).2.shows dpy list = state.shows dpy list := by
  cases given with
  | none => rfl
  | some given =>
    rw [hwcPrepare]
    split <;> rfl

theorem draws_of_shows (hshows : state.shows dpy list = true) :
    state.comesToLayers dpy list = true ∧ state.draws dpy list = list.fbLayer.handle.isSome := by
  rw [shows] at hshows
  rw [comesToLayers, draws]
  cases dpy <;> simp at hshows ⊢ <;> simp [hshows]

end DisplayState

theorem Context.hwcPrepare_target (ctx : Context numPipes) (displays : Display → DisplayState numPipes)
    (lists : Display → Option DisplayContents) : (ctx.hwcPrepare displays lists).1.target = ctx.target := by
  rw [hwcPrepare]
  dsimp only
  rw [prepareDisplay, DisplayState.hwcPrepare_target, arrive, DisplayState.hwcPrepare_target, begin]

namespace Composer

variable {numPipes : Nat} (target : CopyBitTarget) (composer : Composer numPipes)

theorem drawsOwn_iff (action : FrameAction numPipes) :
    composer.DrawsOwn target action ↔ composer.DrawsFresh target action := by
  cases action with
  | hwcBlank accepted dpy blank => exact Iff.rfl
  | change environment => exact Iff.rfl
  | frame frame =>
    refine forall_congr' fun dpy => forall_congr' fun list => forall_congr' fun hlist => ?_
    have hshown : ((composer.prepared target frame).displays dpy).shows dpy list =
        (composer.displays dpy).shows dpy list :=
      (composer.displays dpy).reset.hwcPrepare_shows (frame.lists dpy)
    rw [hshown]
    refine forall_congr' fun hshows => ?_
    have hqueued : ∀ entry ∈ (composer.drawing target frame dpy list).queued,
        (entry.1, true) ∈ composer.ctx.roundCommits composer.displays frame.lists := fun entry hentry =>
      composer.ctx.hwcPrepare_used_committed composer.displays frame.lists
        (FrameInfo.draw_queued_used _ _ _ entry hentry)
    obtain ⟨hcomes, hdraws⟩ := (composer.displays dpy).reset.draws_of_shows hshows
    have hscreen : (composer.prepared target frame).screens dpy =
        (composer.displays dpy).reset.prepareScreen target frame.allocated
          (composer.ctx.arrive composer.displays frame.lists dpy) dpy (some list)
          ((composer.screens dpy).reset (some list)) := by
      rw [← hlist]
      rfl
    rw [and_iff_left hqueued, ShowsStale]
    cases hhandle : list.fbLayer.handle with
    | some hnd =>
      rw [hhandle] at hdraws
      refine iff_of_true (fun i hi => ?_) (by simp)
      have hlt := FrameInfo.draw_touched_lt _ _ _ i hi
      rwa [hscreen, DisplayState.prepareScreen_numAppLayers _ hdraws] at hlt
    | none =>
      rw [hhandle] at hdraws
      have hdisplay : (composer.prepared target frame).displays dpy = (composer.displays dpy).reset := by
        have hpart : (composer.prepared target frame).displays dpy =
            ((composer.displays dpy).reset.hwcPrepare
              (composer.ctx.arrive composer.displays frame.lists dpy) dpy (frame.lists dpy)).2 := rfl
        rw [hpart, hlist, DisplayState.hwcPrepare_passedOver _ hdraws]
      rw [DisplayState.prepareScreen_passedOver _ hcomes hdraws] at hscreen
      have htarget : (composer.prepared target frame).ctx.target = composer.ctx.target :=
        composer.ctx.hwcPrepare_target composer.displays frame.lists
      have hreaches := @FrameInfo.draw_reaches_iff _ (composer.displays dpy).mdpComp.mCurrentFrame
        (composer.prepared target frame).ctx.overlay (frame.answers dpy) list
        composer.ctx.target.sEnabled (composer.screens dpy).numAppLayers (fun _ => false) (fun _ => rfl)
        list.numAppLayers
      rw [drawing, hdisplay, hscreen, DisplayState.drawMDPComp, htarget]
      simp only [true_and]
      refine Iff.trans ?_ (not_congr hreaches)
      rw [not_exists]
      refine forall_congr' fun i => ?_
      rw [not_and, not_le]
      rfl

/-- In every run of frames, with calls of `hwc_blank` and changes of the environment between them,
`MDPComp::draw` keeps to the lists and to the pipes of their frames exactly when no older frame comes to
light. -/
theorem runMeets_drawsOwn_iff (actions : List (FrameAction numPipes)) :
    RunMeets (frameStep target) (fun composer => composer.DrawsOwn target) composer actions ↔
      RunMeets (frameStep target) (fun composer => composer.DrawsFresh target) composer actions := by
  have hsame : (fun (composer : Composer numPipes) => composer.DrawsOwn target) =
      fun composer => composer.DrawsFresh target := by
    funext composer action
    exact propext (composer.drawsOwn_iff target action)
  rw [hsame]

end Composer

def fullLayer (address : Nat) : Layer :=
  { sampleLayer address false with displayFrame := ⟨0, 0, 1280, 720⟩ }

def plainFrame (list : DisplayContents) : Frame 4 where
  allocated := none
  lists := fun dpy => if dpy = .primary then some list else none
  answers := fun _ => sampleAnswers

def staleFrames : List (FrameAction 4) :=
  [.frame (plainFrame ⟨[fullLayer 1, sampleLayer 2 false], sampleLayer 3 false, true⟩),
    .frame (plainFrame ⟨[fullLayer 1], { sampleLayer 3 false with handle := none }, true⟩)]

/-- In the second frame `draw` looks at the layer at index 1 of a list with one layer. -/
theorem Composer.frames_drawStale :
    ¬RunMeets (frameStep sampleCopyBitTarget) (fun composer => composer.DrawsOwn sampleCopyBitTarget)
      (sampleComposer []) staleFrames := by
  intro hmeets
  have hsecond := (hmeets.2 _ rfl).1
  have hlt := (hsecond .primary _ rfl (by decide)).1 1 (by decide)
  revert hlt
  decide

end Nozomi
