import Nozomi.Display.Composer.Frames

/-!
# When the framebuffer is not drawn again

`MDPComp` remembers in `hwc_prepare` what it left for the framebuffer, and `hwc_set` remembers which buffer
it showed. When the next list leaves the same, the renderer is spared and the remembered buffer is shown
again. Either half of a frame may be passed over, so the two memories can belong to different frames. This
module records which frame a buffer was rendered for, and says when the remembered buffer is the right
one.
-/

namespace Nozomi

/-! ### What a framebuffer shows -/

namespace DisplayState

variable {numPipes : Nat} {state : DisplayState numPipes} {ctx : Context numPipes} {dpy : Display}
  {answers : DrawAnswers numPipes} {screen screen' : Screen} {ret : Bool}

theorem hwcSet_shown {list : DisplayContents} (hshows : state.shows dpy list = true)
    (hset : state.hwcSet ctx dpy answers screen (some list) = some (screen', ret)) :
    ∃ mdpCompFlag, screen' = { screen with mdpCompFlag, fbHandle := state.shownHandle screen list } := by
  rw [shows, Bool.and_eq_true, Bool.and_eq_true, Bool.not_eq_true'] at hshows
  obtain ⟨⟨hlayers, hactive⟩, hdpy⟩ := hshows
  rw [hwcSet] at hset
  simp only [hlayers, hactive, hdpy, Bool.and_self, Bool.not_true, Bool.false_eq_true, if_false] at hset
  obtain ⟨drawn, -, hset⟩ := Option.bind_eq_some_iff.mp hset
  split at hset
  · rw [Option.some.injEq, Prod.mk.injEq] at hset
    exact ⟨_, hset.1.symm⟩
  · obtain ⟨updated, -, heq⟩ := Option.map_eq_some_iff.mp hset
    rw [Prod.mk.injEq] at heq
    exact ⟨_, heq.1.symm⟩

theorem hwcSet_unshown {list : Option DisplayContents} (hshows : list.filter (state.shows dpy) = none)
    (hset : state.hwcSet ctx dpy answers screen list = some (screen', ret)) : screen' = screen := by
  cases list with
  | none =>
    rw [hwcSet, Option.some.injEq, Prod.mk.injEq] at hset
    exact hset.1.symm
  | some list =>
    have hnot : state.shows dpy list = false := by simpa [Option.filter_some] using hshows
    rw [shows, Bool.and_assoc, Bool.and_eq_false_iff, Bool.not_eq_false'] at hnot
    rw [hwcSet] at hset
    split at hset
    · rw [Option.some.injEq, Prod.mk.injEq] at hset
      exact hset.1.symm
    next hactive =>
      have hlayers := hnot.resolve_right (by simpa using hactive)
      rw [if_pos hlayers, Option.some.injEq, Prod.mk.injEq] at hset
      exact hset.1.symm

end DisplayState

theorem Composer.hwcSet_cases {numPipes : Nat} {composer next : Composer numPipes}
    {answers : Display → DrawAnswers numPipes} {lists : Display → Option DisplayContents}
    (hset : composer.hwcSet answers lists = some next) :
    next.displays = composer.displays ∧ ∃ ret, (composer.displays .primary).hwcSet composer.ctx .primary
      (answers .primary) (composer.screens .primary) (lists .primary) =
        some (next.screens .primary, ret) := by
  rw [hwcSet] at hset
  obtain ⟨primary, hprimary, hset⟩ := Option.bind_eq_some_iff.mp hset
  obtain ⟨external, -, rfl⟩ := Option.map_eq_some_iff.mp hset
  exact ⟨rfl, primary.2, hprimary⟩

/-! ### Histories -/

/-- A call of the composer. SurfaceFlinger passes the lists of the last `hwc_prepare` to `hwc_set`, with
the framebuffer targets that it has rendered since. -/
inductive ComposerAction (numPipes : Nat) where
  | hwcPrepare (allocated : Option (Fin numRenderBuffers → Nat))
      (lists : Display → Option DisplayContents)
  | hwcSet (answers : Display → DrawAnswers numPipes) (fbLayer : Display → Layer)
  | hwcBlank (accepted : Bool) (dpy : Display) (blank : Bool)
  | change (environment : ComposerEnvironment)

/-- The composer with the lists of the last `hwc_prepare`, and the history of the primary display: has
the last `hwc_prepare` called `MDPComp::prepare`, for which frame was a buffer rendered last, and is the
remembered buffer in step with the remembered layers. -/
structure History (numPipes : Nat) where
  composer : Composer numPipes
  lists : Display → Option DisplayContents
  reached : Bool
  rendered : Nat → Option LayerCache
  inStep : Bool

namespace History

variable {numPipes : Nat} (history : History numPipes)

def start (composer : Composer numPipes) : History numPipes := ⟨composer, fun _ => none, false, fun _ => none, false⟩

def display : DisplayState numPipes := history.composer.displays .primary

def screen : Screen := history.composer.screens .primary

def setLists (fbLayer : Display → Layer) (dpy : Display) : Option DisplayContents :=
  (history.lists dpy).map fun list => { list with fbLayer := fbLayer dpy }

def frameOf (list : DisplayContents) : LayerCache :=
  .ofFrame list (if history.reached then history.display.mdpComp.mCurrentFrame.isFBComposed
    else fun _ => true)

def targets (list : DisplayContents) : List Nat :=
  (if (List.range list.numAppLayers).any fun i => history.screen.compositionType i = .framebuffer then
      list.fbLayer.handle.toList.map (·.address) else []) ++
    if DisplayState.copybitDone history.screen then
      (history.screen.copyBit.bind (·.getCurrentRenderBuffer)).toList else []

def renderedFor (list : DisplayContents) (address : Nat) : Option LayerCache :=
  if address ∈ history.targets list then some (history.frameOf list) else history.rendered address

def step (target : CopyBitTarget) (history : History numPipes) :
    ComposerAction numPipes → Option (History numPipes)
  | .hwcPrepare allocated lists =>
    let composer := history.composer.hwcPrepare target allocated lists
    let reached := (lists .primary).any (history.display.draws .primary)
    some { history with
      composer := composer
      lists := lists
      reached := reached
      inStep := if reached then
          history.inStep && !(composer.displays .primary).mdpComp.mCurrentFrame.needsRedraw
        else history.inStep }
  | .hwcSet answers fbLayer =>
    (history.composer.hwcSet answers (history.setLists fbLayer)).map fun composer =>
      match (history.setLists fbLayer .primary).filter (history.display.shows .primary) with
      | some list =>
        { history with
          composer := composer
          rendered := history.renderedFor list
          inStep := history.reached && (history.display.mdpComp.mCurrentFrame.needsRedraw ||
            history.inStep && history.screen.fbHandle.isSome) }
      | none => { history with composer := composer }
  | .hwcBlank accepted dpy blank =>
    some { history with composer := history.composer.hwcBlank accepted dpy blank }
  | .change environment => some { history with composer := history.composer.change environment }

/-- `hwc_set` shows the remembered buffer in place of the framebuffer target. -/
def ShowsRemembered (list : DisplayContents) (address : Nat) : Prop :=
  history.display.shows .primary list = true ∧ DisplayState.copybitDone history.screen = false ∧
    history.display.mdpComp.getFbHandle history.screen.fbHandle = some address

/-- A remembered buffer that `hwc_set` shows was rendered last for a frame with the same number of layers,
the same layers in the framebuffer, and the same handles for them. -/
def ShowsSameFrame : ComposerAction numPipes → Prop
  | .hwcSet _ fbLayer => ∀ list address, history.setLists fbLayer .primary = some list →
      history.ShowsRemembered list address →
      ∃ frame, history.renderedFor list address = some frame ∧ frame.SameAs (history.frameOf list)
  | _ => True

/-- When `hwc_set` shows the remembered buffer, `MDPComp::prepare` was called for its list, and the buffer
is in step. -/
def ShowsInStep : ComposerAction numPipes → Prop
  | .hwcSet _ fbLayer => ∀ list address, history.setLists fbLayer .primary = some list →
      history.ShowsRemembered list address → history.reached = true ∧ history.inStep = true
  | _ => True

/-- What every step keeps: a buffer in step was rendered for the remembered layers, and behind
`MDPComp::prepare` these are the layers of the list, marked for whoever is to draw them. -/
structure Faithful : Prop where
  remembered : history.inStep = true → ∀ address, history.screen.fbHandle = some address →
    (∃ i < history.display.mdpComp.mCachedFrame.layerCount,
      history.display.mdpComp.mCachedFrame.isFBComposed i = true) →
    ∃ frame, history.rendered address = some frame ∧
      frame.SameAs history.display.mdpComp.mCachedFrame
  current : history.reached = true → ∃ list, history.lists .primary = some list ∧
    history.display.mdpComp.mCachedFrame.SameAs (history.frameOf list) ∧
    (history.display.mdpComp.mCurrentFrame.fbCount ≠ 0 ↔
      ∃ i < list.numAppLayers, history.display.mdpComp.mCurrentFrame.isFBComposed i = true) ∧
    (DisplayState.copybitDone history.screen = true →
      history.display.mdpComp.mCurrentFrame.needsRedraw = true) ∧
    (DisplayState.copybitDone history.screen = false → ∀ i < list.numAppLayers,
      history.screen.compositionType i = .framebuffer ↔
        history.display.mdpComp.mCurrentFrame.isFBComposed i = true ∧
          history.display.mdpComp.mCurrentFrame.needsRedraw = true)

theorem faithful_start (composer : Composer numPipes) : (start composer).Faithful where
  remembered := fun hstep => Bool.noConfusion hstep
  current := fun hreached => Bool.noConfusion hreached

variable {history} {target : CopyBitTarget}

variable {next : History numPipes} {list : DisplayContents}

theorem Faithful.congr (hfaithful : history.Faithful) (hdisplay : next.display.mdpComp = history.display.mdpComp)
    (hscreen : next.screen = history.screen) (hlists : next.lists = history.lists)
    (hreached : next.reached = history.reached) (hrendered : next.rendered = history.rendered)
    (hinStep : next.inStep = history.inStep) : next.Faithful := by
  constructor
  · rw [hinStep, hscreen, hdisplay, hrendered]
    exact hfaithful.remembered
  · rw [hreached, hlists, hscreen, hdisplay]
    intro hreached'
    obtain ⟨list, hlist, hcached, hrest⟩ := hfaithful.current hreached'
    refine ⟨list, hlist, ?_, hrest⟩
    rwa [frameOf, hreached, hdisplay, ← frameOf]

theorem frameOf_fbLayer (list : DisplayContents) (fbLayer : Layer) :
    (history.frameOf list).SameAs (history.frameOf { list with fbLayer }) := by
  refine ⟨rfl, fun i hi => ⟨rfl, fun _ => ?_⟩⟩
  have hlt : i < list.appLayers.length := hi
  simp [frameOf, LayerCache.ofFrame, DisplayContents.hwLayer, List.getD_eq_getElem?_getD,
    List.getElem?_eq_getElem hlt]

theorem exists_cached_iff (hreached : history.reached = true)
    (hcached : history.display.mdpComp.mCachedFrame.SameAs (history.frameOf list)) :
    (∃ i < history.display.mdpComp.mCachedFrame.layerCount,
        history.display.mdpComp.mCachedFrame.isFBComposed i = true) ↔
      ∃ i < list.numAppLayers, history.display.mdpComp.mCurrentFrame.isFBComposed i = true := by
  have hcount : history.display.mdpComp.mCachedFrame.layerCount = list.numAppLayers := hcached.1
  rw [hcount]
  refine exists_congr fun i => and_congr_right fun hi => ?_
  rw [(hcached.2 i hi).1, frameOf, hreached]
  rfl

theorem targets_eq_nil (hdone : DisplayState.copybitDone history.screen = false)
    (htypes : ∀ i < list.numAppLayers, history.screen.compositionType i ≠ .framebuffer) :
    history.targets list = [] := by
  rw [targets, hdone, if_neg]
  · rfl
  · rw [List.any_eq_true]
    rintro ⟨i, hi, htype⟩
    exact htypes i (List.mem_range.mp hi) (of_decide_eq_true htype)

theorem Faithful.hwcPrepare (hfaithful : history.Faithful) (allocated : Option (Fin numRenderBuffers → Nat))
    (lists : Display → Option DisplayContents)
    (hnext : history.step target (.hwcPrepare allocated lists) = some next) : next.Faithful := by
  rw [History.step, Option.some.injEq] at hnext
  have hdisplay : (history.composer.hwcPrepare target allocated lists).displays .primary =
      (history.display.reset.hwcPrepare (history.composer.ctx.arrive history.composer.displays lists
        .primary) .primary (lists .primary)).2 := rfl
  have hscreen : (history.composer.hwcPrepare target allocated lists).screens .primary =
      history.display.reset.prepareScreen target allocated
        (history.composer.ctx.arrive history.composer.displays lists .primary) .primary (lists .primary)
        (history.screen.reset (lists .primary)) := rfl
  cases hreached : (lists .primary).any (history.display.draws .primary) with
  | false =>
    rw [hreached] at hnext
    subst hnext
    -- Neither memory changes.
    have hkept : ((history.composer.hwcPrepare target allocated lists).displays .primary).mdpComp =
          history.display.mdpComp ∧
        ((history.composer.hwcPrepare target allocated lists).screens .primary).fbHandle =
          history.screen.fbHandle := by
      rw [hdisplay, hscreen]
      cases hlist : lists .primary with
      | none => exact ⟨rfl, rfl⟩
      | some list =>
        have hdraws : history.display.reset.draws .primary list = false := by
          rw [hlist] at hreached
          exact hreached
        refine ⟨congrArg (fun result => result.2.mdpComp)
          (DisplayState.hwcPrepare_passedOver _ hdraws), ?_⟩
        rw [DisplayState.prepareScreen, hdraws]
        split
        · rfl
        · rfl
    constructor
    · simp only [display, screen, hkept.1, hkept.2]
      exact hfaithful.remembered
    · exact fun hnot => Bool.noConfusion hnot
  | true =>
    rw [hreached] at hnext
    subst hnext
    cases hlist : lists .primary with
    | none => simp [hlist] at hreached
    | some list =>
      have hdraws : history.display.reset.draws .primary list = true := by
        rw [hlist] at hreached
        exact hreached
      have happs : list.appLayers ≠ [] := by
        rw [DisplayState.draws] at hdraws
        simp at hdraws
        exact hdraws.1.1
      obtain ⟨ctx', fbUpdate, mdpComp, composed, hprepare, hcompose, -, hframe, -⟩ :=
        @DisplayState.hwcPrepare_drawable _ history.display.reset
          (history.composer.ctx.arrive history.composer.displays lists .primary) list .primary hdraws
          happs rfl
      obtain ⟨hmarked, hhandle⟩ := @DisplayState.prepareScreen_marked _ history.display.reset
        (history.composer.ctx.arrive history.composer.displays lists .primary) list target allocated
        history.screen hdraws happs rfl
      rw [hlist] at hdisplay hscreen
      rw [hprepare] at hmarked hdisplay
      rw [← hscreen] at hmarked hhandle
      obtain ⟨hcount, hkeep, hspared⟩ :=
        @MDPComp.prepare_remembers _ _ _ _ _ _ mdpComp _ _ composed (Prod.ext rfl (Prod.ext rfl hcompose))
      have hcached : mdpComp.mCachedFrame.SameAs (.ofFrame list mdpComp.mCurrentFrame.isFBComposed) := by
        rw [hkeep]
        exact LayerCache.updateCounts_sameAs _ hcount
      constructor
      · simp only [display, screen, hdisplay, hhandle, if_true, Bool.and_eq_true, Bool.not_eq_true']
        rintro ⟨hstep, hnotDrawn⟩ address haddress hexists
        have hsame := (hspared hnotDrawn).trans hcached.symm
        obtain ⟨frame, hframe, hold⟩ :=
          hfaithful.remembered hstep address haddress (hsame.exists_of_exists hexists)
        exact ⟨frame, hframe, hold.trans hsame⟩
      · intro _
        refine ⟨list, hlist, ?_, ?_, ?_, ?_⟩
        · simp only [frameOf, display, hdisplay, if_true]
          exact hcached
        · simp only [display, hdisplay]
          exact hframe.fbCount_ne_zero_iff
        · simp only [display, screen, hdisplay]
          intro hdone
          rcases hmarked.types with ⟨hidle, -⟩ | ⟨-, -, hredraw, -⟩
          · rw [hidle] at hdone
            exact Bool.noConfusion hdone
          · exact hredraw
        · simp only [display, screen, hdisplay]
          intro hidle
          rcases hmarked.types with ⟨-, htypes⟩ | ⟨hdone, -⟩
          · exact htypes
          · rw [hidle] at hdone
            exact Bool.noConfusion hdone

theorem Faithful.renderedFor_remembered (hfaithful : history.Faithful) {fbLayer : Display → Layer}
    (hlist : history.setLists fbLayer .primary = some list) (hreached : history.reached = true)
    (hstep : history.display.mdpComp.mCurrentFrame.needsRedraw = true ∨
      history.inStep = true ∧ history.screen.fbHandle.isSome = true) {address : Nat}
    (haddress : history.display.shownHandle history.screen list = some address)
    (hexists : ∃ i < history.display.mdpComp.mCachedFrame.layerCount,
      history.display.mdpComp.mCachedFrame.isFBComposed i = true) :
    ∃ frame, history.renderedFor list address = some frame ∧
      frame.SameAs history.display.mdpComp.mCachedFrame := by
  obtain ⟨given, hgiven, hcached, hcount, hcopybit, htypes⟩ := hfaithful.current hreached
  rw [setLists, hgiven, Option.map_some, Option.some.injEq] at hlist
  subst hlist
  have hfb := (exists_cached_iff hreached hcached).mp hexists
  cases hredraw : history.display.mdpComp.mCurrentFrame.needsRedraw with
  | true =>
    have hmem : address ∈ history.targets { given with fbLayer := fbLayer .primary } := by
      rw [DisplayState.shownHandle] at haddress
      rw [targets, List.mem_append]
      cases hdone : DisplayState.copybitDone history.screen with
      | true =>
        rw [hdone, if_pos rfl] at haddress
        refine .inr ?_
        rw [if_pos rfl, Option.mem_toList, haddress]
      | false =>
        obtain ⟨i, hi, hfb⟩ := hfb
        have hany : (List.range
            ({ given with fbLayer := fbLayer .primary } : DisplayContents).numAppLayers).any
              (fun i => decide (history.screen.compositionType i = .framebuffer)) = true :=
          List.any_eq_true.mpr ⟨i, List.mem_range.mpr hi,
            decide_eq_true ((htypes hdone i hi).mpr ⟨hfb, hredraw⟩)⟩
        have hnone : history.display.mdpComp.getFbHandle history.screen.fbHandle = none := by
          rw [MDPComp.getFbHandle, if_neg (by simp [hredraw])]
        rw [hdone, if_neg Bool.false_ne_true, hnone] at haddress
        obtain ⟨hnd, hhandle, rfl⟩ := Option.map_eq_some_iff.mp haddress
        refine .inl ?_
        rw [if_pos hany, List.mem_map]
        exact ⟨hnd, Option.mem_toList.mpr hhandle, rfl⟩
    rw [renderedFor, if_pos hmem]
    exact ⟨_, rfl, (hcached.trans (frameOf_fbLayer given _)).symm⟩
  | false =>
    obtain ⟨hstep, hhandle⟩ := hstep.resolve_left (by simp [hredraw])
    have hdone : DisplayState.copybitDone history.screen = false := by
      by_contra hdone
      rw [hcopybit (by simpa using hdone)] at hredraw
      exact Bool.noConfusion hredraw
    have hnone : history.targets { given with fbLayer := fbLayer .primary } = [] := by
      refine targets_eq_nil hdone fun i hi htype => ?_
      have hagain := ((htypes hdone i hi).mp htype).2
      rw [hredraw] at hagain
      exact Bool.noConfusion hagain
    obtain ⟨kept, hkept⟩ := Option.isSome_iff_exists.mp hhandle
    have hsame : kept = address := by
      have hfbHandle : history.display.mdpComp.getFbHandle history.screen.fbHandle = some kept := by
        rw [MDPComp.getFbHandle, if_pos ⟨hcount.mpr hfb, by simp [hredraw]⟩, hkept]
      rw [DisplayState.shownHandle, hdone, if_neg Bool.false_ne_true, hfbHandle] at haddress
      exact Option.some.inj haddress
    rw [renderedFor, hnone, if_neg List.not_mem_nil]
    exact hfaithful.remembered hstep address (hsame ▸ hkept) hexists

theorem Faithful.hwcSet (hfaithful : history.Faithful) (answers : Display → DrawAnswers numPipes)
    (fbLayer : Display → Layer) (hnext : history.step target (.hwcSet answers fbLayer) = some next) :
    next.Faithful := by
  rw [History.step, Option.map_eq_some_iff] at hnext
  obtain ⟨composer, hset, hnext⟩ := hnext
  obtain ⟨hdisplays, ret, hprimary⟩ := Composer.hwcSet_cases hset
  cases hshown : (history.setLists fbLayer .primary).filter (history.display.shows .primary) with
  | none =>
    rw [hshown] at hnext
    subst hnext
    have hscreen := DisplayState.hwcSet_unshown hshown hprimary
    exact hfaithful.congr (congrArg (fun displays => (displays Display.primary).mdpComp) hdisplays) hscreen
      rfl rfl rfl rfl
  | some list =>
    rw [hshown] at hnext
    subst hnext
    obtain ⟨hlist, hshows⟩ := Option.filter_eq_some_iff.mp hshown
    rw [hlist] at hprimary
    obtain ⟨mdpCompFlag, hscreen⟩ := DisplayState.hwcSet_shown hshows hprimary
    constructor
    · intro hstep address haddress hexists
      simp only [display, screen, hdisplays, hscreen, Bool.and_eq_true, Bool.or_eq_true] at hstep haddress hexists ⊢
      exact hfaithful.renderedFor_remembered hlist hstep.1 hstep.2 haddress hexists
    · simp only [display, screen, hdisplays, hscreen]
      intro hreached
      obtain ⟨given, hgiven, hcached, hrest⟩ := hfaithful.current hreached
      refine ⟨given, hgiven, ?_, hrest⟩
      simpa only [frameOf, display, hdisplays] using hcached

theorem Faithful.step (hfaithful : history.Faithful) {action : ComposerAction numPipes}
    (hnext : history.step target action = some next) : next.Faithful := by
  cases action with
  | hwcPrepare allocated lists => exact hfaithful.hwcPrepare allocated lists hnext
  | hwcSet answers fbLayer => exact hfaithful.hwcSet answers fbLayer hnext
  | hwcBlank accepted dpy blank =>
    obtain rfl := Option.some.inj hnext
    refine hfaithful.congr ?_ rfl rfl rfl rfl rfl
    rw [display, Composer.hwcBlank, display]
    dsimp only
    split
    · cases dpy with
      | primary => rw [Function.update_self]
      | external => rw [Function.update_of_ne (by simp)]
    · rfl
  | change environment =>
    obtain rfl := Option.some.inj hnext
    exact hfaithful.congr rfl rfl rfl rfl rfl rfl

theorem Faithful.showsSameFrame (hfaithful : history.Faithful) {action : ComposerAction numPipes}
    (hinStep : history.ShowsInStep action) : history.ShowsSameFrame action := by
  cases action with
  | hwcPrepare | hwcBlank | change => trivial
  | hwcSet answers fbLayer =>
    intro list address hlist hshows
    obtain ⟨hreached, hstep⟩ := hinStep list address hlist hshows
    obtain ⟨hshown, hdone, hhandle⟩ := hshows
    obtain ⟨given, hgiven, hcached, hcount, -, htypes⟩ := hfaithful.current hreached
    rw [setLists, hgiven, Option.map_some, Option.some.injEq] at hlist
    subst hlist
    rw [MDPComp.getFbHandle] at hhandle
    split at hhandle
    next hkept =>
      have hspared : history.display.mdpComp.mCurrentFrame.needsRedraw = false := by simpa using hkept.2
      have hnone : history.targets { given with fbLayer := fbLayer .primary } = [] := by
        refine targets_eq_nil hdone fun i hi htype => ?_
        have hredraw := ((htypes hdone i hi).mp htype).2
        rw [hspared] at hredraw
        exact Bool.noConfusion hredraw
      obtain ⟨frame, hframe, hsame⟩ := hfaithful.remembered hstep address hhandle
        ((exists_cached_iff hreached hcached).mpr (hcount.mp hkept.1))
      refine ⟨frame, ?_, (hsame.trans hcached).trans (frameOf_fbLayer given _)⟩
      rw [renderedFor, hnone, if_neg List.not_mem_nil, hframe]
    next => simp at hhandle

/-- In every history of calls in which the remembered buffer is only shown in step, it shows the frame of
its list wherever it is shown. -/
theorem runMeets_showsSameFrame (composer : Composer numPipes) (actions : List (ComposerAction numPipes))
    (hinStep : RunMeets (step target) ShowsInStep (start composer) actions) :
    RunMeets (step target) ShowsSameFrame (start composer) actions :=
  hinStep.imp_of_invariant Faithful (fun _ _ _ hfaithful hnext => hfaithful.step hnext)
    (fun _ _ hfaithful hshows => hfaithful.showsSameFrame hshows) _ (faithful_start composer)

end History

/-! ### A buffer of an older frame -/

def mixedList (upper lower : Nat) (geometryChanged : Bool) : DisplayContents where
  appLayers := [sampleLayer lower false, { sampleLayer upper false with transform := 4 }]
  fbLayer := sampleLayer 10 false
  geometryChanged := geometryChanged

def prepareMixed (upper lower : Nat) (geometryChanged : Bool) : ComposerAction 4 :=
  .hwcPrepare none fun dpy =>
    if dpy = .primary then some (mixedList upper lower geometryChanged) else none

def setMixed (address : Nat) : ComposerAction 4 :=
  .hwcSet (fun _ => sampleAnswers) fun _ => sampleLayer address false

def sparedHistory : List (ComposerAction 4) :=
  [prepareMixed 2 1 true, setMixed 10, prepareMixed 2 3 false, setMixed 10]

/-- The second frame shows the buffer of the first one, which holds its upper layer. -/
theorem History.runMeets_showsSameFrame_spared :
    RunMeets (step sampleCopyBitTarget) ShowsSameFrame (start (sampleComposer [])) sparedHistory := by
  apply runMeets_showsSameFrame
  refine ⟨trivial, fun first hfirst => ⟨fun list address _ hshows => ?_, fun second hsecond =>
    ⟨trivial, fun third hthird => ⟨fun _ _ _ _ => ?_, fun _ _ => trivial⟩⟩⟩⟩
  · obtain rfl := Option.some.inj hfirst
    exact nomatch (show (none : Option Nat) = some address from hshows.2.2)
  · obtain rfl := Option.some.inj hfirst
    obtain rfl := Option.some.inj hsecond
    obtain rfl := Option.some.inj hthird
    exact ⟨by decide, by decide⟩

def blankedHistory : List (ComposerAction 4) :=
  [prepareMixed 2 1 true, setMixed 10, prepareMixed 4 3 false, .hwcBlank true .primary true, setMixed 11,
    .hwcBlank true .primary false, prepareMixed 4 5 false, setMixed 11]

/-- The next frame shows the buffer with the old upper layer. -/
theorem History.blankedHistory_showsOlder :
    ¬RunMeets (step sampleCopyBitTarget) ShowsSameFrame (start (sampleComposer [])) blankedHistory := by
  intro hmeets
  have hlast := (((((((hmeets.2 _ rfl).2 _ rfl).2 _ rfl).2 _ rfl).2 _ rfl).2 _ rfl).2 _ rfl).1
  obtain ⟨frame, hframe, hsame⟩ := hlast _ 10 rfl ⟨by decide, by decide, by decide⟩
  obtain rfl := Option.some.inj hframe
  have hhandle := (hsame.2 1 (by decide)).2 (by decide)
  revert hhandle
  decide

end Nozomi
