import Nozomi.Vdec.Component.Events

/-!
# The pending bits of the port commands

A bit of `m_flags` that a port command has set is cleared when its completion is posted: by the allocators
of the buffers, by `free_buffer`, and at the end of an output flush. Each of these steps posts at most one
completion, and clears the bit of that one.
-/

namespace Nozomi

def Flag.port : Flag → Nat
  | .inputEnablePending | .inputDisablePending => inputPortIndex
  | _ => outputPortIndex

def Flag.completion : Flag → Option OmxEvent
  | .inputEnablePending => some ⟨commandPortEnable, inputPortIndex, .event⟩
  | .outputEnablePending => some ⟨commandPortEnable, outputPortIndex, .event⟩
  | .inputDisablePending => some ⟨commandPortDisable, inputPortIndex, .event⟩
  | .outputDisablePending => some ⟨commandPortDisable, outputPortIndex, .event⟩
  | .disableOutputDeferred => some ⟨commandPortDisable, outputPortIndex, .event⟩
  | _ => none

/-! ### Calls of the client -/

namespace OmxVdec

variable {component next last : OmxVdec} {bits : List Flag}

/-- The part of a step that leaves some bits and their completions alone. -/
structure Quietly (bits : List Flag) (component next : OmxVdec) : Prop where
  posts : ∃ posted, next.mCmdQ = component.mCmdQ ++ posted ∧
    ∀ event ∈ posted, ∀ flag ∈ bits, flag.completion ≠ some event
  flags : ∀ flag ∈ bits, flag ∈ next.mFlags ↔ flag ∈ component.mFlags

/-- A step posts at most one completion of the bits, and clears the bit of that one. -/
def Releases (bits : List Flag) (component last : OmxVdec) : Prop :=
  Quietly bits component last ∨
    ∃ before after flag event, flag ∈ bits ∧ Flag.completion flag = some event ∧
      flag ∈ OmxVdec.mFlags before ∧ Quietly bits component before ∧
      OmxVdec.mCmdQ after = (before.postEvent event).mCmdQ ∧
      OmxVdec.mFlags after = before.mFlags.erase flag ∧ Quietly bits after last

theorem quietly_of_eq (hqueue : next.mCmdQ = component.mCmdQ)
    (hflags : ∀ flag ∈ bits, flag ∈ next.mFlags ↔ flag ∈ component.mFlags) :
    Quietly bits component next :=
  ⟨⟨[], by rw [hqueue, List.append_nil], fun _ hmem => absurd hmem List.not_mem_nil⟩, hflags⟩

theorem quietly_refl (bits : List Flag) (component : OmxVdec) : Quietly bits component component :=
  quietly_of_eq rfl fun _ _ => Iff.rfl

theorem Quietly.trans (hfirst : Quietly bits component next) (hsecond : Quietly bits next last) :
    Quietly bits component last := by
  obtain ⟨first, hfirstEq, hfirstQuiet⟩ := hfirst.posts
  obtain ⟨second, hsecondEq, hsecondQuiet⟩ := hsecond.posts
  refine ⟨⟨first ++ second, by rw [hsecondEq, hfirstEq, List.append_assoc], ?_⟩,
    fun flag hflag => (hsecond.flags flag hflag).trans (hfirst.flags flag hflag)⟩
  intro event hevent
  rcases List.mem_append.mp hevent with hevent | hevent
  · exact hfirstQuiet event hevent
  · exact hsecondQuiet event hevent

theorem quietly_postEvent {event : OmxEvent} (hquiet : ∀ flag ∈ bits, flag.completion ≠ some event) :
    Quietly bits component (component.postEvent event) := by
  rw [postEvent]
  split
  · refine ⟨⟨[event], rfl, fun other hother => ?_⟩, fun _ _ => Iff.rfl⟩
    rw [List.mem_singleton.mp hother]
    exact hquiet
  · exact quietly_refl bits component

theorem quietly_clearFlag {flag : Flag} (hflag : flag ∉ bits) :
    Quietly bits component (component.clearFlag flag) := by
  refine quietly_of_eq rfl fun other hother => ?_
  rw [clearFlag, Finset.mem_erase]
  exact and_iff_right fun hsame => hflag (hsame ▸ hother)

theorem Quietly.releases (hquiet : Quietly bits component next) (hreleases : Releases bits next last) :
    Releases bits component last := by
  rcases hreleases with hlast | ⟨before, after, flag, event, hbits, hevent, hflag, hbefore, hrest⟩
  · exact .inl (hquiet.trans hlast)
  · exact .inr ⟨before, after, flag, event, hbits, hevent, hflag, hquiet.trans hbefore, hrest⟩

theorem Releases.quietly (hreleases : Releases bits component next) (hquiet : Quietly bits next last) :
    Releases bits component last := by
  rcases hreleases with hnext | ⟨before, after, flag, event, hbits, hevent, hflag, hbefore, hqueue,
    hflags, hafter⟩
  · exact .inl (hnext.trans hquiet)
  · exact .inr ⟨before, after, flag, event, hbits, hevent, hflag, hbefore, hqueue, hflags,
      hafter.trans hquiet⟩

theorem releases_clear_post {flag : Flag} {event : OmxEvent} (hbits : flag ∈ bits)
    (hevent : flag.completion = some event) (hflag : flag ∈ component.mFlags) :
    Releases bits component ((component.clearFlag flag).postEvent event) := by
  refine .inr ⟨component, (component.clearFlag flag).postEvent event, flag, event, hbits, hevent, hflag,
    quietly_refl bits component, ?_, ?_, quietly_refl bits _⟩
  · rw [postEvent, postEvent]
    split
    next hroom => rw [if_pos (by exact hroom)]; rfl
    next hroom => rw [if_neg (by exact hroom)]; rfl
  · rw [postEvent]
    split <;> rfl

theorem allocateDone_quietly : Quietly bits component component.allocateDone.1 :=
  quietly_of_eq rfl fun _ _ => Iff.rfl

theorem Releases.of_same (hreleases : Releases bits next last) (hqueue : next.mCmdQ = component.mCmdQ)
    (hflags : next.mFlags = component.mFlags) : Releases bits component last :=
  (quietly_of_eq hqueue fun _ _ => by rw [hflags]).releases hreleases

theorem bufferAdded_releases (port : Nat) :
    Releases [.inputEnablePending, .outputEnablePending] component (component.bufferAdded port) := by
  have hidle : Quietly [.inputEnablePending, .outputEnablePending] component
      (if component.allocateDone.2 ∧ .idlePending ∈ component.allocateDone.1.mFlags then
        (component.allocateDone.1.clearFlag .idlePending).postEvent ⟨commandStateSet, stateIdle, .event⟩
        else component.allocateDone.1) := by
    split
    · exact (allocateDone_quietly.trans (quietly_clearFlag (by decide))).trans
        (quietly_postEvent (by decide))
    · exact allocateDone_quietly
  rw [bufferAdded]
  dsimp only
  generalize (if component.allocateDone.2 ∧ .idlePending ∈ component.allocateDone.1.mFlags then
    (component.allocateDone.1.clearFlag .idlePending).postEvent ⟨commandStateSet, stateIdle, .event⟩
    else component.allocateDone.1) = started at hidle ⊢
  refine hidle.releases ?_
  split
  next hinput => exact releases_clear_post (by decide) rfl hinput.2.2
  next =>
    split
    next houtput => exact releases_clear_post (by decide) rfl houtput.2.2
    next => exact .inl (quietly_refl _ _)

theorem allocateBuffer_releases (port index : Nat) :
    Releases [.inputEnablePending, .outputEnablePending] component
      (component.allocateBuffer port index) := by
  rw [allocateBuffer]
  split
  · exact .inl (quietly_refl _ _)
  split
  · exact (bufferAdded_releases port).of_same rfl rfl
  split
  · exact (bufferAdded_releases port).of_same rfl rfl
  · exact .inl (quietly_refl _ _)

theorem quietly_of_same (hqueue : next.mCmdQ = component.mCmdQ) (hflags : next.mFlags = component.mFlags) :
    Quietly bits component next :=
  quietly_of_eq hqueue fun _ _ => by rw [hflags]

theorem releaseOutputDone_same (component : OmxVdec) :
    component.releaseOutputDone.1.mCmdQ = component.mCmdQ ∧
      component.releaseOutputDone.1.mFlags = component.mFlags := by
  rw [releaseOutputDone]
  split <;> exact ⟨rfl, rfl⟩

theorem freeInput_releases (index : Nat) :
    Releases [.inputDisablePending, .outputDisablePending] component (component.freeInput index) := by
  have hfreed : Quietly [.inputDisablePending, .outputDisablePending] component
      (if index < component.input.actualcount then
        let input := { component.input with
          bmCount := component.input.bmCount.erase index, bPopulated := false }
        { component with input := { input with memPtr := input.memPtr && !input.released } }
      else component) := by
    split
    · exact quietly_of_eq rfl fun _ _ => Iff.rfl
    · exact quietly_refl _ _
  rw [freeInput]
  dsimp only at hfreed ⊢
  generalize (if index < component.input.actualcount then _ else component) = freed at hfreed ⊢
  refine hfreed.releases ?_
  split
  next hpending => exact releases_clear_post (by decide) rfl hpending.1
  next => exact .inl (quietly_refl _ _)

theorem freeOutput_releases (index : Nat) :
    Releases [.inputDisablePending, .outputDisablePending] component (component.freeOutput index) := by
  have hfreed : Quietly [.inputDisablePending, .outputDisablePending] component
      (if index < component.output.actualcount then
        let output := { component.output with
          bmCount := component.output.bmCount.erase index, bPopulated := false }
        let released := { component with output := output }.releaseOutputDone
        { released.1 with output := { released.1.output with memPtr := output.memPtr && !released.2 } }
      else component) := by
    split
    · exact quietly_of_same (releaseOutputDone_same _).1 (releaseOutputDone_same _).2
    · exact quietly_refl _ _
  rw [freeOutput]
  dsimp only at hfreed ⊢
  generalize (if index < component.output.actualcount then _ else component) = freed at hfreed ⊢
  obtain ⟨hqueue, hflags⟩ := releaseOutputDone_same freed
  refine hfreed.releases ?_
  split
  next hpending =>
    split
    · refine Releases.of_same ?_ hqueue hflags
      exact releases_clear_post (by decide) rfl (hflags ▸ hpending)
    · exact .inl (quietly_of_same hqueue hflags)
  next => exact .inl (quietly_refl _ _)

theorem releaseDone_same (component : OmxVdec) :
    component.releaseDone.1.mCmdQ = component.mCmdQ ∧
      component.releaseDone.1.mFlags = component.mFlags := by
  rw [releaseDone]
  split
  · exact releaseOutputDone_same component
  · exact ⟨rfl, rfl⟩

theorem freeBuffer_releases (port index : Nat) :
    Releases [.inputDisablePending, .outputDisablePending] component (component.freeBuffer port index) := by
  have hunpopulated : Quietly [.inputDisablePending, .outputDisablePending] component
      (component.postEvent ⟨eventError, ErrorType.portUnpopulated.toParam, .event⟩) :=
    quietly_postEvent (by decide)
  have hfreed : ∀ checked : OmxVdec, Quietly [.inputDisablePending, .outputDisablePending] component checked →
      Releases [.inputDisablePending, .outputDisablePending] component
        (if port = inputPortIndex then checked.freeInput index
          else if port = outputPortIndex then checked.freeOutput index else checked) := by
    intro checked hchecked
    split
    · exact hchecked.releases (freeInput_releases index)
    split
    · exact hchecked.releases (freeOutput_releases index)
    · exact .inl hchecked
  have hloaded : ∀ (inRange : Prop) [Decidable inRange] (freed : OmxVdec),
      Releases [.inputDisablePending, .outputDisablePending] component freed →
      Releases [.inputDisablePending, .outputDisablePending] component
        (if inRange ∧ .loadingPending ∈ freed.mFlags then
          if freed.releaseDone.2 then
            (freed.releaseDone.1.clearFlag .loadingPending).postEvent
              ⟨commandStateSet, stateLoaded, .event⟩
          else freed.releaseDone.1
        else freed) := by
    intro inRange _ freed hreleases
    have hreleased : Quietly [.inputDisablePending, .outputDisablePending] freed freed.releaseDone.1 :=
      quietly_of_same (releaseDone_same freed).1 (releaseDone_same freed).2
    split
    · split
      · exact hreleases.quietly ((hreleased.trans (quietly_clearFlag (by decide))).trans
          (quietly_postEvent (by decide)))
      · exact hreleases.quietly hreleased
    · exact hreleases
  rw [freeBuffer]
  dsimp only
  split
  · exact .inl hunpopulated
  · refine hloaded _ _ (hfreed _ ?_)
    split
    · exact quietly_refl _ _
    · exact hunpopulated

/-! ### The rounds for events -/

theorem eventHandler_quietly (event : EventType) (data1 data2 : Nat) :
    Quietly bits component (component.eventHandler event data1 data2) :=
  quietly_of_same rfl rfl

theorem omxReportError_quietly : Quietly bits component component.omxReportError := by
  rw [omxReportError]
  split
  · exact quietly_refl bits component
  · exact quietly_of_same rfl rfl

theorem reportUnless_quietly (success : Bool) : Quietly bits component (component.reportUnless success) := by
  rw [reportUnless]
  split
  · exact quietly_refl bits component
  · exact omxReportError_quietly

theorem flushInDisableDone_releases :
    Releases [.disableOutputDeferred] component component.flushInDisableDone := by
  rw [flushInDisableDone]
  split
  · have hcleared : Quietly [.disableOutputDeferred] component
        (component.clearFlag .outputFlushInDisablePending) := quietly_clearFlag (by decide)
    dsimp only
    split
    next hdeferred =>
      refine hcleared.releases (.inr ⟨_, (OmxVdec.postEvent _ _).clearFlag .disableOutputDeferred,
        .disableOutputDeferred, _, List.mem_singleton_self _, rfl, hdeferred, quietly_refl _ _, rfl, ?_,
        quietly_refl _ _⟩)
      rw [clearFlag, postEvent]
      split <;> rfl
    next => exact .inl hcleared
  · exact .inl (quietly_refl _ _)

theorem outputFlushDone_releases (environment : Environment) (status : Nat) :
    Releases [.disableOutputDeferred] component (component.outputFlushDone environment status) := by
  rw [outputFlushDone]
  split
  · exact .inl (quietly_refl _ _)
  dsimp only
  have hdone : Quietly [.disableOutputDeferred] component
      { component with output := { component.output with flushProgress := false } } :=
    quietly_of_same rfl rfl
  split
  · exact .inl (hdone.trans omxReportError_quietly)
  have htold : ∀ done : OmxVdec, Quietly [.disableOutputDeferred] component done →
      Quietly [.disableOutputDeferred] component (if .outputFlushPending ∈ done.mFlags then
        (done.clearFlag .outputFlushPending).eventHandler .cmdComplete commandFlush outputPortIndex
        else done) := by
    intro done hquiet
    split
    · exact (hquiet.trans (quietly_clearFlag (by decide))).trans (eventHandler_quietly _ _ _)
    · exact hquiet
  have hstop : ∀ flushed : OmxVdec, Releases [.disableOutputDeferred] component flushed →
      Releases [.disableOutputDeferred] component (if .idlePending ∈ flushed.mFlags ∧
        !flushed.input.flushProgress then flushed.reportUnless (environment.ioctl .stop) else flushed) := by
    intro flushed hreleases
    split
    · exact hreleases.quietly (reportUnless_quietly _)
    · exact hreleases
  exact hstop _ ((htold _ hdone).releases flushInDisableDone_releases)

@[simp] theorem eventHandler_mCmdQ (component : OmxVdec) (event : EventType) (data1 data2 : Nat) :
    (component.eventHandler event data1 data2).mCmdQ = component.mCmdQ := rfl

@[simp] theorem omxReportError_mCmdQ (component : OmxVdec) :
    component.omxReportError.mCmdQ = component.mCmdQ := by
  rw [omxReportError]
  split <;> rfl

@[simp] theorem reportUnless_mCmdQ (component : OmxVdec) (success : Bool) :
    (component.reportUnless success).mCmdQ = component.mCmdQ := by
  rw [reportUnless]
  split
  · rfl
  · exact omxReportError_mCmdQ component

theorem generateEvent_mCmdQ (component : OmxVdec) (environment : Environment) (param1 param2 : Nat) :
    (component.generateEvent environment param1 param2).mCmdQ = component.mCmdQ := by
  rw [generateEvent]
  split
  · rfl
  split
  · split
    · rfl
    split
    · exact omxReportError_mCmdQ component
    · rfl
  split
  · rw [portDisableComplete]
    split
    · rfl
    split
    · dsimp only
      split
      · rfl
      · exact omxReportError_mCmdQ _
    · rfl
  · rfl

theorem pendingDone_mCmdQ (component : OmxVdec) (bufferDones : Bool) (status : Nat) (flag : Flag)
    (state : StateType) (param : Nat) :
    (component.pendingDone bufferDones status flag state param).mCmdQ = component.mCmdQ := by
  rw [pendingDone]
  split
  · exact omxReportError_mCmdQ component
  dsimp only
  split <;> exact reportUnless_mCmdQ component bufferDones

theorem bufferRound_mCmdQ (component : OmxVdec) (environment : Environment) :
    (component.bufferRound environment).mCmdQ = component.mCmdQ := by
  rw [bufferRound]
  split
  · rfl
  · exact reportUnless_mCmdQ component _

theorem handleEvent_posts (component : OmxVdec) (environment : Environment) {event : OmxEvent}
    (hid : event.id ≠ .command) :
    (component.handleEvent environment event).mCmdQ = component.mCmdQ ∨
      Releases [.disableOutputDeferred] component (component.handleEvent environment event) := by
  rw [handleEvent]
  split
  next => exact .inl (generateEvent_mCmdQ component environment _ _)
  next hcommand => exact absurd hcommand hid
  next =>
    left
    rw [inputFlushDone]
    split
    · rfl
    dsimp only
    split
    · exact omxReportError_mCmdQ _
    · split
      · split
        · exact reportUnless_mCmdQ _ _
        · rfl
      · split
        · exact reportUnless_mCmdQ _ _
        · rfl
  next => exact .inr (outputFlushDone_releases environment _)
  next =>
    left
    rw [startDone]
    split
    · exact omxReportError_mCmdQ _
    split
    · rfl
    split
    · exact reportUnless_mCmdQ _ _
    · rfl
  next => exact .inl (pendingDone_mCmdQ _ _ _ _ _ _)
  next => exact .inl (pendingDone_mCmdQ _ _ _ _ _ _)
  next => exact .inl (pendingDone_mCmdQ _ _ _ _ _ _)
  next => exact .inl (omxReportError_mCmdQ component)
  next =>
    left
    rw [portReconfig]
    split
    · rw [omxReportError_mCmdQ]
      split <;> rfl
    · dsimp only
      split <;> simp only [eventHandler_mCmdQ] <;> split <;> rfl
  next => exact .inl rfl
  next => exact .inl rfl

end OmxVdec

end Nozomi
