import Mathlib.Data.List.ReduceOption
import Nozomi.Display.Overlay.Code

/-!
# Pipes are handed out once

Within a round no pipe is handed out twice, a pipe goes from one display to another only through
`PipeBook::destroy`, and `availablePipes` counts the requests that will be met. All three follow from
what `nextPipe` does to the allocation bits and to the displays of the book.
-/

namespace Nozomi

namespace Overlay

variable {numPipes : Nat} {overlay : Overlay numPipes}

/-! ### What `nextPipe` finds -/

variable {dpy : Display}

theorem isAvailable_iff {pipe : Fin numPipes} :
    overlay.isAvailable dpy pipe = true ↔
      ((overlay.mPipeBook pipe).mDisplay = none ∨ (overlay.mPipeBook pipe).mDisplay = some dpy) ∧
        pipe ∉ overlay.sAllocatedBitmap := by
  simp [isAvailable]

theorem isAvailable_of_findPipe {type : MdpPipeType} {pipe : Fin numPipes}
    (hfind : overlay.findPipe type dpy = some pipe) : overlay.isAvailable dpy pipe = true := by
  have hfound := List.find?_some hfind
  simp only [decide_eq_true_eq] at hfound
  exact hfound.2

theorem findPipe_any_eq_none_iff :
    overlay.findPipe .any dpy = none ↔ ∀ pipe, overlay.isAvailable dpy pipe = false := by
  simp [findPipe]

theorem nextPipe_cases (overlay : Overlay numPipes) (type : MdpPipeType) (dpy : Display) :
    (∃ pipe, overlay.findPipe type dpy = some pipe ∧
      overlay.nextPipe type dpy = (overlay.handOut dpy pipe, some pipe)) ∨
    overlay.findPipe type dpy = none ∧ overlay.nextPipe type dpy = (overlay, none) := by
  rw [nextPipe]
  cases hfind : overlay.findPipe type dpy with
  | some pipe => exact .inl ⟨pipe, rfl, rfl⟩
  | none => exact .inr ⟨rfl, rfl⟩

theorem findPipe_of_nextPipe {type : MdpPipeType} {pipe : Fin numPipes}
    (hpipe : (overlay.nextPipe type dpy).2 = some pipe) :
    overlay.findPipe type dpy = some pipe ∧ (overlay.nextPipe type dpy).1 = overlay.handOut dpy pipe := by
  obtain ⟨found, hfind, hnext⟩ | ⟨-, hnext⟩ := overlay.nextPipe_cases type dpy
  · rw [hnext] at hpipe
    obtain rfl := Option.some.inj hpipe
    exact ⟨hfind, by rw [hnext]⟩
  · simp [hnext] at hpipe

@[simp] theorem handOut_mDisplay_self (dpy : Display) (pipe : Fin numPipes) :
    ((overlay.handOut dpy pipe).mPipeBook pipe).mDisplay = some dpy := by
  simp [handOut, acquire]

@[simp] theorem handOut_mPipeBook_of_ne {dpy : Display} {pipe other : Fin numPipes}
    (hne : other ≠ pipe) : (overlay.handOut dpy pipe).mPipeBook other = overlay.mPipeBook other := by
  simp [handOut, hne]

@[simp] theorem handOut_sAllocatedBitmap (dpy : Display) (pipe : Fin numPipes) :
    (overlay.handOut dpy pipe).sAllocatedBitmap = insert pipe overlay.sAllocatedBitmap := rfl

@[simp] theorem commit_mPipeBook (accepted : Bool) (dest : Fin numPipes) :
    (overlay.commit accepted dest).1.mPipeBook = overlay.mPipeBook := by
  cases accepted <;> rfl

@[simp] theorem commit_sLastUsageBitmap (accepted : Bool) (dest : Fin numPipes) :
    (overlay.commit accepted dest).1.sLastUsageBitmap = overlay.sLastUsageBitmap := by
  cases accepted <;> rfl

theorem isAvailable_congr {other : Overlay numPipes} (hbook : other.mPipeBook = overlay.mPipeBook)
    (hallocated : other.sAllocatedBitmap = overlay.sAllocatedBitmap) (dpy : Display) :
    other.isAvailable dpy = overlay.isAvailable dpy := by
  funext pipe
  rw [isAvailable, isAvailable, hbook, hallocated]

theorem isAvailable_handOut (pipe other : Fin numPipes) :
    (overlay.handOut dpy pipe).isAvailable dpy other = true ↔
      other ≠ pipe ∧ overlay.isAvailable dpy other = true := by
  by_cases hother : other = pipe
  · simp [isAvailable_iff, hother]
  · simp [isAvailable_iff, hother]

/-! ### No pipe twice in a round -/

def handedOut (overlay : Overlay numPipes) (calls : List (Call numPipes)) : List (Fin numPipes) :=
  (overlay.answers calls).reduceOption

end Overlay

def Call.Accepted {numPipes : Nat} : Call numPipes → Prop
  | .nextPipe _ _ => True
  | .commit _ accepted => accepted = true

namespace Overlay

variable {numPipes : Nat} {overlay last : Overlay numPipes}

theorem handedOut_nodup {calls : List (Call numPipes)} (haccepted : ∀ request ∈ calls, request.Accepted) :
    ∀ overlay : Overlay numPipes, (overlay.handedOut calls).Nodup ∧
      ∀ pipe ∈ overlay.handedOut calls, pipe ∉ overlay.sAllocatedBitmap := by
  induction calls with
  | nil => simp [handedOut, answers]
  | cons request calls ih =>
    have hrest := ih fun other hother => haccepted other (List.mem_cons_of_mem _ hother)
    intro overlay
    cases request with
    | commit dest accepted =>
      obtain rfl : accepted = true := haccepted _ List.mem_cons_self
      exact hrest (overlay.commit true dest).1
    | nextPipe type dpy =>
      rw [handedOut, answers]
      obtain ⟨pipe, hfind, hnext⟩ | ⟨-, hnext⟩ := overlay.nextPipe_cases type dpy
      · obtain ⟨hnodup, hfresh⟩ := hrest (overlay.handOut dpy pipe)
        rw [hnext, List.reduceOption_cons_of_some]
        simp only [handOut_sAllocatedBitmap, Finset.mem_insert, not_or] at hfresh
        refine ⟨List.nodup_cons.mpr ⟨fun hpipe => (hfresh pipe hpipe).1 rfl, hnodup⟩, ?_⟩
        intro other hother
        rcases List.mem_cons.mp hother with rfl | hother
        · exact (isAvailable_iff.mp (isAvailable_of_findPipe hfind)).2
        · exact (hfresh other hother).2
      · rw [hnext, List.reduceOption_cons_of_none]
        exact hrest overlay

/-! ### A pipe keeps its display until it is destroyed -/

def Destroys (overlay : Overlay numPipes) (pipe : Fin numPipes) : Prop :=
  overlay.sPipeUsageBitmap ≠ overlay.sLastUsageBitmap ∧ pipe ∉ overlay.sPipeUsageBitmap

theorem configDone_mPipeBook (overlay : Overlay numPipes) (pipe : Fin numPipes) :
    overlay.Destroys pipe ∧ overlay.configDone.mPipeBook pipe = .free ∨
      ¬overlay.Destroys pipe ∧ overlay.configDone.mPipeBook pipe = overlay.mPipeBook pipe := by
  by_cases husage : overlay.sPipeUsageBitmap = overlay.sLastUsageBitmap
  · simp [configDone, pipeUsageUnchanged, Destroys, husage]
  · by_cases hused : pipe ∈ overlay.sPipeUsageBitmap
    · simp [configDone, pipeUsageUnchanged, Destroys, husage, hused]
    · simp [configDone, pipeUsageUnchanged, Destroys, husage, hused]

variable {dpy : Display}

theorem call_mDisplay {request : Call numPipes} {pipe : Fin numPipes} (hcall : overlay.call request = some last)
    (hdisplay : (overlay.mPipeBook pipe).mDisplay = some dpy) : (last.mPipeBook pipe).mDisplay = some dpy := by
  cases request with
  | commit dest accepted =>
    simp only [call, Option.ite_none_right_eq_some, Option.some.injEq] at hcall
    rwa [← hcall.2, commit_mPipeBook]
  | nextPipe type requester =>
    obtain rfl := Option.some.inj hcall
    obtain ⟨found, hfind, hnext⟩ | ⟨-, hnext⟩ := overlay.nextPipe_cases type requester
    · rw [hnext]
      by_cases hpipe : pipe = found
      · subst hpipe
        obtain hfree | hown := (isAvailable_iff.mp (isAvailable_of_findPipe hfind)).1
        · simp [hfree] at hdisplay
        · rw [handOut_mDisplay_self, ← hown, hdisplay]
      · rwa [handOut_mPipeBook_of_ne hpipe]
    · rwa [hnext]

theorem destroyed_of_mDisplay {actions : List (OverlayAction numPipes)} {pipe : Fin numPipes} :
    ∀ overlay : Overlay numPipes, runSteps step overlay actions = some last →
      (overlay.mPipeBook pipe).mDisplay = some dpy → (last.mPipeBook pipe).mDisplay ≠ some dpy →
      ∃ before after between, actions = before ++ .configDone :: after ∧
        runSteps step overlay before = some between ∧ between.Destroys pipe ∧
        between.configDone.mPipeBook pipe = .free := by
  induction actions with
  | nil =>
    intro overlay hrun hdisplay hlost
    obtain rfl := Option.some.inj hrun
    exact absurd hdisplay hlost
  | cons action actions ih =>
    intro overlay hrun hdisplay hlost
    obtain ⟨next, hstep, hrest⟩ := runSteps_cons hrun
    by_cases hkept : (next.mPipeBook pipe).mDisplay = some dpy
    · obtain ⟨before, after, between, rfl, hbefore, hdestroys⟩ := ih next hrest hkept hlost
      exact ⟨action :: before, after, between, rfl, by simpa [runSteps, hstep] using hbefore, hdestroys⟩
    cases action with
    | configBegin =>
      obtain rfl := Option.some.inj hstep
      exact absurd hdisplay hkept
    | call request => exact absurd (call_mDisplay hstep hdisplay) hkept
    | configDone =>
      obtain rfl := Option.some.inj hstep
      obtain ⟨hdestroys, hfree⟩ | ⟨-, hbook⟩ := overlay.configDone_mPipeBook pipe
      · exact ⟨[], actions, overlay, rfl, rfl, hdestroys, hfree⟩
      · rw [hbook] at hkept
        exact absurd hdisplay hkept

/-! ### The available pipes are given -/

theorem availablePipes_handOut {pipe : Fin numPipes} (havailable : overlay.isAvailable dpy pipe = true) :
    (overlay.handOut dpy pipe).availablePipes dpy + 1 = overlay.availablePipes dpy := by
  have hpipes : (Finset.univ.filter fun other => (overlay.handOut dpy pipe).isAvailable dpy other) =
      (Finset.univ.filter fun other => overlay.isAvailable dpy other).erase pipe := by
    ext other
    simp only [Finset.mem_filter, Finset.mem_univ, true_and, Finset.mem_erase]
    exact isAvailable_handOut pipe other
  rw [availablePipes, hpipes]
  exact Finset.card_erase_add_one (by simpa using havailable)

theorem availablePipes_eq_zero_of_findPipe (hfind : overlay.findPipe .any dpy = none) :
    overlay.availablePipes dpy = 0 := by
  rw [availablePipes, Finset.card_eq_zero, Finset.filter_eq_empty_iff]
  intro pipe _
  simp [findPipe_any_eq_none_iff.mp hfind pipe]

/-- The calls of one display for any pipe, between commits that succeed. -/
def RequestsAny (dpy : Display) (calls : List (Call numPipes)) : Prop :=
  ∀ request ∈ calls, request = .nextPipe .any dpy ∨ ∃ dest, request = .commit dest true

theorem answers_of_requestsAny {calls : List (Call numPipes)} (hcalls : RequestsAny dpy calls) :
    ∀ overlay : Overlay numPipes, ∃ unmet,
      overlay.answers calls = (overlay.handedOut calls).map some ++ List.replicate unmet none ∧
      (overlay.handedOut calls).length = min (overlay.availablePipes dpy) (overlay.answers calls).length := by
  induction calls with
  | nil => exact fun overlay => ⟨0, by simp [handedOut, answers]⟩
  | cons request calls ih =>
    have hrest := ih fun other hother => hcalls other (List.mem_cons_of_mem _ hother)
    intro overlay
    rcases hcalls request List.mem_cons_self with rfl | ⟨dest, rfl⟩
    · rw [handedOut, answers]
      obtain ⟨pipe, hfind, hnext⟩ | ⟨hfind, hnext⟩ := overlay.nextPipe_cases .any dpy
      · obtain ⟨unmet, hanswers, hlength⟩ := hrest (overlay.handOut dpy pipe)
        have hleft := availablePipes_handOut (isAvailable_of_findPipe hfind)
        rw [hnext]
        simp only [List.reduceOption_cons_of_some, List.map_cons, List.cons_append, List.length_cons]
        refine ⟨unmet, congrArg _ hanswers, ?_⟩
        rw [← hleft]
        change (handedOut _ calls).length + 1 = _
        omega
      · obtain ⟨unmet, hanswers, hlength⟩ := hrest overlay
        have hzero := availablePipes_eq_zero_of_findPipe hfind
        have hnothing : (overlay.answers calls).reduceOption = [] := by
          apply List.eq_nil_of_length_eq_zero
          change (overlay.handedOut calls).length = 0
          rw [hlength, hzero, Nat.zero_min]
        rw [handedOut, hnothing, List.map_nil, List.nil_append] at hanswers
        rw [hnext]
        simp only [List.reduceOption_cons_of_none, hanswers, List.reduceOption_replicate_none, hzero]
        exact ⟨unmet + 1, rfl, by simp⟩
    · have havailable : (overlay.commit true dest).1.isAvailable dpy = overlay.isAvailable dpy :=
        isAvailable_congr rfl rfl dpy
      have hpipes : (overlay.commit true dest).1.availablePipes dpy = overlay.availablePipes dpy := by
        rw [availablePipes, havailable, availablePipes]
      rw [← hpipes]
      exact hrest (overlay.commit true dest).1

/-- In a round whose commits succeed no pipe is handed out twice, nor a pipe of the other display. From
any point of the round on, a display loses a pipe only by its destruction in a `configDone`, and the
next requests of one display for any pipe are met as often as `availablePipes` says and then refused. -/
theorem nextPipe_exclusive (start : Overlay numPipes) {calls : List (Call numPipes)}
    (haccepted : ∀ request ∈ calls, request.Accepted) :
    (start.configBegin.handedOut calls).Nodup ∧
    (∀ before type dpy after state pipe, calls = before ++ .nextPipe type dpy :: after →
      runSteps call start.configBegin before = some state →
      (state.nextPipe type dpy).2 = some pipe →
      (state.mPipeBook pipe).mDisplay = none ∨ (state.mPipeBook pipe).mDisplay = some dpy) ∧
    ∀ overlay, runSteps call start.configBegin calls = some overlay →
      (∀ actions last pipe dpy, runSteps step overlay actions = some last →
        (overlay.mPipeBook pipe).mDisplay = some dpy → (last.mPipeBook pipe).mDisplay ≠ some dpy →
        ∃ before after between, actions = before ++ .configDone :: after ∧
          runSteps step overlay before = some between ∧ between.Destroys pipe ∧
          between.configDone.mPipeBook pipe = .free) ∧
      ∀ dpy more, RequestsAny dpy more →
        (overlay.handedOut more).Nodup ∧
        (overlay.handedOut more).length =
          min (overlay.availablePipes dpy) (overlay.answers more).length ∧
        ∃ unmet, overlay.answers more =
          (overlay.handedOut more).map some ++ List.replicate unmet none := by
  refine ⟨(handedOut_nodup haccepted _).1, ?_, fun overlay _ => ⟨?_, ?_⟩⟩
  · intro before type dpy after state pipe _ _ hpipe
    exact (isAvailable_iff.mp (isAvailable_of_findPipe (findPipe_of_nextPipe hpipe).1)).1
  · intro actions last pipe dpy hrun hdisplay hlost
    exact destroyed_of_mDisplay overlay hrun hdisplay hlost
  · intro dpy more hmore
    obtain ⟨unmet, hanswers, hlength⟩ := answers_of_requestsAny hmore overlay
    have hsucceed : ∀ request ∈ more, request.Accepted := by
      intro request hrequest
      rcases hmore request hrequest with rfl | ⟨dest, rfl⟩
      · exact trivial
      · rfl
    exact ⟨(handedOut_nodup hsucceed overlay).1, hlength, unmet, hanswers⟩

/-- Both displays acquire a pipe in a round. -/
theorem nextPipe_exclusive_bothDisplays :
    (init (initOverlay 2 2 0)).configBegin.handedOut
        [.nextPipe .any .external, .commit 0 true, .nextPipe .vg .primary] = [0, 2] ∧
      ((init (initOverlay 2 2 0)).configBegin.handedOut
        [.nextPipe .any .external, .commit 0 true, .nextPipe .vg .primary]).Nodup := by
  refine ⟨by decide, (nextPipe_exclusive (init (initOverlay 2 2 0)) ?_).1⟩
  simp [Call.Accepted]

end Overlay

end Nozomi
