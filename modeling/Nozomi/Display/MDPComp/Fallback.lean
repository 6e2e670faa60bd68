import Nozomi.Display.MDPComp.Stacking

/-!
# Falling back to the framebuffer

When `prepare` gives up a frame, `hwc_prepare_primary` and `hwc_prepare_external` let the framebuffer show
everything. What the frame had committed before it was given up stays in use, unless the framebuffer
happens to take it over.
-/

namespace Nozomi

namespace Overlay

variable {numPipes : Nat} {before overlay : Overlay numPipes} {dpy other : Display}

def usedBy (overlay : Overlay numPipes) (dpy : Display) : Finset (Fin numPipes) :=
  overlay.sPipeUsageBitmap.filter fun pipe => (overlay.mPipeBook pipe).mDisplay = some dpy

def Fresh (overlay : Overlay numPipes) (dpy : Display) : Prop :=
  ∀ pipe, overlay.Open dpy pipe → pipe ∉ overlay.sPipeUsageBitmap ∧ pipe ∉ overlay.sAllocatedBitmap

theorem fresh_configBegin (overlay : Overlay numPipes) (dpy : Display) :
    overlay.configBegin.Fresh dpy := by
  intro pipe _
  simp [configBegin]

/-- Of the pipes that are open to the display, those in use are the ones it has committed. -/
structure Settled (overlay : Overlay numPipes) (dpy : Display) (committed : List (Fin numPipes)) :
    Prop where
  used : ∀ pipe, overlay.Open dpy pipe → (pipe ∈ overlay.sPipeUsageBitmap ↔ pipe ∈ committed)
  held : ∀ pipe ∈ committed, (overlay.mPipeBook pipe).mDisplay = some dpy

theorem Fresh.settled (hfresh : overlay.Fresh dpy) : overlay.Settled dpy [] where
  used := fun pipe hopen => iff_of_false (hfresh pipe hopen).1 List.not_mem_nil
  held := by simp

theorem Settled.usedBy_eq {committed : List (Fin numPipes)} (hsettled : overlay.Settled dpy committed) :
    overlay.usedBy dpy = committed.toFinset := by
  ext pipe
  rw [usedBy, Finset.mem_filter, List.mem_toFinset]
  constructor
  · rintro ⟨hused, hdisplay⟩
    exact (hsettled.used pipe (.inr hdisplay)).mp hused
  · intro hmem
    have hdisplay := hsettled.held pipe hmem
    exact ⟨(hsettled.used pipe (.inr hdisplay)).mpr hmem, hdisplay⟩

/-! ### What another display does -/

theorem Apart.refl (overlay : Overlay numPipes) (dpy : Display) : overlay.Apart dpy overlay :=
  fun _ => .inl ⟨rfl, Iff.rfl, Iff.rfl⟩

theorem Apart.trans {middle : Overlay numPipes} (hfirst : before.Apart dpy middle)
    (hsecond : middle.Apart dpy overlay) : before.Apart dpy overlay := by
  intro pipe
  rcases hsecond pipe with ⟨hbook, hused, hallocated⟩ | ⟨hopen, hdisplay⟩
  · rcases hfirst pipe with ⟨hbook', hused', hallocated'⟩ | ⟨hopen, hdisplay⟩
    · exact .inl ⟨hbook.trans hbook', hused.trans hused', hallocated.trans hallocated'⟩
    · exact .inr ⟨hopen, hbook ▸ hdisplay⟩
  · refine .inr ⟨?_, hdisplay⟩
    rcases hfirst pipe with ⟨hbook', -⟩ | ⟨hopen', -⟩
    · rwa [Open, ← hbook']
    · exact hopen'

theorem Apart.open_of (hapart : before.Apart dpy overlay) {pipe : Fin numPipes}
    (hopen : overlay.Open dpy pipe) : before.Open dpy pipe := by
  rcases hapart pipe with ⟨hbook, -⟩ | ⟨hopen', -⟩
  · rwa [Open, ← hbook]
  · exact hopen'

theorem Apart.mDisplay (hapart : before.Apart dpy overlay) {pipe : Fin numPipes}
    (hdisplay : (before.mPipeBook pipe).mDisplay = some dpy) :
    (overlay.mPipeBook pipe).mDisplay = some dpy := by
  rcases hapart pipe with ⟨hbook, -⟩ | ⟨-, hdisplay'⟩
  · rw [hbook, hdisplay]
  · exact hdisplay'

theorem Apart.fresh (hapart : before.Apart dpy overlay) (hne : other ≠ dpy)
    (hfresh : before.Fresh other) : overlay.Fresh other := by
  intro pipe hopen
  rcases hapart pipe with ⟨hbook, hused, hallocated⟩ | ⟨-, hdisplay⟩
  · rw [Open, hbook] at hopen
    rw [hused, hallocated]
    exact hfresh pipe hopen
  · rw [Open, hdisplay] at hopen
    simp [Ne.symm hne] at hopen

theorem Apart.usedBy (hapart : before.Apart dpy overlay) (hne : other ≠ dpy) :
    overlay.usedBy other = before.usedBy other := by
  ext pipe
  rw [Overlay.usedBy, Finset.mem_filter, Overlay.usedBy, Finset.mem_filter]
  rcases hapart pipe with ⟨hbook, hused, -⟩ | ⟨hopen, hdisplay⟩
  · rw [hbook, hused]
  · have hbefore : (before.mPipeBook pipe).mDisplay ≠ some other := by
      rcases hopen with hnone | hsame
      · simp [hnone]
      · simp [hsame, Ne.symm hne]
    have hafter : (overlay.mPipeBook pipe).mDisplay ≠ some other := by
      simp [hdisplay, Ne.symm hne]
    exact iff_of_false (fun hboth => hafter hboth.2) fun hboth => hbefore hboth.2

theorem usedBy_configDone (overlay : Overlay numPipes) (dpy : Display) :
    overlay.configDone.usedBy dpy = overlay.usedBy dpy := by
  rw [configDone]
  split
  · rfl
  · ext pipe
    rw [usedBy, Finset.mem_filter, usedBy, Finset.mem_filter]
    by_cases hused : pipe ∈ overlay.sPipeUsageBitmap
    · simp [hused]
    · simp [hused]

end Overlay

/-! ### What the display has left behind -/

variable {numPipes : Nat} {committed : List (Fin numPipes)} {before overlay : Overlay numPipes}

theorem Session.settled {dpy : Display} {old : List (Fin numPipes)} {pending : Finset (Fin numPipes)}
    (hsession : Session before dpy overlay committed pending) (hbefore : before.Settled dpy old) :
    overlay.Settled dpy (old ++ committed) where
  used := by
    intro pipe hopen
    rw [hsession.used pipe, hbefore.used pipe (hsession.apart.open_of hopen), List.mem_append]
  held := by
    intro pipe hpipe
    rcases List.mem_append.mp hpipe with hold | hnew
    · exact hsession.apart.mDisplay (hbefore.held pipe hold)
    · exact (hsession.held pipe (.inl hnew)).1

theorem Rejected.settled {dpy : Display} {old : List (Fin numPipes)} {failed : Fin numPipes}
    (hrejected : Rejected before dpy overlay committed failed) (hbefore : before.Settled dpy old) :
    overlay.Settled dpy ((old ++ committed).filter (· ≠ failed)) where
  used := by
    intro pipe hopen
    rw [hrejected.used pipe, hbefore.used pipe (hrejected.apart.open_of hopen), List.mem_filter,
      List.mem_append, decide_eq_true_iff]
  held := by
    intro pipe hpipe
    rcases List.mem_append.mp (List.mem_filter.mp hpipe).1 with hold | hnew
    · exact hrejected.apart.mDisplay (hbefore.held pipe hold)
    · exact hrejected.held pipe hnew

theorem Rejected.findPipe_any {dpy : Display} {failed : Fin numPipes}
    (hrejected : Rejected before dpy overlay committed failed) (hfresh : before.Fresh dpy) :
    overlay.findPipe .any dpy = before.findPipe .any dpy := by
  have havailable : ∀ pipe, overlay.isAvailable dpy pipe = before.isAvailable dpy pipe := by
    intro pipe
    rw [Bool.eq_iff_iff, Overlay.isAvailable_iff, Overlay.isAvailable_iff]
    rcases hrejected.apart pipe with ⟨hbook, -, hallocated⟩ | ⟨hopen, hdisplay⟩
    · rw [hbook, hallocated]
    · exact iff_of_true ⟨.inr hdisplay, hrejected.released pipe hdisplay⟩
        ⟨hopen, (hfresh pipe hopen).2⟩
  rw [Overlay.findPipe, Overlay.findPipe]
  simp only [havailable, true_or]

/-! ### The framebuffer update -/

/-- The only pipe of the display in use is that of the framebuffer, if the framebuffer has one. -/
def Overlay.OnlyFramebuffer {numPipes : Nat} (overlay : Overlay numPipes) (dpy : Display)
    (fbUpdate : FBUpdate numPipes) : Prop :=
  ∀ pipe, pipe ∈ overlay.usedBy dpy ↔ fbUpdate.mModeOn = true ∧ fbUpdate.mDest = some pipe

private theorem forall_mem_eq_iff {α : Type} {members : List α} (hnodup : members.Nodup) (one : α) :
    (∀ member ∈ members, member = one) ↔ members = [] ∨ members = [one] := by
  constructor
  · intro hall
    match members with
    | [] => exact .inl rfl
    | [first] =>
      rw [hall first List.mem_cons_self]
      exact .inr rfl
    | first :: second :: rest =>
      have hsame : first = second := by
        rw [hall first (by simp), hall second (by simp)]
      simp [hsame] at hnodup
  · rintro (rfl | rfl)
    · simp
    · simp

theorem FBUpdate.prepare_apart (fbUpdate : FBUpdate numPipes) (ctx : Context numPipes) (dpy : Display)
    (fbZorder : Int) : ctx.overlay.Apart dpy (fbUpdate.prepare ctx dpy fbZorder).1.overlay := by
  cases hoverlay : ctx.target.hasOverlay with
  | false =>
    rw [prepare, hoverlay]
    exact .refl _ dpy
  | true =>
    obtain ⟨ctx', fbUpdate', ret, heq, -, ⟨-, -, hend⟩ | ⟨dest, -, -, -, ⟨-, -, hend⟩ | ⟨-, hend⟩⟩⟩ :=
      prepare_session (ctx.inSession_start dpy) hoverlay fbUpdate fbZorder
    · rw [heq]
      exact hend.session.apart
    · rw [heq]
      exact hend.session.apart
    · rw [heq]
      exact hend.rejected.apart

theorem FBUpdate.prepare_onlyFramebuffer_iff {ctx : Context numPipes} {dpy : Display}
    (hsettled : ctx.overlay.Settled dpy committed) (hnodup : committed.Nodup) {fbUpdate : FBUpdate numPipes}
    (hoff : ctx.target.hasOverlay = false → fbUpdate.mModeOn = false) (fbZorder : Int) :
    ∃ ctx' fbUpdate' ret, fbUpdate.prepare ctx dpy fbZorder = (ctx', fbUpdate', ret) ∧
      ctx.overlay.Apart dpy ctx'.overlay ∧
      (ctx'.overlay.OnlyFramebuffer dpy fbUpdate' ↔ committed = [] ∨
        ctx.target.hasOverlay = true ∧
          ∃ dest, ctx.overlay.findPipe .any dpy = some dest ∧ committed = [dest]) := by
  have hnone : (∀ pipe, pipe ∉ committed) ↔ committed = [] := List.eq_nil_iff_forall_not_mem.symm
  cases hoverlay : ctx.target.hasOverlay with
  | false =>
    refine ⟨ctx, fbUpdate, false, by simp [prepare, hoverlay], .refl _ dpy, ?_⟩
    rw [Overlay.OnlyFramebuffer, hsettled.usedBy_eq]
    simp [hoff hoverlay, hnone]
  | true =>
    obtain ⟨ctx', fbUpdate', ret, heq, hmode, ⟨rfl, hfind, hend⟩ | ⟨dest, hfind, hdest, -, hend⟩⟩ :=
      prepare_session (ctx.inSession_start dpy) hoverlay fbUpdate fbZorder
    · refine ⟨ctx', fbUpdate', false, heq, hend.session.apart, ?_⟩
      rw [Overlay.OnlyFramebuffer, (hend.session.settled hsettled).usedBy_eq]
      simp [hmode, hfind, hnone]
    rcases hend with ⟨rfl, -, hend⟩ | ⟨rfl, hend⟩
    · refine ⟨ctx', fbUpdate', true, heq, hend.session.apart, ?_⟩
      rw [Overlay.OnlyFramebuffer, (hend.session.settled hsettled).usedBy_eq, hmode, hdest, hfind]
      simp only [List.nil_append, List.mem_toFinset, List.mem_append, List.mem_singleton, true_and,
        Option.some.injEq, exists_eq_left', ← forall_mem_eq_iff hnodup dest]
      constructor
      · exact fun hall pipe hpipe => ((hall pipe).mp (.inl hpipe)).symm
      · exact fun hall pipe => ⟨fun hmem => (hmem.elim (hall pipe) id).symm, fun heq => .inr heq.symm⟩
    · refine ⟨ctx', fbUpdate', false, heq, hend.rejected.apart, ?_⟩
      rw [Overlay.OnlyFramebuffer, (hend.rejected.settled hsettled).usedBy_eq, hmode, hfind]
      simp [← forall_mem_eq_iff hnodup dest]

/-! ### The round -/

namespace Context

variable {numPipes : Nat}

/-- The driver accepted nothing of what a composition committed, or it accepted the pipe that the display
is given first and rejected the next one. -/
def Undone (entered : Context numPipes) (dpy : Display) (commits : List (Fin numPipes × Bool)) : Prop :=
  (∀ commit ∈ commits, commit.2 = false) ∨
    entered.target.hasOverlay = true ∧ ∃ first failed,
      entered.overlay.findPipe .any dpy = some first ∧ commits = [(first, true), (failed, false)]

theorem Stands.apart {ctx before : Context numPipes} {dpy : Display} (hstands : ctx.Stands before dpy) :
    before.overlay.Apart dpy ctx.overlay ∧ ctx.target = before.target := by
  rcases hstands with ⟨committed, pending, hsession⟩ | ⟨committed, failed, hrejected⟩
  · exact ⟨hsession.session.apart, hsession.target⟩
  · exact ⟨hrejected.rejected.apart, hrejected.target⟩

theorem Stands.onlyFramebuffer_iff {ctx before : Context numPipes} {dpy : Display}
    (hstands : ctx.Stands before dpy) (hfresh : before.overlay.Fresh dpy) (hlog : before.commits = [])
    {fbUpdate : FBUpdate numPipes}
    (hoff : ctx.target.hasOverlay = false → fbUpdate.mModeOn = false) (fbZorder : Int) :
    ∃ ctx' fbUpdate' ret, fbUpdate.prepare ctx dpy fbZorder = (ctx', fbUpdate', ret) ∧
      before.overlay.Apart dpy ctx'.overlay ∧
      (ctx'.overlay.OnlyFramebuffer dpy fbUpdate' ↔ before.Undone dpy ctx.commits) := by
  obtain ⟨hapart, htarget⟩ := hstands.apart
  rcases hstands with ⟨committed, pending, hsession⟩ | ⟨committed, failed, hrejected⟩
  · have hsettled := hsession.session.settled hfresh.settled
    rw [List.nil_append] at hsettled
    obtain ⟨ctx', fbUpdate', ret, heq, hlast, hiff⟩ :=
      FBUpdate.prepare_onlyFramebuffer_iff hsettled hsession.session.nodup hoff fbZorder
    refine ⟨ctx', fbUpdate', ret, heq, hapart.trans hlast, hiff.trans ?_⟩
    have hcommits : ctx.commits = committed.map (·, true) := by
      rw [hsession.commits, hlog, List.nil_append]
    rw [Undone, hcommits]
    constructor
    · rintro (rfl | ⟨-, dest, hfind, rfl⟩)
      · simp
      · -- A committed pipe is allocated, so the framebuffer gets another one.
        have hleft := (hsession.session.isAvailable_iff dest).mp (Overlay.isAvailable_of_findPipe hfind)
        simp at hleft
    · rintro (hnone | ⟨-, first, second, -, heq⟩)
      · refine .inl (List.eq_nil_iff_forall_not_mem.mpr fun pipe hpipe => ?_)
        simpa using hnone (pipe, true) (List.mem_map_of_mem hpipe)
      · have hfailed : (second, false) ∈ committed.map (·, true) := by simp [heq]
        simp at hfailed
  · have hsettled := hrejected.rejected.settled hfresh.settled
    have hkept : committed.filter (· ≠ failed) = committed := by
      refine List.filter_eq_self.mpr fun pipe hpipe => ?_
      rw [decide_eq_true_iff]
      rintro rfl
      exact hrejected.rejected.fresh hpipe
    rw [List.nil_append, hkept] at hsettled
    obtain ⟨ctx', fbUpdate', ret, heq, hlast, hiff⟩ :=
      FBUpdate.prepare_onlyFramebuffer_iff hsettled hrejected.rejected.nodup hoff fbZorder
    refine ⟨ctx', fbUpdate', ret, heq, hapart.trans hlast, hiff.trans ?_⟩
    have hcommits : ctx.commits = committed.map (·, true) ++ [(failed, false)] := by
      rw [hrejected.commits, hlog, List.nil_append]
    rw [Undone, hcommits, htarget, hrejected.rejected.findPipe_any hfresh]
    constructor
    · rintro (rfl | ⟨hoverlay, dest, hfind, rfl⟩)
      · simp
      · exact .inr ⟨hoverlay, dest, failed, hfind, rfl⟩
    · rintro (hnone | ⟨hoverlay, first, second, hfind, heq⟩)
      · refine .inl (List.eq_nil_iff_forall_not_mem.mpr fun pipe hpipe => ?_)
        simpa using hnone (pipe, true) (List.mem_append_left _ (List.mem_map_of_mem hpipe))
      · refine .inr ⟨hoverlay, first, hfind, ?_⟩
        have hlength : committed.length = 1 := by simpa using congrArg List.length heq
        obtain ⟨pipe, rfl⟩ := List.length_eq_one_iff.mp hlength
        simp at heq
        rw [heq.1]

end Context

namespace DisplayState

variable {numPipes : Nat} (state : DisplayState numPipes)

theorem hwcPrepare_apart (ctx : Context numPipes) (dpy : Display) (list : Option DisplayContents) :
    ctx.overlay.Apart dpy (state.hwcPrepare ctx dpy list).1.overlay := by
  cases list with
  | none => exact .refl _ dpy
  | some list =>
    rw [hwcPrepare]
    split
    · exact .refl _ dpy
    obtain ⟨ctx', fbUpdate', mdpComp', composed, heq, hstands, -⟩ :=
      state.mdpComp.prepare_session list (state.enter ctx dpy list) dpy state.fbUpdate
    have hapart : ctx.overlay.Apart dpy ctx'.overlay := hstands.apart.1
    rw [compose, heq]
    cases composed with
    | true => exact hapart
    | false => exact hapart.trans (fbUpdate'.prepare_apart ctx' dpy 0)

theorem hwcPrepare_fallsBack {ctx : Context numPipes} {dpy : Display} {list : DisplayContents}
    (hfresh : ctx.overlay.Fresh dpy) (hoff : state.fbUpdate.mModeOn = false)
    (hdraws : state.draws dpy list = true) (hfailed : (state.compose ctx dpy list).2.2.2 = false) :
    (state.hwcPrepare ctx dpy (some list)).1.overlay.OnlyFramebuffer dpy
        (state.hwcPrepare ctx dpy (some list)).2.fbUpdate ↔
      (state.enter ctx dpy list).Undone dpy (state.compose ctx dpy list).1.commits := by
  obtain ⟨ctx', fbUpdate', mdpComp', composed, heq, hstands, hsame, -⟩ :=
    state.mdpComp.prepare_session list (state.enter ctx dpy list) dpy state.fbUpdate
  have hcompose : state.compose ctx dpy list = (ctx', fbUpdate', mdpComp', composed) := heq
  rw [hcompose] at hfailed
  subst hfailed
  have hoff' : ctx'.target.hasOverlay = false → fbUpdate'.mModeOn = false := by
    intro hoverlay
    rw [hstands.apart.2] at hoverlay
    rw [hsame hoverlay, hoff]
  obtain ⟨last, lastUpdate, ret, heq', -, hiff⟩ := hstands.onlyFramebuffer_iff hfresh rfl hoff' 0
  rw [hcompose, ← hiff, hwcPrepare, hdraws, hcompose]
  simp [heq']

end DisplayState

namespace Context

variable {numPipes : Nat} (ctx : Context numPipes) (displays : Display → DisplayState numPipes)
  (lists : Display → Option DisplayContents)

theorem arrive_fresh (dpy : Display) : (ctx.arrive displays lists dpy).overlay.Fresh dpy := by
  have hbegin : ∀ dpy, ctx.begin.overlay.Fresh dpy := Overlay.fresh_configBegin ctx.overlay
  cases dpy with
  | external => exact hbegin .external
  | primary => exact ((displays .external).reset.hwcPrepare_apart _ _ _).fresh (by simp) (hbegin .primary)

theorem hwcPrepare_usedBy (dpy : Display) :
    (ctx.hwcPrepare displays lists).1.overlay.usedBy dpy =
      (ctx.prepareDisplay displays lists dpy).1.overlay.usedBy dpy := by
  rw [hwcPrepare, Overlay.usedBy_configDone]
  cases dpy with
  | primary => rfl
  | external => exact ((displays .primary).reset.hwcPrepare_apart _ _ _).usedBy (by simp)

/-- When a display falls back to the framebuffer in a round, nothing else of it is in use at the end
exactly when what was committed before is undone. -/
theorem hwcPrepare_onlyFramebuffer_iff {dpy : Display} {list : DisplayContents}
    (hlist : lists dpy = some list) (hdraws : (displays dpy).draws dpy list = true)
    (hfailed : ((displays dpy).reset.compose (ctx.arrive displays lists dpy) dpy list).2.2.2 = false) :
    (ctx.hwcPrepare displays lists).1.overlay.OnlyFramebuffer dpy
        ((ctx.hwcPrepare displays lists).2 dpy).fbUpdate ↔
      ((displays dpy).reset.enter (ctx.arrive displays lists dpy) dpy list).Undone dpy
        ((displays dpy).reset.compose (ctx.arrive displays lists dpy) dpy list).1.commits := by
  have hiff := (displays dpy).reset.hwcPrepare_fallsBack (ctx.arrive_fresh displays lists dpy)
    rfl hdraws hfailed
  have hpart : ctx.prepareDisplay displays lists dpy =
      (displays dpy).reset.hwcPrepare (ctx.arrive displays lists dpy) dpy (some list) := by
    rw [prepareDisplay, hlist]
  have hstate : (ctx.hwcPrepare displays lists).2 dpy = (ctx.prepareDisplay displays lists dpy).2 := rfl
  rw [← hiff, Overlay.OnlyFramebuffer, hwcPrepare_usedBy, hstate, hpart, Overlay.OnlyFramebuffer]

end Context

def sampleDisplay : DisplayState 4 := ⟨sampleComp, sampleUpdate, 0, true, false, false⟩

def sampleLists : Display → Option DisplayContents
  | .primary => some sampleList
  | .external => none

def sampleRound (driver : List Bool) : Context 4 × (Display → DisplayState 4) :=
  (sampleContext driver).hwcPrepare (fun _ => sampleDisplay) sampleLists

instance {numPipes : Nat} (overlay : Overlay numPipes) (dpy : Display) (fbUpdate : FBUpdate numPipes) :
    Decidable (overlay.OnlyFramebuffer dpy fbUpdate) :=
  inferInstanceAs (Decidable (∀ pipe, pipe ∈ overlay.usedBy dpy ↔
    fbUpdate.mModeOn = true ∧ fbUpdate.mDest = some pipe))

/-- When the driver rejects the base pipe, the framebuffer takes its own pipe again. -/
theorem Context.hwcPrepare_onlyFramebuffer_rejectedBase :
    (sampleRound [true, false]).1.overlay.OnlyFramebuffer .primary
      ((sampleRound [true, false]).2 .primary).fbUpdate :=
  (hwcPrepare_onlyFramebuffer_iff (sampleContext [true, false]) (fun _ => sampleDisplay) sampleLists
    (rfl : sampleLists .primary = some sampleList) (by decide) (by decide)).mpr
    (.inr ⟨rfl, 0, 1, by decide, by decide⟩)

/-- When it rejects the layer, the base pipe stays in use. -/
theorem Context.hwcPrepare_keepsBasePipe :
    sampleDisplay.draws .primary sampleList = true ∧
      (sampleDisplay.reset.compose ((sampleContext [true, true, false]).arrive (fun _ => sampleDisplay)
        sampleLists .primary) .primary sampleList).2.2.2 = false ∧
      ¬(sampleRound [true, true, false]).1.overlay.OnlyFramebuffer .primary
        ((sampleRound [true, true, false]).2 .primary).fbUpdate := by
  decide

end Nozomi
