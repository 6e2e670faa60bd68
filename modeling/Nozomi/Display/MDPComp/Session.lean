import Nozomi.Display.Overlay.Exclusive
import Nozomi.Display.MDPComp.Block
import Nozomi.Display.MDPComp.Program

/-!
# What one display does to the overlay in a round

The pipes that a display has committed, and the pipes that it was given and did not commit yet, account
for what it changes in the pipe book and in both bitmaps, until a commit fails.
-/

namespace Nozomi

namespace Overlay

variable {numPipes : Nat} {overlay : Overlay numPipes}

@[simp] theorem setSource_mDisplay (zOrder : Int) (dest pipe : Fin numPipes) :
    ((overlay.setSource zOrder dest).mPipeBook pipe).mDisplay = (overlay.mPipeBook pipe).mDisplay := by
  by_cases hpipe : pipe = dest
  · simp [setSource, hpipe]
  · simp [setSource, hpipe]

theorem setSource_mPipeBook_of_ne {zOrder : Int} {dest pipe : Fin numPipes} (hne : pipe ≠ dest) :
    (overlay.setSource zOrder dest).mPipeBook pipe = overlay.mPipeBook pipe := by
  simp [setSource, hne]

@[simp] theorem setSource_sPipeUsageBitmap (zOrder : Int) (dest : Fin numPipes) :
    (overlay.setSource zOrder dest).sPipeUsageBitmap = overlay.sPipeUsageBitmap := rfl

@[simp] theorem setSource_sAllocatedBitmap (zOrder : Int) (dest : Fin numPipes) :
    (overlay.setSource zOrder dest).sAllocatedBitmap = overlay.sAllocatedBitmap := rfl

def zOrderOf (overlay : Overlay numPipes) (pipe : Fin numPipes) : Option Int :=
  (overlay.mPipeBook pipe).mPipe.map (·.zOrder)

theorem setSource_zOrderOf (zOrder : Int) {dest : Fin numPipes}
    (hvalid : (overlay.mPipeBook dest).valid = true) :
    (overlay.setSource zOrder dest).zOrderOf dest = some zOrder := by
  rw [PipeBook.valid, Option.isSome_iff_exists] at hvalid
  obtain ⟨pipe, hpipe⟩ := hvalid
  simp [zOrderOf, setSource, hpipe]

def Open (overlay : Overlay numPipes) (dpy : Display) (pipe : Fin numPipes) : Prop :=
  (overlay.mPipeBook pipe).mDisplay = none ∨ (overlay.mPipeBook pipe).mDisplay = some dpy

/-- A pipe is as it was, or it was open to the display and now belongs to it. -/
def Apart (before : Overlay numPipes) (dpy : Display) (overlay : Overlay numPipes) : Prop :=
  ∀ pipe, (overlay.mPipeBook pipe = before.mPipeBook pipe ∧
      (pipe ∈ overlay.sPipeUsageBitmap ↔ pipe ∈ before.sPipeUsageBitmap) ∧
      (pipe ∈ overlay.sAllocatedBitmap ↔ pipe ∈ before.sAllocatedBitmap)) ∨
    before.Open dpy pipe ∧ (overlay.mPipeBook pipe).mDisplay = some dpy

end Overlay

/-- What a display has done since the overlay was as `before`: it has committed some pipes with success
and holds others that it was given. -/
structure Session {numPipes : Nat} (before : Overlay numPipes) (dpy : Display)
    (overlay : Overlay numPipes) (committed : List (Fin numPipes))
    (pending : Finset (Fin numPipes)) : Prop where
  nodup : committed.Nodup
  disjoint : ∀ pipe ∈ pending, pipe ∉ committed
  taken : ∀ pipe, pipe ∈ committed ∨ pipe ∈ pending → before.isAvailable dpy pipe = true
  held : ∀ pipe, pipe ∈ committed ∨ pipe ∈ pending →
    (overlay.mPipeBook pipe).mDisplay = some dpy ∧ (overlay.mPipeBook pipe).valid = true
  kept : ∀ pipe, ¬(pipe ∈ committed ∨ pipe ∈ pending) →
    overlay.mPipeBook pipe = before.mPipeBook pipe
  used : ∀ pipe, pipe ∈ overlay.sPipeUsageBitmap ↔ pipe ∈ before.sPipeUsageBitmap ∨ pipe ∈ committed
  allocated : ∀ pipe, pipe ∈ overlay.sAllocatedBitmap ↔
    pipe ∈ before.sAllocatedBitmap ∨ pipe ∈ committed ∨ pipe ∈ pending

namespace Session

variable {numPipes : Nat} {before overlay : Overlay numPipes} {dpy : Display}
  {committed : List (Fin numPipes)} {pending : Finset (Fin numPipes)}

theorem start (before : Overlay numPipes) (dpy : Display) : Session before dpy before [] ∅ where
  nodup := List.nodup_nil
  disjoint := by simp
  taken := by simp
  held := by simp
  kept := fun _ _ => rfl
  used := by simp
  allocated := by simp

theorem isAvailable_iff (hsession : Session before dpy overlay committed pending)
    (pipe : Fin numPipes) :
    overlay.isAvailable dpy pipe = true ↔
      before.isAvailable dpy pipe = true ∧ ¬(pipe ∈ committed ∨ pipe ∈ pending) := by
  by_cases hheld : pipe ∈ committed ∨ pipe ∈ pending
  · have hallocated := (hsession.allocated pipe).mpr (.inr hheld)
    rw [Overlay.isAvailable_iff]
    exact iff_of_false (fun havailable => havailable.2 hallocated) fun hleft => hleft.2 hheld
  · rw [Overlay.isAvailable_iff, Overlay.isAvailable_iff, hsession.kept pipe hheld,
      hsession.allocated pipe, or_iff_left hheld, and_iff_left hheld]

theorem apart (hsession : Session before dpy overlay committed pending) :
    before.Apart dpy overlay := by
  intro pipe
  by_cases hheld : pipe ∈ committed ∨ pipe ∈ pending
  · exact .inr ⟨(Overlay.isAvailable_iff.mp (hsession.taken pipe hheld)).1, (hsession.held pipe hheld).1⟩
  · refine .inl ⟨hsession.kept pipe hheld, ?_, ?_⟩
    · rw [hsession.used pipe, or_iff_left fun hmem => hheld (.inl hmem)]
    · rw [hsession.allocated pipe, or_iff_left hheld]

theorem handOut (hsession : Session before dpy overlay committed pending)
    {type : MdpPipeType} {pipe : Fin numPipes} (hfind : overlay.findPipe type dpy = some pipe) :
    pipe ∉ committed ∧ pipe ∉ pending ∧
      Session before dpy (overlay.handOut dpy pipe) committed (insert pipe pending) := by
  obtain ⟨havailable, hnew⟩ := (hsession.isAvailable_iff pipe).mp (Overlay.isAvailable_of_findPipe hfind)
  obtain ⟨hcommitted, hpending⟩ := not_or.mp hnew
  have hheld : ∀ other, other ∈ committed ∨ other ∈ insert pipe pending ↔
      other = pipe ∨ other ∈ committed ∨ other ∈ pending := by
    intro other
    rw [Finset.mem_insert]
    tauto
  refine ⟨hcommitted, hpending, ?_⟩
  constructor
  · exact hsession.nodup
  · intro other hother
    rcases Finset.mem_insert.mp hother with rfl | hother
    · exact hcommitted
    · exact hsession.disjoint other hother
  · intro other hother
    rcases (hheld other).mp hother with rfl | hother
    · exact havailable
    · exact hsession.taken other hother
  · intro other hother
    by_cases hpipe : other = pipe
    · rw [hpipe]
      exact ⟨Overlay.handOut_mDisplay_self dpy pipe,
        by simp [Overlay.handOut, Overlay.acquire, PipeBook.valid]⟩
    · rw [Overlay.handOut_mPipeBook_of_ne hpipe]
      exact hsession.held other (((hheld other).mp hother).resolve_left hpipe)
  · intro other hother
    rw [hheld other, not_or] at hother
    rw [Overlay.handOut_mPipeBook_of_ne hother.1]
    exact hsession.kept other hother.2
  · exact hsession.used
  · intro other
    rw [Overlay.handOut_sAllocatedBitmap, hheld other, Finset.mem_insert, hsession.allocated other]
    tauto

theorem commit (hsession : Session before dpy overlay committed pending)
    {dest : Fin numPipes} (hdest : dest ∈ pending) (zOrder : Int) :
    Session before dpy ((overlay.setSource zOrder dest).commit true dest).1 (committed ++ [dest])
      (pending.erase dest) := by
  have hheld : ∀ pipe, pipe ∈ committed ++ [dest] ∨ pipe ∈ pending.erase dest ↔
      pipe ∈ committed ∨ pipe ∈ pending := by
    intro pipe
    rw [List.mem_append, List.mem_singleton, Finset.mem_erase]
    by_cases hself : pipe = dest
    · simp [hself, hdest]
    · simp [hself]
  constructor
  · rw [List.nodup_append]
    refine ⟨hsession.nodup, List.nodup_singleton dest, ?_⟩
    rintro pipe hpipe _ hself rfl
    rw [List.mem_singleton] at hself
    exact hsession.disjoint dest hdest (hself ▸ hpipe)
  · intro pipe hpipe hmem
    obtain ⟨hne, hpending⟩ := Finset.mem_erase.mp hpipe
    rcases List.mem_append.mp hmem with hold | hself
    · exact hsession.disjoint pipe hpending hold
    · exact hne (List.mem_singleton.mp hself)
  · exact fun pipe hpipe => hsession.taken pipe ((hheld pipe).mp hpipe)
  · intro pipe hpipe
    obtain ⟨hdisplay, hvalid⟩ := hsession.held pipe ((hheld pipe).mp hpipe)
    rw [Overlay.commit_mPipeBook, Overlay.setSource_mDisplay]
    refine ⟨hdisplay, ?_⟩
    by_cases hself : pipe = dest
    · subst hself
      rw [PipeBook.valid, Option.isSome_iff_exists] at hvalid
      obtain ⟨object, hobject⟩ := hvalid
      simp [Overlay.setSource, PipeBook.valid, hobject]
    · rwa [Overlay.setSource_mPipeBook_of_ne hself]
  · intro pipe hpipe
    rw [hheld pipe] at hpipe
    have hne : pipe ≠ dest := by
      rintro rfl
      exact hpipe (.inr hdest)
    rw [Overlay.commit_mPipeBook, Overlay.setSource_mPipeBook_of_ne hne]
    exact hsession.kept pipe hpipe
  · intro pipe
    rw [Overlay.commit]
    simp only [if_true, Finset.mem_insert, Overlay.setSource_sPipeUsageBitmap, hsession.used pipe,
      List.mem_append, List.mem_singleton]
    tauto
  · intro pipe
    rw [hheld pipe, Overlay.commit, if_pos rfl]
    exact hsession.allocated pipe

end Session

/-- The same with a commit that has failed: the display has no pipe allocated any more. -/
structure Rejected {numPipes : Nat} (before : Overlay numPipes) (dpy : Display)
    (overlay : Overlay numPipes) (committed : List (Fin numPipes)) (failed : Fin numPipes) : Prop where
  nodup : committed.Nodup
  fresh : failed ∉ committed
  held : ∀ pipe ∈ committed, (overlay.mPipeBook pipe).mDisplay = some dpy
  apart : before.Apart dpy overlay
  used : ∀ pipe, pipe ∈ overlay.sPipeUsageBitmap ↔
    (pipe ∈ before.sPipeUsageBitmap ∨ pipe ∈ committed) ∧ pipe ≠ failed
  released : ∀ pipe, (overlay.mPipeBook pipe).mDisplay = some dpy → pipe ∉ overlay.sAllocatedBitmap

theorem Session.reject {numPipes : Nat} {before overlay : Overlay numPipes} {dpy : Display}
    {committed : List (Fin numPipes)} {pending : Finset (Fin numPipes)}
    (hsession : Session before dpy overlay committed pending)
    {dest : Fin numPipes} (hdest : dest ∈ pending) (zOrder : Int) :
    Rejected before dpy ((overlay.setSource zOrder dest).commit false dest).1 committed dest := by
  have hheld := hsession.held dest (.inr hdest)
  constructor
  · exact hsession.nodup
  · exact hsession.disjoint dest hdest
  · intro pipe hpipe
    rw [Overlay.commit_mPipeBook, Overlay.setSource_mDisplay]
    exact (hsession.held pipe (.inl hpipe)).1
  · intro pipe
    rw [Overlay.commit_mPipeBook, Overlay.setSource_mDisplay]
    by_cases hdisplay : (overlay.mPipeBook pipe).mDisplay = some dpy
    · refine .inr ⟨?_, hdisplay⟩
      rcases hsession.apart pipe with ⟨hbook, -⟩ | ⟨hopen, -⟩
      · exact .inr (hbook ▸ hdisplay)
      · exact hopen
    have hne : pipe ≠ dest := by
      rintro rfl
      exact hdisplay hheld.1
    refine .inl ?_
    rw [Overlay.setSource_mPipeBook_of_ne hne, Overlay.commit]
    simp only [Bool.false_eq_true, if_false, Finset.mem_erase, Finset.mem_filter, hne, ne_eq,
      not_false_eq_true, true_and, Overlay.setSource_sPipeUsageBitmap,
      Overlay.setSource_sAllocatedBitmap, Overlay.setSource_mDisplay, hheld.1, hdisplay, and_true]
    exact (hsession.apart pipe).resolve_right fun hchanged => hdisplay hchanged.2
  · intro pipe
    rw [Overlay.commit]
    simp only [Bool.false_eq_true, if_false, Finset.mem_erase, Overlay.setSource_sPipeUsageBitmap,
      hsession.used pipe]
    exact and_comm
  · intro pipe hdisplay hmem
    rw [Overlay.commit_mPipeBook, Overlay.setSource_mDisplay] at hdisplay
    rw [Overlay.commit] at hmem
    simp only [Bool.false_eq_true, if_false, Finset.mem_filter, Overlay.setSource_mDisplay, hheld.1,
      hdisplay, ne_eq, not_true, and_false] at hmem

namespace Context

variable {numPipes : Nat} {ctx before : Context numPipes} {dpy : Display}
  {committed : List (Fin numPipes)} {pending : Finset (Fin numPipes)}

/-- Since the context was as `before` the display has committed some pipes and holds others. -/
structure InSession (ctx before : Context numPipes) (dpy : Display)
    (committed : List (Fin numPipes)) (pending : Finset (Fin numPipes)) : Prop where
  session : Session before.overlay dpy ctx.overlay committed pending
  commits : ctx.commits = before.commits ++ committed.map (·, true)
  target : ctx.target = before.target

/-- Since the context was as `before` the display has committed some pipes until a commit failed. -/
structure IsRejected (ctx before : Context numPipes) (dpy : Display)
    (committed : List (Fin numPipes)) (failed : Fin numPipes) : Prop where
  rejected : Rejected before.overlay dpy ctx.overlay committed failed
  commits : ctx.commits = before.commits ++ committed.map (·, true) ++ [(failed, false)]
  target : ctx.target = before.target

theorem inSession_start (ctx : Context numPipes) (dpy : Display) : ctx.InSession ctx dpy [] ∅ where
  session := .start ctx.overlay dpy
  commits := by simp
  target := rfl

theorem getMdpPipe_cases (ctx : Context numPipes) (dpy : Display) (type : MdpPipeType) :
    (ctx.getMdpPipe dpy type).2 = none ∧ (ctx.getMdpPipe dpy type).1 = ctx ∨
    ∃ found pipe dma, ctx.overlay.findPipe found dpy = some pipe ∧
      (ctx.getMdpPipe dpy type).2 = some pipe ∧ (ctx.getMdpPipe dpy type).1 =
        { ctx with overlay := ctx.overlay.handOut dpy pipe, mDMAInUse := dma } := by
  have hnext : ∀ type, (ctx.nextPipe dpy type = (ctx, none)) ∨ ∃ pipe,
      ctx.overlay.findPipe type dpy = some pipe ∧
      ctx.nextPipe dpy type = ({ ctx with overlay := ctx.overlay.handOut dpy pipe }, some pipe) := by
    intro type
    obtain ⟨pipe, hfind, heq⟩ | ⟨-, heq⟩ := ctx.overlay.nextPipe_cases type dpy
    · exact .inr ⟨pipe, hfind, by rw [Context.nextPipe, heq]⟩
    · exact .inl (by rw [Context.nextPipe, heq])
  have hlast : ∀ type, ((ctx.nextPipe dpy type).2 = none ∧ (ctx.nextPipe dpy type).1 = ctx) ∨
      ∃ found pipe dma, ctx.overlay.findPipe found dpy = some pipe ∧
        (ctx.nextPipe dpy type).2 = some pipe ∧ (ctx.nextPipe dpy type).1 =
          { ctx with overlay := ctx.overlay.handOut dpy pipe, mDMAInUse := dma } := by
    intro type
    obtain heq | ⟨pipe, hfind, heq⟩ := hnext type
    · exact .inl (by simp [heq])
    · exact .inr ⟨type, pipe, ctx.mDMAInUse, hfind, by rw [heq], by rw [heq]⟩
  cases type with
  | vg => exact hlast .vg
  | rgb => exact hlast .rgb
  | any =>
    obtain heq | ⟨pipe, hfind, heq⟩ := hnext .rgb
    · simpa [getMdpPipe, heq] using hlast .vg
    · exact .inr ⟨.rgb, pipe, ctx.mDMAInUse, hfind, by simp [getMdpPipe, heq], by
        simp [getMdpPipe, heq]⟩
  | dma =>
    obtain heq | ⟨pipe, hfind, heq⟩ := hnext .dma
    · obtain heq' | ⟨pipe, hfind, heq'⟩ := hnext .rgb
      · simpa [getMdpPipe, heq, heq'] using hlast .vg
      · exact .inr ⟨.rgb, pipe, ctx.mDMAInUse, hfind, by simp [getMdpPipe, heq, heq'], by
          simp [getMdpPipe, heq, heq']⟩
    · exact .inr ⟨.dma, pipe, true, hfind, by simp [getMdpPipe, heq], by
        simp [getMdpPipe, heq]⟩

def Keeps (ctx ctx' : Context numPipes) (pipes : Fin numPipes → Prop) : Prop :=
  ∀ pipe, pipes pipe → ctx'.overlay.mPipeBook pipe = ctx.overlay.mPipeBook pipe

theorem getMdpPipe_session
    (hsession : ctx.InSession before dpy committed pending) (type : MdpPipeType) :
    ∃ ctx' index, ctx.getMdpPipe dpy type = (ctx', index) ∧
      ctx.Keeps ctx' (fun pipe => pipe ∈ committed ∨ pipe ∈ pending) ∧
      (index = none ∧ ctx'.InSession before dpy committed pending ∨
        ∃ pipe, index = some pipe ∧ pipe ∉ pending ∧
          ctx'.InSession before dpy committed (insert pipe pending)) := by
  refine ⟨(ctx.getMdpPipe dpy type).1, (ctx.getMdpPipe dpy type).2, rfl, ?_⟩
  obtain ⟨hnone, heq⟩ | ⟨found, pipe, dma, hfind, hsome, heq⟩ := ctx.getMdpPipe_cases dpy type
  · rw [heq]
    exact ⟨fun _ _ => rfl, .inl ⟨hnone, hsession⟩⟩
  · obtain ⟨hcommitted, hpending, hnext⟩ := hsession.session.handOut hfind
    rw [heq]
    refine ⟨fun other hother => ?_,
      .inr ⟨pipe, hsome, hpending, hnext, hsession.commits, hsession.target⟩⟩
    refine Overlay.handOut_mPipeBook_of_ne ?_
    rintro rfl
    exact hother.elim hcommitted hpending

theorem Keeps.trans {first second third : Context numPipes} {pipes more : Fin numPipes → Prop}
    (hfirst : first.Keeps second pipes) (hsecond : second.Keeps third more)
    (hmore : ∀ pipe, pipes pipe → more pipe) : first.Keeps third pipes :=
  fun pipe hpipe => (hsecond pipe (hmore pipe hpipe)).trans (hfirst pipe hpipe)

theorem configMdp_session
    (hsession : ctx.InSession before dpy committed pending) {dest : Fin numPipes}
    (hdest : dest ∈ pending) (zOrder : Int) :
    ∃ ctx' accepted, ctx.configMdp zOrder dest = (ctx', accepted) ∧
      ctx.Keeps ctx' (· ≠ dest) ∧ ctx'.overlay.zOrderOf dest = some zOrder ∧
      (accepted = true ∧ ctx'.InSession before dpy (committed ++ [dest]) (pending.erase dest) ∨
        accepted = false ∧ ctx'.IsRejected before dpy committed dest) := by
  refine ⟨_, _, rfl, fun pipe hpipe => ?_, ?_, ?_⟩
  · exact (congrFun (Overlay.commit_mPipeBook _ dest) pipe).trans
      (Overlay.setSource_mPipeBook_of_ne hpipe)
  · rw [← Overlay.setSource_zOrderOf zOrder (hsession.session.held dest (.inr hdest)).2, Overlay.zOrderOf,
      Overlay.commit_mPipeBook, Overlay.zOrderOf]
  · cases ctx.driver.headD true with
    | true =>
      refine .inl ⟨rfl, hsession.session.commit hdest zOrder, ?_, hsession.target⟩
      simp [hsession.commits]
    | false =>
      refine .inr ⟨rfl, hsession.session.reject hdest zOrder, ?_, hsession.target⟩
      simp [hsession.commits]

theorem configureLowRes_session
    (hsession : ctx.InSession before dpy committed pending) {dest : Fin numPipes}
    (hdest : dest ∈ pending) (layer : Layer) (zOrder : Int) :
    ∃ ctx' configured, ctx.configureLowRes layer zOrder dest = (ctx', configured) ∧
      ctx.Keeps ctx' (· ≠ dest) ∧
      (configured = true ∧ ctx'.overlay.zOrderOf dest = some zOrder ∧
          ctx'.InSession before dpy (committed ++ [dest]) (pending.erase dest) ∨
        configured = false ∧ (ctx'.InSession before dpy committed pending ∨
          ctx'.IsRejected before dpy committed dest)) := by
  have hconfig : ∀ rotated : Context numPipes, rotated.target = ctx.target →
      rotated.overlay = ctx.overlay → rotated.commits = ctx.commits →
      ∃ ctx' configured, rotated.configMdp zOrder dest = (ctx', configured) ∧
      ctx.Keeps ctx' (· ≠ dest) ∧
      (configured = true ∧ ctx'.overlay.zOrderOf dest = some zOrder ∧
          ctx'.InSession before dpy (committed ++ [dest]) (pending.erase dest) ∨
        configured = false ∧ (ctx'.InSession before dpy committed pending ∨
          ctx'.IsRejected before dpy committed dest)) := by
    intro rotated htarget hoverlay hcommits
    have hrotated : rotated.InSession before dpy committed pending :=
      ⟨hoverlay ▸ hsession.session, hcommits.trans hsession.commits, htarget.trans hsession.target⟩
    obtain ⟨ctx', accepted, heq, hkeeps, hz, ⟨rfl, hnext⟩ | ⟨rfl, hrejected⟩⟩ :=
      configMdp_session hrotated hdest zOrder
    · rw [Keeps, hoverlay] at hkeeps
      exact ⟨ctx', true, heq, hkeeps, .inl ⟨rfl, hz, hnext⟩⟩
    · rw [Keeps, hoverlay] at hkeeps
      exact ⟨ctx', false, heq, hkeeps, .inr ⟨rfl, .inr hrejected⟩⟩
  rw [configureLowRes]
  split
  · exact ⟨ctx, false, rfl, fun _ _ => rfl, .inr ⟨rfl, .inl hsession⟩⟩
  split
  · dsimp only
    split
    · exact hconfig _ rfl rfl rfl
    · refine ⟨_, false, rfl, fun _ _ => rfl, .inr ⟨rfl, .inl ?_⟩⟩
      exact ⟨hsession.session, hsession.commits, hsession.target⟩
  · exact hconfig ctx rfl rfl rfl

def Stands (ctx before : Context numPipes) (dpy : Display) : Prop :=
  (∃ committed pending, ctx.InSession before dpy committed pending) ∨
    ∃ committed failed, ctx.IsRejected before dpy committed failed

end Context

theorem FBUpdate.prepare_session {numPipes : Nat} {ctx before : Context numPipes} {dpy : Display}
    {committed : List (Fin numPipes)} {pending : Finset (Fin numPipes)}
    (hsession : ctx.InSession before dpy committed pending) (hoverlay : ctx.target.hasOverlay = true)
    (fbUpdate : FBUpdate numPipes) (fbZorder : Int) :
    ∃ ctx' fbUpdate' ret, fbUpdate.prepare ctx dpy fbZorder = (ctx', fbUpdate', ret) ∧
      fbUpdate'.mModeOn = ret ∧
      (ret = false ∧ ctx.overlay.findPipe .any dpy = none ∧
          ctx'.InSession before dpy committed pending ∨
        ∃ dest, ctx.overlay.findPipe .any dpy = some dest ∧ fbUpdate'.mDest = some dest ∧
          dest ∉ committed ∧
          (ret = true ∧ ctx'.overlay.zOrderOf dest = some fbZorder ∧
              ctx'.InSession before dpy (committed ++ [dest]) pending ∨
            ret = false ∧ ctx'.IsRejected before dpy committed dest)) := by
  rw [prepare, hoverlay]
  obtain ⟨dest, hfind, hnext⟩ | ⟨hfind, hnext⟩ := ctx.overlay.nextPipe_cases .any dpy
  · obtain ⟨hcommitted, hpending, hheld⟩ := hsession.session.handOut hfind
    have hgiven : ({ ctx with overlay := ctx.overlay.handOut dpy dest } : Context numPipes).InSession
        before dpy committed (insert dest pending) := ⟨hheld, hsession.commits, hsession.target⟩
    obtain ⟨ctx', ret, heq, hkeeps, hz, hend⟩ :=
      Context.configMdp_session hgiven (Finset.mem_insert_self dest pending) fbZorder
    refine ⟨ctx', { mDest := some dest, mModeOn := ret, mZorder := fbZorder }, ret, ?_, rfl,
      .inr ⟨dest, hfind, rfl, hcommitted, ?_⟩⟩
    · simp [Context.nextPipe, hnext, heq]
    rcases hend with ⟨rfl, hdone⟩ | ⟨rfl, hrejected⟩
    · rw [Finset.erase_insert hpending] at hdone
      exact .inl ⟨rfl, hz, hdone⟩
    · exact .inr ⟨rfl, hrejected⟩
  · exact ⟨ctx, { fbUpdate with mZorder := fbZorder, mModeOn := false }, false,
      by simp [Context.nextPipe, hnext], rfl, .inl ⟨rfl, hfind, hsession⟩⟩

end Nozomi
