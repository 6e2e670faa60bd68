import Mathlib.Algebra.Group.Nat.Even
import Nozomi.Display.Overlay.MdpRot

/-!
# The size of the rotated buffers over a run

`calcOutputBufSize` exchanges the original dimensions in place whenever there is a quarter turn. The size that
`remap` asks for is that of the last source as long as an even number of such calls came before, or the
exchange does not matter.
-/

namespace Nozomi

open Gralloc (AdrenoPadding)

inductive MdpRotCall where
  | set (setting : MdpRot.Setting)
  | setReleaseFd (fence : ReleaseFence)
  | queueBuffer (fd offset : BitVec 32) (answers : MdpRot.Answers)

/-- A rotator with what was called: the dimensions of the last source, whether `setSource` had them as those
of the original buffer, the calls of `queueBuffer` with a quarter turn since the last original buffer, and the
orientation and format of the last `queueBuffer` since the last source. -/
structure RotSession where
  rot : MdpRot
  lastSource : Whf
  original : Bool
  turns : Nat
  queued : Option (Bool × BitVec 32)

def outputSize (padding : AdrenoPadding) (source : Whf) (rot90 : Bool) (format : BitVec 32) : BitVec 32 :=
  let whf := if rot90 then source.swap else source
  calcOutputBufSize padding ⟨whf.w, whf.h, format, 0⟩

namespace RotSession

def new : RotSession := ⟨.new, ⟨0, 0, 0, 0⟩, true, 0, none⟩

variable (session : RotSession)

def set (setting : MdpRot.Setting) : RotSession :=
  let session := { session with rot := session.rot.set setting }
  match setting with
  | .setSource awhf => { session with lastSource := awhf, original := false, queued := none }
  | .setSourceOrig _ owhf => { session with lastSource := owhf, original := true, turns := 0, queued := none }
  | _ => session

def step (padding : AdrenoPadding) (session : RotSession) : MdpRotCall → Option RotSession
  | .set setting => some (session.set setting)
  | .setReleaseFd fence => some { session with rot := session.rot.setReleaseFd fence }
  | .queueBuffer fd offset answers =>
    match session.rot.queueBuffer padding fd offset answers with
    | none => none
    | some (rot, _) =>
      some <| if session.rot.mRotImgInfo.enable then
        { session with
          rot := rot
          turns := if session.rot.rot90 then session.turns + 1 else session.turns
          queued := some (session.rot.rot90, session.rot.mRotImgInfo.dst.format) }
      else { session with rot := rot }

def expectedSize (padding : AdrenoPadding) : BitVec 32 :=
  outputSize padding session.lastSource session.rot.rot90 session.rot.mRotImgInfo.dst.format

/-- At a call of `queueBuffer` the size is that of the last source, and there is no other memory when a buffer
of that source was queued with the same orientation and format. -/
def SizeFollowsSource (padding : AdrenoPadding) (session : RotSession) : MdpRotCall → Prop
  | .queueBuffer .. => session.rot.mRotImgInfo.enable = true →
      session.rot.opBufSize padding = session.expectedSize padding ∧
      (session.queued = some (session.rot.rot90, session.rot.mRotImgInfo.dst.format) →
        session.rot.remaps padding = false)
  | _ => True

/-- At a call of `queueBuffer` the last source came with the original dimensions, an even number of calls with a
quarter turn followed, unless the size is the same when width and height are exchanged, and memory is
freed when it has to be. -/
def TurnsBack (padding : AdrenoPadding) (session : RotSession) : MdpRotCall → Prop
  | .queueBuffer _ _ answers => session.rot.mRotImgInfo.enable = true →
      session.original = true ∧
      (Even session.turns ∨
        outputSize padding session.lastSource false session.rot.mRotImgInfo.dst.format =
          outputSize padding session.lastSource true session.rot.mRotImgInfo.dst.format) ∧
      answers.frees = true
  | _ => True

/-! ### The original dimensions -/

def Exchanged : Prop := session.original = true → session.rot.mOrigWhf = Whf.swap^[session.turns] session.lastSource

/-- Behind a `queueBuffer` the current memory has the size for the last source. -/
def Mapped (padding : AdrenoPadding) : Prop :=
  ∀ rot90 format, session.queued = some (rot90, format) →
    session.rot.mMem.current.size = outputSize padding session.lastSource rot90 format

theorem new_exchanged : new.Exchanged := fun _ => rfl

theorem new_mapped (padding : AdrenoPadding) : new.Mapped padding := by
  intro rot90 format hqueued
  cases hqueued

variable {session} {padding : AdrenoPadding}

theorem opBufSize_eq_iff (horiginal : session.original = true) (hexchanged : session.Exchanged) :
    session.rot.opBufSize padding = session.expectedSize padding ↔
      Even session.turns ∨
        outputSize padding session.lastSource false session.rot.mRotImgInfo.dst.format =
          outputSize padding session.lastSource true session.rot.mRotImgInfo.dst.format := by
  have horig := hexchanged horiginal
  unfold MdpRot.opBufSize MdpRot.turnedWhf expectedSize outputSize
  rw [horig]
  rcases Nat.even_or_odd session.turns with heven | hodd
  · rw [Whf.swap_involutive.iterate_even heven]
    simp [heven]
  · rw [Whf.swap_involutive.iterate_odd hodd]
    have hnot : ¬Even session.turns := Nat.not_even_iff_odd.mpr hodd
    cases session.rot.rot90 with
    | false => simp [hnot, eq_comm]
    | true => simp [hnot, Whf.swap]

/-! ### Steps -/

@[simp] theorem set_rot (setting : MdpRot.Setting) : (session.set setting).rot = session.rot.set setting := by
  cases setting <;> rfl

theorem set_exchanged (setting : MdpRot.Setting) (hexchanged : session.Exchanged) :
    (session.set setting).Exchanged := by
  intro horiginal
  rw [set_rot, MdpRot.set_mOrigWhf]
  cases setting with
  | setSource awhf => cases horiginal
  | setSourceOrig awhf owhf => rfl
  | _ => exact hexchanged horiginal

theorem set_mapped (setting : MdpRot.Setting) (hmapped : session.Mapped padding) :
    (session.set setting).Mapped padding := by
  intro rot90 format hqueued
  rw [set_rot, MdpRot.set_mMem]
  cases setting with
  | setSource awhf => cases hqueued
  | setSourceOrig awhf owhf => cases hqueued
  | _ => exact hmapped rot90 format hqueued

theorem queueBuffer_invariant {fd offset : BitVec 32} {answers : MdpRot.Answers} {next : RotSession}
    (hcondition : TurnsBack padding session (.queueBuffer fd offset answers))
    (hexchanged : session.Exchanged) (hmapped : session.Mapped padding)
    (hstep : session.step padding (.queueBuffer fd offset answers) = some next) :
    next.Exchanged ∧ next.Mapped padding := by
  cases hqueue : session.rot.queueBuffer padding fd offset answers with
  | none => simp [step, hqueue] at hstep
  | some result =>
    cases henable : session.rot.mRotImgInfo.enable with
    | false =>
      have hidle : session.rot.queueBuffer padding fd offset answers = some (session.rot, true) := by
        rw [MdpRot.queueBuffer, henable]
        rfl
      have hnext : some session = some next := by
        rw [← hstep, step, hidle]
        exact congrArg some (if_neg (Bool.eq_false_iff.mp henable)).symm
      obtain rfl := Option.some.inj hnext
      exact ⟨hexchanged, hmapped⟩
    | true =>
      obtain ⟨horiginal, hturns, hfrees⟩ := hcondition henable
      obtain ⟨remapped, hremapped, hvalid, -, -, -, horig, hmem⟩ := MdpRot.queueBuffer_cases henable hqueue
      have hsize := (opBufSize_eq_iff horiginal hexchanged).mpr hturns
      have hmatches : remapped.mMem.current.size = session.expectedSize padding := by
        cases hremaps : session.rot.remaps padding with
        | false =>
          have hkept : session.rot.opBufSize padding = session.rot.mMem.current.size := by
            simpa [MdpRot.remaps] using hremaps
          rw [hremapped.stays hremaps, ← hkept, hsize]
        | true => rw [(hremapped.turns hremaps).2.2.2.2 hfrees hvalid, hsize]
      rw [step, hqueue] at hstep
      simp only [henable, if_true, Option.some.injEq] at hstep
      subst hstep
      constructor
      · intro _
        simp only [horig, MdpRot.turnedWhf]
        cases session.rot.rot90 with
        | false => exact hexchanged horiginal
        | true =>
          simp only [if_true, Function.iterate_succ_apply', hexchanged horiginal]
      · intro rot90 format hqueued
        obtain ⟨rfl, rfl⟩ := Prod.mk.inj (Option.some.inj hqueued)
        simp only [hmem, RotMem.setCurrent_current]
        exact hmatches

theorem step_invariant {call : MdpRotCall} {next : RotSession} (hcondition : TurnsBack padding session call)
    (hinvariant : session.Exchanged ∧ session.Mapped padding) (hstep : session.step padding call = some next) :
    next.Exchanged ∧ next.Mapped padding := by
  obtain ⟨hexchanged, hmapped⟩ := hinvariant
  cases call with
  | set setting =>
    obtain rfl := Option.some.inj hstep
    exact ⟨set_exchanged setting hexchanged, set_mapped setting hmapped⟩
  | setReleaseFd fence =>
    obtain rfl := Option.some.inj hstep
    refine ⟨hexchanged, fun rot90 format hqueued => ?_⟩
    rw [← hmapped rot90 format hqueued]
    simp [MdpRot.setReleaseFd, Mem.size, Mem.setReleaseFd]
  | queueBuffer fd offset answers => exact queueBuffer_invariant hcondition hexchanged hmapped hstep

theorem sizeFollowsSource_of_turnsBack {call : MdpRotCall} (hinvariant : session.Exchanged ∧ session.Mapped padding)
    (hcondition : TurnsBack padding session call) : SizeFollowsSource padding session call := by
  obtain ⟨hexchanged, hmapped⟩ := hinvariant
  cases call with
  | queueBuffer fd offset answers =>
    intro henable
    obtain ⟨horiginal, hturns, -⟩ := hcondition henable
    have hsize := (opBufSize_eq_iff horiginal hexchanged).mpr hturns
    refine ⟨hsize, fun hqueued => ?_⟩
    simp [MdpRot.remaps, hsize, hmapped _ _ hqueued, expectedSize]
  | _ => trivial

/-- In a run whose calls of `queueBuffer` meet the condition, each of them asks for the size of the last source, and
none turns to another memory when a buffer was queued before with the same source, orientation and format. -/
theorem sizes_follow_sources {calls : List MdpRotCall}
    (hmeets : RunMeets (step padding) (TurnsBack padding) new calls) :
    RunMeets (step padding) (SizeFollowsSource padding) new calls := by
  apply RunMeets.imp_of_meets (fun session => session.Exchanged ∧ session.Mapped padding) _ _ new
    ⟨new_exchanged, new_mapped padding⟩ hmeets
  · intro session call next hcondition hinvariant hstep
    exact step_invariant hcondition hinvariant hstep
  · intro session call hinvariant hcondition
    exact sizeFollowsSource_of_turnsBack hinvariant hcondition

/-! ### A quarter turn -/

instance (call : MdpRotCall) : Decidable (SizeFollowsSource padding session call) :=
  match call with
  | .queueBuffer .. => inferInstanceAs (Decidable (_ → _ ∧ (_ → _)))
  | .set _ => isTrue trivial
  | .setReleaseFd _ => isTrue trivial

instance (call : MdpRotCall) : Decidable (TurnsBack padding session call) :=
  match call with
  | .queueBuffer .. => inferInstanceAs (Decidable (_ → _ ∧ (_ ∨ _) ∧ _))
  | .set _ => isTrue trivial
  | .setReleaseFd _ => isTrue trivial

def video : Whf := ⟨640, 360, 6, 0⟩

def turnVideo : List MdpRotCall :=
  [.set (.setSourceOrig video video), .set (.setTransform transformRot90),
    .set (.commit fun info => some { info with sessionId := 1, dst := { info.dst with format := 6 } })]

def queueVideo : MdpRotCall := .queueBuffer 5 0 ⟨true, some 7, true⟩

theorem sizes_follow_sources_turnVideo :
    RunMeets (step none) (SizeFollowsSource none) new (turnVideo ++ [queueVideo] ++ turnVideo ++ [queueVideo]) :=
  sizes_follow_sources (by decide)

/-- The second buffer of one source is mapped anew. -/
theorem second_buffer_remaps :
    ¬RunMeets (step none) (SizeFollowsSource none) new (turnVideo ++ [queueVideo, queueVideo]) ∧
    (runSteps (step none) new (turnVideo ++ [queueVideo])).map (·.rot.remaps none) = some true := by
  decide

end RotSession

end Nozomi
