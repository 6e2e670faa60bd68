import Nozomi.Display.Overlay.MdpRot

/-!
# The fences of the rotated buffers over a run

A frame gives `setReleaseFd` the fence behind which its buffer is free again, before `queueBuffer` chooses the
buffer. The fence is stored with the buffer that comes next in the current memory, and is lost for the frame
when `remap` turns to the other memory.
-/

namespace Nozomi

open Gralloc (AdrenoPadding)

/-- A frame: what is set, the fence, and the buffer with the answers to `queueBuffer`. -/
structure RotFrame where
  settings : List MdpRot.Setting
  fence : ReleaseFence
  fd : BitVec 32
  offset : BitVec 32
  answers : MdpRot.Answers

/-- A rotator with the fences of the frames that rotated last into its buffers, and those that were waited on. -/
structure FenceSession where
  rot : MdpRot
  supplied : Fin 2 → Fin 3 → Option ReleaseFence
  waited : List Nat

namespace FenceSession

local instance neZero_buffers : NeZero 2 := ⟨by decide⟩

def new : FenceSession := ⟨.new, fun _ _ => none, []⟩

variable (padding : AdrenoPadding) (session : FenceSession) (frame : RotFrame)

def prepared : MdpRot := frame.settings.foldl MdpRot.set session.rot

def released : MdpRot := (session.prepared frame).setReleaseFd frame.fence

def waitedIn : List Nat := (session.prepared frame).mMem.current.waitedFence.toList.map (·.id) ++ session.waited

def destination : Option (Fin 2 × Fin 3) :=
  (session.released frame).destination padding frame.fd frame.offset frame.answers

def suppliedBy (slot : Option (Fin 2 × Fin 3)) : Fin 2 → Fin 3 → Option ReleaseFence :=
  match slot with
  | none => session.supplied
  | some (mem, buffer) =>
    Function.update session.supplied mem (Function.update (session.supplied mem) buffer (some frame.fence))

def step : Option FenceSession :=
  match (session.released frame).queueBuffer padding frame.fd frame.offset frame.answers with
  | none => none
  | some (rot, _) =>
    some
      { rot := rot
        supplied := session.suppliedBy frame (session.destination padding frame)
        waited := session.waitedIn frame }

def Waited (waited : List Nat) (fence : Option ReleaseFence) : Prop :=
  ∀ supplied ∈ fence, 0 ≤ supplied.fd → supplied.id ∈ waited

instance (waited : List Nat) (fence : Option ReleaseFence) : Decidable (Waited waited fence) :=
  inferInstanceAs (Decidable (∀ supplied ∈ fence, 0 ≤ supplied.fd → supplied.id ∈ waited))

/-- The fence of the frame that last rotated into the chosen buffer has been waited on. -/
def WaitsFirst : Prop :=
  ∀ slot ∈ session.destination padding frame, Waited (session.waitedIn frame) (session.supplied slot.1 slot.2)

/-- A frame that turns to the other memory comes without a fence, and that memory stores none. -/
def KeepsPairs : Prop :=
  (session.released frame).mRotImgInfo.enable = true → (session.released frame).remaps padding = true →
    frame.fence.fd < 0 ∧
      ∀ buffer, (((session.released frame).mMem.m ((session.released frame).mMem.curr + 1)).mRelFence buffer).fd < 0

instance : Decidable (session.WaitsFirst padding frame) :=
  inferInstanceAs (Decidable (∀ slot ∈ session.destination padding frame, _))

instance : Decidable (session.KeepsPairs padding frame) :=
  inferInstanceAs (Decidable (_ → _ → _ ∧ ∀ _, _))

/-! ### Pairs of buffers and fences -/

def Paired : Prop :=
  ∀ mem buffer fence, session.supplied mem buffer = some fence → 0 ≤ fence.fd →
    fence.id ∈ session.waited ∨ (session.rot.mMem.m mem).mRelFence buffer = fence

theorem new_paired : new.Paired := by
  intro mem buffer fence hsupplied
  cases hsupplied

variable {padding session frame}

theorem prepared_mMem : (session.prepared frame).mMem = session.rot.mMem := by
  unfold prepared
  generalize session.rot = rot
  induction frame.settings generalizing rot with
  | nil => rfl
  | cons setting settings ih => rw [List.foldl_cons, ih, MdpRot.set_mMem]

theorem released_curr : (session.released frame).mMem.curr = session.rot.mMem.curr := by
  rw [released, MdpRot.setReleaseFd, RotMem.setCurrent_curr, prepared_mMem]

theorem released_mCurrOffset :
    (session.released frame).mMem.current.mCurrOffset = session.rot.mMem.current.mCurrOffset := by
  rw [released, MdpRot.setReleaseFd, RotMem.setCurrent_current, prepared_mMem]
  rfl

theorem subset_waitedIn {id : Nat} (hwaited : id ∈ session.waited) : id ∈ session.waitedIn frame :=
  List.mem_append_right _ hwaited

theorem waited_next (hpaired : session.Paired) :
    Waited (session.waitedIn frame)
      (session.supplied session.rot.mMem.curr session.rot.mMem.current.mCurrOffset) := by
  intro fence hsupplied hfd
  rcases hpaired _ _ fence hsupplied hfd with hwaited | hstored
  · exact subset_waitedIn hwaited
  · have hfence : session.rot.mMem.current.waitedFence = some fence := by
      have hnext : session.rot.mMem.current.mRelFence session.rot.mMem.current.mCurrOffset = fence := hstored
      rw [Mem.waitedFence, hnext, if_pos hfd]
    apply List.mem_append_left
    rw [prepared_mMem, hfence]
    exact List.mem_singleton_self _

theorem released_paired (hpaired : session.Paired) {mem : Fin 2} {buffer : Fin 3} {fence : ReleaseFence}
    (hsupplied : session.supplied mem buffer = some fence) (hfd : 0 ≤ fence.fd) :
    fence.id ∈ session.waitedIn frame ∨ ((session.released frame).mMem.m mem).mRelFence buffer = fence := by
  rcases hpaired mem buffer fence hsupplied hfd with hwaited | hstored
  · exact .inl (subset_waitedIn hwaited)
  by_cases hmem : mem = session.rot.mMem.curr
  · subst hmem
    by_cases hbuffer : buffer = session.rot.mMem.current.mCurrOffset
    · subst hbuffer
      exact .inl (waited_next hpaired fence hsupplied hfd)
    · right
      rw [← hstored, released, MdpRot.setReleaseFd, prepared_mMem]
      simp only [RotMem.setCurrent, Function.update_self]
      exact Function.update_of_ne hbuffer _ _
  · right
    rw [← hstored, released, MdpRot.setReleaseFd, prepared_mMem, RotMem.setCurrent_m_of_ne _ _ hmem]

theorem waited_of_empty (hpaired : session.Paired) {mem : Fin 2} {buffer : Fin 3}
    (hempty : (((session.released frame).mMem.m mem).mRelFence buffer).fd < 0) :
    Waited (session.waitedIn frame) (session.supplied mem buffer) := by
  intro fence hsupplied hfd
  rcases released_paired hpaired hsupplied hfd with hwaited | hstored
  · exact hwaited
  · rw [hstored] at hempty
    exact absurd hfd (not_le.mpr hempty)

/-! ### Steps -/

theorem waitsFirst (hcondition : session.KeepsPairs padding frame) (hpaired : session.Paired) :
    session.WaitsFirst padding frame := by
  intro slot hslot
  obtain ⟨henable, next, hremapped, rfl⟩ := MdpRot.destination_cases hslot
  cases hremaps : (session.released frame).remaps padding with
  | false =>
    rw [hremapped.stays hremaps, released_curr, released_mCurrOffset]
    exact waited_next hpaired
  | true =>
    rw [(hremapped.turns hremaps).1]
    exact waited_of_empty hpaired ((hcondition henable hremaps).2 _)

theorem paired_of_disabled (hdisabled : (session.released frame).mRotImgInfo.enable = false)
    (hpaired : session.Paired) {next : FenceSession} (hstep : session.step padding frame = some next) :
    next.Paired := by
  have hidle : (session.released frame).queueBuffer padding frame.fd frame.offset frame.answers =
      some (session.released frame, true) := by
    rw [MdpRot.queueBuffer, hdisabled]
    rfl
  have hnone : session.destination padding frame = none := by
    simp [destination, MdpRot.destination, hdisabled]
  rw [step, hidle, hnone] at hstep
  obtain rfl := Option.some.inj hstep
  intro mem buffer fence hsupplied hfd
  exact released_paired hpaired hsupplied hfd

theorem suppliedBy_apply (slot : Fin 2 × Fin 3) (mem : Fin 2) (buffer : Fin 3) :
    session.suppliedBy frame (some slot) mem buffer =
      if (mem, buffer) = slot then some frame.fence else session.supplied mem buffer := by
  obtain ⟨mem', buffer'⟩ := slot
  by_cases hmem : mem = mem'
  · subst hmem
    by_cases hbuffer : buffer = buffer'
    · simp [suppliedBy, hbuffer]
    · simp [suppliedBy, hbuffer]
  · simp [suppliedBy, hmem]

theorem released_stored : (session.released frame).mMem.current.mRelFence
    (session.released frame).mMem.current.mCurrOffset = frame.fence := by
  rw [released, MdpRot.setReleaseFd, RotMem.setCurrent_current]
  exact Function.update_self _ _ _

theorem eq_of_ne_succ {curr mem : Fin 2} (hne : mem ≠ curr + 1) : mem = curr := by
  revert curr mem
  decide

theorem step_paired {next : FenceSession} (hcondition : session.KeepsPairs padding frame)
    (hpaired : session.Paired) (hstep : session.step padding frame = some next) : next.Paired := by
  cases henable : (session.released frame).mRotImgInfo.enable with
  | false => exact paired_of_disabled henable hpaired hstep
  | true =>
    cases hqueue : (session.released frame).queueBuffer padding frame.fd frame.offset frame.answers with
    | none => simp [step, hqueue] at hstep
    | some result =>
      obtain ⟨remapped, hremapped, -, hslot, -, -, -, hmem⟩ := MdpRot.queueBuffer_cases henable hqueue
      rw [step, hqueue, destination, hslot] at hstep
      obtain rfl := Option.some.inj hstep
      intro mem buffer fence hsupplied hfd
      -- the fences stay where `remap` leaves them
      have hstored : (result.1.mMem.m mem).mRelFence = (remapped.mMem.m mem).mRelFence := by
        rw [hmem]
        by_cases hmem : mem = remapped.mMem.curr
        · subst hmem
          simp [RotMem.setCurrent, RotMem.current]
        · rw [RotMem.setCurrent_m_of_ne _ _ hmem]
      simp only [suppliedBy_apply] at hsupplied
      simp only [hstored]
      split at hsupplied
      case isTrue hchosen =>
        obtain ⟨rfl, rfl⟩ := Prod.mk.inj hchosen
        obtain rfl := Option.some.inj hsupplied
        cases hremaps : (session.released frame).remaps padding with
        | false =>
          rw [hremapped.stays hremaps]
          exact .inr released_stored
        | true => exact absurd (hcondition henable hremaps).1 (not_lt.mpr hfd)
      case isFalse =>
        cases hremaps : (session.released frame).remaps padding with
        | false =>
          rw [hremapped.stays hremaps]
          exact released_paired hpaired hsupplied hfd
        | true =>
          obtain ⟨hcurr, hleft, -⟩ := hremapped.turns hremaps
          by_cases hmem : mem = (session.released frame).mMem.curr + 1
          · subst hmem
            exact .inl (waited_of_empty hpaired ((hcondition henable hremaps).2 buffer) fence hsupplied hfd)
          · obtain rfl := eq_of_ne_succ hmem
            rw [hleft]
            exact released_paired hpaired hsupplied hfd

/-- In a run whose frames meet the condition, the fence of the frame that last rotated into a buffer has been waited on
whenever the buffer is chosen again. -/
theorem frames_wait_first {frames : List RotFrame} (hmeets : RunMeets (step padding) (KeepsPairs padding) new frames) :
    RunMeets (step padding) (WaitsFirst padding) new frames := by
  apply RunMeets.imp_of_meets Paired _ _ new new_paired hmeets
  · intro session frame next hcondition hpaired hstep
    exact step_paired hcondition hpaired hstep
  · intro session frame hpaired hcondition
    exact waitsFirst hcondition hpaired

/-! ### Frames of one size -/

def videoFrame (settings : List MdpRot.Setting) (fence : ReleaseFence) : RotFrame :=
  ⟨settings, fence, 5, 0, ⟨true, some 7, true⟩⟩

def videoSettings : List MdpRot.Setting :=
  [.setSourceOrig ⟨640, 360, 6, 0⟩ ⟨640, 360, 6, 0⟩,
    .commit fun info => some { info with sessionId := 1, dst := { info.dst with format := 6 } }]

def fencesFromSecond : List RotFrame :=
  videoFrame videoSettings .none :: [1, 2, 3, 4, 5].map fun (id : Nat) => videoFrame [] ⟨20 + id, id⟩

theorem frames_wait_first_fencesFromSecond : RunMeets (step none) (WaitsFirst none) new fencesFromSecond :=
  frames_wait_first (by decide +kernel)

def fencesFromFirst : List RotFrame :=
  videoFrame videoSettings ⟨20, 0⟩ :: [1, 2, 3].map fun (id : Nat) => videoFrame [] ⟨20 + id, id⟩

theorem fencesFromFirst_not_waited : ¬RunMeets (step none) (WaitsFirst none) new fencesFromFirst := by
  decide +kernel

end FenceSession

end Nozomi
