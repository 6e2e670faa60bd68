import Nozomi.Audio.VoiceProcessing.Library
import Nozomi.Base.Run

/-!
# The masks of a session

The masks of a session say which effects were created and which are enabled, and the sessions in the list are
those with an effect. An effect is enabled from the state of configured effects, which it also enters when it is
disabled.
-/

namespace Nozomi

/-! ### Bits of masks -/

theorem getLsbD_setBit (mask : BitVec 32) {id other : Nat} (hother : other < 32) :
    (mask ||| (1 : BitVec 32) <<< id).getLsbD other = (mask.getLsbD other || decide (other = id)) := by
  rw [BitVec.getLsbD_or]
  congr 1
  by_cases hsame : other = id
  · simp [hsame, hsame ▸ hother]
  · simp [hsame]
    omega

theorem getLsbD_clearBit (mask : BitVec 32) {id other : Nat} (hother : other < 32) :
    (mask &&& ~~~((1 : BitVec 32) <<< id)).getLsbD other = (mask.getLsbD other && !decide (other = id)) := by
  rw [BitVec.getLsbD_and, BitVec.getLsbD_not]
  congr 1
  by_cases hsame : other = id
  · simp [hsame]
  · simp [hsame, hother]
    omega

theorem and_bit_ne_zero (mask : BitVec 32) {id : Nat} (hid : id < 32) :
    mask &&& (1 : BitVec 32) <<< id ≠ 0 ↔ mask.getLsbD id = true := by
  have hbit : ∀ other < 32, (mask &&& (1 : BitVec 32) <<< id).getLsbD other =
      (mask.getLsbD other && decide (other = id)) := by
    intro other hother
    rw [BitVec.getLsbD_and]
    congr 1
    by_cases hsame : other = id
    · simp [hsame, hid]
    · simp [hsame]
      omega
  constructor
  · intro hne
    by_contra hoff
    refine hne (BitVec.eq_of_getLsbD_eq fun other hother => ?_)
    rw [hbit other hother]
    by_cases hsame : other = id
    · simp [hsame, Bool.not_eq_true _ ▸ hoff]
    · simp [hsame]
  · intro hon hzero
    have hoff := hbit id hid
    rw [hzero, hon] at hoff
    simp at hoff

/-! ### Sessions -/

namespace VoiceSession

/-- Every state is known, and the effects of one mask are those that are enabled. -/
structure Marked (session : VoiceSession) : Prop where
  known : ∀ id < numId, session.effects id ≤ voiceStateActive
  enabled : ∀ id < numId, session.enabledMsk.getLsbD id = true ↔ session.effects id = voiceStateActive

/-- The effects of the other mask are those that were created, and there is no other one. -/
structure Sound (session : VoiceSession) : Prop extends session.Marked where
  created : ∀ id < numId, session.createdMsk.getLsbD id = true ↔ session.effects id ≠ voiceStateInit
  high : ∀ id, numId ≤ id → session.createdMsk.getLsbD id = false

def Accepts (old new : Nat) : Prop :=
  (new = voiceStateCreated → old = voiceStateInit) ∧ (new = voiceStateConfig → old ≠ voiceStateInit) ∧
    (new = voiceStateActive → voiceStateConfig ≤ old)

instance (old new : Nat) : Decidable (Accepts old new) :=
  inferInstanceAs (Decidable ((new = voiceStateCreated → old = voiceStateInit) ∧
    (new = voiceStateConfig → old ≠ voiceStateInit) ∧ (new = voiceStateActive → voiceStateConfig ≤ old)))

variable {session next : VoiceSession} {id state : Nat}

theorem Marked.setEffect (hmarked : session.Marked) (hstate : state ≤ voiceStateActive)
    (hsame : state = voiceStateActive ↔ session.effects id = voiceStateActive) :
    (session.setEffect id state).Marked := by
  constructor
  · intro other hother
    by_cases hid : other = id
    · rw [hid]
      simpa [VoiceSession.setEffect] using hstate
    · simpa [VoiceSession.setEffect, hid] using hmarked.known other hother
  · intro other hother
    rw [show (session.setEffect id state).enabledMsk = session.enabledMsk from rfl, hmarked.enabled other hother]
    by_cases hid : other = id
    · rw [hid, ← hsame]
      simp [VoiceSession.setEffect]
    · simp [VoiceSession.setEffect, hid]

theorem Marked.setFxEnabled (hmarked : session.Marked) (hstate : state ≤ voiceStateActive) {enabled : Bool}
    (henabled : enabled = true ↔ state = voiceStateActive) :
    ((session.sessionSetFxEnabled id enabled).setEffect id state).Marked := by
  constructor
  · intro other hother
    by_cases hid : other = id
    · rw [hid]
      simpa [VoiceSession.setEffect] using hstate
    · simpa [VoiceSession.setEffect, sessionSetFxEnabled, hid] using hmarked.known other hother
  · intro other hother
    have hbound : other < 32 := Nat.lt_trans hother (by decide)
    have hbit : ((session.sessionSetFxEnabled id enabled).setEffect id state).enabledMsk.getLsbD other =
        if other = id then enabled else session.enabledMsk.getLsbD other := by
      show (if enabled then _ else _ : BitVec 32).getLsbD other = _
      cases enabled
      · rw [if_neg Bool.false_ne_true, getLsbD_clearBit _ hbound]
        by_cases hid : other = id <;> simp [hid]
      · rw [if_pos rfl, getLsbD_setBit _ hbound]
        by_cases hid : other = id <;> simp [hid]
    rw [hbit]
    by_cases hid : other = id
    · rw [if_pos hid, henabled, hid]
      simp [VoiceSession.setEffect]
    · rw [if_neg hid, hmarked.enabled other hother]
      simp [VoiceSession.setEffect, sessionSetFxEnabled, hid]

/-- What a transition leaves of a session: the effect is in the new state where the transition is accepted. -/
structure Moved (session : VoiceSession) (id state : Nat) (next : VoiceSession) : Prop where
  marked : next.Marked
  effects : next.effects =
    if Accepts (session.effects id) state then Function.update session.effects id state else session.effects
  createdMsk : next.createdMsk = session.createdMsk
  io : next.io = session.io

theorem effectSetState_spec (hmarked : session.Marked) (hid : id < numId) (hstate : state ≤ voiceStateActive) :
    ∃ next, session.effectSetState id state =
        some (if Accepts (session.effects id) state then 0 else -enosys, next) ∧ session.Moved id state next := by
  let Goal : Prop := ∃ next, session.effectSetState id state =
    some (if Accepts (session.effects id) state then 0 else -enosys, next) ∧ session.Moved id state next
  have hrefused (hnot : ¬ Accepts (session.effects id) state)
      (hresult : session.effectSetState id state = some (-enosys, session)) : Goal :=
    ⟨session, by rw [hresult, if_neg hnot], hmarked, by rw [if_neg hnot], rfl, rfl⟩
  have hplain (haccepted : Accepts (session.effects id) state)
      (hsame : state = voiceStateActive ↔ session.effects id = voiceStateActive)
      (hresult : session.effectSetState id state = some (0, session.setEffect id state)) : Goal :=
    ⟨_, by rw [hresult, if_pos haccepted], hmarked.setEffect hstate hsame, by rw [if_pos haccepted]; rfl, rfl, rfl⟩
  have hmask (enabled : Bool) (haccepted : Accepts (session.effects id) state)
      (henabled : enabled = true ↔ state = voiceStateActive)
      (hresult : session.effectSetState id state =
        some (0, (session.sessionSetFxEnabled id enabled).setEffect id state)) : Goal :=
    ⟨_, by rw [hresult, if_pos haccepted], hmarked.setFxEnabled hstate henabled, by rw [if_pos haccepted]; rfl,
      rfl, rfl⟩
  have hknown := hmarked.known id hid
  simp only [voiceStateActive] at hstate hknown
  have hnew : state = 0 ∨ state = 1 ∨ state = 2 ∨ state = 3 := by omega
  have hold : session.effects id = 0 ∨ session.effects id = 1 ∨ session.effects id = 2 ∨ session.effects id = 3 := by
    omega
  obtain rfl | rfl | rfl | rfl := hnew
  · obtain h | h | h | h := hold
    · exact hplain (by rw [h]; decide) (by rw [h]) (by simp [effectSetState, h])
    · exact hplain (by rw [h]; decide) (by rw [h]; decide) (by simp [effectSetState, h])
    · exact hplain (by rw [h]; decide) (by rw [h]; decide) (by simp [effectSetState, h])
    · exact hmask false (by rw [h]; decide) (by decide) (by simp [effectSetState, h])
  · obtain h | h | h | h := hold
    · exact hplain (by rw [h]; decide) (by rw [h]; decide) (by simp [effectSetState, h])
    · exact hrefused (by rw [h]; decide) (by simp [effectSetState, h])
    · exact hrefused (by rw [h]; decide) (by simp [effectSetState, h])
    · exact hrefused (by rw [h]; decide) (by simp [effectSetState, h])
  · obtain h | h | h | h := hold
    · exact hrefused (by rw [h]; decide) (by simp [effectSetState, h])
    · exact hplain (by rw [h]; decide) (by rw [h]; decide) (by simp [effectSetState, h])
    · exact hplain (by rw [h]; decide) (by rw [h]) (by simp [effectSetState, h])
    · exact hmask false (by rw [h]; decide) (by decide) (by simp [effectSetState, h])
  · obtain h | h | h | h := hold
    · exact hrefused (by rw [h]; decide) (by simp [effectSetState, h])
    · exact hrefused (by rw [h]; decide) (by simp [effectSetState, h])
    · exact hmask true (by rw [h]; decide) (by decide) (by simp [effectSetState, h])
    · exact hplain (by rw [h]; decide) (by rw [h]) (by simp [effectSetState, h])

theorem Sound.of_init (heffects : ∀ id < numId, session.effects id = voiceStateInit)
    (hcreated : session.createdMsk = 0) (henabled : session.enabledMsk = 0) : session.Sound where
  known id hid := by rw [heffects id hid]; decide
  enabled id hid := by rw [heffects id hid, henabled]; simp
  created id hid := by rw [heffects id hid, hcreated]; simp
  high id _ := by rw [hcreated]; simp

theorem Sound.createdMsk_eq_zero (hsound : session.Sound) :
    session.createdMsk = 0 ↔ ∀ id < numId, session.effects id = voiceStateInit := by
  constructor
  · intro hzero id hid
    by_contra hne
    have hbit := (hsound.created id hid).mpr hne
    rw [hzero] at hbit
    simp at hbit
  · intro hinit
    refine BitVec.eq_of_getLsbD_eq fun id _ => ?_
    refine Eq.trans ?_ BitVec.getLsbD_zero.symm
    obtain hid | hid := Nat.lt_or_ge id numId
    · exact Bool.eq_false_iff.mpr fun hbit => (hsound.created id hid).mp hbit (hinit id hid)
    · exact hsound.high id hid

theorem Moved.effects_of_ne (hmoved : session.Moved id state next) {other : Nat} (hne : other ≠ id) :
    next.effects other = session.effects other := by
  rw [hmoved.effects]
  split
  · exact Function.update_of_ne hne _ _
  · rfl

theorem Moved.effects_self (hmoved : session.Moved id state next) :
    next.effects id = if Accepts (session.effects id) state then state else session.effects id := by
  rw [hmoved.effects]
  split
  · exact Function.update_self _ _ _
  · rfl

theorem Accepts.created {old : Nat} (haccepted : Accepts old state)
    (hstate : state = voiceStateConfig ∨ state = voiceStateActive) : old ≠ voiceStateInit := by
  obtain hconfig | hactive := hstate
  · exact haccepted.2.1 hconfig
  · exact Nat.ne_of_gt (Nat.lt_of_lt_of_le (by decide) (haccepted.2.2 hactive))

theorem Moved.sound (hmoved : session.Moved id state next) (hsound : session.Sound)
    (hstate : state = voiceStateConfig ∨ state = voiceStateActive) : next.Sound where
  toMarked := hmoved.marked
  created other hother := by
    rw [hmoved.createdMsk, hsound.created other hother]
    by_cases hid : other = id
    · rw [hid, hmoved.effects_self]
      split
      next haccepted =>
        have hnew : state ≠ voiceStateInit := by
          obtain hconfig | hactive := hstate
          · rw [hconfig]; decide
          · rw [hactive]; decide
        exact iff_of_true (haccepted.created hstate) hnew
      · exact Iff.rfl
    · rw [hmoved.effects_of_ne hid]
  high other hother := by rw [hmoved.createdMsk, hsound.high other hother]

theorem Moved.sound_create (hmoved : session.Moved id voiceStateCreated next) (hsound : session.Sound)
    (hid : id < numId) (hinit : session.effects id = voiceStateInit) :
    VoiceSession.Sound { next with createdMsk := next.createdMsk ||| (1 : BitVec 32) <<< id } where
  toMarked := ⟨hmoved.marked.known, hmoved.marked.enabled⟩
  created other hother := by
    show (next.createdMsk ||| (1 : BitVec 32) <<< id).getLsbD other = true ↔ next.effects other ≠ voiceStateInit
    rw [getLsbD_setBit _ (Nat.lt_trans hother (by decide)), hmoved.createdMsk]
    by_cases hsame : other = id
    · rw [hsame, hmoved.effects_self, hinit, if_pos (by decide)]
      simp
    · rw [hmoved.effects_of_ne hsame, ← hsound.created other hother]
      simp [hsame]
  high other hother := by
    show (next.createdMsk ||| (1 : BitVec 32) <<< id).getLsbD other = false
    by_cases hbound : other < 32
    · rw [getLsbD_setBit _ hbound, hmoved.createdMsk, hsound.high other hother]
      simpa using (Nat.ne_of_gt (Nat.lt_of_lt_of_le hid hother))
    · exact BitVec.getLsbD_of_ge _ _ (Nat.le_of_not_lt hbound)

theorem Sound.sessionCreateEffect (hsound : session.Sound) (hid : id < numId)
    (hinit : session.effects id = voiceStateInit) :
    ∃ next, session.sessionCreateEffect id = some (0, next) ∧ next.Sound ∧ next.io = session.io ∧
      next.effects = Function.update session.effects id voiceStateCreated := by
  have hbase : ∃ base : VoiceSession, base.Sound ∧ base.io = session.io ∧ base.effects = session.effects ∧
      session.sessionCreateEffect id =
        (base.effectSetState id voiceStateCreated).map fun result =>
          if result.1 < 0 then (result.1, result.2)
          else (result.1, { result.2 with createdMsk := result.2.createdMsk ||| (1 : BitVec 32) <<< id }) := by
    unfold VoiceSession.sessionCreateEffect
    rw [if_pos hid]
    by_cases hempty : session.createdMsk = 0
    · rw [if_pos hempty]
      exact ⟨{ session with config := defaultConfig session.config, enabledMsk := 0, processedMsk := 0 },
        Sound.of_init (hsound.createdMsk_eq_zero.mp hempty) hempty rfl, rfl, rfl, rfl⟩
    · rw [if_neg hempty]
      exact ⟨session, hsound, rfl, rfl, rfl⟩
  obtain ⟨base, hbase, hio, heffects, hcreate⟩ := hbase
  obtain ⟨next, hresult, hmoved⟩ := effectSetState_spec hbase.toMarked hid (by decide : voiceStateCreated ≤ _)
  have haccepted : Accepts (base.effects id) voiceStateCreated := by
    rw [heffects, hinit]
    decide
  rw [if_pos haccepted] at hresult
  refine ⟨_, by rw [hcreate, hresult]; rfl, hmoved.sound_create hbase hid (by rw [heffects, hinit]),
    hmoved.io.trans hio, ?_⟩
  show next.effects = _
  rw [hmoved.effects, if_pos haccepted, heffects]

theorem Moved.sound_release (hmoved : session.Moved id voiceStateInit next) (hsound : session.Sound) :
    VoiceSession.Sound { next with createdMsk := next.createdMsk &&& ~~~((1 : BitVec 32) <<< id) } where
  toMarked := ⟨hmoved.marked.known, hmoved.marked.enabled⟩
  created other hother := by
    show (next.createdMsk &&& ~~~((1 : BitVec 32) <<< id)).getLsbD other = true ↔
      next.effects other ≠ voiceStateInit
    rw [getLsbD_clearBit _ (Nat.lt_trans hother (by decide)), hmoved.createdMsk]
    by_cases hsame : other = id
    · rw [hsame, hmoved.effects_self, if_pos (by simp [Accepts])]
      simp
    · rw [hmoved.effects_of_ne hsame, ← hsound.created other hother]
      simp [hsame]
  high other hother := by
    show (next.createdMsk &&& ~~~((1 : BitVec 32) <<< id)).getLsbD other = false
    rw [BitVec.getLsbD_and, hmoved.createdMsk, hsound.high other hother, Bool.false_and]

end VoiceSession

end Nozomi
