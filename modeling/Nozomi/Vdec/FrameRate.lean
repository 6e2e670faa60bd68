import Mathlib.Data.List.Chain
import Nozomi.Base.Run

/-!
# The frame interval

`set_frame_rate` and `adjust_timestamp` of `omx_vdec.cpp`: the least difference of two timestamps, one behind
the other, is kept as the frame interval, with which timestamps that are missing are predicted. Differences
are of 64 bits and the interval of 32.
-/

namespace Nozomi

def FrameTiming.llongMax : Int64 := Int64.maxValue

def FrameTiming.validTs (timestamp : Int64) : Bool := timestamp < llongMax

/-- What `set_frame_rate` and `adjust_timestamp` use of `class omx_vdec`. -/
structure FrameTiming where
  prevTs : Int64
  rstPrevTs : Bool
  frmInt : UInt32
  timestampAdjust : Bool
  fpsNumerator : UInt32
  fpsDenominator : UInt32
  deriving DecidableEq, Repr

namespace FrameTiming

variable (timing : FrameTiming)

def difference (actTimestamp : Int64) : Int64 :=
  if actTimestamp > timing.prevTs then actTimestamp - timing.prevTs else timing.prevTs - actTimestamp

def setFrameRate (actTimestamp : Int64) : FrameTiming :=
  if validTs actTimestamp ∧ validTs timing.prevTs ∧ actTimestamp ≠ timing.prevTs ∧
      timing.difference actTimestamp > 2000 then
    let newFrameInterval := UInt32.ofInt (timing.difference actTimestamp).toInt
    if newFrameInterval < timing.frmInt ∨ timing.frmInt = 0 then
      if newFrameInterval ≠ 0 then
        { timing with
          prevTs := actTimestamp
          frmInt := newFrameInterval
          fpsNumerator := 1000000
          fpsDenominator := newFrameInterval }
      else { timing with prevTs := actTimestamp, frmInt := newFrameInterval }
    else { timing with prevTs := actTimestamp }
  else { timing with prevTs := actTimestamp }

def codecCond (actTimestamp : Int64) : Bool :=
  if timing.timestampAdjust then !validTs actTimestamp || timing.difference actTimestamp ≤ 2000
  else !validTs actTimestamp || actTimestamp = timing.prevTs

def adjustTimestamp (actTimestamp : Int64) : FrameTiming × Int64 :=
  if timing.rstPrevTs ∧ validTs actTimestamp then
    ({ timing with prevTs := actTimestamp, rstPrevTs := false }, actTimestamp)
  else if validTs timing.prevTs then
    if timing.frmInt > 0 ∧ timing.codecCond actTimestamp then
      let predicted := timing.prevTs + Int64.ofInt timing.frmInt.toNat
      ({ timing with prevTs := predicted }, predicted)
    else (timing.setFrameRate actTimestamp, actTimestamp)
  else if timing.frmInt > 0 then ({ timing with prevTs := 0, rstPrevTs := true }, 0)
  else (timing, actTimestamp)

end FrameTiming

inductive TimingCall
  | setFrameRate (actTimestamp : Int64)
  | adjustTimestamp (actTimestamp : Int64)
  deriving DecidableEq, Repr

namespace FrameTiming

variable (timing : FrameTiming)

def call : TimingCall → FrameTiming × Int64
  | .setFrameRate actTimestamp => (timing.setFrameRate actTimestamp, actTimestamp)
  | .adjustTimestamp actTimestamp => timing.adjustTimestamp actTimestamp

def intervals (timing : FrameTiming) : List TimingCall → List (Int64 × UInt32)
  | [] => []
  | call :: calls =>
    ((timing.call call).2, (timing.call call).1.frmInt) :: intervals (timing.call call).1 calls

end FrameTiming

/-! ### The law of the frame interval -/

/-- From one timestamp to the next the interval is not raised and not cleared once it is set, and what it is set
to is the difference of the two, both valid and more than 2000 apart. -/
def KeepsInterval (before after : Int64 × UInt32) : Prop :=
  (before.2 ≠ 0 → after.2 ≠ 0 ∧ after.2 ≤ before.2) ∧
    (after.2 ≠ before.2 → FrameTiming.validTs before.1 ∧ FrameTiming.validTs after.1 ∧
      after.2.toNat = (after.1.toInt - before.1.toInt).natAbs ∧ 2000 < after.2.toNat)

instance (before after : Int64 × UInt32) : Decidable (KeepsInterval before after) :=
  inferInstanceAs (Decidable ((_ → _) ∧ (_ → _)))

namespace FrameTiming

variable (timing : FrameTiming)

/-- The difference that `set_frame_rate` takes for the interval fits into 32 bits, or what is left of it there
does not change the interval. -/
def Fits (actTimestamp : Int64) : Prop :=
  validTs actTimestamp → validTs timing.prevTs → timing.difference actTimestamp > 2000 →
    (timing.difference actTimestamp).toInt < 2 ^ 32 ∨
      if timing.frmInt = 0 then (timing.difference actTimestamp).toInt % 2 ^ 32 = 0
      else (timing.frmInt.toNat : Int) ≤ (timing.difference actTimestamp).toInt % 2 ^ 32

instance (actTimestamp : Int64) : Decidable (timing.Fits actTimestamp) :=
  inferInstanceAs (Decidable (_ → _ → _ → _))

/-- The condition for a call: where it goes to `set_frame_rate` the difference fits. -/
def FitsCall : TimingCall → Prop
  | .setFrameRate actTimestamp => timing.Fits actTimestamp
  | .adjustTimestamp actTimestamp =>
    ¬(timing.rstPrevTs ∧ validTs actTimestamp) → ¬(timing.frmInt > 0 ∧ timing.codecCond actTimestamp) →
      timing.Fits actTimestamp

instance : ∀ call, Decidable (timing.FitsCall call)
  | .setFrameRate actTimestamp => inferInstanceAs (Decidable (timing.Fits actTimestamp))
  | .adjustTimestamp _ => inferInstanceAs (Decidable (_ → _ → _))

theorem difference_toInt {actTimestamp : Int64} (hlarge : timing.difference actTimestamp > 2000) :
    (timing.difference actTimestamp).toInt = (actTimestamp.toInt - timing.prevTs.toInt).natAbs ∧
      2000 < (timing.difference actTimestamp).toInt := by
  have htwothousand : (2000 : Int64).toInt = 2000 := by decide
  have hlow := Int64.lt_iff_toInt_lt.mp hlarge
  rw [htwothousand] at hlow
  refine ⟨?_, hlow⟩
  have hact := actTimestamp.toInt_lt
  have hact' := actTimestamp.le_toInt
  have hprev := timing.prevTs.toInt_lt
  have hprev' := timing.prevTs.le_toInt
  rw [difference] at hlow ⊢
  split at hlow
  next hafter =>
    have hafter := Int64.lt_iff_toInt_lt.mp hafter
    rw [if_pos ‹_›]
    rw [Int64.toInt_sub, Int.bmod_def] at hlow ⊢
    split at hlow
    · rw [if_pos ‹_›]
      omega
    · omega
  next hafter =>
    have hafter : ¬timing.prevTs.toInt < actTimestamp.toInt := fun hlt => hafter (Int64.lt_iff_toInt_lt.mpr hlt)
    rw [if_neg ‹_›]
    rw [Int64.toInt_sub, Int.bmod_def] at hlow ⊢
    split at hlow
    · rw [if_pos ‹_›]
      omega
    · omega

theorem ofInt_toNat (value : Int) : ((UInt32.ofInt value).toNat : Int) = value % 2 ^ 32 := by
  rw [UInt32.ofInt, UInt32.toNat_ofNat']
  omega

theorem setFrameRate_frmInt (actTimestamp : Int64) : (timing.setFrameRate actTimestamp).frmInt =
    if (validTs actTimestamp ∧ validTs timing.prevTs ∧ timing.difference actTimestamp > 2000) ∧
        (UInt32.ofInt (timing.difference actTimestamp).toInt < timing.frmInt ∨ timing.frmInt = 0) then
      UInt32.ofInt (timing.difference actTimestamp).toInt
    else timing.frmInt := by
  have hne (hlarge : timing.difference actTimestamp > 2000) : actTimestamp ≠ timing.prevTs := by
    rintro heq
    obtain ⟨hexact, hlow⟩ := timing.difference_toInt hlarge
    rw [heq, Int.sub_self] at hexact
    rw [heq, hexact] at hlow
    exact absurd hlow (by decide)
  rw [setFrameRate]
  by_cases htaken : validTs actTimestamp ∧ validTs timing.prevTs ∧ timing.difference actTimestamp > 2000
  · have hall : validTs actTimestamp ∧ validTs timing.prevTs ∧ actTimestamp ≠ timing.prevTs ∧
        timing.difference actTimestamp > 2000 :=
      ⟨htaken.1, htaken.2.1, hne htaken.2.2, htaken.2.2⟩
    rw [if_pos hall]
    dsimp only
    by_cases hless : UInt32.ofInt (timing.difference actTimestamp).toInt < timing.frmInt ∨ timing.frmInt = 0
    · rw [if_pos hless, if_pos (And.intro htaken hless)]
      split
      · rfl
      · rfl
    · rw [if_neg hless, if_neg fun hand => hless hand.2]
  · rw [if_neg fun hand => htaken ⟨hand.1, hand.2.1, hand.2.2.2⟩, if_neg fun hand => htaken hand.1]

theorem keepsInterval_same (frmInt : UInt32) (first second : Int64) :
    KeepsInterval (first, frmInt) (second, frmInt) :=
  ⟨fun hset => ⟨hset, UInt32.le_refl frmInt⟩, fun hne => absurd rfl hne⟩

theorem setFrameRate_keepsInterval (actTimestamp last : Int64)
    (hlast : validTs timing.prevTs → timing.prevTs = last) :
    KeepsInterval (last, timing.frmInt) (actTimestamp, (timing.setFrameRate actTimestamp).frmInt) ↔
      timing.Fits actTimestamp := by
  rw [setFrameRate_frmInt]
  by_cases htaken : validTs actTimestamp ∧ validTs timing.prevTs ∧ timing.difference actTimestamp > 2000
  · obtain ⟨hact, hprev, hlarge⟩ := htaken
    obtain ⟨hexact, hlow⟩ := timing.difference_toInt hlarge
    have hnew := ofInt_toNat (timing.difference actTimestamp).toInt
    have hzero : timing.frmInt = 0 ↔ timing.frmInt.toNat = 0 := UInt32.toNat_inj.symm
    rw [← hlast hprev]
    have hfits : timing.Fits actTimestamp ↔ (timing.difference actTimestamp).toInt < 2 ^ 32 ∨
        if timing.frmInt = 0 then (timing.difference actTimestamp).toInt % 2 ^ 32 = 0
        else (timing.frmInt.toNat : Int) ≤ (timing.difference actTimestamp).toInt % 2 ^ 32 :=
      ⟨fun hfits => hfits hact hprev hlarge, fun hfits _ _ _ => hfits⟩
    rw [hfits, ← hnew]
    by_cases hless : UInt32.ofInt (timing.difference actTimestamp).toInt < timing.frmInt ∨ timing.frmInt = 0
    · rw [if_pos (And.intro ⟨hact, hprev, hlarge⟩ hless)]
      have hltIff : UInt32.ofInt (timing.difference actTimestamp).toInt < timing.frmInt ↔
          (UInt32.ofInt (timing.difference actTimestamp).toInt).toNat < timing.frmInt.toNat :=
        UInt32.lt_iff_toNat_lt
      generalize UInt32.ofInt (timing.difference actTimestamp).toInt = new at hnew hless hltIff ⊢
      constructor
      · rintro ⟨-, hchanged⟩
        by_cases hdiff : new = timing.frmInt
        · right
          rw [hdiff]
          split
          next hnone => exact congrArg Nat.cast (hzero.mp hnone)
          next => exact Int.le_refl _
        · obtain ⟨-, -, hvalue, -⟩ := hchanged hdiff
          have hvalue : new.toNat = (actTimestamp.toInt - timing.prevTs.toInt).natAbs := hvalue
          exact .inl (by omega)
      · rintro (hsmall | hsame)
        · have hvalue : new.toNat = (actTimestamp.toInt - timing.prevTs.toInt).natAbs := by omega
          refine ⟨fun hset => ⟨?_, ?_⟩, fun _ => ⟨hprev, hact, hvalue, ?_⟩⟩
          · intro hnone
            have hnone : new.toNat = 0 := UInt32.toNat_inj.mpr hnone
            omega
          · exact UInt32.le_of_lt (hless.resolve_right hset)
          · change 2000 < new.toNat
            omega
        · have heq : new = timing.frmInt := by
            apply UInt32.toNat_inj.mp
            rcases hless with hlt | hnone
            · have hlt := hltIff.mp hlt
              rw [if_neg fun hnone => by rw [hzero.mp hnone] at hlt; exact Nat.not_lt_zero _ hlt] at hsame
              omega
            · rw [if_pos hnone] at hsame
              rw [hzero.mp hnone]
              omega
          rw [heq]
          exact keepsInterval_same _ _ _
    · rw [if_neg fun hand => hless hand.2]
      refine iff_of_true (keepsInterval_same _ _ _) (.inr ?_)
      rw [if_neg fun hnone => hless (.inr hnone)]
      exact Int.ofNat_le.mpr (UInt32.not_lt.mp fun hlt => hless (.inl hlt))
  · rw [if_neg fun hand => htaken hand.1]
    exact iff_of_true (keepsInterval_same _ _ _) fun hact hprev hlarge => absurd ⟨hact, hprev, hlarge⟩ htaken

def Follows (last : Int64) : Prop := validTs timing.prevTs → timing.prevTs = last

theorem setFrameRate_prevTs (actTimestamp : Int64) :
    (timing.setFrameRate actTimestamp).prevTs = actTimestamp := by
  rw [setFrameRate]
  dsimp only
  split
  · split
    · split
      · rfl
      · rfl
    · rfl
  · rfl

variable {timing}

theorem call_keepsInterval {last : Int64} (hlast : timing.Follows last) (call : TimingCall) :
    (timing.call call).1.Follows (timing.call call).2 ∧
      (KeepsInterval (last, timing.frmInt) ((timing.call call).2, (timing.call call).1.frmInt) ↔
        timing.FitsCall call) := by
  have hset (actTimestamp : Int64) : (timing.setFrameRate actTimestamp).Follows actTimestamp :=
    fun _ => timing.setFrameRate_prevTs actTimestamp
  cases call with
  | setFrameRate actTimestamp =>
    exact ⟨hset actTimestamp, timing.setFrameRate_keepsInterval actTimestamp last hlast⟩
  | adjustTimestamp actTimestamp =>
    rw [FrameTiming.call, adjustTimestamp, FitsCall]
    by_cases hreset : timing.rstPrevTs ∧ validTs actTimestamp
    · rw [if_pos hreset]
      exact ⟨fun _ => rfl, iff_of_true (keepsInterval_same _ _ _) fun hnot => absurd hreset hnot⟩
    rw [if_neg hreset]
    by_cases hprev : validTs timing.prevTs
    · rw [if_pos hprev]
      by_cases hpredict : timing.frmInt > 0 ∧ timing.codecCond actTimestamp
      · rw [if_pos hpredict]
        exact ⟨fun _ => rfl, iff_of_true (keepsInterval_same _ _ _) fun _ hnot => absurd hpredict hnot⟩
      · rw [if_neg hpredict]
        refine ⟨hset actTimestamp, ?_⟩
        have hkeeps := timing.setFrameRate_keepsInterval actTimestamp last hlast
        exact hkeeps.trans ⟨fun hfits _ _ => hfits, fun hfits => hfits hreset hpredict⟩
    · have hfits : timing.Fits actTimestamp := fun _ hvalid => absurd hvalid hprev
      rw [if_neg hprev]
      split
      · exact ⟨fun _ => rfl, iff_of_true (keepsInterval_same _ _ _) fun _ _ => hfits⟩
      · exact ⟨fun hvalid => absurd hvalid hprev,
          iff_of_true (keepsInterval_same _ _ _) fun _ _ => hfits⟩

/-- **The frame interval.** In a run from any state the law holds from each timestamp to the next exactly where
every difference that is taken for the interval fits. -/
theorem intervals_keepInterval (timing : FrameTiming) (calls : List TimingCall) :
    ((timing.prevTs, timing.frmInt) :: timing.intervals calls).IsChain KeepsInterval ↔
      RunMeets (fun timing call => some (FrameTiming.call timing call).1) FitsCall timing calls := by
  have hrun (calls : List TimingCall) : ∀ (timing : FrameTiming) (last : Int64), timing.Follows last →
      (((last, timing.frmInt) :: timing.intervals calls).IsChain KeepsInterval ↔
        RunMeets (fun timing call => some (FrameTiming.call timing call).1) FitsCall timing calls) := by
    induction calls with
    | nil => exact fun _ _ _ => iff_of_true (.singleton _) trivial
    | cons call calls ih =>
      intro timing last hlast
      obtain ⟨hnext, hkeeps⟩ := call_keepsInterval hlast call
      rw [intervals, List.isChain_cons_cons, hkeeps, ih _ _ hnext, RunMeets]
      simp only [Option.some.injEq, forall_eq']
  exact hrun calls timing timing.prevTs fun _ => rfl

def new : FrameTiming := ⟨llongMax, true, 0, false, 0, 0⟩

/-- In a stream of 30 frames a second one timestamp is 2^32 behind the one before: the interval is cleared. -/
theorem intervals_not_keepInterval :
    ¬((new.prevTs, new.frmInt) :: new.intervals
      [.adjustTimestamp 0, .adjustTimestamp 33333, .adjustTimestamp (33333 + 2 ^ 32)]).IsChain
        KeepsInterval := by
  decide +kernel

end FrameTiming

end Nozomi
