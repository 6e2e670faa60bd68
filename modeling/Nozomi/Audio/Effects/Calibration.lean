import Mathlib.Tactic.Linarith
import Mathlib.Tactic.NormNum
import Nozomi.Audio.Effects.VolumeListener
import Nozomi.Base.Run

/-!
# The calibration level of the speaker

The level is right when it is the one that the table assigns to the loudest effect on the speaker. It is
computed again only by commands whose device is the speaker alone, while the loudest effect is searched among
all whose devices include the speaker.
-/

namespace Nozomi

open AudioDevices

/-! ### Levels -/

def leastVolume : ℚ := 1774 / 1000000

def assignedLevel (volume : ℚ) : Int :=
  if volume < 501187 / 1000000 then 5
  else if volume < 630957 / 1000000 then 4
  else if volume < 794328 / 1000000 then 3
  else if volume < 1 then 2
  else 1

theorem gainDepCalLevel_eq {volume : ℚ} (hvolume : leastVolume ≤ volume) :
    gainDepCalLevel volume = assignedLevel volume := by
  unfold leastVolume at hvolume
  have hpos : ¬ volume ≤ 0 := by linarith
  unfold gainDepCalLevel assignedLevel
  rw [if_neg hpos]
  obtain h1 | h1 := lt_or_ge volume (501187 / 1000000)
  · have hlt : ¬ 1 ≤ volume := by linarith
    simp [searchLevel, volumeCurveGainMappingTable, h1, hvolume, hlt]
  obtain h2 | h2 := lt_or_ge volume (630957 / 1000000)
  · have hlt : ¬ 1 ≤ volume := by linarith
    simp [searchLevel, volumeCurveGainMappingTable, h1, h2, not_lt.mpr h1, hlt]
  obtain h3 | h3 := lt_or_ge volume (794328 / 1000000)
  · have hlt : ¬ 1 ≤ volume := by linarith
    simp [searchLevel, volumeCurveGainMappingTable, h2, h3, not_lt.mpr h1, not_lt.mpr h2, hlt]
  obtain h4 | h4 := lt_or_ge volume 1
  · simp [searchLevel, volumeCurveGainMappingTable, h3, h4, not_lt.mpr h1, not_lt.mpr h2, not_lt.mpr h3,
      not_le.mpr h4]
  · simp [volumeCurveGainMappingTable, h4, not_lt.mpr h1, not_lt.mpr h2, not_lt.mpr h3, not_lt.mpr h4]

theorem assignedLevel_ne (volume : ℚ) : assignedLevel volume ≠ -1 := by
  unfold assignedLevel
  split_ifs <;> decide

theorem gainDepCalLevel_none {volume : ℚ} (hpos : 0 < volume) (hlow : volume < leastVolume) :
    gainDepCalLevel volume = -1 := by
  unfold leastVolume at hlow
  have h0 : ¬ 1774 / 1000000 ≤ volume := not_le.mpr hlow
  have h1 : ¬ 501187 / 1000000 ≤ volume := by linarith
  have h2 : ¬ 630957 / 1000000 ≤ volume := by linarith
  have h3 : ¬ 794328 / 1000000 ≤ volume := by linarith
  have h4 : ¬ 1 ≤ volume := by linarith
  simp [gainDepCalLevel, searchLevel, volumeCurveGainMappingTable, h0, h1, h2, h3, h4, not_le.mpr hpos]

namespace VolListener

variable {listener next : VolListener}

/-! ### The loudest effect -/

def speakerVolumes (listener : VolListener) : List ℚ :=
  ((listener.volEffectList.map listener.contexts).filter (·.onSpeaker)).map (·.average)

def IsLoudest (listener : VolListener) (volume : ℚ) : Prop :=
  volume ∈ listener.speakerVolumes ∧ ∀ other ∈ listener.speakerVolumes, other ≤ volume

theorem newVol_eq_foldl (listener : VolListener) : listener.newVol = listener.speakerVolumes.foldl max 0 := by
  unfold newVol speakerVolumes
  generalize (0 : ℚ) = start
  induction listener.volEffectList generalizing start with
  | nil => rfl
  | cons handle handles ih =>
    simp only [List.foldl_cons, List.map_cons, ih]
    by_cases hspeaker : (listener.contexts handle).onSpeaker = true
    · rw [List.filter_cons_of_pos hspeaker, List.map_cons, List.foldl_cons]
      by_cases hlouder : start < (listener.contexts handle).average
      · simp [hspeaker, hlouder, max_eq_right hlouder.le]
      · simp [hspeaker, hlouder, max_eq_left (not_lt.mp hlouder)]
    · rw [List.filter_cons_of_neg hspeaker]
      simp [hspeaker]

theorem newVol_max (listener : VolListener) :
    listener.newVol ∈ 0 :: listener.speakerVolumes ∧
      ∀ volume ∈ 0 :: listener.speakerVolumes, volume ≤ listener.newVol := by
  rw [← List.max?_eq_some_iff, List.max?_cons', newVol_eq_foldl]

theorem newVol_nonneg (listener : VolListener) : 0 ≤ listener.newVol :=
  listener.newVol_max.2 0 List.mem_cons_self

theorem forall_isLoudest (listener : VolListener) (property : ℚ → Prop) :
    (∀ volume, listener.IsLoudest volume → leastVolume ≤ volume → property volume) ↔
      (leastVolume ≤ listener.newVol → property listener.newVol) := by
  obtain ⟨hmem, hmax⟩ := listener.newVol_max
  constructor
  · intro hall hloud
    refine hall _ ⟨?_, fun other hother => hmax other (List.mem_cons_of_mem 0 hother)⟩ hloud
    obtain hzero | hvolume := List.mem_cons.mp hmem
    · rw [hzero] at hloud
      exact absurd hloud (by norm_num [leastVolume])
    · exact hvolume
  · rintro hnew volume ⟨hvolume, hlargest⟩ hloud
    have hsame : listener.newVol = volume := by
      refine le_antisymm ?_ (hmax volume (List.mem_cons_of_mem 0 hvolume))
      obtain hzero | hother := List.mem_cons.mp hmem
      · rw [hzero]
        exact le_trans (by norm_num [leastVolume]) hloud
      · exact hlargest _ hother
    exact hsame ▸ hnew (hsame ▸ hloud)

/-! ### The level that was pushed -/

def LevelRight (listener : VolListener) : Prop :=
  ∀ volume, listener.IsLoudest volume → leastVolume ≤ volume →
    listener.currentGainDepCalLevel = assignedLevel volume

/-- The level belongs to the volume with which it was pushed, or nothing but silence was pushed. -/
def Pushed (listener : VolListener) : Prop :=
  listener.currentVol = 0 ∨
    leastVolume ≤ listener.currentVol ∧ listener.currentGainDepCalLevel = assignedLevel listener.currentVol

/-- The invariant of runs: handles that were not given out are not in the list. -/
structure Sound (listener : VolListener) : Prop where
  pushed : listener.Pushed
  right : listener.LevelRight
  handles : ∀ handle ∈ listener.volEffectList, handle < listener.allocated

theorem levelRight_iff (listener : VolListener) :
    listener.LevelRight ↔
      (leastVolume ≤ listener.newVol → listener.currentGainDepCalLevel = assignedLevel listener.newVol) :=
  listener.forall_isLoudest fun volume => listener.currentGainDepCalLevel = assignedLevel volume

def succeeds : SendGainDepCal := some fun _ => true

theorem checkAndSetGainDepCal_succeeds (listener : VolListener) :
    listener.checkAndSetGainDepCal succeeds =
      if listener.newVol ≠ listener.currentVol ∧ gainDepCalLevel listener.newVol ≠ -1 ∧
          gainDepCalLevel listener.newVol ≠ listener.currentGainDepCalLevel then
        { listener with
          currentGainDepCalLevel := gainDepCalLevel listener.newVol
          currentVol := listener.newVol }
      else listener := by
  unfold checkAndSetGainDepCal
  by_cases hchanged : listener.newVol ≠ listener.currentVol <;>
    by_cases hlevel : gainDepCalLevel listener.newVol ≠ -1 <;> simp [hchanged, hlevel, succeeds]

theorem checkAndSetGainDepCal_right (hpushed : listener.Pushed) :
    (listener.checkAndSetGainDepCal succeeds).Pushed ∧
      (listener.checkAndSetGainDepCal succeeds).LevelRight := by
  rw [checkAndSetGainDepCal_succeeds]
  split
  next hpush =>
    have hkind : listener.newVol = 0 ∨ leastVolume ≤ listener.newVol := by
      obtain hzero | hpos := listener.newVol_nonneg.eq_or_lt
      · exact .inl hzero.symm
      · exact .inr (not_lt.mp fun hlow => hpush.2.1 (gainDepCalLevel_none hpos hlow))
    refine ⟨?_, (levelRight_iff _).mpr fun hloud => gainDepCalLevel_eq hloud⟩
    obtain hzero | hloud := hkind
    · exact .inl hzero
    · exact .inr ⟨hloud, gainDepCalLevel_eq hloud⟩
  next hkeep =>
    refine ⟨hpushed, (levelRight_iff _).mpr fun hloud => ?_⟩
    rw [gainDepCalLevel_eq hloud] at hkeep
    by_cases hstored : listener.newVol = listener.currentVol
    · obtain hzero | ⟨_, hlevel⟩ := hpushed
      · rw [hstored, hzero] at hloud
        exact absurd hloud (by norm_num [leastVolume])
      · rw [hlevel, hstored]
    · exact (not_not.mp fun hother => hkeep ⟨hstored, assignedLevel_ne _, hother⟩).symm

/-! ### The commands -/

def asked (listener : VolListener) (handle : EffectHandle) (command : VolCommand) (args : VolCommandArgs) :
    VolListenerContext :=
  let context := listener.contexts handle
  match command, args.cmdData with
  | .enable, _ =>
    if args.badReply = some false ∧ context.state = .initialized then { context with state := .active }
    else context
  | .disable, _ =>
    if args.badReply = some false ∧ context.state = .active then { context with state := .initialized }
    else context
  | .setDevice, some (newDevice, _) => { context with devId := newDevice }
  | .setVolume, some (left, right) =>
    if args.cmdSize = 8 then { context with leftVol := volumeOf left, rightVol := volumeOf right } else context
  | _, _ => context

/-- The loudest effect is too quiet for a level, or its level is that of the loudest effect before. -/
def KeepsLevel (before after : VolListener) : Prop :=
  ∀ volume, after.IsLoudest volume → leastVolume ≤ volume →
    ∃ old, before.IsLoudest old ∧ leastVolume ≤ old ∧ assignedLevel old = assignedLevel volume

/-- The device of the call is the speaker alone, or the loudest effect keeps its level. -/
def NoneMissed (listener : VolListener) : VolCall → Prop
  | .release handle =>
    (∃ node ∈ listener.removed handle, (listener.contexts node).devId = outSpeaker) ∨
      KeepsLevel listener (listener.remove handle)
  | .command (some handle) command args =>
    (listener.contexts handle).devId = outSpeaker ∨
      (command = .setDevice ∧ ∃ data ∈ args.cmdData, data.1 = outSpeaker) ∨
        KeepsLevel listener (listener.setContext handle (listener.asked handle command args))
  | _ => True

theorem keepsLevel_iff (before after : VolListener) :
    KeepsLevel before after ↔
      (leastVolume ≤ after.newVol → leastVolume ≤ before.newVol ∧
        assignedLevel before.newVol = assignedLevel after.newVol) := by
  unfold KeepsLevel
  rw [after.forall_isLoudest fun volume =>
    ∃ old, before.IsLoudest old ∧ leastVolume ≤ old ∧ assignedLevel old = assignedLevel volume]
  refine imp_congr_right fun _ => ?_
  have hold := before.forall_isLoudest fun old => assignedLevel old ≠ assignedLevel after.newVol
  rw [← not_iff_not]
  push Not
  exact hold

instance (listener : VolListener) (volume : ℚ) : Decidable (listener.IsLoudest volume) :=
  inferInstanceAs (Decidable (volume ∈ listener.speakerVolumes ∧ ∀ other ∈ listener.speakerVolumes, other ≤ volume))

instance (before after : VolListener) : Decidable (KeepsLevel before after) :=
  decidable_of_iff _ (keepsLevel_iff before after).symm

instance (listener : VolListener) : ∀ call, Decidable (listener.NoneMissed call)
  | .release handle =>
    inferInstanceAs (Decidable ((∃ node ∈ listener.removed handle, (listener.contexts node).devId = outSpeaker) ∨
      KeepsLevel listener (listener.remove handle)))
  | .command (some handle) command args =>
    inferInstanceAs (Decidable ((listener.contexts handle).devId = outSpeaker ∨
      (command = .setDevice ∧ ∃ data ∈ args.cmdData, data.1 = outSpeaker) ∨
        KeepsLevel listener (listener.setContext handle (listener.asked handle command args))))
  | .create .. => inferInstanceAs (Decidable True)
  | .command none _ _ => inferInstanceAs (Decidable True)

theorem LevelRight.of_keepsLevel {before after : VolListener} (hright : before.LevelRight)
    (hlevel : after.currentGainDepCalLevel = before.currentGainDepCalLevel)
    (hkeeps : KeepsLevel before after) : after.LevelRight := by
  intro volume hloudest hloud
  obtain ⟨old, hold, hloudOld, hsame⟩ := hkeeps volume hloudest hloud
  rw [hlevel, hright old hold hloudOld, hsame]

theorem Sound.recomputeIf {changed : VolListener} {recompute : Bool} (hpushed : changed.Pushed)
    (hhandles : ∀ handle ∈ changed.volEffectList, handle < changed.allocated)
    (hskip : recompute = false → changed.LevelRight) : (changed.recomputeIf succeeds recompute).Sound := by
  cases recompute with
  | false => exact ⟨hpushed, hskip rfl, hhandles⟩
  | true =>
    obtain ⟨hpushedAfter, hright⟩ := checkAndSetGainDepCal_right hpushed
    refine ⟨hpushedAfter, hright, ?_⟩
    show ∀ handle ∈ (changed.checkAndSetGainDepCal succeeds).volEffectList,
      handle < (changed.checkAndSetGainDepCal succeeds).allocated
    rw [checkAndSetGainDepCal_succeeds]
    split <;> exact hhandles

theorem Sound.unlock (hsound : listener.Sound) : listener.unlock.Sound := ⟨hsound.pushed, hsound.right, hsound.handles⟩

theorem Sound.lock (hsound : listener.Sound) : listener.lock.Sound := ⟨hsound.pushed, hsound.right, hsound.handles⟩

theorem Sound.setContext (hsound : listener.Sound) (handle : EffectHandle) (context : VolListenerContext)
    {recompute : Bool}
    (hskip : recompute = false → KeepsLevel listener (listener.setContext handle context)) :
    ((listener.lock.setContext handle context).recomputeIf succeeds recompute).unlock.Sound :=
  (@Sound.recomputeIf (listener.lock.setContext handle context) recompute hsound.pushed hsound.handles
    fun hno => @LevelRight.of_keepsLevel listener (listener.lock.setContext handle context) hsound.right rfl
      (hskip hno)).unlock

variable {handle : EffectHandle}

theorem Sound.switchState (hsound : listener.Sound) {source target : VolListenerState}
    (hmissed : (listener.contexts handle).state = source → (listener.contexts handle).devId = outSpeaker ∨
      KeepsLevel listener (listener.setContext handle { listener.contexts handle with state := target })) :
    (listener.lock.switchState succeeds handle source target).2.Sound := by
  unfold VolListener.switchState
  dsimp only
  split
  · exact hsound.lock.unlock
  next hstate =>
    refine hsound.setContext handle _ fun hno => ?_
    exact (hmissed (not_not.mp hstate)).resolve_left (of_decide_eq_false hno)

theorem Sound.setDevice (hsound : listener.Sound) {newDevice : AudioDevices}
    (hmissed : (listener.contexts handle).devId = outSpeaker ∨ newDevice = outSpeaker ∨
      KeepsLevel listener (listener.setContext handle { listener.contexts handle with devId := newDevice })) :
    (listener.lock.setDevice succeeds handle newDevice).Sound := by
  refine hsound.setContext handle _ fun hno => ?_
  rw [Bool.or_eq_false_iff] at hno
  exact (hmissed.resolve_left (of_decide_eq_false hno.1)).resolve_left (of_decide_eq_false hno.2)

theorem Sound.setVolume (hsound : listener.Sound) {left right : BitVec 32}
    (hmissed : (listener.contexts handle).devId = outSpeaker ∨
      KeepsLevel listener (listener.setContext handle
        { listener.contexts handle with leftVol := volumeOf left, rightVol := volumeOf right })) :
    (listener.lock.setVolume succeeds handle left right).Sound := by
  refine hsound.setContext handle _ fun hno => ?_
  exact hmissed.resolve_left (of_decide_eq_false hno)

theorem Sound.volEffectCommand (hsound : listener.Sound) {self : Option EffectHandle} {command : VolCommand}
    {args : VolCommandArgs} {status : Int}
    (hmissed : listener.NoneMissed (.command self command args))
    (hcall : listener.volEffectCommand succeeds self command args = some (status, next)) : next.Sound := by
  have hkept : ∀ {other : Int} {result : VolListener}, some (other, result) = some (status, next) →
      result.Sound → next.Sound := by
    intro other result hresult hsoundResult
    obtain ⟨-, rfl⟩ := Prod.mk.inj (Option.some.inj hresult)
    exact hsoundResult
  unfold VolListener.volEffectCommand at hcall
  split at hcall
  · cases hcall
  cases self with
  | none => exact hkept hcall hsound.lock.unlock
  | some handle =>
    simp only [NoneMissed] at hmissed
    dsimp only at hcall
    split at hcall
    · cases hcall
    split at hcall
    · exact hkept hcall hsound.lock.unlock
    cases command <;> dsimp only at hcall
    case init =>
      obtain ⟨bad, -, hresult⟩ := Option.map_eq_some_iff.mp hcall
      cases bad
      · exact hkept (congrArg some hresult) hsound.lock.unlock
      · exact hkept (congrArg some hresult) hsound.lock
    case offload =>
      obtain ⟨bad, -, hresult⟩ := Option.map_eq_some_iff.mp hcall
      cases bad
      · exact hkept (congrArg some hresult) hsound.lock.unlock
      · exact hkept (congrArg some hresult) hsound.lock
    case setConfig =>
      split at hcall
      · exact hkept hcall hsound.lock
      · exact hkept hcall hsound.lock.unlock
    case enable =>
      obtain ⟨bad, hbad, hresult⟩ := Option.map_eq_some_iff.mp hcall
      cases bad
      · refine hkept (congrArg some hresult) (hsound.switchState fun hstate => ?_)
        simpa [asked, hbad, hstate] using hmissed
      · exact hkept (congrArg some hresult) hsound.lock.unlock
    case disable =>
      obtain ⟨bad, hbad, hresult⟩ := Option.map_eq_some_iff.mp hcall
      cases bad
      · refine hkept (congrArg some hresult) (hsound.switchState fun hstate => ?_)
        simpa [asked, hbad, hstate] using hmissed
      · exact hkept (congrArg some hresult) hsound.lock.unlock
    case setDevice =>
      split at hcall
      · exact hkept hcall hsound.lock.unlock
      next newDevice second hdata =>
        refine hkept hcall (hsound.setDevice ?_)
        simpa [asked, hdata] using hmissed
    case setVolume =>
      split at hcall
      · exact hkept hcall hsound.lock.unlock
      next left right hdata =>
        split at hcall
        · exact hkept hcall hsound.lock.unlock
        next hsize =>
          refine hkept hcall (hsound.setVolume ?_)
          simpa [asked, hdata, not_not.mp hsize] using hmissed
    all_goals exact hkept hcall hsound.lock.unlock

/-! ### Creation and release -/

theorem speakerVolumes_append {context : VolListenerContext} {allocated : Nat}
    (hfresh : ∀ other ∈ listener.volEffectList, other ≠ handle) (hquiet : context.onSpeaker = false) :
    speakerVolumes { listener.setContext handle context with
      volEffectList := listener.volEffectList ++ [handle]
      allocated := allocated } = listener.speakerVolumes := by
  have hothers : listener.volEffectList.map (Function.update listener.contexts handle context) =
      listener.volEffectList.map listener.contexts :=
    List.map_congr_left fun other hother => Function.update_of_ne (hfresh other hother) context listener.contexts
  unfold speakerVolumes
  simp only [VolListener.setContext, List.map_append, List.filter_append, hothers]
  simp [hquiet]

theorem Sound.volPrcLibCreate (hsound : listener.Sound) {uuid : Option EffectUuid} {sessionId : Int}
    {hasHandle callocSucceeds : Bool} {status : Int}
    (hcall : listener.volPrcLibCreate uuid sessionId hasHandle callocSucceeds = some (status, next)) :
    next.Sound := by
  have hkept : ∀ {other : Int}, some (other, listener) = some (status, next) → next.Sound := by
    intro other hresult
    obtain ⟨-, rfl⟩ := Prod.mk.inj (Option.some.inj hresult)
    exact hsound
  unfold VolListener.volPrcLibCreate at hcall
  split at hcall
  · exact hkept hcall
  split at hcall
  · exact hkept hcall
  split at hcall
  · exact hkept hcall
  split at hcall
  · exact hkept hcall
  split at hcall
  · cases hcall
  obtain ⟨-, rfl⟩ := Prod.mk.inj (Option.some.inj hcall)
  refine ⟨hsound.pushed, fun volume hloudest hloud => ?_, fun handle hmem => ?_⟩
  · refine hsound.right volume ?_ hloud
    unfold IsLoudest at hloudest ⊢
    rwa [speakerVolumes_append (fun other hother => Nat.ne_of_lt (hsound.handles other hother)) rfl] at hloudest
  · obtain hmem | hmem := List.mem_append.mp hmem
    · exact Nat.lt_succ_of_lt (hsound.handles handle hmem)
    · rw [List.mem_singleton.mp hmem]
      exact Nat.lt_succ_self _

theorem Sound.volPrcLibRelease (hsound : listener.Sound) {status : Int}
    (hmissed : listener.NoneMissed (.release handle))
    (hcall : listener.volPrcLibRelease succeeds handle = some (status, next)) : next.Sound := by
  unfold VolListener.volPrcLibRelease at hcall
  split at hcall
  · cases hcall
  obtain ⟨-, rfl⟩ := Prod.mk.inj (Option.some.inj hcall)
  have hhandles : ∀ node ∈ (listener.remove handle).volEffectList, node < (listener.remove handle).allocated := by
    unfold remove
    dsimp only
    split <;> exact fun node hnode => hsound.handles node (List.mem_of_mem_filter hnode)
  refine @Sound.recomputeIf (listener.remove handle) _ ?_ hhandles fun hno => ?_
  · unfold remove
    dsimp only
    split
    · exact .inl rfl
    · exact hsound.pushed
  have hquiet : ¬ ∃ node ∈ listener.removed handle, (listener.contexts node).devId = outSpeaker := by
    rintro ⟨node, hnode, hspeaker⟩
    rw [List.any_eq_false] at hno
    exact hno node hnode (decide_eq_true hspeaker)
  have hkeeps := hmissed.resolve_left hquiet
  by_cases hempty : (listener.remove handle).volEffectList = []
  · rintro volume ⟨hvolume, -⟩
    unfold speakerVolumes at hvolume
    rw [hempty] at hvolume
    exact absurd hvolume List.not_mem_nil
  · refine hsound.right.of_keepsLevel ?_ hkeeps
    unfold remove at hempty ⊢
    dsimp only at hempty ⊢
    split
    next hnone => rw [if_pos hnone] at hempty; exact absurd hnone hempty
    next => rfl

/-! ### Runs -/

theorem Sound.initOnce : VolListener.initOnce.Sound :=
  ⟨.inl rfl, fun _ hloudest => absurd hloudest.1 List.not_mem_nil, fun _ hhandle => absurd hhandle List.not_mem_nil⟩

theorem Sound.call (hsound : listener.Sound) {call : VolCall} {status : Int} (hmissed : listener.NoneMissed call)
    (hcall : listener.call succeeds call = some (status, next)) : next.Sound := by
  cases call with
  | create uuid sessionId hasHandle callocSucceeds => exact hsound.volPrcLibCreate hcall
  | release handle => exact hsound.volPrcLibRelease hmissed hcall
  | command self command args => exact hsound.volEffectCommand hmissed hcall

def step (listener : VolListener) (call : VolCall) : Option VolListener :=
  (listener.call succeeds call).map Prod.snd

/-- The level is right after every call where the commands miss no change of the loudest effect. -/
theorem levelRight_of_noneMissed (calls : List VolCall) (last : VolListener)
    (hmeets : RunMeets step NoneMissed initOnce calls)
    (hrun : runSteps step initOnce calls = some last) : last.LevelRight := by
  refine (runSteps_state_of_meets Sound ?_ hmeets Sound.initOnce hrun).right
  intro listener call next hmissed hsound hstep
  obtain ⟨⟨status, _⟩, hcall, rfl⟩ := Option.map_eq_some_iff.mp hstep
  exact hsound.call hmissed hcall

end VolListener

def alarmGoesOff : List VolCall :=
  let args : VolCommandArgs := ⟨8, none, some 4, true⟩
  [.create (some VolDescriptor.alarm.uuid) 1 true true, .create (some VolDescriptor.ring.uuid) 2 true true,
    .command (some 0) .setDevice { args with cmdData := some (outSpeaker, 0) },
    .command (some 0) .enable args,
    .command (some 0) .setVolume { args with cmdData := some (0x00200000, 0x00200000) },
    .command (some 0) .setVolume { args with cmdData := some (0x01000000, 0x01000000) },
    .command (some 1) .enable args]

theorem VolListener.alarmGoesOff_levelRight :
    ∃ last, runSteps step initOnce alarmGoesOff = some last ∧ last.currentGainDepCalLevel = 1 ∧
      last.LevelRight :=
  ⟨((runSteps step initOnce alarmGoesOff).get (by decide +kernel)), (Option.some_get _).symm, by decide +kernel,
    levelRight_of_noneMissed alarmGoesOff _ (by decide +kernel) (Option.some_get _).symm⟩

def musicOnBoth : List VolCall :=
  let args : VolCommandArgs := ⟨8, none, some 4, true⟩
  [.create (some VolDescriptor.music.uuid) 1 true true,
    .command (some 0) .setDevice { args with cmdData := some (outSpeaker ||| outWiredHeadset, 0) },
    .command (some 0) .enable args,
    .command (some 0) .setVolume { args with cmdData := some (0x01000000, 0x01000000) }]

theorem VolListener.musicOnBoth_notLevelRight :
    ∃ last, runSteps step initOnce musicOnBoth = some last ∧ last.IsLoudest 1 ∧
      last.currentGainDepCalLevel = -1 ∧ ¬ last.LevelRight := by
  have hloudest : ((runSteps step initOnce musicOnBoth).get (by decide +kernel)).IsLoudest 1 := by decide +kernel
  refine ⟨_, (Option.some_get (by decide +kernel)).symm, hloudest, by decide +kernel, fun hright => ?_⟩
  exact absurd (hright 1 hloudest (by decide +kernel)) (by decide +kernel)

end Nozomi
