import Nozomi.Audio.Streams

/-!
# What the functions for streams and calls leave alone

The functions for one stream leave the call alone, and those for the call leave the outputs that the device
remembers. The usecases of calls are told by how often an id is in the list.
-/

namespace Nozomi

open AudioDevices

theorem StreamOut.type_ne (stream : StreamOut) : stream.usecase.type ≠ .voiceCall := by
  rw [stream.usecaseType]
  exact UsecaseType.noConfusion

theorem StreamIn.type_ne (stream : StreamIn) : stream.usecase.type ≠ .voiceCall := by
  rw [stream.usecaseType]
  exact UsecaseType.noConfusion

namespace AudioDevice

/-! ### What a stream leaves alone -/

/-- The mode, the outputs that are remembered, and the usecases of the outputs stay. -/
structure Remembers (before after : AudioDevice) : Prop where
  mode : after.mode = before.mode
  primaryOutput : after.primaryOutput = before.primaryOutput
  voiceTxOutput : after.voiceTxOutput = before.voiceTxOutput
  currentCallOutput : after.currentCallOutput = before.currentCallOutput
  inCall : after.inCall = before.inCall
  usecases : ∀ out, (after.outputs out).usecase = (before.outputs out).usecase

structure KeepsCall (before after : AudioDevice) : Prop extends Remembers before after where
  callActive : after.callActive = before.callActive
  calls : ∀ id : UsecaseId, id.type = .voiceCall → after.ids.count id = before.ids.count id

section

variable {adev : AudioDevice} {usecase : AudioUsecase} {position : Nat}

theorem Remembers.trans {first second third : AudioDevice} (hfirst : first.Remembers second)
    (hsecond : second.Remembers third) : first.Remembers third where
  mode := hsecond.mode.trans hfirst.mode
  primaryOutput := hsecond.primaryOutput.trans hfirst.primaryOutput
  voiceTxOutput := hsecond.voiceTxOutput.trans hfirst.voiceTxOutput
  currentCallOutput := hsecond.currentCallOutput.trans hfirst.currentCallOutput
  inCall := hsecond.inCall.trans hfirst.inCall
  usecases := fun out => (hsecond.usecases out).trans (hfirst.usecases out)

theorem KeepsCall.refl (adev : AudioDevice) : adev.KeepsCall adev :=
  ⟨⟨rfl, rfl, rfl, rfl, rfl, fun _ => rfl⟩, rfl, fun _ _ => rfl⟩

theorem KeepsCall.trans {first second third : AudioDevice} (hfirst : first.KeepsCall second)
    (hsecond : second.KeepsCall third) : first.KeepsCall third where
  toRemembers := hfirst.toRemembers.trans hsecond.toRemembers
  callActive := hsecond.callActive.trans hfirst.callActive
  calls := fun id hid => (hsecond.calls id hid).trans (hfirst.calls id hid)

theorem SameUsecases.keepsCall {other : AudioDevice} (hsame : adev.SameUsecases other) :
    adev.KeepsCall other where
  mode := congrArg AudioSettings.mode hsame.2
  primaryOutput := congrArg AudioSettings.primaryOutput hsame.2
  voiceTxOutput := congrArg AudioSettings.voiceTxOutput hsame.2
  currentCallOutput := congrArg AudioSettings.currentCallOutput hsame.2
  inCall := congrArg AudioSettings.inCall hsame.2
  usecases := fun out => congrArg (fun settings => (settings.outputs out).usecase) hsame.2
  callActive := congrArg AudioSettings.callActive hsame.2
  calls := fun id _ => congrArg (List.count id) hsame.ids

theorem removeUsecase_ids (adev : AudioDevice) (position : Nat) :
    (adev.removeUsecase position).ids = adev.ids.eraseIdx position :=
  (List.eraseIdx_map _ _ _).symm

theorem ids_perm (hitem : adev.usecaseList[position]? = some usecase) :
    (usecase.id :: (adev.removeUsecase position).ids).Perm adev.ids := by
  have hid : adev.ids[position]? = some usecase.id := by
    rw [ids, List.getElem?_map, hitem]
    rfl
  obtain ⟨hlt, hget⟩ := List.getElem?_eq_some_iff.mp hid
  rw [removeUsecase_ids, ← hget]
  exact List.getElem_cons_eraseIdx_perm hlt

theorem KeepsCall.removeUsecase (hitem : adev.usecaseList[position]? = some usecase)
    (htype : usecase.type ≠ .voiceCall) : adev.KeepsCall (adev.removeUsecase position) := by
  refine { KeepsCall.refl adev with calls := fun id hid => ?_ }
  have hne : usecase.id ≠ id := by
    intro hsame
    exact htype (by rw [← usecase.typeOfId, hsame, hid])
  rw [← (ids_perm hitem).count_eq, List.count_cons_of_ne hne]

theorem KeepsCall.addUsecase {id : UsecaseId} (devices : AudioDevices) (stream : Nat)
    (htype : id.type ≠ .voiceCall) : adev.KeepsCall (adev.addUsecase id devices stream) := by
  refine { KeepsCall.refl adev with calls := fun other hother => ?_ }
  have hne : id ≠ other := by
    intro hsame
    exact htype (by rw [hsame, hother])
  rw [addUsecase_ids, List.count_append, List.count_singleton, if_neg (by simpa using hne), Nat.add_zero]

theorem KeepsCall.checkAndSetHdmiChannels (channels : Nat) :
    adev.KeepsCall (adev.checkAndSetHdmiChannels channels) := by
  obtain ⟨current, applied, hset⟩ := checkAndSetHdmiChannels_eq adev channels
  rw [hset]
  exact ⟨⟨rfl, rfl, rfl, rfl, rfl, fun _ => rfl⟩, rfl, fun _ _ => rfl⟩

theorem KeepsCall.setStreamHdmiChannels (out : Nat) : adev.KeepsCall (adev.setStreamHdmiChannels out) := by
  rw [AudioDevice.setStreamHdmiChannels]
  split
  · exact KeepsCall.checkAndSetHdmiChannels _
  · exact KeepsCall.refl adev

theorem KeepsCall.disableAudioRoute (usecase : AudioUsecase) :
    adev.KeepsCall (adev.disableAudioRoute usecase) :=
  ⟨⟨rfl, rfl, rfl, rfl, rfl, fun _ => rfl⟩, rfl, fun _ _ => rfl⟩

theorem KeepsCall.remove {id : UsecaseId} (hfound : adev.getUsecaseFromList id = some (usecase, position))
    (hid : id.type ≠ .voiceCall) (sndDevice : SndDevice) :
    adev.KeepsCall (((adev.disableAudioRoute usecase).disableSndDevice sndDevice).removeUsecase position) := by
  have hdisabled : adev.KeepsCall ((adev.disableAudioRoute usecase).disableSndDevice sndDevice) :=
    (KeepsCall.disableAudioRoute usecase).trans (disableSndDevice_same _ sndDevice).keepsCall
  apply hdisabled.trans
  apply KeepsCall.removeUsecase
  · rw [disableSndDevice_usecaseList]
    exact getUsecaseFromList_item hfound
  · rw [getUsecaseFromList_type hfound]
    exact hid

theorem KeepsCall.stopOutputStream (out : Nat) : adev.KeepsCall (adev.stopOutputStream out) := by
  rw [AudioDevice.stopOutputStream]
  split
  · exact KeepsCall.refl adev
  · rename_i usecase position hfound
    have hremoved := KeepsCall.remove hfound (StreamOut.type_ne _) usecase.outSndDevice
    dsimp only
    split
    · exact hremoved.trans (KeepsCall.checkAndSetHdmiChannels _)
    · exact hremoved

theorem KeepsCall.startOutputStream (out : Nat) (opened : Bool) :
    adev.KeepsCall (adev.startOutputStream out opened).1 := by
  have hadded := (@KeepsCall.setStreamHdmiChannels adev out).trans
    (KeepsCall.addUsecase (adev.outputs out).devices out (StreamOut.type_ne (adev.outputs out)))
  have hselected := hadded.trans (selectDevices_same _ (adev.outputs out).usecase).keepsCall
  rw [AudioDevice.startOutputStream]
  dsimp only
  split
  · exact KeepsCall.refl adev
  · split
    · exact hselected
    · exact hselected.trans (KeepsCall.stopOutputStream out)

theorem KeepsCall.setActiveInput (input : Option Nat) :
    adev.KeepsCall { adev with activeInput := input } :=
  ⟨⟨rfl, rfl, rfl, rfl, rfl, fun _ => rfl⟩, rfl, fun _ _ => rfl⟩

theorem KeepsCall.stopInputStream (input : Nat) : adev.KeepsCall (adev.stopInputStream input) := by
  rw [AudioDevice.stopInputStream]
  apply (KeepsCall.setActiveInput none).trans
  dsimp only
  split
  · exact KeepsCall.refl _
  · rename_i usecase position hfound
    exact KeepsCall.remove hfound (StreamIn.type_ne (adev.inputs input)) usecase.inSndDevice

theorem KeepsCall.startInputStream (input : Nat) (opened : Bool) :
    adev.KeepsCall (adev.startInputStream input opened).1 := by
  have hadded := (@KeepsCall.setActiveInput adev (some input)).trans
    (KeepsCall.addUsecase (adev.inputs input).device input (StreamIn.type_ne (adev.inputs input)))
  have hselected := hadded.trans (selectDevices_same _ (adev.inputs input).usecase).keepsCall
  rw [AudioDevice.startInputStream]
  dsimp only
  split
  · exact KeepsCall.setActiveInput none
  · split
    · exact hselected
    · exact hselected.trans (KeepsCall.stopInputStream input)

theorem KeepsCall.setOutput {out : Nat} {stream : StreamOut}
    (husecase : stream.usecase = (adev.outputs out).usecase) :
    adev.KeepsCall (adev.setOutput out stream) := by
  refine { KeepsCall.refl adev with usecases := fun other => ?_ }
  show (Function.update adev.outputs out stream other).usecase = _
  by_cases hsame : other = out
  · subst hsame
    rw [Function.update_self, husecase]
  · rw [Function.update_of_ne hsame]

theorem KeepsCall.setInput (input : Nat) (stream : StreamIn) :
    adev.KeepsCall (adev.setInput input stream) :=
  ⟨⟨rfl, rfl, rfl, rfl, rfl, fun _ => rfl⟩, rfl, fun _ _ => rfl⟩

theorem KeepsCall.outWrite (out : Nat) (opened : Bool) : adev.KeepsCall (adev.outWrite out opened) := by
  have hawake : adev.KeepsCall (adev.setOutput out { adev.outputs out with standby := false }) :=
    KeepsCall.setOutput rfl
  rw [AudioDevice.outWrite]
  split
  · have hstarted := hawake.trans (KeepsCall.startOutputStream out opened)
    dsimp only
    split
    · exact hstarted
    · exact hstarted.trans (KeepsCall.setOutput rfl)
  · exact KeepsCall.refl adev

theorem KeepsCall.outStandby (out : Nat) : adev.KeepsCall (adev.outStandby out) := by
  have hasleep : adev.KeepsCall (adev.setOutput out { adev.outputs out with standby := true }) :=
    KeepsCall.setOutput rfl
  rw [AudioDevice.outStandby]
  split
  · exact KeepsCall.refl adev
  · exact hasleep.trans (KeepsCall.stopOutputStream out)

theorem KeepsCall.inRead (input : Nat) (opened : Bool) : adev.KeepsCall (adev.inRead input opened) := by
  have hstarted := @KeepsCall.startInputStream adev input opened
  rw [AudioDevice.inRead]
  split
  · dsimp only
    split
    · exact hstarted.trans (KeepsCall.setInput input _)
    · exact hstarted
  · exact KeepsCall.refl adev

theorem KeepsCall.inStandby (input : Nat) : adev.KeepsCall (adev.inStandby input) := by
  have hasleep := @KeepsCall.setInput adev input { adev.inputs input with standby := true }
  rw [AudioDevice.inStandby]
  split
  · exact KeepsCall.refl adev
  · exact hasleep.trans (KeepsCall.stopInputStream input)

end

theorem isSome_getUsecaseFromList {adev : AudioDevice} {id : UsecaseId} :
    (adev.getUsecaseFromList id).isSome = true ↔ id ∈ adev.ids := by
  rw [getUsecaseFromList, List.find?_isSome]
  constructor
  · rintro ⟨entry, hentry, hid⟩
    have hmem := List.mem_of_getElem? (List.mk_mem_zipIdx_iff_getElem?.mp hentry)
    exact List.mem_map.mpr ⟨entry.1, hmem, of_decide_eq_true hid⟩
  · intro hid
    obtain ⟨usecase, hmem, rfl⟩ := List.mem_map.mp hid
    obtain ⟨index, hindex⟩ := List.getElem?_of_mem hmem
    exact ⟨(usecase, index), List.mk_mem_zipIdx_iff_getElem?.mpr hindex, decide_eq_true rfl⟩

/-! ### Calls -/

section

variable {adev next : AudioDevice}

variable {id : UsecaseId}

theorem mem_ids_of_found {usecase : AudioUsecase} {position : Nat}
    (hfound : adev.getUsecaseFromList id = some (usecase, position)) : id ∈ adev.ids := by
  rw [← isSome_getUsecaseFromList, hfound]
  rfl

theorem voiceStopUsecase_spec (hlisted : id ∈ adev.ids) :
    adev.Remembers (adev.voiceStopUsecase id) ∧ (adev.voiceStopUsecase id).callActive = false ∧
      (id :: (adev.voiceStopUsecase id).ids).Perm adev.ids := by
  rw [AudioDevice.voiceStopUsecase]
  split
  · rename_i hfound
    rw [← isSome_getUsecaseFromList, hfound] at hlisted
    exact Bool.noConfusion hlisted
  rename_i usecase position hfound
  have hdisabled := (disableSndDevice_same (({ adev with callActive := false } :
    AudioDevice).disableAudioRoute usecase) usecase.outSndDevice).trans
      (disableSndDevice_same _ usecase.inSndDevice)
  have hkeeps := hdisabled.keepsCall
  refine ⟨⟨hkeeps.mode, hkeeps.primaryOutput, hkeeps.voiceTxOutput, hkeeps.currentCallOutput,
    hkeeps.inCall, hkeeps.usecases⟩, hkeeps.callActive, ?_⟩
  have hperm := ids_perm (getUsecaseFromList_item hfound)
  rw [getUsecaseFromList_id hfound, removeUsecase_ids] at hperm
  dsimp only
  rw [removeUsecase_ids, hdisabled.ids]
  exact hperm

theorem voiceStopUsecase_of_notMem (hlisted : id ∉ adev.ids) : adev.voiceStopUsecase id = adev := by
  rw [AudioDevice.voiceStopUsecase]
  split
  · rfl
  · rename_i hfound
    exact absurd (mem_ids_of_found hfound) hlisted

theorem Remembers.voiceStopUsecase (id : UsecaseId) : adev.Remembers (adev.voiceStopUsecase id) := by
  by_cases hlisted : id ∈ adev.ids
  · exact (voiceStopUsecase_spec hlisted).1
  · rw [voiceStopUsecase_of_notMem hlisted]
    exact (KeepsCall.refl adev).toRemembers

theorem pcmDeviceTable_nonneg (id : UsecaseId) : 0 ≤ (pcmDeviceTable id).1 ∧ 0 ≤ (pcmDeviceTable id).2 := by
  cases id <;> decide

theorem voiceStartUsecase_spec {opened : Bool} (hnext : adev.voiceStartUsecase id opened = some next) :
    adev.Remembers next ∧ next.callActive = opened ∧
      ((if opened then [] else [id]) ++ next.ids).Perm (adev.ids ++ [id]) := by
  obtain ⟨out, -, rfl⟩ := Option.map_eq_some_iff.mp hnext
  have hadded : adev.Remembers (adev.addUsecase id (adev.outputs out).devices out) :=
    ⟨rfl, rfl, rfl, rfl, rfl, fun _ => rfl⟩
  have hselects := selectDevices_same (adev.addUsecase id (adev.outputs out).devices out) id
  have hselected := hadded.trans hselects.keepsCall.toRemembers
  have hids := hselects.ids
  rw [addUsecase_ids] at hids
  have htable := pcmDeviceTable_nonneg id
  dsimp only
  rw [if_neg (by omega)]
  cases opened with
  | true =>
    rw [if_pos rfl]
    refine ⟨⟨hselected.mode, hselected.primaryOutput, hselected.voiceTxOutput,
      hselected.currentCallOutput, hselected.inCall, hselected.usecases⟩, rfl, ?_⟩
    exact List.Perm.of_eq hids
  | false =>
    rw [if_neg Bool.false_ne_true]
    obtain ⟨hremembers, hinactive, hperm⟩ := @voiceStopUsecase_spec
      ((adev.addUsecase id (adev.outputs out).devices out).selectDevices id) id (by rw [hids]; simp)
    rw [hids] at hperm
    exact ⟨hselected.trans hremembers, hinactive, hperm⟩

theorem setStream_keepsCall (position out : Nat) : adev.KeepsCall (adev.setStream position out) := by
  refine { KeepsCall.refl adev with calls := fun id _ => congrArg (List.count id) ?_ }
  apply map_modify
  exact fun _ => rfl

theorem KeepsCall.voiceUpdateDevices {entry : AudioUsecase × Nat}
    (hnext : adev.voiceUpdateDevices entry = some next) : adev.KeepsCall next := by
  rw [AudioDevice.voiceUpdateDevices] at hnext
  split at hnext
  · obtain ⟨out, -, rfl⟩ := Option.map_eq_some_iff.mp hnext
    exact (setStream_keepsCall entry.2 out).trans (selectDevices_same _ _).keepsCall
  · obtain rfl := Option.some.inj hnext
    exact KeepsCall.refl adev

theorem KeepsCall.updateAll (hnext : adev.voiceUpdateDevicesForAllVoiceUsecases = some next) :
    adev.KeepsCall next :=
  @runSteps_invariant _ _ _ (fun device _ => adev.KeepsCall device)
    (fun _ _ _ _ hkeeps hstep => hkeeps.trans (KeepsCall.voiceUpdateDevices hstep)) _ [] _ _
    (KeepsCall.refl adev) hnext

def StartsCall (adev : AudioDevice) (out : Nat) : Prop :=
  adev.outputDrivesCall out = true ∧ adev.inCall = false ∧ adev.mode = .inCall

instance (adev : AudioDevice) (out : Nat) : Decidable (adev.StartsCall out) :=
  inferInstanceAs (Decidable (_ ∧ _))

theorem routeCall_of_starts {out : Nat} (hstarts : adev.StartsCall out) (opened : Bool) :
    adev.routeCall out opened =
      ({ adev with currentCallOutput := some out, inCall := true } : AudioDevice).voiceStartUsecase .voiceCall
        opened := by
  rw [routeCall, if_pos hstarts.1, if_pos (by rw [hstarts.2.1]; rfl), if_pos hstarts.2.2, voiceStartCall]

theorem routeCall_of_not {out : Nat} {opened : Bool} (hstarts : ¬adev.StartsCall out)
    (hnext : adev.routeCall out opened = some next) :
    ∃ current, (current = adev.currentCallOutput ∨ current = some out) ∧
      ({ adev with currentCallOutput := current } : AudioDevice).KeepsCall next := by
  rw [routeCall] at hnext
  by_cases hdrives : adev.outputDrivesCall out = true
  · rw [if_pos hdrives] at hnext
    by_cases hin : adev.inCall = true
    · rw [if_neg (by simp [hin])] at hnext
      exact ⟨some out, .inr rfl, KeepsCall.updateAll hnext⟩
    · rw [if_pos (by simp [hin]), if_neg fun hmode => hstarts ⟨hdrives, Bool.eq_false_iff.mpr hin, hmode⟩]
        at hnext
      obtain rfl := Option.some.inj hnext
      exact ⟨adev.currentCallOutput, .inl rfl, KeepsCall.refl adev⟩
  · rw [if_neg hdrives] at hnext
    obtain rfl := Option.some.inj hnext
    exact ⟨adev.currentCallOutput, .inl rfl, KeepsCall.refl adev⟩

theorem KeepsCall.routeOutput (out : Nat) (devices : AudioDevices) :
    adev.KeepsCall (adev.routeOutput out devices) := by
  have hrouted : adev.KeepsCall (adev.setOutput out { adev.outputs out with devices := devices }) :=
    KeepsCall.setOutput rfl
  rw [AudioDevice.routeOutput]
  dsimp only
  split
  · exact hrouted
  · exact hrouted.trans (selectDevices_same _ _).keepsCall

end

end AudioDevice

end Nozomi
