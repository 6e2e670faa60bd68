import Mathlib.Data.List.Basic
import Nozomi.Audio.Platform
import Nozomi.Base.Run

/-!
# Usecases and their sound devices

The build is that for msm8660 without extensions: no speaker protection, no hands-free profile, one voice
session, and no sound device that is split. A usecase is referred to by its position in the list, which
stands for its address. What is left out are the calibration, the sidetone, the state of the modem, and the
return codes that callers only log.
-/

namespace Nozomi

open AudioDevices

/-- `struct audio_usecase`; `stream` is the address of an output, or of an input for `PCM_CAPTURE`. -/
structure AudioUsecase where
  id : UsecaseId
  type : UsecaseType
  typeOfId : id.type = type
  devices : AudioDevices
  outSndDevice : SndDevice
  inSndDevice : SndDevice
  stream : Nat

def AudioUsecase.routedSndDevice (usecase : AudioUsecase) : SndDevice :=
  if usecase.type = .pcmCapture then usecase.inSndDevice else usecase.outSndDevice

def AudioUsecase.path (usecase : AudioUsecase) : Path :=
  .usecase usecase.id (platformAddBackendName usecase.routedSndDevice)

/-- `struct audio_device`, with the paths that are applied in the mixer. -/
structure AudioDevice extends AudioSettings where
  sndDevRefCnt : SndDevice → Int
  usecaseList : List AudioUsecase
  applied : Path → Bool

namespace AudioDevice

variable (adev : AudioDevice)

/-! ### Sound devices -/

def applyPath (path : Path) : AudioDevice :=
  { adev with applied := Function.update adev.applied path true }

def resetPath (path : Path) : AudioDevice :=
  { adev with applied := Function.update adev.applied path false }

def enableAudioRoute (usecase : AudioUsecase) : AudioDevice := adev.applyPath usecase.path

def disableAudioRoute (usecase : AudioUsecase) : AudioDevice := adev.resetPath usecase.path

def enableSndDevice (sndDevice : SndDevice) : AudioDevice :=
  if sndDevice = .none then adev
  else
    let counted :=
      { adev with
        sndDevRefCnt := Function.update adev.sndDevRefCnt sndDevice (adev.sndDevRefCnt sndDevice + 1) }
    if counted.sndDevRefCnt sndDevice > 1 then counted
    else counted.applyPath (.device (deviceTable sndDevice))

def disableSndDevice (sndDevice : SndDevice) : AudioDevice :=
  if sndDevice = .none then adev
  else if adev.sndDevRefCnt sndDevice ≤ 0 then adev
  else
    let counted :=
      { adev with
        sndDevRefCnt := Function.update adev.sndDevRefCnt sndDevice (adev.sndDevRefCnt sndDevice - 1) }
    if counted.sndDevRefCnt sndDevice = 0 then counted.resetPath (.device (deviceTable sndDevice))
    else counted

def switchDevice (switches : Nat → AudioUsecase → Bool) (id : UsecaseId) : Bool :=
  adev.usecaseList.zipIdx.any fun (usecase, position) => usecase.id = id && switches position usecase

def disableRoutes (switches : Nat → AudioUsecase → Bool) : AudioDevice :=
  { adev with
    applied := adev.usecaseList.zipIdx.foldl (fun applied (usecase, position) =>
      if switches position usecase then Function.update applied usecase.path false else applied)
      adev.applied }

def switchUsecases (switched : UsecaseId → Bool) (old : AudioUsecase → SndDevice)
    (route : AudioUsecase → AudioUsecase) (sndDevice : SndDevice) : AudioDevice :=
  let disabled := adev.usecaseList.foldl (fun adev usecase =>
    if switched usecase.id then adev.disableSndDevice (old usecase) else adev) adev
  let enabled := adev.usecaseList.foldl (fun adev usecase =>
    if switched usecase.id then adev.enableSndDevice sndDevice else adev) disabled
  { enabled with
    usecaseList := adev.usecaseList.map fun usecase =>
      if switched usecase.id then route usecase else usecase
    applied := adev.usecaseList.foldl (fun applied usecase =>
      if switched usecase.id then Function.update applied (route usecase).path true else applied)
      enabled.applied }

def switchesPlayback (ucInfo : Nat) (sndDevice : SndDevice) (position : Nat) (usecase : AudioUsecase) :
    Bool :=
  usecase.type ≠ .pcmCapture && position ≠ ucInfo && usecase.outSndDevice ≠ sndDevice &&
    usecase.devices.meets outAllCodecBackend && platformCheckBackendsMatch sndDevice usecase.outSndDevice

def switchesCapture (ucInfo : Nat) (sndDevice : SndDevice) (position : Nat) (usecase : AudioUsecase) :
    Bool :=
  usecase.type ≠ .pcmPlayback && position ≠ ucInfo && usecase.inSndDevice ≠ sndDevice &&
    usecase.id ≠ .audioSpkrCalibTx

def checkAndRoutePlaybackUsecases (ucInfo : Nat) (sndDevice : SndDevice) : AudioDevice :=
  (adev.disableRoutes (switchesPlayback ucInfo sndDevice)).switchUsecases
    (adev.switchDevice (switchesPlayback ucInfo sndDevice)) (·.outSndDevice)
    (fun usecase => { usecase with outSndDevice := sndDevice }) sndDevice

def checkAndRouteCaptureUsecases (ucInfo : Nat) (sndDevice : SndDevice) : AudioDevice :=
  (adev.disableRoutes (switchesCapture ucInfo sndDevice)).switchUsecases
    (adev.switchDevice (switchesCapture ucInfo sndDevice)) (·.inSndDevice)
    (fun usecase => { usecase with inSndDevice := sndDevice }) sndDevice

/-! ### Selecting devices -/

def getUsecaseFromList (ucId : UsecaseId) : Option (AudioUsecase × Nat) :=
  adev.usecaseList.zipIdx.find? fun (usecase, _) => usecase.id = ucId

def getVoiceUsecaseIdFromList : Option UsecaseId :=
  (adev.usecaseList.find? fun usecase => usecase.type = .voiceCall).map (·.id)

def borrowedSndDevices (usecase : AudioUsecase) : SndDevice × SndDevice :=
  if adev.inCall then
    match adev.getVoiceUsecaseIdFromList.bind adev.getUsecaseFromList with
    | some (vcUsecase, _) =>
      if vcUsecase.devices.meets outAllCodecBackend || usecase.devices = inVoiceCall then
        (vcUsecase.outSndDevice, vcUsecase.inSndDevice)
      else (.none, .none)
    | none => (.none, .none)
  else (.none, .none)

def communicates : Bool :=
  (adev.activeInput.map adev.inputs).any fun input =>
    input.source = .voiceCommunication || adev.mode = .inCommunication

def setDevices (position : Nat) (devices : AudioDevices) : AudioDevice :=
  { adev with
    usecaseList := adev.usecaseList.modify position fun usecase => { usecase with devices := devices } }

def leaveSndDevice (usecase : AudioUsecase) (sndDevice : SndDevice) : AudioDevice :=
  if sndDevice ≠ .none then (adev.disableAudioRoute usecase).disableSndDevice sndDevice else adev

def leaveSndDevices (usecase : AudioUsecase) : AudioDevice :=
  (adev.leaveSndDevice usecase usecase.outSndDevice).leaveSndDevice usecase usecase.inSndDevice

def enterOutput (position : Nat) (devices : AudioDevices) (outSndDevice : SndDevice) : AudioDevice :=
  if outSndDevice ≠ .none then
    let adev :=
      if devices.meets outAllCodecBackend then adev.checkAndRoutePlaybackUsecases position outSndDevice
      else adev
    adev.enableSndDevice outSndDevice
  else adev

def enterInput (position : Nat) (inSndDevice : SndDevice) : AudioDevice :=
  if inSndDevice ≠ .none then
    (adev.checkAndRouteCaptureUsecases position inSndDevice).enableSndDevice inSndDevice
  else adev

def setSndDevices (position : Nat) (outSndDevice inSndDevice : SndDevice) : AudioDevice :=
  { adev with
    usecaseList := adev.usecaseList.modify position fun usecase =>
      { usecase with inSndDevice := inSndDevice, outSndDevice := outSndDevice } }

def moveUsecase (position : Nat) (outSndDevice inSndDevice : SndDevice) : AudioDevice :=
  match adev.usecaseList[position]? with
  | none => adev
  | some usecase =>
    if outSndDevice = usecase.outSndDevice ∧ inSndDevice = usecase.inSndDevice then adev
    else
      let adev := adev.leaveSndDevices usecase
      let adev := adev.enterOutput position usecase.devices outSndDevice
      let adev := adev.enterInput position inSndDevice
      let adev := adev.setSndDevices position outSndDevice inSndDevice
      adev.enableAudioRoute { usecase with inSndDevice := inSndDevice, outSndDevice := outSndDevice }

def playbackSndDevice (usecase : AudioUsecase) : SndDevice :=
  if (adev.borrowedSndDevices usecase).1 = .none then
    adev.platformGetOutputSndDevice (adev.outputs usecase.stream).devices
  else (adev.borrowedSndDevices usecase).1

def captureSndDevice (usecase : AudioUsecase) : SndDevice :=
  if (adev.borrowedSndDevices usecase).2 = .none then
    let outDevice :=
      if adev.communicates then
        if usecase.id = .audioRecordAfeProxy then outTelephonyTx
        else ((adev.primaryOutput.map adev.outputs).map (·.devices)).getD deviceNone
      else deviceNone
    adev.platformGetInputSndDevice outDevice
  else (adev.borrowedSndDevices usecase).2

def selectsActiveInput (usecase : AudioUsecase) : Bool :=
  (adev.borrowedSndDevices usecase).1 = .none && adev.primaryOutput = some usecase.stream &&
    adev.communicates && adev.playbackSndDevice usecase ≠ usecase.outSndDevice

def selectDevicesWith (select : AudioDevice → UsecaseId → AudioDevice) (ucId : UsecaseId) : AudioDevice :=
  match adev.getUsecaseFromList ucId with
  | none => adev
  | some (usecase, position) =>
    match usecase.type with
    | .voiceCall | .pcmHfpCall =>
      let devices := (adev.outputs usecase.stream).devices
      (adev.setDevices position devices).moveUsecase position (adev.platformGetOutputSndDevice devices)
        (adev.platformGetInputSndDevice devices)
    | .pcmPlayback =>
      let routed := adev.setDevices position (adev.outputs usecase.stream).devices
      let selected :=
        match adev.activeInput with
        | some input =>
          if adev.selectsActiveInput usecase then select routed (adev.inputs input).usecase else routed
        | none => routed
      selected.moveUsecase position (adev.playbackSndDevice usecase) .none
    | .pcmCapture =>
      (adev.setDevices position (adev.inputs usecase.stream).device).moveUsecase position .none
        (adev.captureSndDevice usecase)

def selectDevices (ucId : UsecaseId) : AudioDevice :=
  adev.selectDevicesWith (fun adev ucId => adev.selectDevicesWith (fun adev _ => adev) ucId) ucId

/-! ### Streams -/

def pcmDeviceTable : UsecaseId → Int × Int
  | .audioPlaybackDeepBuffer => (0, 0)
  | .audioPlaybackLowLatency => (1, 1)
  | .audioPlaybackMultiCh => (2, 2)
  | .audioPlaybackOffload => (3, 3)
  | .audioRecord => (0, 0)
  | .audioRecordLowLatency => (1, 1)
  | .voiceCall => (4, 4)
  | _ => (0, 0)

def addUsecase (id : UsecaseId) (devices : AudioDevices) (stream : Nat) : AudioDevice :=
  { adev with
    usecaseList := adev.usecaseList ++ [⟨id, id.type, rfl, devices, .none, .none, stream⟩] }

def removeUsecase (position : Nat) : AudioDevice :=
  { adev with usecaseList := adev.usecaseList.eraseIdx position }

def allowHdmiChannelConfig : Bool :=
  adev.usecaseList.all fun usecase =>
    !(usecase.devices.meets outAuxDigital &&
      (usecase.id = .voiceCall || usecase.id = .audioPlaybackMultiCh))

def hdmiUsecases : List AudioUsecase :=
  adev.usecaseList.filter fun usecase =>
    usecase.type = .pcmPlayback && usecase.devices.meets outAuxDigital

def checkAndSetHdmiChannels (channels : Nat) : AudioDevice :=
  if !adev.allowHdmiChannelConfig then adev
  else if channels = adev.curHdmiChannels then adev
  else
    let derouted := adev.hdmiUsecases.foldl (fun adev usecase => adev.disableAudioRoute usecase)
      { adev with curHdmiChannels := channels }
    adev.hdmiUsecases.foldl (fun adev usecase => adev.enableAudioRoute usecase) derouted

def defaultHdmiOutChannels : Nat := 2

def stopOutputStream (out : Nat) : AudioDevice :=
  match adev.getUsecaseFromList (adev.outputs out).usecase with
  | none => adev
  | some (ucInfo, position) =>
    let removed :=
      ((adev.disableAudioRoute ucInfo).disableSndDevice ucInfo.outSndDevice).removeUsecase position
    if (adev.outputs out).devices.meets outAuxDigital then
      removed.checkAndSetHdmiChannels defaultHdmiOutChannels
    else removed

def setStreamHdmiChannels (out : Nat) : AudioDevice :=
  if (adev.outputs out).devices.meets outAuxDigital then
    adev.checkAndSetHdmiChannels (adev.outputs out).channels
  else adev

def startOutputStream (out : Nat) (opened : Bool) : AudioDevice × Bool :=
  let usecase := (adev.outputs out).usecase
  if (pcmDeviceTable usecase).1 < 0 then (adev, false)
  else
    let added := (adev.setStreamHdmiChannels out).addUsecase usecase (adev.outputs out).devices out
    let selected := added.selectDevices usecase
    if opened then (selected, true) else (selected.stopOutputStream out, false)

def stopInputStream (input : Nat) : AudioDevice :=
  let adev := { adev with activeInput := none }
  match adev.getUsecaseFromList (adev.inputs input).usecase with
  | none => adev
  | some (ucInfo, position) =>
    ((adev.disableAudioRoute ucInfo).disableSndDevice ucInfo.inSndDevice).removeUsecase position

def startInputStream (input : Nat) (opened : Bool) : AudioDevice × Bool :=
  let usecase := (adev.inputs input).usecase
  if (pcmDeviceTable usecase).2 < 0 then ({ adev with activeInput := none }, false)
  else
    let active := { adev with activeInput := some input }
    let selected := (active.addUsecase usecase (adev.inputs input).device input).selectDevices usecase
    if opened then (selected, true) else (selected.stopInputStream input, false)

def voiceStopUsecase (usecaseId : UsecaseId) : AudioDevice :=
  match adev.getUsecaseFromList usecaseId with
  | none => adev
  | some (ucInfo, position) =>
    let inactive := ({ adev with callActive := false } : AudioDevice).disableAudioRoute ucInfo
    ((inactive.disableSndDevice ucInfo.outSndDevice).disableSndDevice ucInfo.inSndDevice).removeUsecase
      position

def voiceStartUsecase (usecaseId : UsecaseId) (opened : Bool) : Option AudioDevice :=
  adev.currentCallOutput.map fun out =>
    let selected := (adev.addUsecase usecaseId (adev.outputs out).devices out).selectDevices usecaseId
    if (pcmDeviceTable usecaseId).1 < 0 ∨ (pcmDeviceTable usecaseId).2 < 0 then
      selected.voiceStopUsecase usecaseId
    else if opened then { selected with callActive := true }
    else selected.voiceStopUsecase usecaseId

/-! ### Calls -/

/-- A call of one of the functions, or any change of the streams and the other settings in between. -/
inductive Call where
  | startOutputStream (out : Nat) (opened : Bool)
  | stopOutputStream (out : Nat)
  | startInputStream (input : Nat) (opened : Bool)
  | stopInputStream (input : Nat)
  | voiceStartUsecase (usecaseId : UsecaseId) (voice : usecaseId.type = .voiceCall) (opened : Bool)
  | voiceStopUsecase (usecaseId : UsecaseId)
  | selectDevices (ucId : UsecaseId)
  | change (settings : AudioSettings)

def call (adev : AudioDevice) : Call → Option AudioDevice
  | .startOutputStream out opened => some (adev.startOutputStream out opened).1
  | .stopOutputStream out => some (adev.stopOutputStream out)
  | .startInputStream input opened => some (adev.startInputStream input opened).1
  | .stopInputStream input => some (adev.stopInputStream input)
  | .voiceStartUsecase usecaseId _ opened => adev.voiceStartUsecase usecaseId opened
  | .voiceStopUsecase usecaseId => some (adev.voiceStopUsecase usecaseId)
  | .selectDevices ucId => some (adev.selectDevices ucId)
  | .change settings => some { adev with toAudioSettings := settings }

def idle (settings : AudioSettings) : AudioDevice := ⟨settings, fun _ => 0, [], fun _ => false⟩

end AudioDevice

theorem type_lowLatency : UsecaseId.audioPlaybackLowLatency.type = .pcmPlayback := rfl

theorem type_deepBuffer : UsecaseId.audioPlaybackDeepBuffer.type = .pcmPlayback := rfl

theorem type_record : UsecaseId.audioRecord.type = .pcmCapture := rfl

theorem record_ne_calibration : UsecaseId.audioRecord ≠ .audioSpkrCalibTx := by decide

def AudioSettings.twoOutputs (primary music : AudioDevices) : AudioSettings where
  mode := .normal
  activeInput := none
  primaryOutput := some 0
  voiceTxOutput := none
  currentCallOutput := none
  inCall := false
  callActive := false
  ttyMode := .off
  curHdmiChannels := 0
  platform := ⟨false, false, false, .none, false⟩
  outputs out :=
    if out = 0 then ⟨.audioPlaybackLowLatency, type_lowLatency, primary, 2, true⟩
    else ⟨.audioPlaybackDeepBuffer, type_deepBuffer, music, 2, true⟩
  inputs _ := ⟨.audioRecord, type_record, record_ne_calibration, inBuiltinMic, .mic, audioChannelInMono, false, true⟩

namespace AudioDevice

/-! ### Operations -/

section

variable (adev : AudioDevice)

def setOutput (out : Nat) (stream : StreamOut) : AudioDevice :=
  { adev with outputs := Function.update adev.outputs out stream }

def setInput (input : Nat) (stream : StreamIn) : AudioDevice :=
  { adev with inputs := Function.update adev.inputs input stream }

def setStream (position out : Nat) : AudioDevice :=
  { adev with
    usecaseList := adev.usecaseList.modify position fun usecase => { usecase with stream := out } }

def outputDrivesCall (out : Nat) : Bool :=
  adev.primaryOutput = some out || adev.voiceTxOutput = some out

def voiceUpdateDevices (entry : AudioUsecase × Nat) : Option AudioDevice :=
  if entry.1.type = .voiceCall then
    adev.currentCallOutput.map fun out => (adev.setStream entry.2 out).selectDevices entry.1.id
  else some adev

def voiceUpdateDevicesForAllVoiceUsecases : Option AudioDevice :=
  runSteps voiceUpdateDevices adev adev.usecaseList.zipIdx

def voiceStartCall (opened : Bool) : Option AudioDevice :=
  ({ adev with inCall := true } : AudioDevice).voiceStartUsecase .voiceCall opened

def voiceStopCall : AudioDevice := ({ adev with inCall := false } : AudioDevice).voiceStopUsecase .voiceCall

def adevSetMode (mode : AudioMode) : AudioDevice :=
  if adev.mode ≠ mode then
    let adev := { adev with mode := mode }
    if (mode = .normal ∨ mode = .inCommunication) ∧ adev.inCall then
      { adev.voiceStopCall with currentCallOutput := none }
    else adev
  else adev

def routedDevices (out : Nat) (val : AudioDevices) : AudioDevices :=
  if (adev.outputs out).devices = outAuxDigital ∧ val = deviceNone then outSpeaker else val

def routeOutput (out : Nat) (devices : AudioDevices) : AudioDevice :=
  let routed := adev.setOutput out { adev.outputs out with devices := devices }
  if (adev.outputs out).standby then routed else routed.selectDevices (adev.outputs out).usecase

def routeCall (out : Nat) (opened : Bool) : Option AudioDevice :=
  if adev.outputDrivesCall out then
    if !adev.inCall then
      if adev.mode = .inCall then
        ({ adev with currentCallOutput := some out } : AudioDevice).voiceStartCall opened
      else some adev
    else
      ({ adev with currentCallOutput := some out } : AudioDevice).voiceUpdateDevicesForAllVoiceUsecases
  else some adev

def outSetParameters (out : Nat) (val : AudioDevices) (opened : Bool) : Option AudioDevice :=
  if adev.routedDevices out val ≠ deviceNone then
    (adev.routeOutput out (adev.routedDevices out val)).routeCall out opened
  else some adev

def outWrite (out : Nat) (opened : Bool) : AudioDevice :=
  if (adev.outputs out).standby then
    let started :=
      (adev.setOutput out { adev.outputs out with standby := false }).startOutputStream out opened
    if started.2 then started.1
    else started.1.setOutput out { started.1.outputs out with standby := true }
  else adev

def outStandby (out : Nat) : AudioDevice :=
  if (adev.outputs out).standby then adev
  else (adev.setOutput out { adev.outputs out with standby := true }).stopOutputStream out

def inRead (input : Nat) (opened : Bool) : AudioDevice :=
  if (adev.inputs input).standby then
    let started := adev.startInputStream input opened
    if started.2 then started.1.setInput input { started.1.inputs input with standby := false }
    else started.1
  else adev

def inStandby (input : Nat) : AudioDevice :=
  if (adev.inputs input).standby then adev
  else (adev.setInput input { adev.inputs input with standby := true }).stopInputStream input

end

/-- A request to the audio device, or any change of the streams and the other settings in between. -/
inductive Operation where
  | outWrite (out : Nat) (opened : Bool)
  | outStandby (out : Nat)
  | inRead (input : Nat) (opened : Bool)
  | inStandby (input : Nat)
  | outSetParameters (out : Nat) (val : AudioDevices) (opened : Bool)
  | adevSetMode (mode : AudioMode)
  | voiceUpdateDevices
  | change (settings : AudioSettings)

def operate (adev : AudioDevice) : Operation → Option AudioDevice
  | .outWrite out opened => some (adev.outWrite out opened)
  | .outStandby out => some (adev.outStandby out)
  | .inRead input opened => some (adev.inRead input opened)
  | .inStandby input => some (adev.inStandby input)
  | .outSetParameters out val opened => adev.outSetParameters out val opened
  | .adevSetMode mode => some (adev.adevSetMode mode)
  | .voiceUpdateDevices => adev.voiceUpdateDevicesForAllVoiceUsecases
  | .change settings => some { adev with toAudioSettings := settings }

/-! ### The call for the active input -/

section

variable {adev : AudioDevice} {ucId : UsecaseId} {usecase : AudioUsecase} {position : Nat}
variable (select : AudioDevice → UsecaseId → AudioDevice)

theorem getUsecaseFromList_id (hfound : adev.getUsecaseFromList ucId = some (usecase, position)) :
    usecase.id = ucId := by
  simpa using List.find?_some hfound

theorem getUsecaseFromList_type (hfound : adev.getUsecaseFromList ucId = some (usecase, position)) :
    usecase.type = ucId.type := by
  rw [← usecase.typeOfId, getUsecaseFromList_id hfound]

theorem selectDevicesWith_none (hfound : adev.getUsecaseFromList ucId = none) :
    adev.selectDevicesWith select ucId = adev := by
  rw [selectDevicesWith, hfound]

theorem selectDevicesWith_call (hfound : adev.getUsecaseFromList ucId = some (usecase, position))
    (htype : usecase.type = .voiceCall ∨ usecase.type = .pcmHfpCall) :
    adev.selectDevicesWith select ucId =
      (adev.setDevices position (adev.outputs usecase.stream).devices).moveUsecase position
        (adev.platformGetOutputSndDevice (adev.outputs usecase.stream).devices)
        (adev.platformGetInputSndDevice (adev.outputs usecase.stream).devices) := by
  rw [selectDevicesWith, hfound]
  rcases htype with htype | htype <;> simp only [htype]

theorem selectDevicesWith_playback (hfound : adev.getUsecaseFromList ucId = some (usecase, position))
    (htype : usecase.type = .pcmPlayback) :
    adev.selectDevicesWith select ucId =
      (match adev.activeInput with
        | some input =>
          if adev.selectsActiveInput usecase then
            select (adev.setDevices position (adev.outputs usecase.stream).devices)
              (adev.inputs input).usecase
          else adev.setDevices position (adev.outputs usecase.stream).devices
        | none => adev.setDevices position (adev.outputs usecase.stream).devices).moveUsecase position
          (adev.playbackSndDevice usecase) .none := by
  rw [selectDevicesWith, hfound]
  simp only [htype]

theorem selectDevicesWith_capture (hfound : adev.getUsecaseFromList ucId = some (usecase, position))
    (htype : usecase.type = .pcmCapture) :
    adev.selectDevicesWith select ucId =
      (adev.setDevices position (adev.inputs usecase.stream).device).moveUsecase position .none
        (adev.captureSndDevice usecase) := by
  rw [selectDevicesWith, hfound]
  simp only [htype]

theorem selectDevicesWith_of_capture (first second : AudioDevice → UsecaseId → AudioDevice)
    (hcapture : ucId.type = .pcmCapture) :
    adev.selectDevicesWith first ucId = adev.selectDevicesWith second ucId := by
  cases hfound : adev.getUsecaseFromList ucId with
  | none => rw [selectDevicesWith_none _ hfound, selectDevicesWith_none _ hfound]
  | some found =>
    have htype : found.1.type = .pcmCapture := (getUsecaseFromList_type hfound).trans hcapture
    rw [selectDevicesWith_capture _ hfound htype, selectDevicesWith_capture _ hfound htype]

theorem selectDevices_eq : adev.selectDevices ucId = adev.selectDevicesWith selectDevices ucId := by
  rw [selectDevices]
  cases hfound : adev.getUsecaseFromList ucId with
  | none => rw [selectDevicesWith_none _ hfound, selectDevicesWith_none _ hfound]
  | some found =>
    cases htype : found.1.type with
    | voiceCall =>
      rw [selectDevicesWith_call _ hfound (.inl htype), selectDevicesWith_call _ hfound (.inl htype)]
    | pcmHfpCall =>
      rw [selectDevicesWith_call _ hfound (.inr htype), selectDevicesWith_call _ hfound (.inr htype)]
    | pcmCapture =>
      rw [selectDevicesWith_capture _ hfound htype, selectDevicesWith_capture _ hfound htype]
    | pcmPlayback =>
      rw [selectDevicesWith_playback _ hfound htype, selectDevicesWith_playback _ hfound htype]
      cases hactive : adev.activeInput with
      | none => simp only
      | some input =>
        have hselect : ∀ routed : AudioDevice,
            routed.selectDevicesWith (fun adev _ => adev) (adev.inputs input).usecase =
              routed.selectDevices (adev.inputs input).usecase :=
          fun routed => selectDevicesWith_of_capture _ _ (adev.inputs input).usecaseType
        simp only [hselect]

end

end AudioDevice

end Nozomi
