import Mathlib.Logic.Function.Basic
import Mathlib.Tactic.Ring

/-!
# Sound devices of the msm8660 platform

The masks of audio devices are those of the Android audio header, as 32-bit words. Each usecase id is used
for usecases of one type, so a stream carries the type of its own.
-/

namespace Nozomi

/-! ### Masks of audio devices -/

abbrev AudioDevices := BitVec 32

namespace AudioDevices

def deviceNone : AudioDevices := 0
def bitIn : AudioDevices := 0x80000000

def outEarpiece : AudioDevices := 0x1
def outSpeaker : AudioDevices := 0x2
def outWiredHeadset : AudioDevices := 0x4
def outWiredHeadphone : AudioDevices := 0x8
def outBluetoothScoHeadset : AudioDevices := 0x20
def outAllSco : AudioDevices := 0x70
def outAuxDigital : AudioDevices := 0x400
def outTelephonyTx : AudioDevices := 0x10000

def inCommunication : AudioDevices := 0x80000001
def inBuiltinMic : AudioDevices := 0x80000004
def inBluetoothScoHeadset : AudioDevices := 0x80000008
def inWiredHeadset : AudioDevices := 0x80000010
def inAuxDigital : AudioDevices := 0x80000020
def inVoiceCall : AudioDevices := 0x80000040
def inBackMic : AudioDevices := 0x80000080
def inFmTuner : AudioDevices := 0x80002000

def outAllCodecBackend : AudioDevices :=
  outEarpiece ||| outSpeaker ||| outWiredHeadset ||| outWiredHeadphone

def meets (devices mask : AudioDevices) : Bool := devices &&& mask != 0

def popcount (devices : AudioDevices) : Nat := (List.range 32).countP fun i => devices.getLsbD i

end AudioDevices

inductive SndDevice where
  | none
  | outHandset
  | outSpeaker
  | outSpeakerReverse
  | outHeadphones
  | outSpeakerAndHeadphones
  | outVoiceSpeaker
  | outVoiceHeadphones
  | outHdmi
  | outSpeakerAndHdmi
  | outBtSco
  | outBtScoWb
  | outVoiceHandset
  | outVoiceHacHandset
  | outVoiceTtyFullHeadphones
  | outVoiceTtyVcoHeadphones
  | outVoiceTtyHcoHandset
  | inHandsetMic
  | inSpeakerMic
  | inHeadsetMic
  | inHandsetMicAec
  | inSpeakerMicAec
  | inHeadsetMicAec
  | inVoiceSpeakerMic
  | inVoiceHeadsetMic
  | inHdmiMic
  | inBtScoMic
  | inBtScoMicWb
  | inCamcorderMic
  | inVoiceDmicEf
  | inVoiceDmicBs
  | inVoiceSpeakerDmicEf
  | inVoiceSpeakerDmicBs
  | inVoiceTtyFullHeadsetMic
  | inVoiceTtyVcoHandsetMic
  | inVoiceTtyHcoHeadsetMic
  | inVoiceRecMic
  | inVoiceRecDmicEf
  | inVoiceRecDmicBs
  | inVoiceRecDmicEfFluence
  | inVoiceRecDmicBsFluence
  | inFmRadio
  deriving DecidableEq, Repr

/-- The entries of `device_table`; two devices that are never chosen have none. -/
inductive DevicePath where
  | null
  | none
  | handset
  | speaker
  | headset
  | speakerAndHeadset
  | hdmi
  | speakerAndHdmi
  | btScoHeadset
  | voiceTtyHeadset
  | handsetMic
  | speakerMic
  | headsetMic
  | hdmiMic
  | btScoMic
  | camcorderMic
  | voiceDmicEf
  | voiceDmicBs
  | voiceSpeakerDmicEf
  | voiceSpeakerDmicBs
  | voiceTtyHeadsetMic
  | voiceRecMic
  | voiceRecDmicEf
  | voiceRecDmicBs
  | voiceRecDmicEfFluence
  | voiceRecDmicBsFluence
  | fmRadio
  deriving DecidableEq, Repr

def deviceTable : SndDevice → DevicePath
  | .none => .none
  | .outHandset => .handset
  | .outSpeaker => .speaker
  | .outSpeakerReverse => .speaker
  | .outHeadphones => .headset
  | .outSpeakerAndHeadphones => .speakerAndHeadset
  | .outVoiceSpeaker => .speaker
  | .outVoiceHeadphones => .headset
  | .outHdmi => .hdmi
  | .outSpeakerAndHdmi => .speakerAndHdmi
  | .outBtSco => .btScoHeadset
  | .outBtScoWb => .btScoHeadset
  | .outVoiceHandset => .null
  | .outVoiceHacHandset => .null
  | .outVoiceTtyFullHeadphones => .voiceTtyHeadset
  | .outVoiceTtyVcoHeadphones => .voiceTtyHeadset
  | .outVoiceTtyHcoHandset => .voiceTtyHeadset
  | .inHandsetMic => .handsetMic
  | .inSpeakerMic => .speakerMic
  | .inHeadsetMic => .headsetMic
  | .inHandsetMicAec => .handsetMic
  | .inSpeakerMicAec => .speakerMic
  | .inHeadsetMicAec => .headsetMic
  | .inVoiceSpeakerMic => .speakerMic
  | .inVoiceHeadsetMic => .headsetMic
  | .inHdmiMic => .hdmiMic
  | .inBtScoMic => .btScoMic
  | .inBtScoMicWb => .btScoMic
  | .inCamcorderMic => .camcorderMic
  | .inVoiceDmicEf => .voiceDmicEf
  | .inVoiceDmicBs => .voiceDmicBs
  | .inVoiceSpeakerDmicEf => .voiceSpeakerDmicEf
  | .inVoiceSpeakerDmicBs => .voiceSpeakerDmicBs
  | .inVoiceTtyFullHeadsetMic => .voiceTtyHeadsetMic
  | .inVoiceTtyVcoHandsetMic => .voiceTtyHeadsetMic
  | .inVoiceTtyHcoHeadsetMic => .voiceTtyHeadsetMic
  | .inVoiceRecMic => .voiceRecMic
  | .inVoiceRecDmicEf => .voiceRecDmicEf
  | .inVoiceRecDmicBs => .voiceRecDmicBs
  | .inVoiceRecDmicEfFluence => .voiceRecDmicEfFluence
  | .inVoiceRecDmicBsFluence => .voiceRecDmicBsFluence
  | .inFmRadio => .fmRadio

/-- What `platform_add_backend_name` appends to the path of a usecase. -/
inductive BackendName where
  | plain
  | btSco
  | hdmi
  | speakerAndHdmi
  | fmRadio
  deriving DecidableEq, Repr

def platformAddBackendName (sndDevice : SndDevice) : BackendName :=
  if sndDevice = .inBtScoMic then .btSco
  else if sndDevice = .outBtSco then .btSco
  else if sndDevice = .outHdmi then .hdmi
  else if sndDevice = .outSpeakerAndHdmi then .speakerAndHdmi
  else if sndDevice = .inFmRadio then .fmRadio
  else .plain

/-! ### Usecases and streams -/

inductive UsecaseType where
  | pcmPlayback
  | pcmCapture
  | voiceCall
  | pcmHfpCall
  deriving DecidableEq, Repr

inductive UsecaseId where
  | audioPlaybackDeepBuffer
  | audioPlaybackLowLatency
  | audioPlaybackMultiCh
  | audioPlaybackOffload
  | audioPlaybackTts
  | audioPlaybackUll
  | audioHfpSco
  | audioHfpScoWb
  | audioRecord
  | audioRecordLowLatency
  | voiceCall
  | voice2Call
  | volteCall
  | qchatCall
  | vowlanCall
  | incallRecUplink
  | incallRecDownlink
  | incallRecUplinkAndDownlink
  | audioSpkrCalibRx
  | audioSpkrCalibTx
  | audioPlaybackAfeProxy
  | audioRecordAfeProxy
  | audioDsmFeedback
  deriving DecidableEq, Repr

def UsecaseId.type : UsecaseId → UsecaseType
  | audioPlaybackDeepBuffer | audioPlaybackLowLatency | audioPlaybackMultiCh | audioPlaybackOffload
  | audioPlaybackTts | audioPlaybackUll | audioPlaybackAfeProxy | audioSpkrCalibRx => .pcmPlayback
  | audioHfpSco | audioHfpScoWb => .pcmHfpCall
  | voiceCall | voice2Call | volteCall | qchatCall | vowlanCall => .voiceCall
  | audioRecord | audioRecordLowLatency | incallRecUplink | incallRecDownlink
  | incallRecUplinkAndDownlink | audioSpkrCalibTx | audioRecordAfeProxy | audioDsmFeedback => .pcmCapture

inductive AudioMode where
  | normal
  | ringtone
  | inCall
  | inCommunication
  deriving DecidableEq, Repr

inductive AudioSource where
  | default
  | mic
  | voiceUplink
  | voiceDownlink
  | voiceCall
  | camcorder
  | voiceRecognition
  | voiceCommunication
  | remoteSubmix
  | hotword
  deriving DecidableEq, Repr

inductive TtyMode where
  | off
  | full
  | vco
  | hco
  deriving DecidableEq, Repr

inductive DualmicConfig where
  | none
  | endfire
  | broadside
  deriving DecidableEq, Repr

structure StreamOut where
  usecase : UsecaseId
  usecaseType : usecase.type = .pcmPlayback
  devices : AudioDevices
  channels : Nat
  standby : Bool

/-- `struct stream_in`. Only the speaker protection records for a calibration. -/
structure StreamIn where
  usecase : UsecaseId
  usecaseType : usecase.type = .pcmCapture
  noCalibration : usecase ≠ .audioSpkrCalibTx
  device : AudioDevices
  source : AudioSource
  channelMask : BitVec 32
  enableAec : Bool
  standby : Bool

structure PlatformData where
  fluenceInSpkrMode : Bool
  fluenceInVoiceCall : Bool
  fluenceInVoiceRec : Bool
  dualmicConfig : DualmicConfig
  speakerLrSwap : Bool

/-- A path in the mixer: the entry of a sound device, or that of a usecase in `use_case_table`, where all
entries are different, with the name of its backend. -/
inductive Path where
  | device (name : DevicePath)
  | usecase (id : UsecaseId) (backend : BackendName)
  deriving DecidableEq, Repr

/-- What `struct audio_device` holds besides the usecases and their sound devices. The streams are
referred to by their addresses, and `callActive` is the state of the voice session. -/
structure AudioSettings where
  mode : AudioMode
  activeInput : Option Nat
  primaryOutput : Option Nat
  voiceTxOutput : Option Nat
  currentCallOutput : Option Nat
  inCall : Bool
  callActive : Bool
  ttyMode : TtyMode
  curHdmiChannels : Nat
  platform : PlatformData
  outputs : Nat → StreamOut
  inputs : Nat → StreamIn

/-! ### The sound devices for a mask -/

namespace AudioSettings

open AudioDevices

variable (settings : AudioSettings)

def callOutputSndDevice (devices : AudioDevices) : SndDevice :=
  if devices.meets outWiredHeadphone || devices.meets outWiredHeadset then
    match settings.ttyMode with
    | .full => .outVoiceTtyFullHeadphones
    | .vco => .outVoiceTtyVcoHeadphones
    | .hco => .outVoiceTtyHcoHandset
    | .off => .outVoiceHeadphones
  else if devices.meets outAllSco then .outBtSco
  else if devices.meets outSpeaker then .outVoiceSpeaker
  else if devices.meets outEarpiece then .outHandset
  else .none

def comboOutputSndDevice (devices : AudioDevices) : SndDevice :=
  if devices = outWiredHeadphone ||| outSpeaker then .outSpeakerAndHeadphones
  else if devices = outWiredHeadset ||| outSpeaker then .outSpeakerAndHeadphones
  else if devices = outAuxDigital ||| outSpeaker then .outSpeakerAndHdmi
  else .none

def singleOutputSndDevice (devices : AudioDevices) : SndDevice :=
  if devices.meets outWiredHeadphone || devices.meets outWiredHeadset then .outHeadphones
  else if devices.meets outSpeaker then
    if settings.platform.speakerLrSwap then .outSpeakerReverse else .outSpeaker
  else if devices.meets outAllSco then .outBtSco
  else if devices.meets outAuxDigital then .outHdmi
  else if devices.meets outEarpiece then .outHandset
  else .none

def platformGetOutputSndDevice (devices : AudioDevices) : SndDevice :=
  if devices = deviceNone || devices.meets bitIn then .none
  else if settings.inCall && settings.callOutputSndDevice devices ≠ .none then
    settings.callOutputSndDevice devices
  else if devices.popcount = 2 then comboOutputSndDevice devices
  else if devices.popcount ≠ 1 then .none
  else settings.singleOutputSndDevice devices

def audioChannelInMono : BitVec 32 := 0x10
def audioChannelInFrontBack : BitVec 32 := 0x30

def callInputSndDevice (outDevice : AudioDevices) : SndDevice :=
  if outDevice.meets outEarpiece || outDevice.meets outWiredHeadphone then
    if !settings.platform.fluenceInVoiceCall then .inHandsetMic
    else
      match settings.platform.dualmicConfig with
      | .endfire => .inVoiceDmicEf
      | .broadside => .inVoiceDmicBs
      | .none => .inHandsetMic
  else if outDevice.meets outWiredHeadset then .inVoiceHeadsetMic
  else if outDevice.meets outAllSco then .inBtScoMic
  else if outDevice.meets outSpeaker then
    if settings.platform.fluenceInVoiceCall && settings.platform.fluenceInSpkrMode then
      match settings.platform.dualmicConfig with
      | .endfire => .inVoiceSpeakerDmicEf
      | .broadside => .inVoiceSpeakerDmicBs
      | .none => .inVoiceSpeakerMic
    else .inVoiceSpeakerMic
  else .none

def recognitionInputSndDevice (inDevice : AudioDevices) (channelMask : BitVec 32) : SndDevice :=
  if inDevice.meets inBuiltinMic then
    match settings.platform.dualmicConfig with
    | .endfire =>
      if channelMask = audioChannelInFrontBack then .inVoiceRecDmicEf
      else if settings.platform.fluenceInVoiceRec then .inVoiceRecDmicEfFluence
      else .inVoiceRecMic
    | .broadside =>
      if channelMask = audioChannelInFrontBack then .inVoiceRecDmicBs
      else if settings.platform.fluenceInVoiceRec then .inVoiceRecDmicBsFluence
      else .inVoiceRecMic
    | .none => .inVoiceRecMic
  else .none

def aecInputSndDevice (inDevice : AudioDevices) : SndDevice :=
  if inDevice.meets inBackMic then .inSpeakerMicAec
  else if inDevice.meets inBuiltinMic then .inHandsetMicAec
  else if inDevice.meets inWiredHeadset then .inHeadsetMicAec
  else .none

def plainInputSndDevice (outDevice inDevice : AudioDevices) : SndDevice :=
  if inDevice ≠ deviceNone && !inDevice.meets inVoiceCall && !inDevice.meets inCommunication then
    if inDevice.meets inBuiltinMic then .inHandsetMic
    else if inDevice.meets inBackMic then .inSpeakerMic
    else if inDevice.meets inWiredHeadset then .inHeadsetMic
    else if inDevice.meets inBluetoothScoHeadset then .inBtScoMic
    else if inDevice.meets inAuxDigital then .inHdmiMic
    else if inDevice.meets inFmTuner then .inFmRadio
    else .inHandsetMic
  else
    if outDevice.meets outEarpiece then .inHandsetMic
    else if outDevice.meets outWiredHeadset then .inHeadsetMic
    else if outDevice.meets outSpeaker then .inSpeakerMic
    else if outDevice.meets outWiredHeadphone then .inHandsetMic
    else if outDevice.meets outBluetoothScoHeadset then .inBtScoMic
    else if outDevice.meets outAuxDigital then .inHdmiMic
    else .inHandsetMic

def platformGetInputSndDevice (outDevice : AudioDevices) : SndDevice :=
  let active := settings.activeInput.map settings.inputs
  let source := (active.map (·.source)).getD .default
  let inDevice := (active.map (·.device)).getD deviceNone &&& ~~~bitIn
  let channelMask := (active.map (·.channelMask)).getD audioChannelInMono
  if outDevice ≠ deviceNone && settings.inCall then
    if settings.ttyMode ≠ .off && (outDevice.meets outWiredHeadphone || outDevice.meets outWiredHeadset) then
      match settings.ttyMode with
      | .full => .inVoiceTtyFullHeadsetMic
      | .vco => .inVoiceTtyVcoHandsetMic
      | .hco => .inVoiceTtyHcoHeadsetMic
      | .off => .none
    else if settings.callInputSndDevice outDevice ≠ .none then settings.callInputSndDevice outDevice
    else plainInputSndDevice outDevice inDevice
  else
    match source with
    | .default => .none
    | .camcorder =>
      if inDevice.meets inBuiltinMic || inDevice.meets inBackMic then .inCamcorderMic
      else plainInputSndDevice outDevice inDevice
    | .voiceRecognition =>
      if settings.recognitionInputSndDevice inDevice channelMask ≠ .none then
        settings.recognitionInputSndDevice inDevice channelMask
      else plainInputSndDevice outDevice inDevice
    | .voiceCommunication =>
      -- The back microphone of this branch keeps its direction bit.
      let inDevice := if outDevice.meets outSpeaker then inBackMic else inDevice
      if active.any (·.enableAec) && aecInputSndDevice inDevice ≠ .none then aecInputSndDevice inDevice
      else plainInputSndDevice outDevice inDevice
    | .mic | .voiceUplink | .voiceDownlink | .voiceCall | .remoteSubmix | .hotword =>
      plainInputSndDevice outDevice inDevice

end AudioSettings

def platformCheckBackendsMatch (_ _ : SndDevice) : Bool := true

end Nozomi
