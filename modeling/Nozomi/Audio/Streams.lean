import Nozomi.Audio.RefCount

/-!
# Streams that are opened and closed

The addresses of the streams that are open, and the outputs whose offload callback thread runs. The
allocator may give a new stream any address that is not taken, also that of a stream that was freed.
-/

namespace Nozomi

open AudioDevices

/-! ### Requests for streams -/

/-- `audio_format_t`, with the formats that are compared with. -/
inductive AudioFormat where
  | default
  | pcm16Bit
  | mp3
  | aacLc
  | aacHeV1
  | aacHeV2
  | other (format : BitVec 32)
  deriving DecidableEq

/-- The bits of `audio_output_flags_t` that are read. -/
structure AudioOutputFlags where
  direct : Bool
  primary : Bool
  deepBuffer : Bool
  compressOffload : Bool
  tts : Bool
  raw : Bool
  deriving DecidableEq

/-- `audio_config_t`. Of the offload information this is the format, and whether the version and the size
are those of `AUDIO_INFO_INITIALIZER`. -/
structure AudioConfig where
  sampleRate : Nat
  channelMask : BitVec 32
  format : AudioFormat
  offloadInfoSupported : Bool
  offloadFormat : AudioFormat
  deriving DecidableEq

/-- The arguments of `adev_open_output_stream`, with the channels of the mask and what is read of the
capabilities of HDMI. -/
structure OutputRequest where
  devices : AudioDevices
  flags : AudioOutputFlags
  config : AudioConfig
  channelCount : Nat
  edidMaxChannels : Nat
  deriving DecidableEq

def isSupportedFormat : AudioFormat → Bool
  | .mp3 | .aacLc | .aacHeV1 | .aacHeV2 => true
  | .default | .pcm16Bit | .other _ => false

def defaultChannelCount : Nat := 2

def hdmiMultiDefaultChannelCount : Nat := 6

def isAfeProxyRate (sampleRate : Nat) : Bool := sampleRate = 48000 || sampleRate = 16000 || sampleRate = 8000

namespace OutputRequest

variable (request : OutputRequest)

def routedDevices : AudioDevices := if request.devices = deviceNone then outSpeaker else request.devices

def isHdmiMulti : Bool :=
  request.flags.direct && !request.flags.compressOffload && request.routedDevices.meets outAuxDigital

def stream : Option StreamOut :=
  if request.isHdmiMulti then
    if request.edidMaxChannels ≠ 6 ∧ request.edidMaxChannels ≠ 8 then none
    else
      let channels :=
        if request.config.channelMask = 0 then hdmiMultiDefaultChannelCount
        else request.channelCount
      some ⟨.audioPlaybackMultiCh, rfl, request.routedDevices, channels, true⟩
  else if request.flags.compressOffload then
    if !request.config.offloadInfoSupported then none
    else if !isSupportedFormat request.config.offloadFormat then none
    else some ⟨.audioPlaybackOffload, rfl, request.routedDevices, 0, true⟩
  else if request.routedDevices = outTelephonyTx then
    if request.config.sampleRate ≠ 0 ∧ isAfeProxyRate request.config.sampleRate = false then none
    else if request.config.format ≠ .default ∧ request.config.format ≠ .pcm16Bit then none
    else some ⟨.audioPlaybackAfeProxy, rfl, request.routedDevices, defaultChannelCount, true⟩
  else if request.flags.deepBuffer then
    some ⟨.audioPlaybackDeepBuffer, rfl, request.routedDevices, defaultChannelCount, true⟩
  else if request.flags.tts then
    some ⟨.audioPlaybackTts, rfl, request.routedDevices, defaultChannelCount, true⟩
  else if request.flags.raw then
    some ⟨.audioPlaybackUll, rfl, request.routedDevices, defaultChannelCount, true⟩
  else some ⟨.audioPlaybackLowLatency, rfl, request.routedDevices, defaultChannelCount, true⟩

end OutputRequest

/-- The arguments of `adev_open_input_stream`, with the channels of the mask. -/
structure InputRequest where
  devices : AudioDevices
  sampleRate : Nat
  channelMask : BitVec 32
  channelCount : Nat
  format : AudioFormat
  source : AudioSource
  deriving DecidableEq

def maxChannelCount : Nat := 2

def checkInputParameters (sampleRate : Nat) (format : AudioFormat) (channelCount : Nat) : Bool :=
  format = .pcm16Bit && 1 ≤ channelCount && channelCount ≤ maxChannelCount &&
    sampleRate ∈ [8000, 11025, 12000, 16000, 22050, 24000, 32000, 44100, 48000]

def inTelephonyRx : AudioDevices := inVoiceCall

def InputRequest.stream (request : InputRequest) : Option StreamIn :=
  if !checkInputParameters request.sampleRate request.format request.channelCount then none
  else if request.devices = inTelephonyRx then
    if isAfeProxyRate request.sampleRate = false then none
    else some ⟨.audioRecordAfeProxy, rfl, by decide, request.devices, request.source, request.channelMask,
      false, true⟩
  else some ⟨.audioRecord, rfl, by decide, request.devices, request.source, request.channelMask, false, true⟩

/-! ### The streams of the device -/

/-- The audio device and the streams that were given to clients. -/
structure AudioHw extends AudioDevice where
  openOutputs : List Nat
  offloadThreads : List Nat
  openInputs : List Nat

namespace AudioHw

variable (adev : AudioHw)

def initOutput (out : Nat) (stream : StreamOut) : AudioHw :=
  let adev := { adev with toAudioDevice := adev.setOutput out stream }
  if stream.usecase = .audioPlaybackOffload then
    { adev with offloadThreads := out :: adev.offloadThreads }
  else if stream.usecase = .audioPlaybackAfeProxy then { adev with voiceTxOutput := some out }
  else adev

def finishOpen (out : Nat) (usecase : UsecaseId) : AudioHw :=
  if (adev.getUsecaseFromList usecase).isSome then adev
  else { adev with openOutputs := out :: adev.openOutputs }

def adevOpenOutputStream (out : Nat) (request : OutputRequest) : AudioHw :=
  match request.stream with
  | none => adev
  | some stream =>
    let adev := adev.initOutput out stream
    if request.flags.primary then
      if adev.primaryOutput = none then
        ({ adev with primaryOutput := some out } : AudioHw).finishOpen out stream.usecase
      else adev
    else adev.finishOpen out stream.usecase

def outWriteSamples (out : Nat) (opened written : Bool) : AudioHw :=
  let adev := { adev with toAudioDevice := adev.outWrite out opened }
  if (adev.outputs out).usecase ≠ .audioPlaybackOffload ∧ written = false then
    { adev with toAudioDevice := adev.outStandby out }
  else adev

def adevCloseOutputStream (out : Nat) : AudioHw :=
  let adev := { adev with toAudioDevice := adev.outStandby out }
  let adev :=
    if (adev.outputs out).usecase = .audioPlaybackOffload then
      { adev with offloadThreads := adev.offloadThreads.erase out }
    else adev
  let adev := if adev.voiceTxOutput = some out then { adev with voiceTxOutput := none } else adev
  { adev with openOutputs := adev.openOutputs.erase out }

def adevOpenInputStream (input : Nat) (request : InputRequest) : AudioHw :=
  match request.stream with
  | none => adev
  | some stream =>
    { adev with toAudioDevice := adev.setInput input stream, openInputs := input :: adev.openInputs }

def inReadSamples (input : Nat) (opened taken : Bool) : AudioHw :=
  let adev := { adev with toAudioDevice := adev.inRead input opened }
  if taken = false then { adev with toAudioDevice := adev.inStandby input } else adev

def adevCloseInputStream (input : Nat) : AudioHw :=
  { adev with toAudioDevice := adev.inStandby input, openInputs := adev.openInputs.erase input }

/-! ### Calls of clients -/

inductive OutputCall where
  | adevOpenOutputStream (out : Nat) (request : OutputRequest)
  | outWrite (out : Nat) (opened written : Bool)
  | outStandby (out : Nat)
  | adevCloseOutputStream (out : Nat)

def outputCall (adev : AudioHw) : OutputCall → Option AudioHw
  | .adevOpenOutputStream out request =>
    if out ∈ adev.openOutputs then none else some (adev.adevOpenOutputStream out request)
  | .outWrite out opened written =>
    if out ∈ adev.openOutputs then some (adev.outWriteSamples out opened written) else none
  | .outStandby out =>
    if out ∈ adev.openOutputs then some { adev with toAudioDevice := adev.outStandby out } else none
  | .adevCloseOutputStream out =>
    if out ∈ adev.openOutputs then some (adev.adevCloseOutputStream out) else none

inductive ClientCall where
  | output (call : OutputCall)
  | outSetParameters (out : Nat) (val : AudioDevices) (opened : Bool)
  | adevSetMode (mode : AudioMode)
  | adevOpenInputStream (input : Nat) (request : InputRequest)
  | inRead (input : Nat) (opened taken : Bool)
  | inStandby (input : Nat)
  | adevCloseInputStream (input : Nat)

def clientCall (adev : AudioHw) : ClientCall → Option AudioHw
  | .output call => adev.outputCall call
  | .outSetParameters out val opened =>
    if out ∈ adev.openOutputs then
      (adev.outSetParameters out val opened).map fun next => { adev with toAudioDevice := next }
    else none
  | .adevSetMode mode => some { adev with toAudioDevice := adev.adevSetMode mode }
  | .adevOpenInputStream input request =>
    if input ∈ adev.openInputs then none else some (adev.adevOpenInputStream input request)
  | .inRead input opened taken =>
    if input ∈ adev.openInputs then some (adev.inReadSamples input opened taken) else none
  | .inStandby input =>
    if input ∈ adev.openInputs then some { adev with toAudioDevice := adev.inStandby input } else none
  | .adevCloseInputStream input =>
    if input ∈ adev.openInputs then some (adev.adevCloseInputStream input) else none

def start (platform : PlatformData) (outputs : Nat → StreamOut) (inputs : Nat → StreamIn) : AudioHw :=
  ⟨.idle ⟨.normal, none, none, none, none, false, false, .off, 0, platform, outputs, inputs⟩, [], [], []⟩

end AudioHw

def OutputRequest.primaryOutput : OutputRequest where
  devices := outSpeaker
  flags := ⟨false, true, false, false, false, false⟩
  config := ⟨44100, 3, .pcm16Bit, false, .default⟩
  channelCount := 2
  edidMaxChannels := 0

def OutputRequest.offloaded (primary : Bool) : OutputRequest where
  devices := outSpeaker
  flags := ⟨true, primary, false, true, false, false⟩
  config := ⟨44100, 3, .mp3, true, .mp3⟩
  channelCount := 2
  edidMaxChannels := 0

namespace AudioHw

def fresh : AudioHw :=
  start ⟨false, false, false, .none, false⟩ (fun _ => ⟨.audioPlaybackLowLatency, rfl, deviceNone, 0, true⟩)
    fun _ => ⟨.audioRecord, rfl, by decide, deviceNone, .default, 0, false, true⟩

end AudioHw

end Nozomi
