import Nozomi.Audio.Effects.Bundle
import Nozomi.Audio.Effects.Config

/-!
# The voice processing library

Two effects can be created in the session of an input stream. A session is made with its first effect and
freed with its last one. States and masks are words, as in the library, so that a state may be one that it does
not know.
-/

namespace Nozomi

/-! ### Descriptors -/

/-- The part of `effect_descriptor_t` by which effects are found. -/
structure VoiceDescriptor where
  type : EffectUuid
  uuid : EffectUuid
  deriving DecidableEq

def aecId : Nat := 0
def nsId : Nat := 1
def numId : Nat := 2

def fxIidAec : EffectUuid := ⟨0x7b491460, 0x8d4d, 0x11e0, 0xbd61, 0x0002a5d5c51b⟩

def fxIidNs : EffectUuid := ⟨0x58b4b260, 0x8e06, 0x11e0, 0xaa8e, 0x0002a5d5c51b⟩

def qcomDefaultAecDescriptor : VoiceDescriptor :=
  ⟨fxIidAec, ⟨0x0f8d0d2a, 0x59e5, 0x45fe, 0xb6e4, 0x248c8a799109⟩⟩

def qcomDefaultNsDescriptor : VoiceDescriptor :=
  ⟨fxIidNs, ⟨0x1d97bb0b, 0x9e2f, 0x4403, 0x9ae3, 0x58c2554306f8⟩⟩

/-- The descriptors of the library of the product, where there are any. -/
structure ProductDescriptors where
  aec : Option VoiceDescriptor
  ns : Option VoiceDescriptor

def ProductDescriptors.descriptors (product : ProductDescriptors) : List VoiceDescriptor :=
  [product.aec.getD qcomDefaultAecDescriptor, product.ns.getD qcomDefaultNsDescriptor]

def ProductDescriptors.getDescriptor (product : ProductDescriptors) (uuid : EffectUuid) : Option VoiceDescriptor :=
  product.descriptors.find? (·.uuid = uuid)

def uuidToIdTable : List EffectUuid := [fxIidAec, fxIidNs]

def uuidToId (uuid : EffectUuid) : Nat := uuidToIdTable.idxOf uuid

/-! ### Sessions -/

inductive VoiceSessionState where
  | init
  | config
  deriving DecidableEq

@[match_pattern] abbrev voiceStateInit : Nat := 0
@[match_pattern] abbrev voiceStateCreated : Nat := 1
@[match_pattern] abbrev voiceStateConfig : Nat := 2
@[match_pattern] abbrev voiceStateActive : Nat := 3

/-- `struct session_s`. The effects are known by their states. -/
structure VoiceSession where
  config : EffectConfig
  effects : Nat → Nat
  state : VoiceSessionState
  id : Int
  io : AudioIoHandle
  createdMsk : BitVec 32
  enabledMsk : BitVec 32
  processedMsk : BitVec 32

def channelInMono : BitVec 32 := 0x10

namespace VoiceSession

def allocated : VoiceSession :=
  let config : BufferConfig := ⟨0, 0, 0, .write⟩
  ⟨⟨config, config⟩, fun _ => 0, .init, 0, 0, 0, 0, 0⟩

variable (session : VoiceSession)

def sessionInit : VoiceSession :=
  { session with
    state := .init
    id := 0
    io := 0
    createdMsk := 0
    effects := fun id => if id < numId then voiceStateInit else session.effects id }

def sessionSetFxEnabled (id : Nat) (enabled : Bool) : VoiceSession :=
  { session with
    enabledMsk :=
      if enabled then session.enabledMsk ||| (1 : BitVec 32) <<< id
      else session.enabledMsk &&& ~~~((1 : BitVec 32) <<< id)
    processedMsk := 0 }

def setEffect (id : Nat) (state : Nat) : VoiceSession :=
  { session with effects := Function.update session.effects id state }

def effectSetState (id : Nat) (state : Nat) : Option (Int × VoiceSession) :=
  match state with
  | voiceStateInit =>
    match session.effects id with
    | voiceStateActive => some (0, (session.sessionSetFxEnabled id false).setEffect id state)
    | voiceStateConfig | voiceStateCreated | voiceStateInit => some (0, session.setEffect id state)
    | _ => none
  | voiceStateCreated =>
    match session.effects id with
    | voiceStateInit => some (0, session.setEffect id state)
    | voiceStateCreated | voiceStateActive | voiceStateConfig => some (-enosys, session)
    | _ => none
  | voiceStateConfig =>
    match session.effects id with
    | voiceStateInit => some (-enosys, session)
    | voiceStateActive => some (0, (session.sessionSetFxEnabled id false).setEffect id state)
    | voiceStateCreated | voiceStateConfig => some (0, session.setEffect id state)
    | _ => none
  | voiceStateActive =>
    match session.effects id with
    | voiceStateInit | voiceStateCreated => some (-enosys, session)
    | voiceStateActive => some (0, session.setEffect id state)
    | voiceStateConfig => some (0, (session.sessionSetFxEnabled id true).setEffect id state)
    | _ => none
  | _ => none

def defaultConfig (config : EffectConfig) : EffectConfig where
  inputCfg := { config.inputCfg with samplingRate := 16000, channels := channelInMono, format := formatPcm16Bit }
  outputCfg := { config.outputCfg with samplingRate := 16000, channels := channelInMono, format := formatPcm16Bit }

def sessionCreateEffect (id : Nat) : Option (Int × VoiceSession) :=
  let session :=
    if session.createdMsk = 0 then
      { session with config := defaultConfig session.config, enabledMsk := 0, processedMsk := 0 }
    else session
  if id < numId then
    (session.effectSetState id voiceStateCreated).map fun (status, session) =>
      if status < 0 then (status, session)
      else (status, { session with createdMsk := session.createdMsk ||| (1 : BitVec 32) <<< id })
  else none

def sessionSetConfig (config : EffectConfig) : Int × VoiceSession :=
  if config.inputCfg.samplingRate ≠ config.outputCfg.samplingRate ∨
      config.inputCfg.format ≠ config.outputCfg.format ∨ config.inputCfg.format ≠ formatPcm16Bit then
    (-einval, session)
  else if session.enabledMsk ≠ 0 then
    if session.config.inputCfg.samplingRate ≠ config.inputCfg.samplingRate ∨
        session.config.inputCfg.channels ≠ config.inputCfg.channels ∨
        session.config.outputCfg.channels ≠ config.outputCfg.channels then (-enosys, session)
    else (0, session)
  else (0, { session with config := config, state := .config })

end VoiceSession

/-! ### The library -/

/-- The handle of an effect is the address of its place in a session. -/
structure VoiceHandle where
  session : Nat
  id : Nat
  deriving DecidableEq

/-- The sessions by their addresses, and the list of those that are in use. -/
structure VoiceProcessing where
  sessions : Nat → VoiceSession
  sessionList : List Nat
  allocated : Nat

namespace VoiceProcessing

def init : VoiceProcessing := ⟨fun _ => .allocated, [], 0⟩

variable (product : ProductDescriptors) (library : VoiceProcessing)

def setSession (address : Nat) (session : VoiceSession) : VoiceProcessing :=
  { library with sessions := Function.update library.sessions address session }

def getSession (id : Nat) (sessionId ioId : Int) (callocSucceeds : Bool) : Option (Option Nat × VoiceProcessing) :=
  match library.sessionList.find? fun address => (library.sessions address).io = ioId with
  | some address =>
    if (library.sessions address).createdMsk &&& (1 : BitVec 32) <<< id ≠ 0 then some (none, library)
    else some (some address, library)
  | none =>
    if !callocSucceeds then none
    else
      let address := library.allocated
      let session := { VoiceSession.allocated.sessionInit with id := sessionId, io := ioId }
      some (some address, { library.setSession address session with
        sessionList := library.sessionList ++ [address]
        allocated := address + 1 })

def libCreate (uuid : EffectUuid) (sessionId ioId : Int) (callocSucceeds : Bool) :
    Option (Int × Option VoiceHandle × VoiceProcessing) :=
  match product.getDescriptor uuid with
  | none => some (-einval, none, library)
  | some desc =>
    let id := uuidToId desc.type
    match library.getSession id sessionId ioId callocSucceeds with
    | none => none
    | some (none, library) => some (-einval, none, library)
    | some (some address, library) =>
      ((library.sessions address).sessionCreateEffect id).map fun (status, session) =>
        let library := library.setSession address session
        let library :=
          if status < 0 ∧ session.createdMsk = 0 then
            { library with sessionList := library.sessionList.erase address }
          else library
        (status, some ⟨address, id⟩, library)

def sessionReleaseEffect (handle : VoiceHandle) : Option VoiceProcessing :=
  ((library.sessions handle.session).effectSetState handle.id voiceStateInit).map fun (_, session) =>
    let session := { session with createdMsk := session.createdMsk &&& ~~~((1 : BitVec 32) <<< handle.id) }
    let library := library.setSession handle.session session
    if session.createdMsk = 0 then { library with sessionList := library.sessionList.erase handle.session }
    else library

def libRelease (handle : VoiceHandle) : Option (Int × VoiceProcessing) :=
  if handle.session ∈ library.sessionList then (library.sessionReleaseEffect handle).map (0, ·)
  else some (-einval, library)

end VoiceProcessing

/-! ### Commands -/

/-- The commands that `fx_command` tells apart, with the data that it reads. -/
inductive VoiceCommand where
  | init
  | setConfig (config : Option EffectConfig)
  | getConfig
  | reset
  | getParam
  | setParam (psize : BitVec 32)
  | enable
  | disable
  | setDevice
  | setInputDevice
  | setVolume
  | setAudioMode
  | other
  deriving DecidableEq

/-- The sizes and the pointers of a command. -/
structure VoiceCommandArgs where
  cmdSize : Nat
  cmdData : Bool
  replySize : Nat
  replyData : Bool
  deriving DecidableEq

def VoiceCommandArgs.badReply (args : VoiceCommandArgs) : Bool := !args.replyData || args.replySize ≠ 4

def voiceConfigSize : Nat := 64
def voiceParamSize : Nat := 12

namespace VoiceProcessing

variable (library : VoiceProcessing)

def replyState (handle : VoiceHandle) (state : Nat) : Option (Int × Option Int × VoiceProcessing) :=
  ((library.sessions handle.session).effectSetState handle.id state).map fun (reply, session) =>
    (0, some reply, library.setSession handle.session session)

def setConfig (handle : VoiceHandle) (config : EffectConfig) : Option (Int × Option Int × VoiceProcessing) :=
  let (reply, session) := (library.sessions handle.session).sessionSetConfig config
  let library := library.setSession handle.session session
  if reply ≠ 0 then some (0, some reply, library)
  else if session.effects handle.id ≠ voiceStateActive then library.replyState handle voiceStateConfig
  else some (0, some reply, library)

def fxCommand (self : Option VoiceHandle) (command : VoiceCommand) (args : VoiceCommandArgs) :
    Option (Int × Option Int × VoiceProcessing) :=
  match self with
  | none => some (-einval, none, library)
  | some handle =>
    match command with
    | .init => if args.badReply then some (-einval, none, library) else some (0, some 0, library)
    | .setConfig config =>
      match config with
      | none => some (-einval, none, library)
      | some config =>
        if args.cmdSize ≠ voiceConfigSize || args.badReply then some (-einval, none, library)
        else library.setConfig handle config
    | .getConfig =>
      if !args.replyData || args.replySize ≠ voiceConfigSize then some (-einval, none, library)
      else some (0, none, library)
    | .reset => some (0, none, library)
    | .getParam =>
      if !args.cmdData || args.cmdSize < voiceParamSize || !args.replyData || args.replySize < voiceParamSize then
        some (-einval, none, library)
      else some (0, some (-enosys), library)
    | .setParam psize =>
      if !args.cmdData || args.cmdSize < voiceParamSize || args.badReply then some (-einval, none, library)
      else if psize ≠ 4 then some (-einval, none, library)
      else some (0, some (-enosys), library)
    | .enable => if args.badReply then some (-einval, none, library) else library.replyState handle voiceStateActive
    | .disable => if args.badReply then some (-einval, none, library) else library.replyState handle voiceStateConfig
    | .setDevice | .setInputDevice | .setVolume | .setAudioMode =>
      if !args.cmdData || args.cmdSize ≠ 4 then some (-einval, none, library) else some (0, none, library)
    | .other => some (-einval, none, library)

end VoiceProcessing

inductive VoiceCall where
  | create (uuid : EffectUuid) (sessionId ioId : Int) (callocSucceeds : Bool)
  | release (handle : VoiceHandle)
  | command (self : Option VoiceHandle) (command : VoiceCommand) (args : VoiceCommandArgs)
  deriving DecidableEq

end Nozomi
