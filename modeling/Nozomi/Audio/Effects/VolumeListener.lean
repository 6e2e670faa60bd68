import Mathlib.Algebra.Order.Field.Rat
import Nozomi.Audio.Effects.Bundle

/-!
# The volume listener

The library selects a calibration level for the speaker from the loudest effect on it. The commands decide by
the device of their effect whether the level is computed again.
-/

namespace Nozomi

open AudioDevices

/-! ### Effects of the library -/

/-- The effects of the library, in the order of `descriptors`. -/
inductive VolDescriptor where
  | music
  | ring
  | alarm
  | voiceCall
  | notification
  deriving DecidableEq

namespace VolDescriptor

def descriptors : List VolDescriptor := [.music, .ring, .alarm, .voiceCall, .notification]

def uuid : VolDescriptor → EffectUuid
  | music => ⟨0x08b8b058, 0x0590, 0x11e5, 0xac71, 0x0025b32654a0⟩
  | ring => ⟨0x0956df94, 0x0590, 0x11e5, 0xbdbe, 0x0025b32654a0⟩
  | alarm => ⟨0x09f303e2, 0x0590, 0x11e5, 0x8fdb, 0x0025b32654a0⟩
  | voiceCall => ⟨0x0ace5c08, 0x0590, 0x11e5, 0xae9e, 0x0025b32654a0⟩
  | notification => ⟨0x0b776dde, 0x0590, 0x11e5, 0x81ba, 0x0025b32654a0⟩

end VolDescriptor

inductive VolListenerState where
  | uninitialized
  | initialized
  | active
  deriving DecidableEq

/-- `vol_listener_context_t`. The stream type is the position of the descriptor. -/
structure VolListenerContext where
  desc : VolDescriptor
  streamType : Nat
  sessionId : Int
  state : VolListenerState
  devId : AudioDevices
  leftVol : ℚ
  rightVol : ℚ

def VolListenerContext.average (context : VolListenerContext) : ℚ := (context.leftVol + context.rightVol) / 2

def VolListenerContext.onSpeaker (context : VolListenerContext) : Bool :=
  context.state = .active && context.devId &&& outSpeaker ≠ 0

/-! ### Calibration levels -/

structure AmpDbAndGain where
  amp : ℚ
  db : Int
  level : Int

def volumeCurveGainMappingTable : List AmpDbAndGain :=
  [⟨1774 / 1000000, -55, 5⟩, ⟨501187 / 1000000, -6, 4⟩, ⟨630957 / 1000000, -4, 3⟩, ⟨794328 / 1000000, -2, 2⟩,
    ⟨1, 0, 1⟩]

def searchLevel (newVol : ℚ) : List AmpDbAndGain → Int
  | entry :: above :: entries =>
    if newVol < above.amp ∧ entry.amp ≤ newVol then entry.level else searchLevel newVol (above :: entries)
  | _ => -1

def gainDepCalLevel (newVol : ℚ) : Int :=
  if 1 ≤ newVol then (volumeCurveGainMappingTable.getLast?.map (·.level)).getD (-1)
  else if newVol ≤ 0 then (volumeCurveGainMappingTable.head?.map (·.level)).getD (-1)
  else searchLevel newVol volumeCurveGainMappingTable

/-! ### The library -/

/-- The state of the library: its contexts by their addresses, the list of those created, the level and the
volume that were pushed last, and whether `vol_listner_init_lock` is held. -/
structure VolListener where
  contexts : EffectHandle → VolListenerContext
  volEffectList : List EffectHandle
  allocated : Nat
  currentGainDepCalLevel : Int
  currentVol : ℚ
  locked : Bool

abbrev SendGainDepCal := Option (Int → Bool)

namespace VolListener

def initOnce : VolListener where
  contexts _ := ⟨.music, 0, 0, .uninitialized, 0, 0, 0⟩
  volEffectList := []
  allocated := 0
  currentGainDepCalLevel := -1
  currentVol := 0
  locked := false

variable (send : SendGainDepCal) (listener : VolListener)

def newVol : ℚ :=
  listener.volEffectList.foldl (fun newVol handle =>
    let context := listener.contexts handle
    if context.onSpeaker && newVol < context.average then context.average else newVol) 0

def checkAndSetGainDepCal : VolListener :=
  let newVol := listener.newVol
  if newVol ≠ listener.currentVol then
    match send with
    | some sendGainDepCal =>
      let level := gainDepCalLevel newVol
      if level ≠ -1 then
        if level ≠ listener.currentGainDepCalLevel then
          if sendGainDepCal level then
            { listener with currentGainDepCalLevel := level, currentVol := newVol }
          else listener
        else listener
      else listener
    | none => listener
  else listener

def setContext (handle : EffectHandle) (context : VolListenerContext) : VolListener :=
  { listener with contexts := Function.update listener.contexts handle context }

def lock : VolListener := { listener with locked := true }
def unlock : VolListener := { listener with locked := false }

def volPrcLibCreate (uuid : Option EffectUuid) (sessionId : Int) (hasHandle callocSucceeds : Bool) :
    Option (Int × VolListener) :=
  match uuid with
  | none => some (-einval, listener)
  | some uuid =>
    if !hasHandle then some (-einval, listener)
    else if !callocSucceeds then some (-einval, listener)
    else
      match VolDescriptor.descriptors.find? (·.uuid = uuid) with
      | none => some (-einval, listener)
      | some desc =>
        if listener.locked then none
        else
          let handle := listener.allocated
          let context : VolListenerContext :=
            ⟨desc, VolDescriptor.descriptors.idxOf desc, sessionId, .initialized, deviceNone, 0, 0⟩
          some (0, { listener.setContext handle context with
            volEffectList := listener.volEffectList ++ [handle]
            allocated := handle + 1 })

def sameEffect (context received : VolListenerContext) : Bool :=
  context.desc.uuid = received.desc.uuid && context.sessionId = received.sessionId &&
    context.streamType = received.streamType

def removed (handle : EffectHandle) : List EffectHandle :=
  listener.volEffectList.filter fun node => sameEffect (listener.contexts node) (listener.contexts handle)

def remove (handle : EffectHandle) : VolListener :=
  let kept := listener.volEffectList.filter fun node =>
    !sameEffect (listener.contexts node) (listener.contexts handle)
  if kept = [] then { listener with volEffectList := kept, currentGainDepCalLevel := -1, currentVol := 0 }
  else { listener with volEffectList := kept }

/-- Also the nodes behind the one of the handle are compared with what it held, as if `free` kept it. -/
def volPrcLibRelease (handle : EffectHandle) : Option (Int × VolListener) :=
  if listener.locked || handle ∉ listener.volEffectList then none
  else
    let status := if listener.removed handle = [] then -1 else 0
    let recompute := (listener.removed handle).any fun node => (listener.contexts node).devId = outSpeaker
    let left := listener.remove handle
    some (status, if recompute then left.checkAndSetGainDepCal send else left)

end VolListener

/-! ### Commands -/

/-- The commands that `vol_effect_command` tells apart. -/
inductive VolCommand where
  | init
  | setConfig
  | getConfig
  | reset
  | setAudioMode
  | offload
  | enable
  | disable
  | getParam
  | setParam
  | setDevice
  | setVolume
  | other
  deriving DecidableEq

/-- The arguments of a command. The data, where there is any, is read as words of 32 bits. -/
structure VolCommandArgs where
  cmdSize : Nat
  cmdData : Option (BitVec 32 × BitVec 32)
  replySize : Option Nat
  replyData : Bool
  deriving DecidableEq

def effectConfigSize : Nat := 64

def VolCommandArgs.badReply (args : VolCommandArgs) : Option Bool :=
  if !args.replyData then some true else args.replySize.map (· ≠ 4)

def volumeOf (word : BitVec 32) : ℚ := (word.toNat : ℚ) / 2 ^ 24

namespace VolListener

variable (send : SendGainDepCal) (listener : VolListener)

def recomputeIf (recompute : Bool) : VolListener :=
  if recompute then listener.checkAndSetGainDepCal send else listener

def switchState (handle : EffectHandle) (source target : VolListenerState) : Int × VolListener :=
  let context := listener.contexts handle
  if context.state ≠ source then (-enosys, listener.unlock)
  else
    (0, ((listener.setContext handle { context with state := target }).recomputeIf send
      (context.devId = outSpeaker)).unlock)

def setDevice (handle : EffectHandle) (newDevice : AudioDevices) : VolListener :=
  let context := listener.contexts handle
  ((listener.setContext handle { context with devId := newDevice }).recomputeIf send
    (context.devId = outSpeaker || newDevice = outSpeaker)).unlock

def setVolume (handle : EffectHandle) (left right : BitVec 32) : VolListener :=
  let context := listener.contexts handle
  ((listener.setContext handle { context with leftVol := volumeOf left, rightVol := volumeOf right }).recomputeIf
    send (context.devId = outSpeaker)).unlock

def volEffectCommand (self : Option EffectHandle) (command : VolCommand) (args : VolCommandArgs) :
    Option (Int × VolListener) :=
  if listener.locked then none
  else
    let listener := listener.lock
    match self with
    | none => some (-einval, listener.unlock)
    | some handle =>
      if handle ∉ listener.volEffectList then none
      else if (listener.contexts handle).state = .uninitialized then some (-einval, listener.unlock)
      else
        match command with
        | .init | .offload =>
          args.badReply.map fun bad => if bad then (-einval, listener) else (0, listener.unlock)
        | .setConfig =>
          if args.cmdData = none || args.cmdSize ≠ effectConfigSize || !args.replyData ||
              args.replySize ≠ some 4 then some (-einval, listener)
          else some (0, listener.unlock)
        | .getConfig | .reset | .setAudioMode | .getParam | .setParam => some (0, listener.unlock)
        | .enable =>
          args.badReply.map fun bad =>
            if bad then (-einval, listener.unlock) else listener.switchState send handle .initialized .active
        | .disable =>
          args.badReply.map fun bad =>
            if bad then (-einval, listener.unlock) else listener.switchState send handle .active .initialized
        | .setDevice =>
          match args.cmdData with
          | none => some (-einval, listener.unlock)
          | some (newDevice, _) => some (0, listener.setDevice send handle newDevice)
        | .setVolume =>
          match args.cmdData with
          | none => some (-einval, listener.unlock)
          | some (left, right) =>
            if args.cmdSize ≠ 8 then some (-einval, listener.unlock)
            else some (0, listener.setVolume send handle left right)
        | .other => some (-enosys, listener.unlock)

end VolListener

inductive VolCall where
  | create (uuid : Option EffectUuid) (sessionId : Int) (hasHandle callocSucceeds : Bool)
  | release (handle : EffectHandle)
  | command (self : Option EffectHandle) (command : VolCommand) (args : VolCommandArgs)
  deriving DecidableEq

def VolListener.call (send : SendGainDepCal) (listener : VolListener) : VolCall → Option (Int × VolListener)
  | .create uuid sessionId hasHandle callocSucceeds =>
    listener.volPrcLibCreate uuid sessionId hasHandle callocSucceeds
  | .release handle => listener.volPrcLibRelease send handle
  | .command self command args => listener.volEffectCommand send self command args

end Nozomi
