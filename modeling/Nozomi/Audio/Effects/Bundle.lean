import Nozomi.Audio.Effects.Boost

/-!
# The offload effects bundle

Effects are created for an output by its handle, before or after the output is started, and they can be moved
to another one. The lists of the library hold the addresses of contexts; a new context and a new output take
addresses that were not used before.
-/

namespace Nozomi

/-! ### Effects -/

structure EffectUuid where
  timeLow : BitVec 32
  timeMid : BitVec 16
  timeHiAndVersion : BitVec 16
  clockSeq : BitVec 16
  node : BitVec 48
  deriving DecidableEq

/-- The effects of the bundle, in the order of `descriptors`. -/
inductive EffectDescriptor where
  | equalizer
  | bassboost
  | virtualizer
  | auxEnvReverb
  | insEnvReverb
  | auxPresetReverb
  | insPresetReverb
  deriving DecidableEq

namespace EffectDescriptor

def descriptors : List EffectDescriptor :=
  [.equalizer, .bassboost, .virtualizer, .auxEnvReverb, .insEnvReverb, .auxPresetReverb, .insPresetReverb]

def uuid : EffectDescriptor → EffectUuid
  | equalizer => ⟨0xa0dac280, 0x401c, 0x11e3, 0x9379, 0x0002a5d5c51b⟩
  | bassboost => ⟨0x2c4a8c24, 0x1581, 0x487f, 0x94f6, 0x0002a5d5c51b⟩
  | virtualizer => ⟨0x509a4498, 0x561a, 0x4bea, 0xb3b1, 0x0002a5d5c51b⟩
  | auxEnvReverb => ⟨0x79a18026, 0x18fd, 0x4185, 0x8233, 0x0002a5d5c51b⟩
  | insEnvReverb => ⟨0xeb64ea04, 0x973b, 0x43d2, 0x8f5e, 0x0002a5d5c51b⟩
  | auxPresetReverb => ⟨0x6987be09, 0xb142, 0x4b41, 0x9056, 0x0002a5d5c51b⟩
  | insPresetReverb => ⟨0xaa2bebf6, 0x47cf, 0x4613, 0x9bca, 0x0002a5d5c51b⟩

end EffectDescriptor

inductive EffectState where
  | uninitialized
  | initialized
  | active
  deriving DecidableEq

/-- `equalizer_context_t` and `reverb_context_t`, as far as the bundle knows them. -/
structure OffloadContext where
  ctl : Option MixerCtl
  enableFlag : Bool
  device : AudioDevices
  deriving DecidableEq

/-- The part of a context that the operations of its own effect work on. -/
inductive EffectImpl where
  | boost (module : BoostModule) (context : BoostContext)
  | other (context : OffloadContext)
  deriving DecidableEq

abbrev AudioIoHandle := Int

structure EffectContext where
  desc : EffectDescriptor
  outHandle : AudioIoHandle
  state : EffectState
  offloadEnabled : Bool
  impl : EffectImpl
  deriving DecidableEq

/-- The parameters of the bass boost and of the virtualizer. -/
inductive BoostParam where
  | strengthSupported
  | strength
  | other
  deriving DecidableEq

def BoostModule.effect : BoostModule → BoostEffect
  | .bassBoost => Nozomi.bassboost
  | .virtualizer => Nozomi.virtualizer

namespace EffectImpl

def allocated : EffectDescriptor → EffectImpl
  | .bassboost => .boost .bassBoost .allocated
  | .virtualizer => .boost .virtualizer .allocated
  | .equalizer | .auxEnvReverb | .insEnvReverb | .auxPresetReverb | .insPresetReverb => .other ⟨none, false, 0⟩

def ctl : EffectImpl → Option MixerCtl
  | .boost _ context => context.ctl
  | .other context => context.ctl

def init : EffectImpl → EffectImpl
  | .boost module context => .boost module context.init
  | .other context => .other { context with enableFlag := false, device := 0 }

def enable (impl : EffectImpl) (dsp : Dsp) : EffectImpl × Dsp :=
  match impl with
  | .boost module context => (module.effect.enable context dsp).map (.boost module) id
  | .other context => (.other { context with enableFlag := true }, dsp)

def disable (impl : EffectImpl) (dsp : Dsp) : EffectImpl × Dsp :=
  match impl with
  | .boost module context => (module.effect.disable context dsp).map (.boost module) id
  | .other context => (.other { context with enableFlag := false }, dsp)

def setDevice (active : Bool) (impl : EffectImpl) (device : AudioDevices) (dsp : Dsp) : EffectImpl × Dsp :=
  match impl with
  | .boost module context => (module.effect.setDevice active context device dsp).map (.boost module) id
  | .other context => (.other { context with device := device }, dsp)

def setParameter (impl : EffectImpl) (param : BoostParam) (value : BitVec 16) (dsp : Dsp) : EffectImpl × Dsp :=
  match impl with
  | .boost module context =>
    match param with
    | .strength => (module.effect.setStrength context value.toInt dsp).map (.boost module) id
    | .strengthSupported | .other => (impl, dsp)
  | .other _ => (impl, dsp)

def start (impl : EffectImpl) (ctl : MixerCtl) (dsp : Dsp) : EffectImpl × Dsp :=
  match impl with
  | .boost module context => (module.effect.start context ctl dsp).map (.boost module) id
  | .other context => (.other { context with ctl := some ctl }, dsp)

def stop : EffectImpl → EffectImpl
  | .boost module context => .boost module context.stop
  | .other context => .other { context with ctl := none }

end EffectImpl

/-! ### The library -/

abbrev EffectHandle := Nat

abbrev OutputAddress := Nat

/-- `output_context_t`. Its mixer is open as long as it is in `active_outputs_list`. -/
structure OutputContext where
  handle : AudioIoHandle
  pcmDeviceId : Int
  ctl : MixerCtl
  effectsList : List EffectHandle

/-- The state of the library, and of the DSP behind the controls. The numbers of contexts and of outputs
allocated so far give the next addresses. -/
structure Bundle where
  contexts : EffectHandle → EffectContext
  outputs : OutputAddress → OutputContext
  createdEffectsList : List EffectHandle
  activeOutputsList : List OutputAddress
  dsp : Dsp
  contextsAllocated : Nat
  outputsAllocated : Nat

/-- How `mixer_open` and `mixer_get_ctl_by_name` end. -/
inductive MixerOutcome where
  | noMixer
  | noCtl
  | found
  deriving DecidableEq

def enosys : Int := 38
def einval : Int := 22

namespace Bundle

def initOnce : Bundle where
  contexts _ := ⟨.equalizer, 0, .uninitialized, false, .allocated .equalizer⟩
  outputs _ := ⟨0, 0, 0, []⟩
  createdEffectsList := []
  activeOutputsList := []
  dsp _ _ := .atStart
  contextsAllocated := 0
  outputsAllocated := 0

variable (bundle : Bundle)

def effectExists (context : EffectHandle) : Bool := context ∈ bundle.createdEffectsList

def getOutput (output : AudioIoHandle) : Option OutputAddress :=
  bundle.activeOutputsList.find? fun outCtxt => (bundle.outputs outCtxt).handle = output

def setContext (context : EffectHandle) (value : EffectContext) : Bundle :=
  { bundle with contexts := Function.update bundle.contexts context value }

def setEffectsList (output : OutputAddress) (effects : List EffectHandle) : Bundle :=
  { bundle with
    outputs := Function.update bundle.outputs output { bundle.outputs output with effectsList := effects } }

def run (context : EffectHandle) (operation : EffectImpl → Dsp → EffectImpl × Dsp) : Bundle :=
  let fx := bundle.contexts context
  let (impl, dsp) := operation fx.impl bundle.dsp
  { bundle.setContext context { fx with impl := impl } with dsp := dsp }

def opsStart (output : OutputAddress) (context : EffectHandle) : Bundle :=
  bundle.run context fun impl dsp => impl.start (bundle.outputs output).ctl dsp

def opsStop (context : EffectHandle) : Bundle := bundle.run context fun impl dsp => (impl.stop, dsp)

def addEffectToOutput (output : OutputAddress) (context : EffectHandle) : Bundle :=
  let effects := (bundle.outputs output).effectsList
  if context ∈ effects then bundle
  else (bundle.setEffectsList output (effects ++ [context])).opsStart output context

def removeEffectFromOutput (output : OutputAddress) (context : EffectHandle) : Bundle :=
  let effects := (bundle.outputs output).effectsList
  if context ∈ effects then (bundle.opsStop context).setEffectsList output (effects.erase context)
  else bundle

def attach (context : EffectHandle) : Bundle :=
  match bundle.getOutput (bundle.contexts context).outHandle with
  | some outCtxt => bundle.addEffectToOutput outCtxt context
  | none => bundle

def detach (context : EffectHandle) : Bundle :=
  match bundle.getOutput (bundle.contexts context).outHandle with
  | some outCtxt => bundle.removeEffectFromOutput outCtxt context
  | none => bundle

def startCreated (output : AudioIoHandle) (outCtxt : OutputAddress) (context : EffectHandle) : Bundle :=
  if (bundle.contexts context).outHandle = output then
    let bundle := bundle.opsStart outCtxt context
    bundle.setEffectsList outCtxt ((bundle.outputs outCtxt).effectsList ++ [context])
  else bundle

def openOutput (output : AudioIoHandle) (pcmId : Int) : Bundle :=
  let fresh := bundle.outputsAllocated
  { bundle with
    outputs := Function.update bundle.outputs fresh ⟨output, pcmId, fresh, []⟩
    dsp := Function.update bundle.dsp fresh fun _ => .atStart
    outputsAllocated := fresh + 1 }

def startOutput (output : AudioIoHandle) (pcmId : Int) (outcome : MixerOutcome) : Int × Bundle :=
  if (bundle.getOutput output).isSome then (-enosys, bundle)
  else
    match outcome with
    | .noMixer | .noCtl => (-einval, bundle)
    | .found =>
      let outCtxt := bundle.outputsAllocated
      let started := bundle.createdEffectsList.foldl
        (fun bundle context => bundle.startCreated output outCtxt context) (bundle.openOutput output pcmId)
      (0, { started with activeOutputsList := started.activeOutputsList ++ [outCtxt] })

def stopOutput (output : AudioIoHandle) : Option Int × Bundle :=
  match bundle.getOutput output with
  | none => (some (-enosys), bundle)
  | some outCtxt =>
    let stopped := (bundle.outputs outCtxt).effectsList.foldl opsStop bundle
    (none, { stopped with activeOutputsList := stopped.activeOutputsList.erase outCtxt })

def newContext (desc : EffectDescriptor) (ioId : AudioIoHandle) : Bundle :=
  let context := bundle.contextsAllocated
  { bundle.setContext context ⟨desc, ioId, .initialized, false, (EffectImpl.allocated desc).init⟩ with
    contextsAllocated := context + 1
    createdEffectsList := bundle.createdEffectsList ++ [context] }

def effectLibCreate (uuid : EffectUuid) (ioId : AudioIoHandle) : Option EffectHandle × Int × Bundle :=
  match EffectDescriptor.descriptors.find? (·.uuid = uuid) with
  | none => (none, -einval, bundle)
  | some desc =>
    let context := bundle.contextsAllocated
    (some context, 0, (bundle.newContext desc ioId).attach context)

def effectLibRelease (context : EffectHandle) : Int × Bundle :=
  if bundle.effectExists context then
    let detached := bundle.detach context
    (0, { detached with createdEffectsList := detached.createdEffectsList.erase context })
  else (-einval, bundle)

end Bundle

/-! ### Commands -/

/-- The commands that change what an effect does. -/
inductive EffectCommand where
  | init
  | enable
  | disable
  | setDevice (device : AudioDevices)
  | setParam (param : BoostParam) (value : BitVec 16)
  | offload (isOffload : Bool) (ioHandle : AudioIoHandle)
  deriving DecidableEq

namespace Bundle

variable (bundle : Bundle)

def setState (context : EffectHandle) (state : EffectState) : Bundle :=
  bundle.setContext context { bundle.contexts context with state := state }

def offload (context : EffectHandle) (isOffload : Bool) (ioHandle : AudioIoHandle) : Bundle :=
  let bundle := bundle.setContext context { bundle.contexts context with offloadEnabled := isOffload }
  if (bundle.contexts context).outHandle = ioHandle then bundle
  else
    let bundle := bundle.detach context
    let bundle := bundle.setContext context { bundle.contexts context with outHandle := ioHandle }
    bundle.attach context

def effectCommand (context : EffectHandle) (command : EffectCommand) (wellFormed : Bool) : Int × Bundle :=
  if !bundle.effectExists context || (bundle.contexts context).state = .uninitialized then (-enosys, bundle)
  else if !wellFormed then (-einval, bundle)
  else
    match command with
    | .init => (0, bundle.run context fun impl dsp => (impl.init, dsp))
    | .enable =>
      if (bundle.contexts context).state ≠ .initialized then (-enosys, bundle)
      else (0, (bundle.setState context .active).run context EffectImpl.enable)
    | .disable =>
      if (bundle.contexts context).state ≠ .active then (-enosys, bundle)
      else (0, (bundle.setState context .initialized).run context EffectImpl.disable)
    | .setDevice device =>
      (0, bundle.run context fun impl dsp =>
        impl.setDevice ((bundle.contexts context).state = .active) device dsp)
    | .setParam param value => (0, bundle.run context fun impl dsp => impl.setParameter param value dsp)
    | .offload isOffload ioHandle => (0, bundle.offload context isOffload ioHandle)

end Bundle

/-- The calls of the library and of the audio HAL. -/
inductive BundleCall where
  | startOutput (output : AudioIoHandle) (pcmId : Int) (outcome : MixerOutcome)
  | stopOutput (output : AudioIoHandle)
  | create (uuid : EffectUuid) (ioId : AudioIoHandle)
  | release (context : EffectHandle)
  | command (context : EffectHandle) (command : EffectCommand) (wellFormed : Bool)
  deriving DecidableEq

def Bundle.call (bundle : Bundle) : BundleCall → Bundle
  | .startOutput output pcmId outcome => (bundle.startOutput output pcmId outcome).2
  | .stopOutput output => (bundle.stopOutput output).2
  | .create uuid ioId => (bundle.effectLibCreate uuid ioId).2.2
  | .release context => (bundle.effectLibRelease context).2
  | .command context command wellFormed => (bundle.effectCommand context command wellFormed).2

end Nozomi
