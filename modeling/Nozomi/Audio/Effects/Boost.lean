import Mathlib.Data.List.Basic
import Nozomi.Audio.Platform

/-!
# The bass boost and the virtualizer of the offload bundle

Both effects run the same code on parameters of their own module of the audio DSP. An operation changes the
parameters that the context holds, and sends some of them over the mixer control of the output.
-/

namespace Nozomi

namespace AudioDevices

def outBluetoothScoCarkit : AudioDevices := 0x40
def outBluetoothA2dpSpeaker : AudioDevices := 0x200
def outAnlgDockHeadset : AudioDevices := 0x800

end AudioDevices

open AudioDevices

/-! ### The parameters in the DSP -/

/-- The modules of the DSP that have an enable flag and a strength. -/
inductive BoostModule where
  | bassBoost
  | virtualizer
  deriving DecidableEq

/-- What a module of the DSP was told last about its enable flag and its strength. -/
structure ModuleParams where
  enable : Bool
  strength : Int
  deriving DecidableEq

def ModuleParams.atStart : ModuleParams := ⟨false, 0⟩

abbrev MixerCtl := Nat

abbrev Dsp := MixerCtl → BoostModule → ModuleParams

/-- `struct bass_boost_params` and `struct virtualizer_params`. -/
structure BoostParams where
  device : AudioDevices
  enableFlag : Bool
  strength : Int
  deriving DecidableEq

def BoostParams.zero : BoostParams := ⟨0, false, 0⟩

def offloadSendBassboostEnableFlag : Nat := 1 <<< 0
def offloadSendBassboostStrength : Nat := offloadSendBassboostEnableFlag <<< 1
def offloadSendVirtualizerEnableFlag : Nat := 1 <<< 0
def offloadSendVirtualizerStrength : Nat := offloadSendVirtualizerEnableFlag <<< 1

/-! ### The code of both effects -/

/-- `bassboost_context_t` and `virtualizer_context_t`, without the common part. -/
structure BoostContext where
  strength : Int
  ctl : Option MixerCtl
  tempDisabled : Bool
  device : AudioDevices
  offload : BoostParams
  deriving DecidableEq

def disablesBoost (device : AudioDevices) : Bool :=
  device = outSpeaker || device = outBluetoothScoCarkit || device = outBluetoothA2dpSpeaker ||
    device = outAuxDigital || device = outAnlgDockHeadset

/-- What tells one effect from the other: the module, the flags of its `send_params`, and the flags with
which its `enable` calls it. -/
structure BoostEffect where
  module : BoostModule
  enableFlag : Nat
  strengthFlag : Nat
  onEnable : Nat

def bassboost : BoostEffect where
  module := .bassBoost
  enableFlag := offloadSendBassboostEnableFlag
  strengthFlag := offloadSendBassboostStrength
  onEnable := offloadSendBassboostEnableFlag ||| offloadSendBassboostStrength

def virtualizer : BoostEffect where
  module := .virtualizer
  enableFlag := offloadSendVirtualizerEnableFlag
  strengthFlag := offloadSendVirtualizerStrength
  onEnable := offloadSendVirtualizerEnableFlag ||| offloadSendBassboostStrength

namespace BoostEffect

variable (effect : BoostEffect)

def sendParams (ctl : MixerCtl) (params : BoostParams) (flags : Nat) (dsp : Dsp) : Dsp :=
  let known := dsp ctl effect.module
  let known := if flags &&& effect.enableFlag ≠ 0 then { known with enable := params.enableFlag } else known
  let known := if flags &&& effect.strengthFlag ≠ 0 then { known with strength := params.strength } else known
  Function.update dsp ctl (Function.update (dsp ctl) effect.module known)

def send (context : BoostContext) (flags : Nat) (dsp : Dsp) : Dsp :=
  match context.ctl with
  | some ctl => effect.sendParams ctl context.offload flags dsp
  | none => dsp

def setStrength (context : BoostContext) (strength : Int) (dsp : Dsp) : BoostContext × Dsp :=
  let context :=
    { context with strength := strength, offload := { context.offload with strength := strength } }
  (context, effect.send context (effect.enableFlag ||| effect.strengthFlag) dsp)

def switchTo (flag active : Bool) (context : BoostContext) (dsp : Dsp) : BoostContext × Dsp :=
  if active then
    let context := { context with offload := { context.offload with enableFlag := flag } }
    (context, effect.send context effect.enableFlag dsp)
  else (context, dsp)

def setDevice (active : Bool) (context : BoostContext) (device : AudioDevices) (dsp : Dsp) :
    BoostContext × Dsp :=
  let context := { context with device := device }
  let (context, dsp) :=
    if disablesBoost device then
      if !context.tempDisabled then
        let (context, dsp) := effect.switchTo false active context dsp
        ({ context with tempDisabled := true }, dsp)
      else (context, dsp)
    else if context.tempDisabled then
      let (context, dsp) := effect.switchTo true active context dsp
      ({ context with tempDisabled := false }, dsp)
    else (context, dsp)
  ({ context with offload := { context.offload with device := device } }, dsp)

def enable (context : BoostContext) (dsp : Dsp) : BoostContext × Dsp :=
  if !context.offload.enableFlag && !context.tempDisabled then
    let context := { context with offload := { context.offload with enableFlag := true } }
    (context, if context.strength ≠ 0 then effect.send context effect.onEnable dsp else dsp)
  else (context, dsp)

def disable (context : BoostContext) (dsp : Dsp) : BoostContext × Dsp :=
  if context.offload.enableFlag then
    let context := { context with offload := { context.offload with enableFlag := false } }
    (context, effect.send context effect.enableFlag dsp)
  else (context, dsp)

def start (context : BoostContext) (ctl : MixerCtl) (dsp : Dsp) : BoostContext × Dsp :=
  let context := { context with ctl := some ctl }
  (context, if context.offload.enableFlag then
    effect.send context (effect.enableFlag ||| effect.strengthFlag) dsp else dsp)

end BoostEffect

namespace BoostContext

def allocated : BoostContext := ⟨0, none, false, 0, .zero⟩

def init (context : BoostContext) : BoostContext :=
  { context with tempDisabled := false, offload := .zero }

def stop (context : BoostContext) : BoostContext := { context with ctl := none }

end BoostContext

end Nozomi
