import Mathlib.Tactic.Ring

/-!
# Configurations of effects
-/

namespace Nozomi

def formatPcm16Bit : BitVec 8 := 1

inductive EffectBufferAccess where
  | write
  | read
  | accumulate
  deriving DecidableEq

structure BufferConfig where
  samplingRate : BitVec 32
  channels : BitVec 32
  format : BitVec 8
  accessMode : EffectBufferAccess
  deriving DecidableEq

structure EffectConfig where
  inputCfg : BufferConfig
  outputCfg : BufferConfig
  deriving DecidableEq

end Nozomi
