import Nozomi.Audio.Effects.Bundle
import Nozomi.Audio.Effects.Config

/-!
# The offload visualizer

The capture thread gives the effect the sound that is played, and the effect keeps one byte for each frame in
a ring. A command returns the last of them. Measurements are left out, they do not touch the ring.
-/

namespace Nozomi

/-! ### Time -/

structure Timespec where
  tvSec : Int
  tvNsec : Int
  deriving DecidableEq

def getDeltaTimeMs (updated : Timespec) (now : Option Timespec) : BitVec 32 :=
  if updated.tvSec ≠ 0 then
    match now with
    | some ts =>
      let secs := ts.tvSec - updated.tvSec
      let nsec := ts.tvNsec - updated.tvNsec
      if nsec < 0 then BitVec.ofInt 32 ((secs - 1) * 1000 + (nsec + 1000000000).tdiv 1000000)
      else BitVec.ofInt 32 (secs * 1000 + nsec.tdiv 1000000)
    | none => 0
  else 0

/-! ### Contexts -/

def captureBufSize : Nat := 65536
def maxStallTimeMs : BitVec 32 := 1000
def dspOutputLatencyMs : BitVec 32 := 0
def visualizerCaptureSizeMax : BitVec 32 := 1024

def scalingModeNormalized : BitVec 32 := 0
def scalingModeAsPlayed : BitVec 32 := 1

def enodata : Int := 61

def channelOutStereo : BitVec 32 := 3

structure VisualizerContext where
  state : EffectState
  offloadEnabled : Bool
  config : EffectConfig
  captureIdx : Nat
  captureSize : BitVec 32
  scalingMode : BitVec 32
  lastCaptureIdx : Nat
  latency : BitVec 32
  bufferUpdateTime : Timespec
  captureBuf : Nat → BitVec 8

structure StereoFrame where
  left : BitVec 16
  right : BitVec 16
  deriving DecidableEq

/-! ### Scaling -/

def interleaved (frames : List StereoFrame) : List (BitVec 16) :=
  frames.flatMap fun frame => [frame.left, frame.right]

def sampleClz (sample : BitVec 16) : Int :=
  let smp := sample.toInt
  (BitVec.ofInt 32 (if smp < 0 then -smp - 1 else smp)).clz.toNat

def scalingShift (scalingMode : BitVec 32) (frames : List StereoFrame) : Option Nat :=
  if scalingMode = scalingModeNormalized then
    let len := (BitVec.ofNat 32 (frames.length * 2)).toInt
    let shift := ((interleaved frames).take len.toNat).foldl
      (fun shift sample => if sampleClz sample < shift then sampleClz sample else shift) 32
    let shift := 25 - shift
    let shift := if shift < 3 then 3 else shift
    some (shift + 1).toNat
  else if scalingMode = scalingModeAsPlayed then some 9
  else none

def captureByte (shift : Nat) (frame : StereoFrame) : BitVec 8 :=
  BitVec.ofInt 8 ((frame.left.toInt + frame.right.toInt) >>> shift) ^^^ 0x80

namespace VisualizerContext

variable (context : VisualizerContext)

def captureFrames (shift : Nat) (frames : List StereoFrame) : Nat × (Nat → BitVec 8) :=
  frames.foldl (fun (captIdx, buf) frame =>
    let captIdx := if captureBufSize ≤ captIdx then 0 else captIdx
    (captIdx + 1, Function.update buf captIdx (captureByte shift frame)))
    (context.captureIdx, context.captureBuf)

def visualizerProcess (inBuffer outBuffer : Option (List StereoFrame)) (now : Option Timespec) :
    Option (Int × VisualizerContext) :=
  match inBuffer, outBuffer with
  | some frames, some outFrames =>
    if frames.length ≠ outFrames.length || frames.length = 0 then some (-einval, context)
    else
      (scalingShift context.scalingMode frames).map fun shift =>
        let captured := context.captureFrames shift frames
        let next := { context with
          captureIdx := captured.1
          captureBuf := captured.2
          bufferUpdateTime := now.getD { context.bufferUpdateTime with tvSec := 0 } }
        (if context.state ≠ .active then -enodata else 0, next)
  | _, _ => some (-einval, context)

def visualizerReset : VisualizerContext :=
  { context with
    captureIdx := 0
    lastCaptureIdx := 0
    bufferUpdateTime := { context.bufferUpdateTime with tvSec := 0 }
    latency := dspOutputLatencyMs
    captureBuf := fun _ => 0x80 }

def setConfig (config : EffectConfig) : Int × VisualizerContext :=
  if config.inputCfg.samplingRate ≠ config.outputCfg.samplingRate then (-einval, context)
  else if config.inputCfg.channels ≠ config.outputCfg.channels then (-einval, context)
  else if config.inputCfg.format ≠ config.outputCfg.format then (-einval, context)
  else if config.inputCfg.channels ≠ channelOutStereo then (-einval, context)
  else if config.outputCfg.accessMode ≠ .write ∧ config.outputCfg.accessMode ≠ .accumulate then
    (-einval, context)
  else if config.inputCfg.format ≠ formatPcm16Bit then (-einval, context)
  else (0, { context with config := config }.visualizerReset)

def visualizerInit : Int × VisualizerContext :=
  let config : EffectConfig :=
    ⟨⟨44100, channelOutStereo, formatPcm16Bit, .read⟩, ⟨44100, channelOutStereo, formatPcm16Bit, .accumulate⟩⟩
  let context := { context with
    config := config
    captureSize := visualizerCaptureSizeMax
    scalingMode := scalingModeNormalized }
  (0, (context.setConfig config).2)

end VisualizerContext

inductive VisualizerParam where
  | captureSize
  | scalingMode
  | latency
  | measurementMode
  | other
  deriving DecidableEq

namespace VisualizerContext

variable (context : VisualizerContext)

def visualizerSetParameter (psize vsize : BitVec 32) (param : VisualizerParam) (value : BitVec 32) :
    Int × VisualizerContext :=
  if psize ≠ 4 || vsize ≠ 4 then (-einval, context)
  else
    match param with
    | .captureSize => (0, { context with captureSize := value })
    | .scalingMode => (0, { context with scalingMode := value })
    | .latency | .measurementMode => (0, context)
    | .other => (-einval, context)

/-! ### Captures -/

def readCaptureBuf (start : Int) (size : BitVec 32) : Option (List (BitVec 8)) :=
  if size = 0 then some []
  else if 0 ≤ start ∧ start + size.toNat ≤ captureBufSize then
    some ((List.range size.toNat).map fun i => context.captureBuf (start.toNat + i))
  else none

def deltaSmp (now : Option Timespec) : BitVec 32 :=
  let latencyMs := context.latency - getDeltaTimeMs context.bufferUpdateTime now
  let latencyMs := if latencyMs.slt 0 then 0 else latencyMs
  context.config.inputCfg.samplingRate * latencyMs / 1000

def capturedBytes (now : Option Timespec) : Option (List (BitVec 8) × List (BitVec 8)) :=
  let capturePoint := BitVec.ofNat 32 context.captureIdx - context.captureSize - context.deltaSmp now
  let captureSize := context.captureSize
  if capturePoint.slt 0 then
    let size := -capturePoint
    let size := if captureSize.slt size then captureSize else size
    match context.readCaptureBuf (captureBufSize + capturePoint.toInt) size with
    | some first => (context.readCaptureBuf 0 (captureSize - size)).map (first, ·)
    | none => none
  else (context.readCaptureBuf capturePoint.toInt captureSize).map ([], ·)

def stalled (now : Option Timespec) : Bool :=
  context.lastCaptureIdx = context.captureIdx && context.bufferUpdateTime.tvSec ≠ 0 &&
    maxStallTimeMs < getDeltaTimeMs context.bufferUpdateTime now

def visualizerCapture (replySize : BitVec 32) (hasReply : Bool) (now : Option Timespec) :
    Option (Int × List (BitVec 8) × VisualizerContext) :=
  if !hasReply || replySize ≠ context.captureSize then some (-einval, [], context)
  else if !context.offloadEnabled then some (0, [], context)
  else if context.state = .active then
    (context.capturedBytes now).map fun (first, second) =>
      let next := { context with lastCaptureIdx := context.captureIdx }
      if context.stalled now then
        (0, first ++ List.replicate context.captureSize.toNat 0x80,
          { next with bufferUpdateTime := { context.bufferUpdateTime with tvSec := 0 } })
      else (0, first ++ second, next)
  else some (0, List.replicate context.captureSize.toNat 0x80, context)

end VisualizerContext

/-! ### Calls -/

/-- The commands of the effect, with what they read. -/
inductive VisualizerCommand where
  | init
  | setConfig (config : EffectConfig)
  | reset
  | enable
  | disable
  | setParam (psize vsize : BitVec 32) (param : VisualizerParam) (value : BitVec 32)
  | offload (isOffload : Bool)
  | capture (now : Option Timespec)
  deriving DecidableEq

/-- The calls that the capture thread and the framework make for an effect that was created. -/
inductive VisualizerCall where
  | process (inBuffer outBuffer : Option (List StereoFrame)) (now : Option Timespec)
  | command (command : VisualizerCommand) (replySize : BitVec 32) (hasReply : Bool)
  deriving DecidableEq

def intReply (value : Int) : List (BitVec 8) :=
  let word := BitVec.ofInt 32 value
  [word.extractLsb' 0 8, word.extractLsb' 8 8, word.extractLsb' 16 8, word.extractLsb' 24 8]

namespace VisualizerContext

def created : VisualizerContext :=
  let config : BufferConfig := ⟨0, 0, 0, .write⟩
  { visualizerInit ⟨.uninitialized, false, ⟨config, config⟩, 0, 0, 0, 0, 0, ⟨0, 0⟩, fun _ => 0⟩ |>.2 with
    state := .initialized }

variable (context : VisualizerContext)

def effectCommand (command : VisualizerCommand) (replySize : BitVec 32) (hasReply : Bool) :
    Option (Int × List (BitVec 8) × VisualizerContext) :=
  let badReply := !hasReply || replySize ≠ 4
  match command with
  | .init =>
    if badReply then some (-einval, [], context)
    else some (0, intReply context.visualizerInit.1, context.visualizerInit.2)
  | .setConfig config =>
    if badReply then some (-einval, [], context)
    else some (0, intReply (context.setConfig config).1, (context.setConfig config).2)
  | .reset => some (0, [], context.visualizerReset)
  | .enable =>
    if badReply then some (-einval, [], context)
    else if context.state ≠ .initialized then some (-enosys, [], context)
    else some (0, intReply 0, { context with state := .active })
  | .disable =>
    if badReply then some (-einval, [], context)
    else if context.state ≠ .active then some (-enosys, [], context)
    else some (0, intReply 0, { context with state := .initialized })
  | .setParam psize vsize param value =>
    if badReply then some (-einval, [], context)
    else
      let result := context.visualizerSetParameter psize vsize param value
      some (0, intReply result.1, result.2)
  | .offload isOffload =>
    if badReply then some (-einval, [], context)
    else some (0, intReply 0, { context with offloadEnabled := isOffload })
  | .capture now => context.visualizerCapture replySize hasReply now

def call : VisualizerCall → Option (Int × List (BitVec 8) × VisualizerContext)
  | .process inBuffer outBuffer now =>
    (context.visualizerProcess inBuffer outBuffer now).map fun (status, next) => (status, [], next)
  | .command command replySize hasReply => context.effectCommand command replySize hasReply

end VisualizerContext

end Nozomi
