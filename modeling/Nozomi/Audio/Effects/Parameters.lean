import Nozomi.Audio.Effects.Bundle
import Nozomi.Base.Traced

/-!
# Reading and writing the parameters of an effect

The cases of `EFFECT_CMD_GET_PARAM` and `EFFECT_CMD_SET_PARAM` in `effect_command`, with the handlers of the
equalizer, the bass boost, the virtualizer and the reverb. A handler works on an `effect_param_t`, which is
the reply when a parameter is read and the command when one is written: at 0 its status, at 4 `psize`, at 8
`vsize`, and from 12 on the data. `size_t` has 32 bits, words are stored with the low byte first, and what lies
beyond the end of a buffer is some byte. What is sent to the DSP is left out.
-/

namespace Nozomi

inductive Buffer where
  | command | reply
  deriving DecidableEq, Repr

/-- What is indexed: the buffers, `band_levels`, `equalizer_band_freq_range`, `equalizer_band_presets_level`,
`equalizer_preset_names`, `equalizer_band_presets_freq`, and the tables of the offloaded presets. -/
inductive ParamArray where
  | buffer (buffer : Buffer)
  | bandLevels | bandFreqRange | presetsLevel | presetNames | presetsFreq
  | eqPresetMap | reverbPresetMap
  deriving DecidableEq, Repr

def paramSize (cmdSize replySize : BitVec 32) : ParamArray → Nat
  | .buffer .command => cmdSize.toNat
  | .buffer .reply => replySize.toNat
  | .bandLevels | .bandFreqRange | .presetsFreq => 5
  | .presetsLevel => 50
  | .presetNames => 10
  | .eqPresetMap => 11
  | .reverbPresetMap => 6

structure EqContext where
  preset : Int
  bandLevels : Int → Int
  hasCtl : Bool

/-- `reverb_settings_t`, with the fields that are kept. -/
structure ReverbSettings where
  roomLevel : BitVec 16
  roomHFLevel : BitVec 16
  decayTime : BitVec 32
  decayHFRatio : BitVec 16
  reverbLevel : BitVec 16
  diffusion : BitVec 16
  density : BitVec 16
  deriving DecidableEq, Repr

structure ReverbContext where
  preset : Bool
  nextPreset : BitVec 16
  settings : ReverbSettings
  deriving DecidableEq, Repr

/-- The context of an effect: of the equalizer, of the bass boost or the virtualizer, or of a reverb. -/
inductive ParamContext where
  | equalizer (context : EqContext)
  | boost (strength : Int)
  | reverb (context : ReverbContext)

structure ParamState where
  bytes : Buffer → Int → BitVec 8
  replySize : BitVec 32
  context : ParamContext

abbrev Handler := Traced ParamArray ParamState

open Traced

/-! ### Buffers -/

def word16 (bytes : Int → BitVec 8) (offset : Int) : BitVec 16 := bytes (offset + 1) ++ bytes offset

def word32 (bytes : Int → BitVec 8) (offset : Int) : BitVec 32 :=
  bytes (offset + 3) ++ bytes (offset + 2) ++ bytes (offset + 1) ++ bytes offset

def bytes16 (word : BitVec 16) : List (BitVec 8) := [word.extractLsb' 0 8, word.extractLsb' 8 8]

def bytes32 (word : BitVec 32) : List (BitVec 8) :=
  [word.extractLsb' 0 8, word.extractLsb' 8 8, word.extractLsb' 16 8, word.extractLsb' 24 8]

def overwrite (bytes : Int → BitVec 8) (offset : Int) (written : List (BitVec 8)) (i : Int) : BitVec 8 :=
  if offset ≤ i ∧ i < offset + written.length then written.getD (i - offset).toNat 0 else bytes i

def ParamState.write (state : ParamState) (buffer : Buffer) (offset : Int) (written : List (BitVec 8)) : ParamState :=
  { state with bytes := fun other =>
      if other = buffer then overwrite (state.bytes buffer) offset written else state.bytes other }

def load8 (buffer : Buffer) (offset : Int) : Handler (BitVec 8) := do
  touch (span (.buffer buffer) offset 1)
  let state ← get
  pure (state.bytes buffer offset)

def load16 (buffer : Buffer) (offset : Int) : Handler (BitVec 16) := do
  touch (span (.buffer buffer) offset 2)
  let state ← get
  pure (word16 (state.bytes buffer) offset)

def load32 (buffer : Buffer) (offset : Int) : Handler (BitVec 32) := do
  touch (span (.buffer buffer) offset 4)
  let state ← get
  pure (word32 (state.bytes buffer) offset)

def store (buffer : Buffer) (offset : Int) (written : List (BitVec 8)) : Handler Unit := do
  touch (span (.buffer buffer) offset written.length)
  modify (·.write buffer offset written)

def store16 (buffer : Buffer) (offset : Int) (word : BitVec 16) : Handler Unit := store buffer offset (bytes16 word)

def store32 (buffer : Buffer) (offset : Int) (word : BitVec 32) : Handler Unit := store buffer offset (bytes32 word)

def strlcpyBytes (source : List (BitVec 8)) (size : Nat) : List (BitVec 8) :=
  if size = 0 then [] else source.take (size - 1) ++ [0]

def strlcpy (buffer : Buffer) (offset : Int) (source : List (BitVec 8)) (size : Nat) : Handler Unit :=
  store buffer offset (strlcpyBytes source size)

def strlen (buffer : Buffer) : Int → Nat → Handler Nat
  | _, 0 => pure 0
  | offset, fuel + 1 => do
    let byte ← load8 buffer offset
    if byte = 0 then pure 0
    else do
      let rest ← strlen buffer (offset + 1) fuel
      pure (rest + 1)

/-! ### The parameter of a handler -/

abbrev statusInvalid : BitVec 32 := BitVec.ofInt 32 (-22)

def voffset (psize : BitVec 32) : Int := (((psize - 1) / 4 + 1) * 4).toInt

def paramHeader (buffer : Buffer) : Handler (BitVec 32 × Int) := do
  let psize ← load32 buffer 4
  let param ← load32 buffer 12
  store32 buffer 0 0
  pure (param, 12 + voffset psize)

/-- What the first `switch` of `get_parameter` asks for: a value of a number of bytes, any value, or no parameter of
this code. -/
inductive ValueSize where
  | fixed (bytes : BitVec 32)
  | any
  | unknown
  deriving DecidableEq, Repr

def checkSize : ValueSize → Handler Unit
  | .fixed bytes => do
    let vsize ← load32 .reply 8
    if vsize < bytes then store32 .reply 0 statusInvalid else pure ()
    store32 .reply 8 bytes
  | .any => pure ()
  | .unknown => store32 .reply 0 statusInvalid

def answerParameter (size : ValueSize) (value : Int) (writeValue : Handler Unit) : Handler Int := do
  checkSize size
  let vsize ← load32 .reply 8
  modify fun state => { state with replySize := BitVec.ofInt 32 value + vsize }
  let status ← load32 .reply 0
  if status ≠ 0 then pure 0
  else do
    writeValue
    pure 0

/-! ### The equalizer -/

inductive EqParam where
  | numBands | levelRange | bandLevel | centerFreq | bandFreqRange | getBand | curPreset | getNumOfPresets
  | getPresetName | properties | other
  deriving DecidableEq, Repr

namespace EqParam

def ofCode (code : BitVec 32) : EqParam :=
  match code.toNat with
  | 0 => .numBands
  | 1 => .levelRange
  | 2 => .bandLevel
  | 3 => .centerFreq
  | 4 => .bandFreqRange
  | 5 => .getBand
  | 6 => .curPreset
  | 7 => .getNumOfPresets
  | 8 => .getPresetName
  | 9 => .properties
  | _ => .other

def valueSize : EqParam → ValueSize
  | .numBands | .curPreset | .getNumOfPresets | .bandLevel | .getBand => .fixed 2
  | .levelRange => .fixed 4
  | .bandFreqRange => .fixed 8
  | .centerFreq => .fixed 4
  | .getPresetName => .any
  | .properties => .fixed 14
  | .other => .unknown

end EqParam

def equalizerPresetNames : List String :=
  ["Normal", "Classical", "Dance", "Flat", "Folk", "Heavy Metal", "Hip Hop", "Jazz", "Pop", "Rock"]

def equalizerBandFreqRange : List (Nat × Nat) :=
  [(30000, 120000), (120001, 460000), (460001, 1800000), (1800001, 7000000), (7000001, 20000000)]

def equalizerBandPresetsLevel : List Int :=
  [3, 0, 0, 0, 3, 5, 3, -2, 4, 4, 6, 0, 2, 4, 1, 0, 0, 0, 0, 0, 3, 0, 0, 2, -1, 4, 1, 9, 3, 0, 5, 3, 0, 1, 3,
    4, 2, -2, 2, 5, -1, 2, 5, 1, -2, 5, 3, -1, 3, 5]

def stringBytes (string : String) : List (BitVec 8) := string.toList.map fun char => BitVec.ofNat 8 char.toNat

namespace EqContext

variable (context : EqContext)

def getBandLevel (band : Int) : Handler Int := do
  touch [⟨.bandLevels, band⟩]
  pure (context.bandLevels band * 100)

def getBand (freq : BitVec 32) : List (Nat × Nat) → Nat → Handler Nat
  | [], _ => pure 4
  | range :: ranges, band => do
    touch [⟨.bandFreqRange, band⟩]
    if freq.toNat ≤ range.2 then pure band else getBand freq ranges (band + 1)

def presetName (preset : Int) : List (BitVec 8) :=
  if preset = -1 then stringBytes "Custom" else stringBytes (equalizerPresetNames.getD preset.toNat "")

def getPresetName (preset : Int) : Handler (List (BitVec 8)) := do
  touch (if preset = -1 then [] else [⟨.presetNames, preset⟩])
  pure (presetName preset)

def copyPresetName (value : Int) (name : List (BitVec 8)) : Handler Unit := do
  let vsize ← load32 .reply 8
  strlcpy .reply value name (vsize - 1).toNat
  -- `vsize` is read once more: the name may have been written over it
  let vsize ← load32 .reply 8
  store .reply (value + (vsize - 1).toNat) [0]
  let length ← strlen .reply value (2 ^ 32)
  store32 .reply 8 (BitVec.ofNat 32 (length + 1))

def writeValue (value : Int) : EqParam → Handler Unit
  | .numBands => store16 .reply value 5
  | .levelRange => do
    store16 .reply value (BitVec.ofInt 16 (-1500))
    store16 .reply (value + 2) 1500
  | .bandLevel => do
    let band ← load32 .reply 16
    if 5 ≤ band.toInt then store32 .reply 0 statusInvalid
    else do
      let level ← context.getBandLevel band.toInt
      store16 .reply value (BitVec.ofInt 16 level)
  | .centerFreq => do
    let band ← load32 .reply 16
    if 5 ≤ band.toInt then store32 .reply 0 statusInvalid
    else do
      touch [⟨.bandFreqRange, band.toInt⟩, ⟨.bandFreqRange, band.toInt⟩]
      let range := equalizerBandFreqRange.getD band.toNat (0, 0)
      store32 .reply value (BitVec.ofNat 32 ((range.1 + range.2) / 2))
  | .bandFreqRange => do
    let band ← load32 .reply 16
    if 5 ≤ band.toInt then store32 .reply 0 statusInvalid
    else do
      let range := equalizerBandFreqRange.getD band.toNat (0, 0)
      touch [⟨.bandFreqRange, band.toInt⟩]
      store32 .reply value (BitVec.ofNat 32 range.1)
      touch [⟨.bandFreqRange, band.toInt⟩]
      store32 .reply (value + 4) (BitVec.ofNat 32 range.2)
  | .getBand => do
    let freq ← load32 .reply 16
    let band ← getBand freq equalizerBandFreqRange 0
    store16 .reply value (BitVec.ofNat 16 band)
  | .curPreset => store16 .reply value (BitVec.ofInt 16 context.preset)
  | .getNumOfPresets => store16 .reply value (BitVec.ofNat 16 equalizerPresetNames.length)
  | .getPresetName => do
    let preset ← load32 .reply 16
    if equalizerPresetNames.length ≤ preset.toInt then store32 .reply 0 statusInvalid
    else do
      let name ← getPresetName preset.toInt
      copyPresetName value name
  | .properties => do
    store16 .reply value (BitVec.ofInt 16 context.preset)
    store16 .reply (value + 2) 5
    loop (fun (i : Nat) => do
      let level ← context.getBandLevel i
      store16 .reply (value + 4 + 2 * i) (BitVec.ofInt 16 level)) (List.range 5)
  | .other => store32 .reply 0 statusInvalid

end EqContext

def equalizerGetParameter (context : EqContext) : Handler Int := do
  let header ← paramHeader .reply
  answerParameter (EqParam.ofCode header.1).valueSize header.2 (context.writeValue header.2 (EqParam.ofCode header.1))

def modifyEq (change : EqContext → EqContext) : Handler Unit :=
  modify fun state =>
    match state.context with
    | .equalizer context => { state with context := .equalizer (change context) }
    | _ => state

def offloadEqSetBandsLevel : Handler Unit :=
  loop (fun (i : Nat) => touch [⟨.presetsFreq, i⟩, ⟨.bandLevels, i⟩]) (List.range 5)

def equalizerSetBandLevel (band level : Int) : Handler Unit := do
  let level := if 0 < level then (level + 50).tdiv 100 else (level - 50).tdiv 100
  touch [⟨.bandLevels, band⟩]
  modifyEq fun context => { context with bandLevels := Function.update context.bandLevels band level, preset := -1 }
  offloadEqSetBandsLevel

def equalizerSetPreset (hasCtl : Bool) (preset : Int) : Handler Unit := do
  modifyEq fun context => { context with preset := preset }
  loop (fun (i : Nat) => do
    touch [⟨.presetsLevel, i + preset * 5⟩, ⟨.bandLevels, i⟩]
    let level := equalizerBandPresetsLevel.getD (i + preset * 5).toNat 0
    modifyEq fun context =>
      { context with bandLevels := Function.update context.bandLevels i level }) (List.range 5)
  offloadEqSetBandsLevel
  -- `offload_eq_send_params`
  touch (if hasCtl then [⟨.eqPresetMap, preset⟩] else [])

def equalizerSetValue (hasCtl : Bool) (value : Int) : EqParam → Handler Unit
  | .curPreset => do
    let preset ← load16 .command value
    if equalizerPresetNames.length ≤ preset.toNat then store32 .command 0 statusInvalid
    else equalizerSetPreset hasCtl preset.toNat
  | .bandLevel => do
    let band ← load32 .command 16
    let level ← load16 .command value
    if 5 ≤ band.toInt then store32 .command 0 statusInvalid
    else equalizerSetBandLevel band.toInt level.toInt
  | .properties => do
    let preset ← load16 .command value
    if equalizerPresetNames.length ≤ preset.toInt then store32 .command 0 statusInvalid
    else if 0 ≤ preset.toInt then equalizerSetPreset hasCtl preset.toInt
    else do
      let bands ← load16 .command (value + 2)
      if bands.toInt ≠ 5 then store32 .command 0 statusInvalid
      else
        loop (fun (i : Nat) => do
          let level ← load16 .command (value + 4 + 2 * i)
          equalizerSetBandLevel i level.toInt) (List.range 5)
  | _ => store32 .command 0 statusInvalid

def equalizerSetParameter (context : EqContext) : Handler Int := do
  let header ← paramHeader .command
  equalizerSetValue context.hasCtl header.2 (EqParam.ofCode header.1)
  pure 0

/-! ### The bass boost and the virtualizer -/

def BoostParam.ofCode (code : BitVec 32) : BoostParam :=
  match code.toNat with
  | 0 => .strengthSupported
  | 1 => .strength
  | _ => .other

def BoostParam.valueSize : BoostParam → ValueSize
  | .strengthSupported => .fixed 4
  | .strength => .fixed 2
  | .other => .unknown

def boostWriteValue (strength : Int) (value : Int) : BoostParam → Handler Unit
  | .strengthSupported => store32 .reply value 1
  | .strength => store16 .reply value (BitVec.ofInt 16 strength)
  | .other => store32 .reply 0 statusInvalid

def boostGetParameter (strength : Int) : Handler Int := do
  let header ← paramHeader .reply
  answerParameter (BoostParam.ofCode header.1).valueSize header.2
    (boostWriteValue strength header.2 (.ofCode header.1))

def boostSetParameter : Handler Int := do
  let header ← paramHeader .command
  match BoostParam.ofCode header.1 with
  | .strength => do
    let strength ← load16 .command header.2
    modify fun state => { state with context := .boost strength.toInt }
  | .strengthSupported | .other => store32 .command 0 statusInvalid
  pure 0

/-! ### The reverb -/

/-- The parameters of the environmental reverb. -/
inductive ReverbParam where
  | roomLevel | roomHFLevel | decayTime | decayHFRatio | reflectionsLevel | reflectionsDelay | reverbLevel
  | reverbDelay | diffusion | density | properties | other
  deriving DecidableEq, Repr

namespace ReverbParam

def ofCode (code : BitVec 32) : ReverbParam :=
  match code.toNat with
  | 0 => .roomLevel
  | 1 => .roomHFLevel
  | 2 => .decayTime
  | 3 => .decayHFRatio
  | 4 => .reflectionsLevel
  | 5 => .reflectionsDelay
  | 6 => .reverbLevel
  | 7 => .reverbDelay
  | 8 => .diffusion
  | 9 => .density
  | 10 => .properties
  | _ => .other

def valueSize : ReverbParam → ValueSize
  | .roomLevel | .roomHFLevel | .decayHFRatio | .reflectionsLevel | .reverbLevel | .diffusion | .density => .fixed 2
  | .decayTime | .reflectionsDelay | .reverbDelay => .fixed 4
  | .properties => .fixed 28
  | .other => .unknown

end ReverbParam

def ReverbSettings.writeValue (settings : ReverbSettings) (value : Int) : ReverbParam → Handler Unit
  | .properties => do
    store16 .reply value settings.roomLevel
    store16 .reply (value + 2) settings.roomHFLevel
    store32 .reply (value + 4) settings.decayTime
    store16 .reply (value + 8) settings.decayHFRatio
    store16 .reply (value + 10) 0
    store32 .reply (value + 12) 0
    store32 .reply (value + 20) 0
    store16 .reply (value + 16) settings.reverbLevel
    store16 .reply (value + 24) settings.diffusion
    store16 .reply (value + 26) settings.density
  | .roomLevel => store16 .reply value settings.roomLevel
  | .roomHFLevel => store16 .reply value settings.roomHFLevel
  | .decayTime => store32 .reply value settings.decayTime
  | .decayHFRatio => store16 .reply value settings.decayHFRatio
  | .reverbLevel => store16 .reply value settings.reverbLevel
  | .diffusion => store16 .reply value settings.diffusion
  | .density => store16 .reply value settings.density
  | .reflectionsLevel => store16 .reply value 0
  | .reflectionsDelay => store32 .reply value 0
  | .reverbDelay => store32 .reply value 0
  | .other => store32 .reply 0 statusInvalid

def reverbGetParameter (context : ReverbContext) : Handler Int := do
  let header ← paramHeader .reply
  if context.preset then do
    let vsize ← load32 .reply 8
    if header.1 ≠ 0 ∨ vsize < 2 then pure (-22)
    else do
      store16 .reply header.2 context.nextPreset
      pure 0
  else
    answerParameter (ReverbParam.ofCode header.1).valueSize header.2
      (context.settings.writeValue header.2 (.ofCode header.1))

def modifyReverb (change : ReverbContext → ReverbContext) : Handler Unit :=
  modify fun state =>
    match state.context with
    | .reverb context => { state with context := .reverb (change context) }
    | _ => state

def modifySettings (change : ReverbSettings → ReverbSettings) : Handler Unit :=
  modifyReverb fun context => { context with settings := change context.settings }

def reverbSetPreset (preset : BitVec 16) : Handler Unit := do
  modifyReverb fun context => { context with nextPreset := preset }
  touch (if preset ≠ 0 ∧ preset.toInt ≤ 6 then [⟨.reverbPresetMap, preset.toInt - 1⟩] else [])

def reverbSetValue (value : Int) : ReverbParam → Handler Unit
  | .properties | .reflectionsLevel | .reflectionsDelay | .reverbDelay => pure ()
  | .roomLevel => do
    let level ← load16 .command value
    modifySettings ({ · with roomLevel := level })
  | .roomHFLevel => do
    let level ← load16 .command value
    modifySettings ({ · with roomHFLevel := level })
  | .decayTime => do
    let time ← load32 .command value
    modifySettings ({ · with decayTime := time })
  | .decayHFRatio => do
    let ratio ← load16 .command value
    modifySettings ({ · with decayHFRatio := ratio })
  | .reverbLevel => do
    let level ← load16 .command value
    modifySettings ({ · with reverbLevel := level })
  | .diffusion => do
    let ratio ← load16 .command value
    modifySettings ({ · with diffusion := ratio })
  | .density => do
    let ratio ← load16 .command value
    modifySettings ({ · with density := ratio })
  | .other => store32 .command 0 statusInvalid

def reverbSetParameter (context : ReverbContext) : Handler Int := do
  let header ← paramHeader .command
  if context.preset then
    if header.1 ≠ 0 then pure (-22)
    else do
      let preset ← load16 .command header.2
      -- `REVERB_PRESET_LAST`
      if 6 < preset.toNat then pure (-22)
      else do
        reverbSetPreset preset
        pure 0
  else do
    reverbSetValue header.2 (.ofCode header.1)
    pure 0

/-! ### The commands -/

namespace ParamContext

def getParameter : ParamContext → Handler Int
  | .equalizer context => equalizerGetParameter context
  | .boost strength => boostGetParameter strength
  | .reverb context => reverbGetParameter context

def setParameter : ParamContext → Handler Int
  | .equalizer context => equalizerSetParameter context
  | .boost _ => boostSetParameter
  | .reverb context => reverbSetParameter context

end ParamContext

def copyToReply (length : Nat) : Handler Unit := do
  touch (span (.buffer .command) 0 length)
  touch (span (.buffer .reply) 0 length)
  modify fun state => state.write .reply 0 ((List.range length).map fun (i : Nat) => state.bytes .command i)

/-- A command on an effect that exists: the size of its data, whether both buffers are there, and whether the
effect is offloaded. -/
structure ParamCommand where
  cmdSize : BitVec 32
  hasBuffers : Bool
  offloadEnabled : Bool

def effectCommandGetParam (command : ParamCommand) : Handler Int := do
  let state ← get
  if !command.hasBuffers ∨ command.cmdSize < 16 ∨ state.replySize < 18 then pure (-22)
  else if !command.offloadEnabled then pure (-22)
  else do
    let psize ← load32 .command 4
    copyToReply (12 + psize).toNat
    let _ ← state.context.getParameter
    pure 0

def effectCommandSetParam (command : ParamCommand) : Handler Int := do
  let state ← get
  if !command.hasBuffers ∨ command.cmdSize < 18 ∨ state.replySize ≠ 4 then pure (-22)
  else do
    store32 .reply 0 0
    let result ← state.context.setParameter
    store32 .reply 0 (BitVec.ofInt 32 result)
    pure 0

end Nozomi
