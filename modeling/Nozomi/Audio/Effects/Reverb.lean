import Nozomi.Audio.Effects.ParameterBounds
import Nozomi.Base.Run

/-!
# What an environmental reverb returns

A reverb keeps seven parameters, each of which is read and written alone or with all of the others. The
bulk write is accepted and stores nothing, and the insert effect is created as a preset reverb.
-/

namespace Nozomi

open Traced

/-! ### Creation -/

def reverbPresets : List ReverbSettings :=
  [⟨0, 0, 0, 0, 0, 0, 0⟩,
    ⟨-400, -600, 1100, 830, 500, 1000, 1000⟩,
    ⟨-400, -600, 1300, 830, -200, 1000, 1000⟩,
    ⟨-400, -600, 1500, 830, -1000, 1000, 1000⟩,
    ⟨-400, -600, 1800, 700, -800, 1000, 1000⟩,
    ⟨-400, -600, 1800, 700, -1400, 1000, 1000⟩,
    ⟨-400, -200, 1300, 900, 0, 1000, 750⟩]

namespace ReverbContext

/-- What `calloc` and one of the three functions give: the context, and `cur_preset`. -/
def auxiliaryInit : ReverbContext × BitVec 16 := (⟨false, 0, ⟨0, 0, 0, 0, 0, 0, 0⟩⟩, 0)
def insertInit : ReverbContext × BitVec 16 := (⟨true, 0, ⟨0, 0, 0, 0, 0, 0, 0⟩⟩, 7)
def presetInit : ReverbContext × BitVec 16 := (⟨true, 0, ⟨0, 0, 0, 0, 0, 0, 0⟩⟩, 7)

def loadPreset (context : ReverbContext) : ReverbContext :=
  if context.nextPreset = 0 then context
  else { context with settings := reverbPresets.getD context.nextPreset.toNat context.settings }

def reverbInit (created : ReverbContext × BitVec 16) : ReverbContext :=
  let context := { created.1 with settings := ⟨0, 0, 0, 0, 0, 0, 0⟩ }
  if context.preset && context.nextPreset != created.2 then context.loadPreset else context

def effectLibCreate : EffectDescriptor → Option ReverbContext
  | .auxEnvReverb => some (reverbInit auxiliaryInit)
  | .insEnvReverb => some (reverbInit insertInit)
  | .auxPresetReverb => some (reverbInit auxiliaryInit)
  | .insPresetReverb => some (reverbInit presetInit)
  | .equalizer | .bassboost | .virtualizer => none

end ReverbContext

/-! ### The parameters that are kept -/

inductive ReverbField
  | roomLevel | roomHFLevel | decayTime | decayHFRatio | reverbLevel | diffusion | density
  deriving DecidableEq, Repr

namespace ReverbField

def bits : ReverbField → Nat
  | decayTime => 32
  | roomLevel | roomHFLevel | decayHFRatio | reverbLevel | diffusion | density => 16

def param : ReverbField → ReverbParam
  | roomLevel => .roomLevel
  | roomHFLevel => .roomHFLevel
  | decayTime => .decayTime
  | decayHFRatio => .decayHFRatio
  | reverbLevel => .reverbLevel
  | diffusion => .diffusion
  | density => .density

/-- The place of the parameter in `reverb_settings_t`. -/
def offset : ReverbField → Int
  | roomLevel => 0
  | roomHFLevel => 2
  | decayTime => 4
  | decayHFRatio => 8
  | reverbLevel => 16
  | diffusion => 24
  | density => 26

def read (bytes : Int → BitVec 8) (start : Int) : (field : ReverbField) → BitVec field.bits
  | decayTime => word32 bytes start
  | roomLevel | roomHFLevel | decayHFRatio | reverbLevel | diffusion | density => word16 bytes start

end ReverbField

def ReverbSettings.value (settings : ReverbSettings) : (field : ReverbField) → BitVec field.bits
  | .roomLevel => settings.roomLevel
  | .roomHFLevel => settings.roomHFLevel
  | .decayTime => settings.decayTime
  | .decayHFRatio => settings.decayHFRatio
  | .reverbLevel => settings.reverbLevel
  | .diffusion => settings.diffusion
  | .density => settings.density

/-! ### Commands -/

/-- A well-formed command for a parameter, with what its two buffers hold. -/
structure ReverbCommand where
  bytes : Int → BitVec 8
  reply : Int → BitVec 8
  param : ReverbParam
  code_eq : ReverbParam.ofCode (word32 bytes 12) = param
  psize_eq : word32 bytes 4 = 4
  vsize_eq : param.valueSize = .fixed (word32 bytes 8)

namespace ReverbCommand

variable (command : ReverbCommand)

def buffers : Buffer → Int → BitVec 8
  | .command => command.bytes
  | .reply => command.reply

def size : BitVec 32 := 16 + word32 command.bytes 8

/-- The value that a `SET_PARAM` carries for a field. -/
def value (field : ReverbField) : Option (BitVec field.bits) :=
  if command.param = field.param then some (field.read command.bytes 16)
  else if command.param = .properties then some (field.read command.bytes (16 + field.offset))
  else none

end ReverbCommand

def reverbBytes (code vsize value : BitVec 8) (i : Int) : BitVec 8 :=
  if i = 4 then 4 else if i = 8 then vsize else if i = 12 then code else if i = 16 then value else 0

namespace ReverbContext

def setParam (context : ReverbContext) (command : ReverbCommand) : ReverbContext :=
  match ((effectCommandSetParam ⟨command.size, true, true⟩).after ⟨command.buffers, 4, .reverb context⟩).context with
  | .reverb next => next
  | .equalizer _ | .boost _ => context

/-- What the reply of a `GET_PARAM` holds. -/
def getParam (context : ReverbContext) (request : ReverbCommand) : Int → BitVec 8 :=
  ((effectCommandGetParam ⟨16, true, true⟩).after ⟨request.buffers, request.size, .reverb context⟩).bytes .reply

def Returns (context : ReverbContext) (field : ReverbField) (value : BitVec field.bits) : Prop :=
  ∀ request : ReverbCommand,
    (request.param = field.param → field.read (context.getParam request) 16 = value) ∧
      (request.param = .properties → field.read (context.getParam request) (16 + field.offset) = value)

end ReverbContext

/-! ### What a command stores -/

theorem ReverbCommand.size_ge (command : ReverbCommand) : ¬ command.size < 18 := by
  have hvsize := command.vsize_eq
  unfold size
  cases hparam : command.param <;> rw [hparam] at hvsize <;> simp [ReverbParam.valueSize] at hvsize <;>
    rw [← hvsize] <;> decide

theorem after_reverbSetValue {context : ReverbContext} {state : ParamState} (hstate : state.context = .reverb context)
    (value : Int) (param : ReverbParam) :
    ∃ next : ReverbContext, ((reverbSetValue value param).after state).context = .reverb next ∧
      next.preset = context.preset ∧ ∀ field, next.settings.value field =
        if param = field.param then field.read (state.bytes .command) value else context.settings.value field := by
  cases param
  case roomLevel | roomHFLevel | decayTime | decayHFRatio | reverbLevel | diffusion | density =>
    simp only [reverbSetValue, modifySettings, modifyReverb, after_bind, after_modify, after_load16, after_load32,
      value_load16, value_load32, hstate]
    refine ⟨_, rfl, rfl, fun field => ?_⟩
    cases field <;> rfl
  all_goals
    refine ⟨context, hstate, rfl, fun field => ?_⟩
    cases field <;> rfl

namespace ReverbContext

variable {context : ReverbContext}

theorem context_setParam (command : ReverbCommand) :
    ((effectCommandSetParam ⟨command.size, true, true⟩).after ⟨command.buffers, 4, .reverb context⟩).context =
      ((reverbSetParameter context).after
        (ParamState.write ⟨command.buffers, 4, .reverb context⟩ .reply 0 (bytes32 0))).context := by
  unfold effectCommandSetParam
  rw [after_bind, value_get, after_get, if_neg]
  · rfl
  · rintro (hbuffers | hsmall | hreply)
    · cases hbuffers
    · exact command.size_ge hsmall
    · exact hreply rfl

theorem value_header_command (command : ReverbCommand) :
    (paramHeader .command).value (ParamState.write ⟨command.buffers, 4, .reverb context⟩ .reply 0 (bytes32 0)) =
      (word32 command.bytes 12, 16) := by
  have hpsize : word32 (command.buffers .command) 4 = 4 := command.psize_eq
  rw [value_paramHeader]
  simp only [ParamState.write, reduceCtorEq, if_false, hpsize]
  rfl

theorem setParam_value (hpreset : context.preset = false) (command : ReverbCommand) :
    (context.setParam command).preset = false ∧ ∀ field, (context.setParam command).settings.value field =
      if command.param = field.param then field.read command.bytes 16 else context.settings.value field := by
  obtain ⟨next, hnext, hkept, hvalues⟩ := @after_reverbSetValue context ((ParamState.write ⟨command.buffers, 4,
    .reverb context⟩ .reply 0 (bytes32 0)).write .command 0 (bytes32 0)) rfl 16 command.param
  have hset : context.setParam command = next := by
    unfold setParam
    rw [context_setParam, reverbSetParameter, after_bind, value_header_command, after_paramHeader, hpreset,
      if_neg (by decide), command.code_eq, after_bind, after_pure, hnext]
  rw [hset]
  refine ⟨hkept.trans hpreset, fun field => (hvalues field).trans ?_⟩
  have hread : field.read (overwrite command.bytes 0 (bytes32 0)) 16 = field.read command.bytes 16 := by
    cases field
    case decayTime => exact word32_overwrite_outside (.inr (by decide))
    all_goals exact word16_overwrite_outside (.inr (by decide))
  rw [← hread]
  rfl

theorem preset_setParam (command : ReverbCommand) : (context.setParam command).preset = context.preset := by
  cases hpreset : context.preset with
  | false => exact (setParam_value hpreset command).1
  | true =>
    unfold setParam
    rw [context_setParam, reverbSetParameter, after_bind, value_header_command, after_paramHeader, hpreset, if_pos rfl]
    by_cases hcode : word32 command.bytes 12 ≠ 0
    · rw [if_pos hcode]
      exact hpreset
    · rw [if_neg hcode, after_bind]
      generalize (load16 .command 16).value _ = preset
      by_cases hlast : 6 < preset.toNat
      · rw [if_pos hlast]
        exact hpreset
      · rw [if_neg hlast]
        exact hpreset

/-! ### What a request returns -/

theorem read_writeValue (settings : ReverbSettings) (field : ReverbField) (state : ParamState) :
    field.read (((settings.writeValue 16 field.param).after state).bytes .reply) 16 = settings.value field := by
  cases field <;>
    simp only [ReverbField.param, ReverbSettings.writeValue, after_store16, after_store32, bytes_write_same]
  case decayTime => exact word32_overwrite_bytes32 _
  all_goals exact word16_overwrite_bytes16 _

/-- No later field is written over an earlier one. -/
theorem read_writeProperties (settings : ReverbSettings) (field : ReverbField) (state : ParamState) :
    field.read (((settings.writeValue 16 .properties).after state).bytes .reply) (16 + field.offset) =
      settings.value field := by
  have h16 : ∀ word : BitVec 16, (bytes16 word).length = 2 := fun _ => rfl
  have h32 : ∀ word : BitVec 32, (bytes32 word).length = 4 := fun _ => rfl
  simp only [ReverbSettings.writeValue, after_bind, after_store16, after_store32, bytes_write_same]
  cases field <;> simp only [ReverbField.read, ReverbField.offset, ReverbSettings.value]
  case decayTime =>
    repeat rw [word32_overwrite_outside (by simp only [h16, h32]; omega)]
    exact word32_overwrite_bytes32 _
  all_goals
    repeat rw [word16_overwrite_outside (by simp only [h16, h32]; omega)]
    exact word16_overwrite_bytes16 _

/-- The header that a handler finds in the reply. -/
theorem word32_copied (bytes other : Int → BitVec 8) {offset : Int} (hstart : 0 ≤ offset) (hend : offset + 4 ≤ 16) :
    word32 (overwrite other 0 ((List.range 16).map fun (i : Nat) => bytes i)) offset = word32 bytes offset := by
  apply word32_congr
  intro i hfrom hto
  obtain ⟨place, rfl⟩ := Int.eq_ofNat_of_zero_le (Int.le_trans hstart hfrom)
  have hinside := @overwrite_inside other 0 ((List.range 16).map fun (i : Nat) => bytes i) place (by simp; omega)
  rw [Int.zero_add] at hinside
  refine hinside.trans ?_
  rw [List.getD_eq_getElem?_getD, List.getElem?_map, List.getElem?_range (by omega)]
  rfl

/-- The state in which `get_parameter` is called. -/
def requested (context : ReverbContext) (request : ReverbCommand) : ParamState :=
  ParamState.write ⟨request.buffers, request.size, .reverb context⟩ .reply 0
    ((List.range 16).map fun (i : Nat) => request.buffers .command i)

theorem after_getParam {command : ParamCommand} {state : ParamState} (hbuffers : command.hasBuffers = true)
    (hoffload : command.offloadEnabled = true) (hcommand : ¬ command.cmdSize < 16) (hreply : ¬ state.replySize < 18)
    (hpsize : word32 (state.bytes .command) 4 = 4) :
    (effectCommandGetParam command).after state = state.context.getParameter.after (state.write .reply 0
      ((List.range 16).map fun (i : Nat) => state.bytes .command i)) := by
  have haccepted : ¬ (!command.hasBuffers ∨ command.cmdSize < 16 ∨ state.replySize < 18) := by
    rintro (hmissing | hsmall | hshort)
    · rw [hbuffers] at hmissing
      cases hmissing
    · exact hcommand hsmall
    · exact hreply hshort
  unfold effectCommandGetParam
  rw [after_bind, value_get, after_get, if_neg haccepted, if_neg (by simp [hoffload]), after_bind, value_load32,
    after_load32, hpsize, after_bind]
  rfl

theorem getParam_eq (request : ReverbCommand) :
    context.getParam request =
      ((reverbGetParameter context).after (context.requested request)).bytes .reply := by
  have hafter := @after_getParam ⟨16, true, true⟩ ⟨request.buffers, request.size, .reverb context⟩ rfl rfl (by decide)
    request.size_ge request.psize_eq
  unfold getParam
  rw [hafter]
  rfl

theorem reply_requested (request : ReverbCommand) {offset : Int} (hstart : 0 ≤ offset) (hend : offset + 4 ≤ 16) :
    word32 ((context.requested request).bytes .reply) offset = word32 request.bytes offset := by
  rw [requested, bytes_write_same]
  exact word32_copied request.bytes request.reply hstart hend

theorem value_header_requested (request : ReverbCommand) :
    (paramHeader .reply).value (context.requested request) = (word32 request.bytes 12, 16) := by
  rw [value_paramHeader, reply_requested request (by decide) (by decide),
    reply_requested request (by decide) (by decide), request.psize_eq]
  rfl

theorem after_answerParameter {state : ParamState} {bytes : BitVec 32} {value : Int} {writeValue : Handler Unit}
    (hvsize : word32 (state.bytes .reply) 8 = bytes) (hstatus : word32 (state.bytes .reply) 0 = 0) :
    ∃ filled, (answerParameter (.fixed bytes) value writeValue).after state = writeValue.after filled := by
  have hkept : word32 ((state.write .reply 8 (bytes32 bytes)).bytes .reply) 0 = 0 := by
    rw [bytes_write_same, word32_overwrite_outside (.inl (by decide)), hstatus]
  unfold answerParameter checkSize
  simp only [after_bind, value_load32, after_load32, hvsize, BitVec.lt_irrefl, if_false, after_pure, after_store32,
    after_modify, hkept, ne_eq, not_true_eq_false]
  exact ⟨_, rfl⟩

theorem getParam_stored (hpreset : context.preset = false) (request : ReverbCommand) :
    ∃ filled : ParamState,
      context.getParam request = ((context.settings.writeValue 16 request.param).after filled).bytes .reply := by
  have hvsize : word32 (((context.requested request).write .reply 0 (bytes32 0)).bytes .reply) 8 =
      word32 request.bytes 8 := by
    rw [bytes_write_same, word32_overwrite_outside (.inr (by decide)),
      reply_requested request (by decide) (by decide)]
  have hstatus : word32 (((context.requested request).write .reply 0 (bytes32 0)).bytes .reply) 0 = 0 := by
    rw [bytes_write_same, word32_overwrite_bytes32]
  obtain ⟨filled, hfilled⟩ :=
    @after_answerParameter _ _ 16 (context.settings.writeValue 16 request.param) hvsize hstatus
  refine ⟨filled, ?_⟩
  rw [getParam_eq, reverbGetParameter, after_bind, value_header_requested, after_paramHeader, hpreset,
    if_neg (by decide), request.code_eq, request.vsize_eq, hfilled]

theorem getParam_preset (hpreset : context.preset = true) {request : ReverbCommand}
    (hparam : request.param = .properties) {i : Int} (hi : 16 ≤ i) : context.getParam request i = request.reply i := by
  have hcode : word32 request.bytes 12 ≠ 0 := by
    intro hzero
    have hroom := request.code_eq
    rw [hzero, hparam] at hroom
    exact absurd hroom (by decide)
  rw [getParam_eq, reverbGetParameter, after_bind, value_header_requested, after_paramHeader, hpreset, if_pos rfl,
    after_bind, if_pos (.inl hcode), after_pure, after_load32, bytes_write_same,
    overwrite_outside (.inr (by simpa [bytes32] using by omega)), requested, bytes_write_same,
    overwrite_outside (.inr (by simpa using hi))]
  rfl

theorem read_congr {bytes other : Int → BitVec 8} (field : ReverbField) {start : Int}
    (hagree : ∀ i, start ≤ i → bytes i = other i) : field.read bytes start = field.read other start := by
  cases field
  case decayTime => exact word32_congr fun i hi _ => hagree i hi
  all_goals exact word16_congr fun i hi _ => hagree i hi

/-- A request for all parameters, with a reply filled with one byte. -/
def propertiesRequest (fill : BitVec 8) : ReverbCommand :=
  ⟨reverbBytes 10 28 0, fun _ => fill, .properties, by decide, by decide, by decide⟩

theorem Returns.settings_eq {field : ReverbField} {value : BitVec field.bits} (hreturns : context.Returns field value)
    (hpreset : context.preset = false) : context.settings.value field = value := by
  obtain ⟨filled, hreply⟩ := getParam_stored hpreset (propertiesRequest 0)
  have hread := (hreturns (propertiesRequest 0)).2 rfl
  rw [hreply] at hread
  exact (read_writeProperties _ _ _).symm.trans hread

theorem returns_iff (hpreset : context.preset = false) {field : ReverbField} {value : BitVec field.bits} :
    context.Returns field value ↔ context.settings.value field = value := by
  refine ⟨fun hreturns => hreturns.settings_eq hpreset, fun hvalue request => ?_⟩
  obtain ⟨filled, hreply⟩ := getParam_stored hpreset request
  rw [hreply]
  constructor
  · intro hparam
    rw [hparam, read_writeValue, hvalue]
  · intro hparam
    rw [hparam, read_writeProperties, hvalue]

/-- A preset reverb leaves the reply as the caller filled it. -/
theorem not_returns (hpreset : context.preset = true) (field : ReverbField) (value : BitVec field.bits) :
    ¬ context.Returns field value := by
  intro hreturns
  have hfilled : ∀ fill, field.read (fun _ => fill) (16 + field.offset) = value := by
    intro fill
    rw [← (hreturns (propertiesRequest fill)).2 rfl]
    apply read_congr
    intro i hi
    refine (@getParam_preset _ hpreset (propertiesRequest fill) rfl _ ?_).symm
    cases field <;> simp [ReverbField.offset] at hi <;> omega
  have hsame := (hfilled 0).trans (hfilled 1).symm
  cases field <;> exact absurd hsame (by decide)

end ReverbContext

/-! ### The values set last -/

/-- An effect, and the value that each parameter was set to last. -/
structure ReverbRun where
  context : ReverbContext
  last : ∀ field : ReverbField, Option (BitVec field.bits)

namespace ReverbRun

def created (context : ReverbContext) : ReverbRun := ⟨context, fun _ => none⟩

def setParam (run : ReverbRun) (command : ReverbCommand) : ReverbRun :=
  ⟨run.context.setParam command, fun field => (command.value field).or (run.last field)⟩

/-- After the command the values set last are returned, and what it does not set is returned as before. -/
def Returns (run : ReverbRun) (command : ReverbCommand) : Prop :=
  (∀ field value, (run.setParam command).last field = some value →
    (run.setParam command).context.Returns field value) ∧
  ∀ field, command.value field = none → ∀ value, run.context.Returns field value →
    (run.setParam command).context.Returns field value

variable (descriptor : EffectDescriptor)

/-- Nothing is set on the insert effect, and all parameters together only to what they are. -/
def Keeps (run : ReverbRun) (command : ReverbCommand) : Prop :=
  ∀ field value, command.value field = some value → descriptor = .auxEnvReverb ∧
    (command.param = .properties → run.context.settings.value field = value)

structure Faithful (run : ReverbRun) : Prop where
  preset_eq : run.context.preset = decide (descriptor ≠ .auxEnvReverb)
  last : ∀ field value, run.last field = some value →
    descriptor = .auxEnvReverb ∧ run.context.settings.value field = value

variable {descriptor} {run : ReverbRun} {command : ReverbCommand}

theorem Faithful.preset_false (hfaithful : run.Faithful descriptor) (haux : descriptor = .auxEnvReverb) :
    run.context.preset = false := by
  rw [hfaithful.preset_eq, haux]
  rfl

theorem Faithful.aux_of_preset (hfaithful : run.Faithful descriptor) (hpreset : run.context.preset = false) :
    descriptor = .auxEnvReverb := by
  simpa [hpreset] using hfaithful.preset_eq

/-- What a command does not set it leaves. -/
theorem settings_of_value_none (hpreset : run.context.preset = false) {field : ReverbField}
    (hnone : command.value field = none) :
    (run.setParam command).context.settings.value field = run.context.settings.value field := by
  have hstored := (ReverbContext.setParam_value hpreset command).2 field
  unfold setParam
  rw [hstored, if_neg]
  intro hparam
  rw [ReverbCommand.value, if_pos hparam] at hnone
  cases hnone

theorem settings_of_keeps (hpreset : run.context.preset = false) (hkeeps : run.Keeps descriptor command)
    {field : ReverbField} {value : BitVec field.bits} (hvalue : command.value field = some value) :
    (run.setParam command).context.settings.value field = value := by
  have hsame := (hkeeps field value hvalue).2
  have hstored := (ReverbContext.setParam_value hpreset command).2 field
  unfold setParam
  rw [hstored]
  unfold ReverbCommand.value at hvalue
  split at hvalue
  · next hparam =>
    rw [if_pos hparam]
    exact Option.some.inj hvalue
  · next hparam =>
    split at hvalue
    · next hproperties =>
      rw [if_neg hparam]
      exact hsame hproperties
    · cases hvalue

theorem Faithful.setParam (hfaithful : run.Faithful descriptor) (hkeeps : run.Keeps descriptor command) :
    (run.setParam command).Faithful descriptor := by
  refine ⟨?_, fun field value hlast => ?_⟩
  · rw [← hfaithful.preset_eq]
    exact ReverbContext.preset_setParam command
  · unfold ReverbRun.setParam at hlast
    cases hvalue : command.value field with
    | some set =>
      obtain rfl : set = value := by simpa [hvalue] using hlast
      have haux := (hkeeps field set hvalue).1
      exact ⟨haux, settings_of_keeps (hfaithful.preset_false haux) hkeeps hvalue⟩
    | none =>
      obtain ⟨haux, hold⟩ := hfaithful.last field value (by simpa [hvalue] using hlast)
      exact ⟨haux, (settings_of_value_none (hfaithful.preset_false haux) hvalue).trans hold⟩

theorem Faithful.returns_of_keeps (hfaithful : run.Faithful descriptor) (hkeeps : run.Keeps descriptor command) :
    run.Returns command := by
  have hnext := hfaithful.setParam hkeeps
  refine ⟨fun field value hlast => ?_, fun field hnone value hreturns => ?_⟩
  · obtain ⟨haux, hstored⟩ := hnext.last field value hlast
    exact (ReverbContext.returns_iff (hnext.preset_false haux)).2 hstored
  · cases hpreset : run.context.preset with
    | true => exact absurd hreturns (ReverbContext.not_returns hpreset field value)
    | false =>
      rw [ReverbContext.returns_iff (hnext.preset_false (hfaithful.aux_of_preset hpreset)),
        settings_of_value_none hpreset hnone]
      exact hreturns.settings_eq hpreset

theorem Faithful.keeps_of_returns (hfaithful : run.Faithful descriptor) (hreturns : run.Returns command) :
    run.Keeps descriptor command := by
  intro field value hvalue
  have hnext : (run.setParam command).context.Returns field value :=
    hreturns.1 field value (by simp [ReverbRun.setParam, hvalue])
  have hkept : (run.setParam command).context.preset = run.context.preset := ReverbContext.preset_setParam command
  cases hpreset : run.context.preset with
  | true => exact absurd hnext (ReverbContext.not_returns (hkept.trans hpreset) field value)
  | false =>
    refine ⟨hfaithful.aux_of_preset hpreset, fun hparam => ?_⟩
    have hold := (ReverbContext.setParam_value hpreset command).2 field
    rw [if_neg (by cases field <;> simp [hparam, ReverbField.param])] at hold
    exact hold.symm.trans (hnext.settings_eq (hkept.trans hpreset))

end ReverbRun

theorem faithful_effectLibCreate {descriptor : EffectDescriptor}
    (hdescriptor : descriptor = .auxEnvReverb ∨ descriptor = .insEnvReverb) {context : ReverbContext}
    (hcreated : ReverbContext.effectLibCreate descriptor = some context) :
    (ReverbRun.created context).Faithful descriptor := by
  refine ⟨?_, fun field value hlast => by cases hlast⟩
  obtain rfl | rfl := hdescriptor <;> cases hcreated <;> rfl

/-- What was set last is returned, and nothing else changes, if and only if no command sets anything on the insert
reverb, and those for all parameters at once set on the auxiliary one what it has. -/
theorem effectLibCreate_reverb_returns_iff {descriptor : EffectDescriptor}
    (hdescriptor : descriptor = .auxEnvReverb ∨ descriptor = .insEnvReverb) {context : ReverbContext}
    (hcreated : ReverbContext.effectLibCreate descriptor = some context) (commands : List ReverbCommand) :
    RunMeets (fun run command => some (run.setParam command)) ReverbRun.Returns (.created context) commands ↔
      RunMeets (fun run command => some (run.setParam command)) (ReverbRun.Keeps descriptor) (.created context)
        commands := by
  refine runMeets_congr_of_meets (·.Faithful descriptor) ?_ ?_ _ (faithful_effectLibCreate hdescriptor hcreated)
    (runSteps_total commands _)
  · rintro run command next hkeeps hfaithful ⟨⟩
    exact hfaithful.setParam hkeeps
  · rintro run command next hfaithful ⟨⟩
    exact ⟨hfaithful.keeps_of_returns, hfaithful.returns_of_keeps⟩

def setDecayTime : ReverbCommand := ⟨reverbBytes 2 4 5, fun _ => 0, .decayTime, by decide, by decide, by decide⟩

def setProperties : ReverbCommand := ⟨reverbBytes 10 28 1, fun _ => 0, .properties, by decide, by decide, by decide⟩

theorem setDecayTime_returns :
    RunMeets (fun run command => some (run.setParam command)) ReverbRun.Returns
      (.created ⟨false, 0, ⟨0, 0, 0, 0, 0, 0, 0⟩⟩) [setDecayTime, setDecayTime] := by
  refine (effectLibCreate_reverb_returns_iff (.inl rfl) rfl _).2 ⟨?_, fun next hnext => ⟨?_, fun _ _ => trivial⟩⟩
  all_goals exact fun field value _ => ⟨rfl, fun hparam => by cases hparam⟩

theorem setProperties_not_returns :
    (∃ context, ReverbContext.effectLibCreate .auxEnvReverb = some context ∧
      ¬ RunMeets (fun run command => some (run.setParam command)) ReverbRun.Returns (.created context)
        [setProperties]) ∧
    ∃ context, ReverbContext.effectLibCreate .insEnvReverb = some context ∧
      ¬ RunMeets (fun run command => some (run.setParam command)) ReverbRun.Returns (.created context)
        [setDecayTime] := by
  refine ⟨⟨_, rfl, fun hmeets => ?_⟩, _, rfl, fun hmeets => ?_⟩
  · have hkeeps := (faithful_effectLibCreate (.inl rfl) rfl).keeps_of_returns hmeets.1
    exact absurd ((hkeeps .roomLevel 1 rfl).2 rfl) (by decide)
  · have hkeeps := (faithful_effectLibCreate (.inr rfl) rfl).keeps_of_returns hmeets.1
    exact absurd (hkeeps .decayTime 5 rfl).1 (by decide)

end Nozomi
