import Nozomi.Audio.Effects.Parameters

/-!
# Which commands keep to their buffers

The sizes of the buffers are checked against the header of a parameter only. A command keeps to its buffers and to the
tables exactly when the sizes and the place that it states itself fit too.
-/

namespace Nozomi

open Traced

def Fits (size : Nat) (offset : Int) (length : Nat) : Prop := 0 ≤ offset ∧ offset + length ≤ size

/-! ### Bytes -/

section Bytes

variable {bytes other : Int → BitVec 8} {offset : Int} {written : List (BitVec 8)}

theorem overwrite_outside {i : Int} (houtside : i < offset ∨ offset + written.length ≤ i) :
    overwrite bytes offset written i = bytes i := if_neg (by omega)

theorem overwrite_inside {i : Nat} (hi : i < written.length) :
    overwrite bytes offset written (offset + i) = written.getD i 0 := by
  rw [overwrite, if_pos (by omega), show offset + (i : Int) - offset = i by omega, Int.toNat_natCast]

theorem overwrite_singleton (byte : BitVec 8) : overwrite bytes offset [byte] offset = byte := by
  rw [overwrite, if_pos (by rw [List.length_singleton]; omega), Int.sub_self]
  exact List.getD_cons_zero

theorem word32_congr (hagree : ∀ i, offset ≤ i → i < offset + 4 → bytes i = other i) :
    word32 bytes offset = word32 other offset := by
  rw [word32, word32, hagree _ (by omega) (by omega), hagree _ (by omega) (by omega), hagree _ (by omega) (by omega),
    hagree _ (by omega) (by omega)]

theorem word16_congr (hagree : ∀ i, offset ≤ i → i < offset + 2 → bytes i = other i) :
    word16 bytes offset = word16 other offset := by
  rw [word16, word16, hagree _ (by omega) (by omega), hagree _ (by omega) (by omega)]

theorem word32_overwrite_outside {start : Int} (houtside : offset + 4 ≤ start ∨ start + written.length ≤ offset) :
    word32 (overwrite bytes start written) offset = word32 bytes offset := by
  apply word32_congr
  intro i hfrom hto
  exact overwrite_outside (by omega)

theorem word16_overwrite_outside {start : Int} (houtside : offset + 2 ≤ start ∨ start + written.length ≤ offset) :
    word16 (overwrite bytes start written) offset = word16 bytes offset := by
  apply word16_congr
  intro i hfrom hto
  exact overwrite_outside (by omega)

theorem word16_overwrite_bytes16 (word : BitVec 16) : word16 (overwrite bytes offset (bytes16 word)) offset = word := by
  have hbyte : ∀ i : Nat, i < 2 → overwrite bytes offset (bytes16 word) (offset + i) = (bytes16 word).getD i 0 :=
    fun i hi => overwrite_inside hi
  have h0 : overwrite bytes offset (bytes16 word) offset = word.extractLsb' 0 8 := by
    simpa [bytes16] using hbyte 0 (by decide)
  have h1 : overwrite bytes offset (bytes16 word) (offset + 1) = word.extractLsb' 8 8 := hbyte 1 (by decide)
  rw [word16, h0, h1, BitVec.extractLsb'_append_extractLsb'_eq_extractLsb' (show 8 = 0 + 8 from rfl)]
  exact BitVec.extractLsb'_eq_self

theorem word32_overwrite_bytes32 (word : BitVec 32) : word32 (overwrite bytes offset (bytes32 word)) offset = word := by
  have hbyte : ∀ i : Nat, i < 4 → overwrite bytes offset (bytes32 word) (offset + i) = (bytes32 word).getD i 0 :=
    fun i hi => overwrite_inside hi
  have h0 : overwrite bytes offset (bytes32 word) offset = word.extractLsb' 0 8 := by
    simpa [bytes32] using hbyte 0 (by decide)
  have h1 : overwrite bytes offset (bytes32 word) (offset + 1) = word.extractLsb' 8 8 := hbyte 1 (by decide)
  have h2 : overwrite bytes offset (bytes32 word) (offset + 2) = word.extractLsb' 16 8 := hbyte 2 (by decide)
  have h3 : overwrite bytes offset (bytes32 word) (offset + 3) = word.extractLsb' 24 8 := hbyte 3 (by decide)
  rw [word32, h0, h1, h2, h3]
  rw [BitVec.extractLsb'_append_extractLsb'_eq_extractLsb' (show 24 = 16 + 8 from rfl),
    BitVec.extractLsb'_append_extractLsb'_eq_extractLsb' (show 16 = 8 + 8 from rfl),
    BitVec.extractLsb'_append_extractLsb'_eq_extractLsb' (show 8 = 0 + 8 from rfl)]
  exact BitVec.extractLsb'_eq_self

end Bytes

/-! ### Loads and stores -/

section Loads

variable {size : ParamArray → Nat} {state : ParamState} {buffer : Buffer} {offset : Int}

@[simp] theorem bytes_write_same (written : List (BitVec 8)) :
    (state.write buffer offset written).bytes buffer = overwrite (state.bytes buffer) offset written := if_pos rfl

@[simp] theorem value_load8 : (load8 buffer offset).value state = state.bytes buffer offset := rfl
@[simp] theorem value_load16 : (load16 buffer offset).value state = word16 (state.bytes buffer) offset := rfl
@[simp] theorem value_load32 : (load32 buffer offset).value state = word32 (state.bytes buffer) offset := rfl
@[simp] theorem after_load8 : (load8 buffer offset).after state = state := rfl
@[simp] theorem after_load16 : (load16 buffer offset).after state = state := rfl
@[simp] theorem after_load32 : (load32 buffer offset).after state = state := rfl
@[simp] theorem after_store (written : List (BitVec 8)) :
    (store buffer offset written).after state = state.write buffer offset written := rfl
@[simp] theorem after_store16 (word : BitVec 16) :
    (store16 buffer offset word).after state = state.write buffer offset (bytes16 word) := rfl
@[simp] theorem after_store32 (word : BitVec 32) :
    (store32 buffer offset word).after state = state.write buffer offset (bytes32 word) := rfl

theorem inBounds_span_pos {length : Nat} (hpos : 0 < length) :
    InBounds size (span (.buffer buffer) offset length) ↔ Fits (size (.buffer buffer)) offset length := by
  rw [inBounds_span, Fits]
  omega

@[simp] theorem safe_load8 : Safe size (load8 buffer offset) state ↔ Fits (size (.buffer buffer)) offset 1 := by
  simp [load8, inBounds_span_pos]

@[simp] theorem safe_load16 : Safe size (load16 buffer offset) state ↔ Fits (size (.buffer buffer)) offset 2 := by
  simp [load16, inBounds_span_pos]

@[simp] theorem safe_load32 : Safe size (load32 buffer offset) state ↔ Fits (size (.buffer buffer)) offset 4 := by
  simp [load32, inBounds_span_pos]

theorem safe_store {written : List (BitVec 8)} :
    Safe size (store buffer offset written) state ↔
      written = [] ∨ Fits (size (.buffer buffer)) offset written.length := by
  simp [store, inBounds_span, Fits]

@[simp] theorem safe_store16 (word : BitVec 16) :
    Safe size (store16 buffer offset word) state ↔ Fits (size (.buffer buffer)) offset 2 :=
  safe_store.trans (or_iff_right (List.cons_ne_nil _ _))

@[simp] theorem safe_store32 (word : BitVec 32) :
    Safe size (store32 buffer offset word) state ↔ Fits (size (.buffer buffer)) offset 4 :=
  safe_store.trans (or_iff_right (List.cons_ne_nil _ _))

end Loads

/-! ### The parts of a handler -/

section Header

variable {size : ParamArray → Nat} {state : ParamState} {buffer : Buffer}

theorem safe_paramHeader : Safe size (paramHeader buffer) state ↔ 16 ≤ size (.buffer buffer) := by
  simp only [paramHeader, safe_bind, safe_load32, safe_store32, safe_pure, and_true, Fits]
  omega

theorem value_paramHeader : (paramHeader buffer).value state =
    (word32 (state.bytes buffer) 12, 12 + voffset (word32 (state.bytes buffer) 4)) := rfl

theorem after_paramHeader : (paramHeader buffer).after state = state.write buffer 0 (bytes32 0) := rfl

/-- The first `switch` of `get_parameter` lets a value of this size pass. -/
def ValueSize.Accepts (vsize : BitVec 32) : ValueSize → Prop
  | .fixed bytes => bytes ≤ vsize
  | .any => True
  | .unknown => False

theorem safe_answerParameter {valueSize : ValueSize} {value : Int} {writeValue : Handler Unit} (safe : Prop)
    (hreply : 16 ≤ size (.buffer .reply)) (hstatus : word32 (state.bytes .reply) 0 = 0)
    (hwrite : ∀ next : ParamState,
      (∀ i, 12 ≤ i ∨ valueSize = .any → next.bytes .reply i = state.bytes .reply i) →
        (Safe size writeValue next ↔ safe)) :
    Safe size (answerParameter valueSize value writeValue) state ↔
      (valueSize.Accepts (word32 (state.bytes .reply) 8) → safe) := by
  have hvsize : Fits (size (.buffer .reply)) 8 4 := ⟨by decide, by omega⟩
  have hstart : Fits (size (.buffer .reply)) 0 4 := ⟨by decide, by omega⟩
  have hinvalid : statusInvalid ≠ 0#32 := by decide
  cases valueSize with
  | fixed bytes =>
    by_cases haccepted : bytes ≤ word32 (state.bytes .reply) 8
    · have hless : ¬word32 (state.bytes .reply) 8 < bytes := BitVec.not_lt.mpr haccepted
      simp [answerParameter, checkSize, hless, hvsize, hstart, word32_overwrite_outside, hstatus,
        ValueSize.Accepts, haccepted]
      apply hwrite
      rintro i (hi | hi)
      · exact overwrite_outside (.inr hi)
      · cases hi
    · have hless : word32 (state.bytes .reply) 8 < bytes := BitVec.not_le.mp haccepted
      simp [answerParameter, checkSize, hless, hvsize, hstart, word32_overwrite_outside, word32_overwrite_bytes32,
        hinvalid, ValueSize.Accepts, haccepted]
  | any =>
    simp [answerParameter, checkSize, hvsize, hstart, hstatus, ValueSize.Accepts]
    exact hwrite _ fun _ _ => rfl
  | unknown =>
    simp [answerParameter, checkSize, hvsize, hstart, word32_overwrite_bytes32, hinvalid, ValueSize.Accepts]

theorem safe_answerParameter_header {valueSize : ValueSize} {value : Int} {writeValue : Handler Unit} {safe : Prop}
    (hreply : 16 ≤ size (.buffer .reply))
    (hwrite : ∀ next : ParamState,
      (∀ i, 12 ≤ i ∨ valueSize = .any ∧ 4 ≤ i → next.bytes .reply i = state.bytes .reply i) →
        (Safe size writeValue next ↔ safe)) :
    Safe size (answerParameter valueSize value writeValue) (state.write .reply 0 (bytes32 0)) ↔
      (valueSize.Accepts (word32 (state.bytes .reply) 8) → safe) := by
  have hcleared : ∀ i, 4 ≤ i → (state.write .reply 0 (bytes32 0)).bytes .reply i = state.bytes .reply i := by
    intro i hi
    rw [bytes_write_same]
    exact overwrite_outside (.inr hi)
  have hvsize : word32 ((state.write .reply 0 (bytes32 0)).bytes .reply) 8 = word32 (state.bytes .reply) 8 :=
    word32_congr fun i hfrom _ => hcleared i (by omega)
  have hstatus : word32 ((state.write .reply 0 (bytes32 0)).bytes .reply) 0 = 0 := by
    rw [bytes_write_same, word32_overwrite_bytes32]
  rw [safe_answerParameter safe hreply hstatus, hvsize]
  intro next hagree
  apply hwrite
  rintro i (hi | ⟨hany, hi⟩)
  · rw [hagree i (.inl hi), hcleared i (by omega)]
  · rw [hagree i (.inr hany), hcleared i hi]

end Header

/-! ### The equalizer -/

theorem forall_level_fits {size : Nat} {value : Int} :
    (∀ i ∈ List.range 5, i < 5 ∧ Fits size (value + 4 + 2 * (i : Nat)) 2) ↔ Fits size (value + 4) 10 := by
  simp only [List.mem_range, Fits]
  constructor
  · intro hlevels
    have hfirst := (hlevels 0 (by decide)).2
    have hlast := (hlevels 4 (by decide)).2
    omega
  · intro hfits i hi
    omega

variable {replySize cmdSize : BitVec 32} {state : ParamState} {reply : Int → BitVec 8}

theorem safe_strlen {size : ParamArray → Nat} {buffer : Buffer} {length : Nat} :
    ∀ {offset : Int} {fuel : Nat}, Fits (size (.buffer buffer)) offset (length + 1) →
      state.bytes buffer (offset + length) = 0 → Safe size (strlen buffer offset fuel) state := by
  induction length with
  | zero =>
    intro offset fuel hfits hend
    cases fuel with
    | zero => exact safe_pure 0
    | succ fuel =>
      rw [Int.natCast_zero, Int.add_zero] at hend
      simp only [strlen, safe_bind, safe_ite, safe_load8, value_load8, hend]
      simpa using hfits
  | succ length ih =>
    intro offset fuel hfits hend
    cases fuel with
    | zero => exact safe_pure 0
    | succ fuel =>
      have hfirst : Fits (size (.buffer buffer)) offset 1 := ⟨hfits.1, by have := hfits.2; omega⟩
      have hrest : Fits (size (.buffer buffer)) (offset + 1) (length + 1) := by
        constructor
        · have := hfits.1
          omega
        · have := hfits.2
          omega
      have htail := @ih (offset + 1) fuel hrest (by rw [← hend]; congr 1; omega)
      simp only [strlen, safe_bind, safe_ite, safe_load8, after_load8, safe_pure, and_true, implies_true, true_and]
      exact ⟨hfirst, fun _ => htail⟩

theorem safe_getBand (cmdSize replySize freq : BitVec 32) (state : ParamState) :
    ∀ (ranges : List (Nat × Nat)) (band : Nat), band + ranges.length ≤ 5 →
      Safe (paramSize cmdSize replySize) (EqContext.getBand freq ranges band) state := by
  intro ranges
  induction ranges with
  | nil =>
    intro band _
    exact safe_pure 4
  | cons range ranges ih =>
    intro band hbands
    rw [List.length_cons] at hbands
    have hindex : (band : Int) < 5 := by omega
    have hnext := ih (band + 1) (by omega)
    simp [EqContext.getBand, paramSize, hindex, hnext]

/-- The name of a preset fits: what is copied does, and so does the last byte, for the `vsize` that is found then. -/
def NameFits (size : Nat) (reply : Int → BitVec 8) (value : Int) (name : List (BitVec 8)) : Prop :=
  let copied := strlcpyBytes name (word32 reply 8 - 1).toNat
  (copied = [] ∨ Fits size value copied.length) ∧
    Fits size (value + (word32 (overwrite reply value copied) 8 - 1).toNat) 1

theorem NameFits.ends {size : Nat} {value : Int} {name : List (BitVec 8)} (hfits : NameFits size reply value name)
    (bytes : Int → BitVec 8) :
    ∃ length : Nat, Fits size value (length + 1) ∧
      overwrite (overwrite bytes value (strlcpyBytes name (word32 reply 8 - 1).toNat))
        (value + (word32 (overwrite reply value (strlcpyBytes name (word32 reply 8 - 1).toNat)) 8 - 1).toNat) [0]
          (value + length) = 0 := by
  obtain ⟨hcopied, hlast⟩ := hfits
  by_cases hzero : (word32 reply 8 - 1).toNat = 0
  · -- Nothing is copied, and the first byte is the last one.
    have hnil : strlcpyBytes name (word32 reply 8 - 1).toNat = [] := if_pos hzero
    have hsame : overwrite reply value [] = reply := by
      funext i
      exact overwrite_outside (by rw [List.length_nil]; omega)
    rw [hnil, hsame, hzero] at hlast ⊢
    refine ⟨0, by simpa using hlast, ?_⟩
    exact overwrite_singleton 0
  · have hname : strlcpyBytes name (word32 reply 8 - 1).toNat =
        name.take ((word32 reply 8 - 1).toNat - 1) ++ [0] := if_neg hzero
    have hnotNil : strlcpyBytes name (word32 reply 8 - 1).toNat ≠ [] := by
      rw [hname]
      exact List.append_ne_nil_of_right_ne_nil _ (List.cons_ne_nil _ _)
    have hend : ∃ front : List (BitVec 8), strlcpyBytes name (word32 reply 8 - 1).toNat = front ++ [0] := ⟨_, hname⟩
    obtain ⟨front, hfront⟩ := hend
    have hinside := hcopied.resolve_left hnotNil
    rw [hfront] at hinside hlast ⊢
    generalize hindex : (word32 (overwrite reply value (front ++ [0])) 8 - 1).toNat = last
    refine ⟨front.length, by simpa using hinside, ?_⟩
    by_cases hsame : front.length = last
    · rw [hsame]
      exact overwrite_singleton 0
    · rw [overwrite_outside (by rw [List.length_singleton]; omega),
        overwrite_inside (by rw [List.length_append, List.length_singleton]; omega)]
      simp

theorem EqContext.safe_copyPresetName (cmdSize : BitVec 32) (name : List (BitVec 8)) (value : Int)
    (hreply : 16 ≤ replySize.toNat) (hagree : ∀ i, 4 ≤ i → state.bytes .reply i = reply i) :
    Safe (paramSize cmdSize replySize) (copyPresetName value name) state ↔
      NameFits replySize.toNat reply value name := by
  have hvsize : word32 (state.bytes .reply) 8 = word32 reply 8 := word32_congr fun i hfrom _ => hagree i (by omega)
  have hheader : Fits (paramSize cmdSize replySize (.buffer .reply)) 8 4 :=
    ⟨by decide, by simp only [paramSize]; omega⟩
  have hagain : word32 (overwrite (state.bytes .reply) value (strlcpyBytes name (word32 reply 8 - 1).toNat)) 8 =
      word32 (overwrite reply value (strlcpyBytes name (word32 reply 8 - 1).toNat)) 8 := by
    apply word32_congr
    intro i hfrom _
    rw [overwrite, overwrite, hagree i (by omega)]
  simp only [copyPresetName, strlcpy, safe_bind, safe_load32, hheader, value_load32, after_load32, hvsize, safe_store,
    after_store, bytes_write_same, true_and, safe_store32, and_true, hagain]
  constructor
  · rintro ⟨hcopied, hlast, -⟩
    exact ⟨hcopied, hlast.resolve_left (List.cons_ne_nil _ _)⟩
  · intro hfits
    obtain ⟨length, hstretch, hend⟩ := hfits.ends (state.bytes .reply)
    refine ⟨hfits.1, .inr hfits.2, safe_strlen hstretch ?_⟩
    rw [bytes_write_same, bytes_write_same, hend]

namespace EqParam

/-- A value of a band fits: the band is in the reply, and is too large or in the tables. -/
def BandFits (size : Nat) (reply : Int → BitVec 8) (value : Int) (length : Nat) : Prop :=
  20 ≤ size ∧ ((word32 reply 16).toInt < 5 → 0 ≤ (word32 reply 16).toInt ∧ Fits size value length)

def FitsReply (size : Nat) (reply : Int → BitVec 8) (value : Int) : EqParam → Prop
  | .numBands | .curPreset | .getNumOfPresets => Fits size value 2
  | .levelRange => Fits size value 4
  | .bandLevel => BandFits size reply value 2
  | .centerFreq => BandFits size reply value 4
  | .bandFreqRange => BandFits size reply value 8
  | .getBand => 20 ≤ size ∧ Fits size value 2
  | .getPresetName => 20 ≤ size ∧
    ((word32 reply 16).toInt < equalizerPresetNames.length → -1 ≤ (word32 reply 16).toInt ∧
      NameFits size reply value (EqContext.presetName (word32 reply 16).toInt))
  | .properties => Fits size value 14
  | .other => True

end EqParam

theorem EqContext.safe_writeValue (context : EqContext) {param : EqParam} {value : Int}
    (hreply : 16 ≤ replySize.toNat)
    (hagree : ∀ i, 12 ≤ i ∨ param.valueSize = .any ∧ 4 ≤ i → state.bytes .reply i = reply i) :
    Safe (paramSize cmdSize replySize) (context.writeValue value param) state ↔
      param.FitsReply replySize.toNat reply value := by
  have hstart : Fits replySize.toNat 0 4 := ⟨by decide, by omega⟩
  have hband : word32 (state.bytes .reply) 16 = word32 reply 16 :=
    word32_congr fun i hfrom _ => hagree i (.inl (by omega))
  cases param with
  | numBands | curPreset | getNumOfPresets => simp [writeValue, EqParam.FitsReply, paramSize]
  | levelRange =>
    simp [writeValue, EqParam.FitsReply, paramSize, Fits]
    omega
  | bandLevel =>
    simp only [writeValue, safe_bind, safe_ite]
    simp [getBandLevel, EqParam.FitsReply, EqParam.BandFits, paramSize, hband, hstart]
    simp [Fits]
    omega
  | centerFreq | bandFreqRange =>
    simp only [writeValue, safe_bind, safe_ite]
    simp [EqParam.FitsReply, EqParam.BandFits, paramSize, hband, hstart]
    simp [Fits]
    omega
  | getBand =>
    have hfound := fun freq state => safe_getBand cmdSize replySize freq state
      equalizerBandFreqRange 0 (by decide)
    simp [writeValue, EqParam.FitsReply, paramSize, hfound]
    simp only [Fits]
    omega
  | getPresetName =>
    have hsame : ∀ i, 4 ≤ i → state.bytes .reply i = reply i := fun i hi => hagree i (.inr ⟨rfl, hi⟩)
    have hcopied := fun name => safe_copyPresetName cmdSize name value hreply hsame
    simp only [writeValue, safe_bind, safe_ite]
    simp [getPresetName, EqParam.FitsReply, paramSize, hband, hstart, hcopied]
    have hnames : equalizerPresetNames.length = 10 := rfl
    rw [hnames]
    apply and_congr
    · simp only [Fits]
      omega
    · apply imp_congr_right
      intro hless
      apply and_congr_left
      intro _
      omega
  | properties =>
    simp only [writeValue, safe_bind, safe_store16]
    rw [safe_loop (fun i : Nat => i < 5 ∧ Fits replySize.toNat (value + 4 + 2 * i) 2)]
    · rw [forall_level_fits]
      simp only [EqParam.FitsReply, paramSize, Fits]
      omega
    · intro i state
      simp only [safe_bind, getBandLevel, safe_touch, safe_pure, safe_store16, paramSize, inBounds_cons, inBounds_nil,
        and_true]
      apply and_congr_left
      intro _
      omega
  | other => simp [writeValue, EqParam.FitsReply, paramSize, hstart]

theorem safe_offloadEqSetBandsLevel (state : ParamState) :
    Safe (paramSize cmdSize replySize) offloadEqSetBandsLevel state := by
  rw [offloadEqSetBandsLevel, safe_loop (fun i : Nat => i < 5)]
  · intro i hi
    exact List.mem_range.mp hi
  · intro i state
    simp only [safe_touch, inBounds_cons, inBounds_nil, and_true, paramSize]
    omega

theorem safe_equalizerSetBandLevel (band level : Int) (state : ParamState) :
    Safe (paramSize cmdSize replySize) (equalizerSetBandLevel band level) state ↔ 0 ≤ band ∧ band < 5 := by
  simp [equalizerSetBandLevel, modifyEq, paramSize, safe_offloadEqSetBandsLevel]

theorem safe_equalizerSetPreset {preset : Int} (hasCtl : Bool) (state : ParamState)
    (hpreset : 0 ≤ preset ∧ preset < 10) :
    Safe (paramSize cmdSize replySize) (equalizerSetPreset hasCtl preset) state := by
  have hctl : preset < 11 := by omega
  simp only [equalizerSetPreset, modifyEq, safe_bind, safe_modify, safe_offloadEqSetBandsLevel, safe_touch,
    inBounds_ite, true_and]
  rw [safe_loop (fun i : Nat => i < 5)]
  · simp [paramSize, hpreset.1, hctl]
  · intro i state
    simp only [safe_bind, safe_touch, safe_modify, inBounds_cons, inBounds_nil, and_true, paramSize]
    omega

def EqParam.FitsCommand (size : Nat) (command : Int → BitVec 8) (value : Int) : EqParam → Prop
  | .curPreset => Fits size value 2
  | .bandLevel => 20 ≤ size ∧ Fits size value 2 ∧ ((word32 command 16).toInt < 5 → 0 ≤ (word32 command 16).toInt)
  | .properties => Fits size value 2 ∧ ((word16 command value).toInt < 0 →
    Fits size value 4 ∧ ((word16 command (value + 2)).toInt = 5 → Fits size value 14))
  | _ => True

theorem safe_equalizerSetValue {param : EqParam} {value : Int} (hasCtl : Bool) (hcommand : 16 ≤ cmdSize.toNat) :
    Safe (paramSize cmdSize replySize) (equalizerSetValue hasCtl value param) state ↔
      param.FitsCommand cmdSize.toNat (state.bytes .command) value := by
  have hstart : Fits cmdSize.toNat 0 4 := ⟨by decide, by omega⟩
  have hnames : equalizerPresetNames.length = 10 := rfl
  cases param with
  | curPreset =>
    simp only [equalizerSetValue, safe_bind, safe_ite]
    simp only [safe_load16, safe_store32, hstart, value_load16, hnames, implies_true, true_and, EqParam.FitsCommand,
      paramSize]
    apply and_iff_left
    intro hless
    exact safe_equalizerSetPreset _ _ (by omega)
  | bandLevel =>
    simp only [equalizerSetValue, safe_bind, safe_ite]
    simp only [safe_load16, safe_load32, safe_store32, value_load16, value_load32, after_load16, after_load32,
      safe_equalizerSetBandLevel, EqParam.FitsCommand, paramSize, Fits]
    omega
  | properties =>
    have hlevels : ∀ state, Safe (paramSize cmdSize replySize) (loop (fun i : Nat => do
        let level ← load16 .command (value + 4 + 2 * i)
        equalizerSetBandLevel i level.toInt) (List.range 5)) state ↔ Fits cmdSize.toNat (value + 4) 10 := by
      intro state
      rw [← forall_level_fits, safe_loop _]
      intro i state
      simp only [safe_bind, safe_load16, safe_equalizerSetBandLevel, paramSize]
      rw [and_comm]
      apply and_congr_left
      intro _
      omega
    simp only [equalizerSetValue, safe_bind, safe_ite]
    simp only [safe_load16, safe_store32, hstart, value_load16, after_load16, hnames, implies_true, true_and, hlevels,
      EqParam.FitsCommand, paramSize]
    apply and_congr_right
    intro hfirst
    constructor
    · intro hrest hcustom
      obtain ⟨hbands, hall⟩ := (hrest (by omega)).2 (by omega)
      refine ⟨⟨hfirst.1, by have := hbands.2; omega⟩, ?_⟩
      intro hfive
      have := (hall (not_not.mpr hfive)).2
      exact ⟨hfirst.1, by omega⟩
    · intro hcustom hless
      refine ⟨fun hpreset => safe_equalizerSetPreset _ _ (by omega), ?_⟩
      intro hneg
      obtain ⟨hbands, hall⟩ := hcustom (by omega)
      refine ⟨⟨by have := hbands.1; omega, by have := hbands.2; omega⟩, ?_⟩
      intro hfive
      have hwhole := hall (not_not.mp hfive)
      exact ⟨by have := hwhole.1; omega, by have := hwhole.2; omega⟩
  | _ => simp [equalizerSetValue, EqParam.FitsCommand, paramSize, hstart]

/-! ### The other effects -/

def ValueSize.FitsAt (size : Nat) (value : Int) : ValueSize → Prop
  | .fixed bytes => Fits size value bytes.toNat
  | .any | .unknown => True

section Others

variable {cmdSize replySize : BitVec 32} {value : Int} {state : ParamState}

theorem safe_boostWriteValue (strength : Int) (param : BoostParam) (hreply : 16 ≤ replySize.toNat) :
    Safe (paramSize cmdSize replySize) (boostWriteValue strength value param) state ↔
      param.valueSize.FitsAt replySize.toNat value := by
  have hstart : Fits replySize.toNat 0 4 := ⟨by decide, by omega⟩
  cases param with
  | strengthSupported => exact safe_store32 1
  | strength => exact safe_store16 _
  | other => exact (safe_store32 _).trans (iff_true_intro hstart)

theorem ReverbSettings.safe_writeValue (settings : ReverbSettings) (param : ReverbParam)
    (hreply : 16 ≤ replySize.toNat) :
    Safe (paramSize cmdSize replySize) (settings.writeValue value param) state ↔
      param.valueSize.FitsAt replySize.toNat value := by
  have hstart : Fits replySize.toNat 0 4 := ⟨by decide, by omega⟩
  cases param with
  | properties =>
    have hsize : (28 : BitVec 32).toNat = 28 := rfl
    simp only [writeValue, safe_bind, safe_store16, safe_store32, ReverbParam.valueSize, ValueSize.FitsAt, paramSize,
      Fits, hsize]
    omega
  | decayTime | reflectionsDelay | reverbDelay => exact safe_store32 _
  | other => exact (safe_store32 _).trans (iff_true_intro hstart)
  | _ => exact safe_store16 _

def ReverbParam.FitsCommand (size : Nat) (value : Int) : ReverbParam → Prop
  | .properties | .reflectionsLevel | .reflectionsDelay | .reverbDelay | .other => True
  | param => param.valueSize.FitsAt size value

theorem safe_reverbSetValue (param : ReverbParam) (hcommand : 16 ≤ cmdSize.toNat) :
    Safe (paramSize cmdSize replySize) (reverbSetValue value param) state ↔ param.FitsCommand cmdSize.toNat value := by
  have hstart : Fits cmdSize.toNat 0 4 := ⟨by decide, by omega⟩
  cases param with
  | properties | reflectionsLevel | reflectionsDelay | reverbDelay => exact iff_true_intro (safe_pure ())
  | other => exact (safe_store32 _).trans (iff_true_intro hstart)
  | _ =>
    simp [reverbSetValue, modifySettings, modifyReverb, ReverbParam.FitsCommand, ReverbParam.valueSize,
      ValueSize.FitsAt, paramSize]

theorem safe_reverbSetPreset {preset : BitVec 16} (hlast : preset.toNat ≤ 6) :
    Safe (paramSize cmdSize replySize) (reverbSetPreset preset) state := by
  have hint : preset.toInt = preset.toNat := BitVec.toInt_eq_toNat_of_lt (by omega)
  simp only [reverbSetPreset, modifyReverb, safe_bind, safe_modify, safe_touch, inBounds_ite, inBounds_cons,
    inBounds_nil, and_true, true_and, implies_true, paramSize, hint]
  rintro ⟨hsome, hless⟩
  have hpos : preset.toNat ≠ 0 := fun hzero => hsome (BitVec.eq_of_toNat_eq hzero)
  omega

end Others

/-! ### The commands -/

def valuePlace (bytes : Int → BitVec 8) : Int := 12 + voffset (word32 bytes 4)

namespace ParamContext

/-- What is read of a parameter fits the reply that was filled from the command. -/
def FitsReply (size : Nat) (reply : Int → BitVec 8) : ParamContext → Prop
  | .equalizer _ =>
    let param := EqParam.ofCode (word32 reply 12)
    param.valueSize.Accepts (word32 reply 8) → param.FitsReply size reply (valuePlace reply)
  | .boost _ =>
    let param := BoostParam.ofCode (word32 reply 12)
    param.valueSize.Accepts (word32 reply 8) → param.valueSize.FitsAt size (valuePlace reply)
  | .reverb context =>
    if context.preset then word32 reply 12 = 0 ∧ 2 ≤ word32 reply 8 → Fits size (valuePlace reply) 2
    else
      let param := ReverbParam.ofCode (word32 reply 12)
      param.valueSize.Accepts (word32 reply 8) → param.valueSize.FitsAt size (valuePlace reply)

def FitsCommand (size : Nat) (command : Int → BitVec 8) : ParamContext → Prop
  | .equalizer _ => (EqParam.ofCode (word32 command 12)).FitsCommand size command (valuePlace command)
  | .boost _ => BoostParam.ofCode (word32 command 12) = .strength → Fits size (valuePlace command) 2
  | .reverb context =>
    if context.preset then word32 command 12 = 0 → Fits size (valuePlace command) 2
    else (ReverbParam.ofCode (word32 command 12)).FitsCommand size (valuePlace command)

variable (context : ParamContext) {cmdSize replySize : BitVec 32} {state : ParamState}

theorem safe_getParameter (hreply : 16 ≤ replySize.toNat) :
    Safe (paramSize cmdSize replySize) context.getParameter state ↔
      context.FitsReply replySize.toNat (state.bytes .reply) := by
  have hheader : Safe (paramSize cmdSize replySize) (paramHeader .reply) state := safe_paramHeader.mpr hreply
  cases context with
  | equalizer context =>
    rw [getParameter, equalizerGetParameter, safe_bind, and_iff_right hheader, value_paramHeader, after_paramHeader]
    exact safe_answerParameter_header hreply fun next hagree => context.safe_writeValue hreply hagree
  | boost strength =>
    rw [getParameter, boostGetParameter, safe_bind, and_iff_right hheader, value_paramHeader, after_paramHeader]
    exact safe_answerParameter_header hreply fun next _ => safe_boostWriteValue strength _ hreply
  | reverb context =>
    rw [getParameter, reverbGetParameter, safe_bind, and_iff_right hheader, value_paramHeader, after_paramHeader,
      FitsReply]
    by_cases hpreset : context.preset = true
    · have hvsize : word32 ((state.write .reply 0 (bytes32 0)).bytes .reply) 8 = word32 (state.bytes .reply) 8 := by
        rw [bytes_write_same]
        exact word32_overwrite_outside (.inr (by decide))
      have hroom : Fits (paramSize cmdSize replySize (.buffer .reply)) 8 4 :=
        ⟨by decide, by simp only [paramSize]; omega⟩
      rw [if_pos hpreset, if_pos hpreset]
      simp only [safe_bind, safe_ite]
      simp only [safe_load32, hroom, value_load32, after_load32, hvsize, safe_pure, safe_store16, implies_true,
        true_and, and_true, not_or, not_not, BitVec.not_lt]
      rfl
    · rw [if_neg hpreset, if_neg hpreset]
      exact safe_answerParameter_header hreply fun next _ => context.settings.safe_writeValue _ hreply

theorem safe_setParameter (hcommand : 16 ≤ cmdSize.toNat) :
    Safe (paramSize cmdSize replySize) context.setParameter state ↔
      context.FitsCommand cmdSize.toNat (overwrite (state.bytes .command) 0 (bytes32 0)) := by
  have hheader : Safe (paramSize cmdSize replySize) (paramHeader .command) state := safe_paramHeader.mpr hcommand
  have hparam : word32 (overwrite (state.bytes .command) 0 (bytes32 0)) 12 = word32 (state.bytes .command) 12 :=
    word32_overwrite_outside (.inr (by decide))
  have hpsize : word32 (overwrite (state.bytes .command) 0 (bytes32 0)) 4 = word32 (state.bytes .command) 4 :=
    word32_overwrite_outside (.inr (by decide))
  cases context with
  | equalizer context =>
    rw [setParameter, equalizerSetParameter, safe_bind, and_iff_right hheader, value_paramHeader, after_paramHeader,
      safe_bind, and_iff_left (safe_pure 0), safe_equalizerSetValue _ hcommand, bytes_write_same, FitsCommand,
      valuePlace, hparam, hpsize]
  | boost strength =>
    have hstart : Fits (paramSize cmdSize replySize (.buffer .command)) 0 4 :=
      ⟨by decide, by simp only [paramSize]; omega⟩
    rw [setParameter, boostSetParameter, safe_bind, and_iff_right hheader, value_paramHeader, after_paramHeader,
      FitsCommand, valuePlace, hparam, hpsize]
    dsimp only
    cases BoostParam.ofCode (word32 (state.bytes .command) 12) with
    | strength => simp [paramSize]
    | strengthSupported => simp [hstart]
    | other => simp [hstart]
  | reverb context =>
    rw [setParameter, reverbSetParameter, safe_bind, and_iff_right hheader, value_paramHeader, after_paramHeader,
      FitsCommand, valuePlace, hparam, hpsize]
    by_cases hpreset : context.preset = true
    · rw [if_pos hpreset, if_pos hpreset]
      simp only [safe_bind, safe_ite]
      simp only [safe_load16, after_load16, safe_pure, implies_true, true_and, and_true, not_not]
      apply imp_congr_right
      intro _
      apply and_iff_left
      intro hlast
      exact safe_reverbSetPreset (Nat.le_of_not_lt hlast)
    · rw [if_neg hpreset, if_neg hpreset, safe_bind, and_iff_left (safe_pure 0), safe_reverbSetValue _ hcommand]

end ParamContext

namespace ParamCommand

variable (command : ParamCommand) (state : ParamState)

def AcceptsGet : Prop :=
  command.hasBuffers ∧ 16 ≤ command.cmdSize ∧ 18 ≤ state.replySize ∧ command.offloadEnabled

def AcceptsSet : Prop := command.hasBuffers ∧ 18 ≤ command.cmdSize ∧ state.replySize = 4

instance : Decidable (command.AcceptsGet state) :=
  inferInstanceAs (Decidable (_ ∧ _))

/-- A command to read a parameter fits: what is copied lies in both buffers, and the value in the reply. -/
def FitsGet : Prop :=
  let length := (12 + word32 (state.bytes .command) 4).toNat
  length ≤ command.cmdSize.toNat ∧ length ≤ state.replySize.toNat ∧
    state.context.FitsReply state.replySize.toNat
      (overwrite (state.bytes .reply) 0 ((List.range length).map fun (i : Nat) => state.bytes .command i))

/-- A command to write a parameter fits, where its status has been cleared. -/
def FitsSet : Prop :=
  state.context.FitsCommand command.cmdSize.toNat (overwrite (state.bytes .command) 0 (bytes32 0))

theorem safe_copyToReply {cmdSize replySize : BitVec 32} (length : Nat) :
    Safe (paramSize cmdSize replySize) (copyToReply length) state ↔
      length ≤ cmdSize.toNat ∧ length ≤ replySize.toNat := by
  simp only [copyToReply, safe_bind, safe_touch, safe_modify, inBounds_span, paramSize, and_true]
  omega

theorem safe_effectCommandGetParam :
    Safe (paramSize command.cmdSize state.replySize) (effectCommandGetParam command) state ↔
      (command.AcceptsGet state → command.FitsGet state) := by
  have haccepts : command.AcceptsGet state ↔
      ¬((!command.hasBuffers) = true ∨ command.cmdSize < 16 ∨ state.replySize < 18) ∧
        ¬(!command.offloadEnabled) = true := by
    simp [AcceptsGet, and_assoc]
  rw [haccepts, and_imp, effectCommandGetParam, safe_bind, and_iff_right safe_get, value_get, after_get, safe_ite,
    and_iff_right fun _ => safe_pure _, safe_ite, and_iff_right fun _ => safe_pure _]
  apply imp_congr_right
  intro hsizes
  apply imp_congr_right
  intro _
  have hcommand : 16 ≤ command.cmdSize.toNat := BitVec.not_lt.mp fun hless => hsizes (.inr (.inl hless))
  have hreply : 18 ≤ state.replySize.toNat := BitVec.not_lt.mp fun hless => hsizes (.inr (.inr hless))
  have hpsize : Fits (paramSize command.cmdSize state.replySize (.buffer .command)) 4 4 :=
    ⟨by decide, by simp only [paramSize]; omega⟩
  have hcopied : ∀ length, (copyToReply length).after state =
      state.write .reply 0 ((List.range length).map fun (i : Nat) => state.bytes .command i) := fun _ => rfl
  simp only [safe_bind, safe_load32, value_load32, after_load32, hpsize, true_and, safe_copyToReply, hcopied,
    state.context.safe_getParameter (Nat.le_trans (by decide) hreply), bytes_write_same, safe_pure, and_true, FitsGet,
    and_assoc]

theorem safe_effectCommandSetParam :
    Safe (paramSize command.cmdSize state.replySize) (effectCommandSetParam command) state ↔
      (command.AcceptsSet state → command.FitsSet state) := by
  have haccepts : command.AcceptsSet state ↔
      ¬((!command.hasBuffers) = true ∨ command.cmdSize < 18 ∨ state.replySize ≠ 4) := by
    simp [AcceptsSet]
  rw [haccepts, effectCommandSetParam, safe_bind, and_iff_right safe_get, value_get, after_get, safe_ite,
    and_iff_right fun _ => safe_pure _]
  apply imp_congr_right
  intro hsizes
  have hcommand : 18 ≤ command.cmdSize.toNat := BitVec.not_lt.mp fun hless => hsizes (.inr (.inl hless))
  have hfour : state.replySize = 4 := by
    by_contra hne
    exact hsizes (.inr (.inr hne))
  have hstatus : Fits (paramSize command.cmdSize state.replySize (.buffer .reply)) 0 4 := by
    rw [hfour]
    exact ⟨by decide, Int.le_refl 4⟩
  have hsame : (state.write .reply 0 (bytes32 0)).bytes .command = state.bytes .command := rfl
  simp only [safe_bind, safe_store32, after_store32, hstatus, true_and,
    state.context.safe_setParameter (Nat.le_trans (by decide) hcommand), hsame, safe_pure, and_true, FitsSet]

/-- A command keeps to its buffers and to the tables exactly when it is refused or fits. -/
theorem effectCommandParam_safe_iff :
    (Safe (paramSize command.cmdSize state.replySize) (effectCommandGetParam command) state ↔
      (command.AcceptsGet state → command.FitsGet state)) ∧
    (Safe (paramSize command.cmdSize state.replySize) (effectCommandSetParam command) state ↔
      (command.AcceptsSet state → command.FitsSet state)) :=
  ⟨command.safe_effectCommandGetParam state, command.safe_effectCommandSetParam state⟩

end ParamCommand

def bandBelowZero : ParamState where
  bytes
    | .command, i =>
      ([0, 0, 0, 0, 8, 0, 0, 0, 2, 0, 0, 0, 2, 0, 0, 0, 255, 255, 255, 255] : List (BitVec 8)).getD i.toNat 0
    | .reply, _ => 0
  replySize := 22
  context := .equalizer ⟨0, fun _ => 0, false⟩

/-- The band is compared with the number of bands only. -/
theorem bandBelowZero_unsafe :
    ParamCommand.AcceptsGet ⟨20, true, true⟩ bandBelowZero ∧
      ¬Safe (paramSize 20 bandBelowZero.replySize) (effectCommandGetParam ⟨20, true, true⟩) bandBelowZero := by
  decide +kernel

end Nozomi
