import Nozomi.Base.Access
import Nozomi.Base.BigEndian
import Nozomi.Vdec.Buffer
import Nozomi.Vdec.Component.Code

/-!
# The vendor configuration of the AVC decoder

`set_config` of `omx_vdec.cpp` with `OMX_IndexVendorVideoExtraData`: the parameter sets of an
`AVCDecoderConfigurationRecord`, each with a length of two bytes, are copied to memory of their own, each with a
length of the size that the record declares. The copy records its accesses to both memories.
-/

namespace Nozomi

/-- `OMX_VENDOR_EXTRADATATYPE`, as the client passes it. -/
structure VendorExtradata where
  nPortIndex : Nat
  pData : List UInt8
  nDataSize_lt : pData.length < 2 ^ 32

namespace VendorExtradata

variable (config : VendorExtradata)

def nDataSize : Nat := config.pData.length

def byteAt (index : Nat) : UInt8 := config.pData.getD index 0

def nalLength : Nat := ((config.byteAt 4).toNat &&& 0x03) + 1

def extraSize : Nat := if config.nalLength > 2 then (config.nalLength - 2) * 2 else 0

def vendorSize : Nat := (sub32 (sub32 config.nDataSize 6) 1 + config.extraSize) % 2 ^ 32

def lengthAt (index : Nat) : Nat :=
  (config.byteAt index).toNat <<< 8 ||| (config.byteAt (index + 1)).toNat

def lengthBytes (len : Nat) : List UInt8 :=
  (List.range config.nalLength).map fun i => UInt8.ofNat (len >>> (8 * (config.nalLength - 1 - i)))

end VendorExtradata

inductive VendorMemory
  | source | destination
  deriving DecidableEq, Repr

/-- The loop of `set_config`: `pSrcBuf`, `pDestBuf` and the memory there, with the accesses so far. -/
structure VendorCopy where
  pSrcBuf : Nat
  pDestBuf : Nat
  memory : List UInt8
  accesses : List (Access VendorMemory)

namespace VendorExtradata

variable (config : VendorExtradata)

def copyParameterSet (copy : VendorCopy) : VendorCopy :=
  let len := config.lengthAt copy.pSrcBuf
  let payload := (List.range len).map fun i => config.byteAt (copy.pSrcBuf + 2 + i)
  let memory := memcpy copy.memory (copy.pDestBuf + config.nalLength) payload
  { pSrcBuf := copy.pSrcBuf + (len + 2) + 1
    pDestBuf := copy.pDestBuf + (len + config.nalLength)
    memory := memcpy memory copy.pDestBuf (config.lengthBytes len)
    accesses := copy.accesses ++
      [⟨.source, copy.pSrcBuf⟩, ⟨.source, copy.pSrcBuf + 1⟩] ++
      (List.range len).flatMap (fun i =>
        [⟨.source, copy.pSrcBuf + 2 + i⟩, ⟨.destination, copy.pDestBuf + config.nalLength + i⟩]) ++
      (List.range config.nalLength).map fun i => ⟨.destination, copy.pDestBuf + i⟩ }

def copyParameterSets (heap : Nat → UInt8) : VendorCopy :=
  config.copyParameterSet (config.copyParameterSet
    ⟨6, 0, (List.range config.vendorSize).map heap, [⟨.source, 4⟩]⟩)

def sizeOf : VendorMemory → Nat
  | .source => config.nDataSize
  | .destination => config.vendorSize

end VendorExtradata

structure VendorConfig where
  nPortIndex : Nat
  nDataSize : Nat
  pData : List UInt8
  deriving DecidableEq, Repr

/-- What `set_config` uses of `class omx_vdec`, a decoder for AVC. -/
structure AvcDecoder where
  mState : StateType
  nalLength : Nat
  mVendorConfig : VendorConfig
  deriving DecidableEq, Repr

/-- Where a call of `set_config` leaves the decoder, what it returns, and its accesses. -/
structure SetConfigResult where
  decoder : AvcDecoder
  error : ErrorType
  accesses : List (Access VendorMemory)

namespace AvcDecoder

variable (decoder : AvcDecoder) (config : VendorExtradata) (heap : Nat → UInt8)

def Accepts : Prop := decoder.mState ≠ .invalid ∧ decoder.mState ≠ .executing

instance : Decidable decoder.Accepts := inferInstanceAs (Decidable (_ ∧ _))

def setConfig : SetConfigResult :=
  if decoder.mState = .invalid then ⟨decoder, .invalidState, []⟩
  else if decoder.mState = .executing then ⟨decoder, .none, []⟩
  else
    let copy := config.copyParameterSets heap
    ⟨{ decoder with
        nalLength := config.nalLength
        mVendorConfig := ⟨config.nPortIndex, config.vendorSize, copy.memory⟩ }, .none, copy.accesses⟩

end AvcDecoder

/-! ### Bounds -/

namespace VendorExtradata

variable (config : VendorExtradata)

def spsLength : Nat := config.lengthAt 6
def ppsLength : Nat := config.lengthAt (config.spsLength + 9)

theorem nalLength_bounds : 1 ≤ config.nalLength ∧ config.nalLength ≤ 4 := by
  have hand : (config.byteAt 4).toNat &&& 0x03 ≤ 3 := Nat.and_le_right
  rw [nalLength]
  omega

theorem inBounds_copyParameterSet (copy : VendorCopy) :
    InBounds config.sizeOf (config.copyParameterSet copy).accesses ↔
      InBounds config.sizeOf copy.accesses ∧
        copy.pSrcBuf + 2 + config.lengthAt copy.pSrcBuf ≤ config.nDataSize ∧
        copy.pDestBuf + config.nalLength + config.lengthAt copy.pSrcBuf ≤ config.vendorSize := by
  obtain ⟨hpos, -⟩ := config.nalLength_bounds
  simp only [copyParameterSet, inBounds_append, inBounds_cons, inBounds_nil, inBounds_flatMap, and_true]
  generalize config.lengthAt copy.pSrcBuf = len
  constructor
  · rintro ⟨⟨⟨hbefore, hsource, hsource'⟩, hpayload⟩, hlength⟩
    have hlast := hlength _ (List.mem_map.mpr ⟨config.nalLength - 1, List.mem_range.mpr (by omega), rfl⟩)
    simp only [sizeOf] at hsource hsource' hlast hpayload
    refine ⟨hbefore, ?_⟩
    by_cases hnone : len = 0
    · omega
    · have hend := hpayload (len - 1) (List.mem_range.mpr (by omega))
      omega
  · rintro ⟨hbefore, hsource, hdestination⟩
    refine ⟨⟨⟨hbefore, ?_, ?_⟩, fun i hi => ?_⟩, fun access haccess => ?_⟩
    · simp only [sizeOf]
      omega
    · simp only [sizeOf]
      omega
    · have hi := List.mem_range.mp hi
      simp only [sizeOf]
      omega
    · obtain ⟨i, hi, rfl⟩ := List.mem_map.mp haccess
      have hi := List.mem_range.mp hi
      simp only [sizeOf]
      omega

theorem vendorSize_eq (hsize : 7 ≤ config.nDataSize) :
    config.vendorSize = config.nDataSize - 7 + config.extraSize := by
  have hbound : config.nDataSize < 2 ^ 32 := config.nDataSize_lt
  obtain ⟨-, hfour⟩ := config.nalLength_bounds
  have hextra : config.extraSize ≤ 4 := by
    rw [extraSize]
    split <;> omega
  rw [vendorSize, sub32_of_le (by omega) hbound, sub32_of_le (by omega) (by omega)]
  omega

theorem inBounds_copyParameterSets (heap : Nat → UInt8) :
    InBounds config.sizeOf (config.copyParameterSets heap).accesses ↔
      11 + config.spsLength + config.ppsLength ≤ config.nDataSize := by
  have hpps : config.lengthAt (6 + (config.lengthAt 6 + 2) + 1) = config.ppsLength := by
    rw [ppsLength, spsLength]
    congr 1
    omega
  rw [copyParameterSets, inBounds_copyParameterSet, inBounds_copyParameterSet]
  simp only [copyParameterSet, inBounds_cons, inBounds_nil, and_true, hpps]
  change (((_ ∧ 4 < (config.nDataSize : Int)) ∧ 6 + 2 + config.spsLength ≤ _ ∧
      0 + _ + config.spsLength ≤ _) ∧ 6 + (config.spsLength + 2) + 1 + 2 + _ ≤ _ ∧
      0 + (config.spsLength + _) + _ + _ ≤ _) ↔ _
  obtain ⟨hone, hfour⟩ := config.nalLength_bounds
  constructor
  · rintro ⟨-, hsource, -⟩
    omega
  · intro hsize
    have hvendor := config.vendorSize_eq (by omega)
    have hextra : 2 * config.nalLength ≤ 4 + config.extraSize := by
      rw [extraSize]
      split <;> omega
    omega

end VendorExtradata

/-- **Bounds of `set_config`.** Every access is inside the client's data and the memory that is allocated exactly
where the call is ignored or the data is long enough for the two parameter sets it announces. -/
theorem setConfig_inBounds (decoder : AvcDecoder) (config : VendorExtradata) (heap : Nat → UInt8) :
    InBounds config.sizeOf (decoder.setConfig config heap).accesses ↔
      (decoder.Accepts → 11 + config.spsLength + config.ppsLength ≤ config.nDataSize) := by
  rw [AvcDecoder.setConfig]
  by_cases hinvalid : decoder.mState = .invalid
  · rw [if_pos hinvalid]
    exact iff_of_true inBounds_nil fun haccepts => absurd hinvalid haccepts.1
  · rw [if_neg hinvalid]
    by_cases hexecuting : decoder.mState = .executing
    · rw [if_pos hexecuting]
      exact iff_of_true inBounds_nil fun haccepts => absurd hexecuting haccepts.2
    · rw [if_neg hexecuting]
      refine (config.inBounds_copyParameterSets heap).trans ⟨fun hsize _ => hsize, fun hsize => ?_⟩
      exact hsize ⟨hinvalid, hexecuting⟩

/-- A record that says its sequence parameter set has 16 bytes, but ends behind that. -/
theorem setConfig_not_inBounds :
    ¬∀ (config : VendorExtradata) (heap : Nat → UInt8),
      InBounds config.sizeOf ((AvcDecoder.mk .loaded 0 ⟨0, 0, []⟩).setConfig config heap).accesses := by
  intro hbounds
  have hread := hbounds ⟨0, [1, 66, 0, 30, 255, 225, 0, 16], by decide⟩ fun _ => 0
  revert hread
  decide +kernel

/-! ### Well-formed records -/

/-- An `AVCDecoderConfigurationRecord` with one parameter set of each kind. The high profiles may add to it. -/
structure AvcConfigurationRecord where
  version : UInt8
  profile : UInt8
  compatibility : UInt8
  level : UInt8
  nalLength : Nat
  nalLength_bounds : 1 ≤ nalLength ∧ nalLength ≤ 4
  sps : List UInt8
  pps : List UInt8
  sps_fits : sps.length < 256 ^ nalLength ∧ sps.length < 2 ^ 16
  pps_fits : pps.length < 256 ^ nalLength ∧ pps.length < 2 ^ 16
  extension : List UInt8
  extension_high : extension ≠ [] → profile ∈ [100, 110, 122, 144]
  size_lt : 11 + sps.length + pps.length + extension.length < 2 ^ 32

namespace AvcConfigurationRecord

variable (record : AvcConfigurationRecord)

def bytes : List UInt8 :=
  [record.version, record.profile, record.compatibility, record.level,
    UInt8.ofNat (0xFC + (record.nalLength - 1)), 0xE1] ++
  toBigEndian 2 record.sps.length ++ record.sps ++ [1] ++
  toBigEndian 2 record.pps.length ++ record.pps ++ record.extension

theorem bytes_length :
    record.bytes.length = 11 + record.sps.length + record.pps.length + record.extension.length := by
  simp only [bytes, List.length_append, List.length_cons, List.length_nil, toBigEndian_length]
  omega

def config (nPortIndex : Nat) : VendorExtradata :=
  ⟨nPortIndex, record.bytes, record.bytes_length ▸ record.size_lt⟩

def parameterSets : List UInt8 :=
  (toBigEndian record.nalLength record.sps.length ++ record.sps) ++
    (toBigEndian record.nalLength record.pps.length ++ record.pps)

theorem parameterSets_length :
    record.parameterSets.length = 2 * record.nalLength + record.sps.length + record.pps.length := by
  simp only [parameterSets, List.length_append, toBigEndian_length]
  omega

end AvcConfigurationRecord

theorem map_getD_range {bytes : List UInt8} {start len : Nat} {payload : List UInt8} (hlen : payload.length = len)
    (hpayload : (bytes.drop start).take len = payload) :
    (List.range len).map (fun i => bytes.getD (start + i) 0) = payload := by
  apply List.ext_getElem
  · rw [List.length_map, List.length_range, hlen]
  · intro i hi hi'
    have hread : payload[i]? = some payload[i] := List.getElem?_eq_getElem hi'
    have hsame : payload[i]? = bytes[start + i]? := by
      rw [← hpayload, List.getElem?_take, if_pos (hlen ▸ hi'), List.getElem?_drop]
    rw [List.getElem_map, List.getElem_range, List.getD_eq_getElem?_getD, ← hsame, hread]
    rfl

theorem memcpy_before {memory first second : List UInt8} {start : Nat}
    (hfit : start + first.length ≤ memory.length) :
    memcpy (memcpy memory (start + first.length) second) start first =
      memcpy memory start (first ++ second) := by
  have hhead : (memory.take (start + first.length)).length = start + first.length :=
    List.length_take_of_le hfit
  simp only [memcpy]
  rw [List.append_assoc (memory.take (start + first.length)), List.take_append_of_le_length (by omega),
    List.take_take, Nat.min_eq_left (by omega), List.drop_left' hhead, List.length_append,
    Nat.add_assoc, List.append_assoc, List.append_assoc, List.append_assoc]

namespace VendorExtradata

variable (config : VendorExtradata)

theorem lengthBytes_eq (len : Nat) : config.lengthBytes len = toBigEndian config.nalLength len := by
  rw [lengthBytes]
  generalize config.nalLength = width
  induction width generalizing len with
  | zero => rfl
  | succ width ih =>
    rw [List.range_succ, List.map_append, toBigEndian, ← ih]
    congr 1
    · apply List.map_congr_left
      intro i hi
      have hi := List.mem_range.mp hi
      rw [show width + 1 - 1 - i = (width - 1 - i) + 1 by omega, Nat.mul_add, Nat.mul_one,
        Nat.add_comm (8 * _), Nat.shiftRight_add, Nat.shiftRight_eq_div_pow len 8]
    · rw [List.map_singleton]
      apply congrArg (fun byte => [byte])
      apply UInt8.toNat_inj.mp
      rw [UInt8.toNat_ofNat', UInt8.toNat_ofNat']
      simp

theorem copyParameterSet_of_found {copy : VendorCopy} {payload : List UInt8}
    (hlength : config.lengthAt copy.pSrcBuf = payload.length)
    (hpayload : (config.pData.drop (copy.pSrcBuf + 2)).take payload.length = payload)
    (hroom : copy.pDestBuf + config.nalLength ≤ copy.memory.length) :
    (config.copyParameterSet copy).memory = memcpy copy.memory copy.pDestBuf
        (toBigEndian config.nalLength payload.length ++ payload) ∧
      (config.copyParameterSet copy).pSrcBuf = copy.pSrcBuf + payload.length + 3 ∧
      (config.copyParameterSet copy).pDestBuf =
        copy.pDestBuf + (toBigEndian config.nalLength payload.length ++ payload).length := by
  rw [copyParameterSet]
  dsimp only
  rw [hlength]
  refine ⟨?_, by omega, ?_⟩
  · have hread : (List.range payload.length).map (fun i => config.byteAt (copy.pSrcBuf + 2 + i)) = payload :=
      map_getD_range rfl hpayload
    have hbefore := @memcpy_before copy.memory (toBigEndian config.nalLength payload.length) payload
      copy.pDestBuf
    rw [toBigEndian_length] at hbefore
    rw [hread, lengthBytes_eq, hbefore hroom]
  · rw [List.length_append, toBigEndian_length]
    omega

end VendorExtradata

namespace AvcConfigurationRecord

variable (record : AvcConfigurationRecord) (nPortIndex : Nat)

theorem config_nalLength : (record.config nPortIndex).nalLength = record.nalLength := by
  have hall : ∀ width ∈ [1, 2, 3, 4], ((UInt8.ofNat (0xFC + (width - 1))).toNat &&& 0x03) + 1 = width := by
    decide
  have hbounds := record.nalLength_bounds
  refine hall record.nalLength ?_
  simp only [List.mem_cons, List.not_mem_nil, or_false]
  omega

theorem shifted_or_toBigEndian {len : Nat} (hlen : len < 2 ^ 16) :
    (UInt8.ofNat (len / 256 % 256)).toNat <<< 8 ||| (UInt8.ofNat (len % 256)).toNat = len := by
  rw [UInt8.toNat_ofNat', UInt8.toNat_ofNat', ← Nat.shiftLeft_add_eq_or_of_lt (by omega), Nat.shiftLeft_eq]
  omega

theorem toBigEndian_two (len : Nat) :
    toBigEndian 2 len = [UInt8.ofNat (len / 256 % 256), UInt8.ofNat (len % 256)] := rfl

theorem lengthAt_of_split {config : VendorExtradata} {before after payload : List UInt8}
    (hdata : config.pData = before ++ (toBigEndian 2 payload.length ++ (payload ++ after)))
    (hpayload : payload.length < 2 ^ 16) :
    config.lengthAt before.length = payload.length ∧
      (config.pData.drop (before.length + 2)).take payload.length = payload := by
  have hfirst : config.byteAt before.length = UInt8.ofNat (payload.length / 256 % 256) := by
    rw [VendorExtradata.byteAt, hdata, toBigEndian_two, List.getD_eq_getElem?_getD,
      List.getElem?_append_right (Nat.le_refl _), Nat.sub_self]
    rfl
  have hsecond : config.byteAt (before.length + 1) = UInt8.ofNat (payload.length % 256) := by
    rw [VendorExtradata.byteAt, hdata, toBigEndian_two, List.getD_eq_getElem?_getD,
      List.getElem?_append_right (Nat.le_add_right _ _), Nat.add_sub_cancel_left]
    rfl
  constructor
  · rw [VendorExtradata.lengthAt, hfirst, hsecond, shifted_or_toBigEndian hpayload]
  · rw [hdata, ← List.append_assoc, List.drop_left' (by rw [List.length_append, toBigEndian_length]),
      List.take_left' rfl]

theorem config_vendorSize : (record.config nPortIndex).vendorSize =
    4 + record.sps.length + record.pps.length + record.extension.length +
      (record.config nPortIndex).extraSize := by
  have hsize : (record.config nPortIndex).nDataSize = _ := record.bytes_length
  rw [VendorExtradata.vendorSize_eq _ (by omega), hsize]
  omega

theorem parameterSets_le : record.parameterSets.length ≤ (record.config nPortIndex).vendorSize := by
  obtain ⟨hone, hfour⟩ := record.nalLength_bounds
  rw [config_vendorSize, parameterSets_length, VendorExtradata.extraSize, config_nalLength]
  split <;> omega

theorem copyParameterSets_memory (heap : Nat → UInt8) :
    ((record.config nPortIndex).copyParameterSets heap).memory =
      memcpy ((List.range (record.config nPortIndex).vendorSize).map heap) 0 record.parameterSets := by
  have hroom := record.parameterSets_le nPortIndex
  rw [parameterSets_length] at hroom
  have hnal := record.config_nalLength nPortIndex
  rw [VendorExtradata.copyParameterSets]
  generalize hconfig : record.config nPortIndex = config at hroom hnal ⊢
  have hdata : config.pData = record.bytes := by rw [← hconfig]; rfl
  generalize hfresh : (List.range config.vendorSize).map heap = fresh
  have hlength : fresh.length = config.vendorSize := by rw [← hfresh]; simp
  obtain ⟨hspsLength, hsps⟩ := @lengthAt_of_split config
    [record.version, record.profile, record.compatibility, record.level,
      UInt8.ofNat (0xFC + (record.nalLength - 1)), 0xE1]
    ([1] ++ toBigEndian 2 record.pps.length ++ record.pps ++ record.extension) record.sps
    (by rw [hdata, bytes]; simp only [List.append_assoc]) record.sps_fits.2
  obtain ⟨hppsLength, hpps⟩ := @lengthAt_of_split config
    ([record.version, record.profile, record.compatibility, record.level,
      UInt8.ofNat (0xFC + (record.nalLength - 1)), 0xE1] ++
        toBigEndian 2 record.sps.length ++ record.sps ++ [1])
    record.extension record.pps
    (by rw [hdata, bytes]; simp only [List.append_assoc]) record.pps_fits.2
  obtain ⟨hmemory, hsource, hdest⟩ := @VendorExtradata.copyParameterSet_of_found config
    ⟨6, 0, fresh, [⟨.source, 4⟩]⟩ record.sps hspsLength hsps (by simp only; omega)
  generalize config.copyParameterSet ⟨6, 0, fresh, [⟨.source, 4⟩]⟩ = first at hmemory hsource hdest ⊢
  have hbefore : first.pSrcBuf = ([record.version, record.profile, record.compatibility, record.level,
      UInt8.ofNat (0xFC + (record.nalLength - 1)), 0xE1] ++
        toBigEndian 2 record.sps.length ++ record.sps ++ [1]).length := by
    rw [hsource]
    simp only [List.length_append, List.length_cons, List.length_nil, toBigEndian_length]
    omega
  rw [← hbefore] at hppsLength hpps
  have hfit : first.pDestBuf + config.nalLength ≤ first.memory.length := by
    rw [hmemory, hdest, memcpy_length]
    · simp only [List.length_append, toBigEndian_length]
      omega
    · simp only [List.length_append, toBigEndian_length]
      omega
  obtain ⟨hmemory', -, -⟩ := config.copyParameterSet_of_found hppsLength hpps hfit
  rw [hmemory', hmemory, hdest, memcpy_memcpy _ _ (Nat.zero_le _), hnal]
  rfl

end AvcConfigurationRecord

/-- `m_vendor_config` holds the parameter sets of a record and nothing else. -/
def VendorConfig.Holds (vendor : VendorConfig) (record : AvcConfigurationRecord) : Prop :=
  vendor.pData = record.parameterSets ∧ vendor.nDataSize = record.parameterSets.length

/-- **The vendor configuration.** Behind `set_config` with a well-formed record `m_vendor_config` holds its
parameter sets exactly where lengths have at least two bytes and the record has no extension, or, where the call
is ignored, where it held them before. -/
theorem setConfig_holds (decoder : AvcDecoder) (record : AvcConfigurationRecord) (nPortIndex : Nat)
    (heap : Nat → UInt8) :
    (decoder.setConfig (record.config nPortIndex) heap).decoder.mVendorConfig.Holds record ↔
      if decoder.Accepts then 2 ≤ record.nalLength ∧ record.extension = []
      else decoder.mVendorConfig.Holds record := by
  by_cases haccepts : decoder.Accepts
  · rw [if_pos haccepts, AvcDecoder.setConfig, if_neg haccepts.1, if_neg haccepts.2]
    obtain ⟨hone, hfour⟩ := record.nalLength_bounds
    have hsize := record.config_vendorSize nPortIndex
    rw [VendorExtradata.extraSize, record.config_nalLength] at hsize
    have hlength := record.parameterSets_length
    have hmemory := record.copyParameterSets_memory nPortIndex heap
    constructor
    · rintro ⟨-, hsame⟩
      have hsame : (record.config nPortIndex).vendorSize = _ := hsame
      rw [hlength, hsize] at hsame
      refine ⟨?_, List.length_eq_zero_iff.mp ?_⟩
      · split at hsame <;> omega
      · split at hsame <;> omega
    · rintro ⟨htwo, hnone⟩
      have hsame : (record.config nPortIndex).vendorSize = record.parameterSets.length := by
        rw [hlength, hsize, hnone]
        simp only [List.length_nil]
        split <;> omega
      refine ⟨hmemory.trans ?_, hsame⟩
      rw [memcpy, List.take_zero, List.nil_append, List.drop_eq_nil_of_le, List.append_nil]
      rw [List.length_map, List.length_range, hsame, Nat.zero_add]
  · rw [if_neg haccepts, AvcDecoder.setConfig]
    by_cases hinvalid : decoder.mState = .invalid
    · rw [if_pos hinvalid]
    · rw [if_neg hinvalid, if_pos]
      by_contra hexecuting
      exact haccepts ⟨hinvalid, hexecuting⟩

def oneByteLengths : AvcConfigurationRecord where
  version := 1
  profile := 66
  compatibility := 0
  level := 30
  nalLength := 1
  nalLength_bounds := by decide
  sps := [0x67, 66]
  pps := [0x68]
  sps_fits := by decide
  pps_fits := by decide
  extension := []
  extension_high := fun hnone => absurd rfl hnone
  size_lt := by decide

/-- Two bytes behind the parameter sets belong to `m_vendor_config` that were never written. -/
theorem setConfig_not_holds :
    ¬∀ (record : AvcConfigurationRecord) (heap : Nat → UInt8),
      ((AvcDecoder.mk .loaded 0 ⟨0, 0, []⟩).setConfig (record.config 0) heap).decoder.mVendorConfig.Holds
        record := by
  intro hholds
  obtain ⟨-, hsize⟩ := hholds oneByteLengths fun _ => 0
  revert hsize
  decide +kernel

end Nozomi
