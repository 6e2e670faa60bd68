import Nozomi.Base.BigEndian
import Nozomi.Base.EmulationPrevention
import Nozomi.Vdec.H264Utils.Code

/-!
# What `extract_rbsp` makes of a NAL unit

A NAL unit stands in a buffer behind a start code or behind a length field. The search for the start code
ends behind its 1, the length field is a big-endian number, and the loop that copies the payload undoes the
emulation prevention. What it returns is a position that the `boolean` cuts to a byte.
-/

namespace Nozomi

/-! ### The start code and the length field -/

theorem findStartCode_zeros (pos zeros : Nat) (bytes : List UInt8) :
    findStartCode 0 0 pos (List.replicate zeros 0 ++ 1 :: bytes) = some (pos + zeros + 1) := by
  induction zeros generalizing pos with
  | zero => rfl
  | succ zeros ih =>
    rw [List.replicate_succ, List.cons_append, findStartCode, if_neg (by decide), ih]
    congr 1
    omega

private theorem nalLengthField_rounds {buffer : List UInt8} {size : Nat} (hsize : size ≤ 4)
    (hroom : size ≤ buffer.length) (count : Nat) (hcount : count ≤ size) :
    (List.range count).foldl
        (fun length pos => length ||| ((buffer.getD pos 0).toNat <<< (8 * (size - 1 - pos))) % 2 ^ 32) 0 =
      bigEndian (buffer.take count) * 2 ^ (8 * (size - count)) := by
  induction count with
  | zero => simp [bigEndian]
  | succ count ih =>
    have hinside : count < buffer.length := by omega
    have hbyte : buffer.getD count 0 = buffer[count] := List.getD_eq_getElem _ _ hinside
    have htake : buffer.take (count + 1) = buffer.take count ++ [buffer[count]] := by
      rw [List.take_add_one, List.getElem?_eq_getElem hinside]
      rfl
    have hshift : 8 * (size - count) = 8 * (size - 1 - count) + 8 := by omega
    have hnarrow : buffer[count].toNat <<< (8 * (size - 1 - count)) < 2 ^ 32 := by
      rw [Nat.shiftLeft_eq]
      calc buffer[count].toNat * 2 ^ (8 * (size - 1 - count))
          < 2 ^ 8 * 2 ^ (8 * (size - 1 - count)) :=
            Nat.mul_lt_mul_of_pos_right buffer[count].toNat_lt (Nat.two_pow_pos _)
        _ = 2 ^ (8 + 8 * (size - 1 - count)) := (Nat.pow_add 2 8 _).symm
        _ ≤ 2 ^ 32 := Nat.pow_le_pow_right (by decide) (by omega)
    rw [List.range_succ, List.foldl_append, List.foldl_cons, List.foldl_nil, ih (by omega), hbyte,
      Nat.mod_eq_of_lt hnarrow, hshift, shifted_or_byte, htake, bigEndian_concat]
    congr 2
    omega

theorem nalLengthField_eq {buffer : List UInt8} {size : Nat} (hsize : size ≤ 4)
    (hroom : size ≤ buffer.length) : nalLengthField buffer size = bigEndian (buffer.take size) := by
  rw [nalLengthField, nalLengthField_rounds hsize hroom size (Nat.le_refl size), Nat.sub_self]
  exact Nat.mul_one _

/-! ### The payload -/

def zerosBehind (zeros : Nat) (bytes : List UInt8) : Nat :=
  bytes.foldl (fun zeros byte => zerosAfter (if zeros = 2 then 0 else zeros) byte) zeros

theorem zerosBehind_of_getLast {bytes : List UInt8} (hlast : bytes.getLast? ≠ some 0) :
    zerosBehind 0 bytes = 0 := by
  cases bytes using List.reverseRecOn with
  | nil => rfl
  | append_singleton bytes byte =>
    have hbyte : byte ≠ 0 := by
      rintro rfl
      exact hlast (by simp)
    rw [zerosBehind, List.foldl_append]
    exact if_neg hbyte

theorem extractLoop_escapeFrom (startCode : Bool) {zeros : Nat} (hzeros : zeros ≤ 2) (pos : Nat)
    (rbsp bytes suffix : List UInt8) :
    extractLoop startCode zeros pos rbsp (escapeFrom zeros bytes ++ suffix) =
      extractLoop startCode (zerosBehind zeros bytes) (pos + (escapeFrom zeros bytes).length)
        (rbsp ++ bytes) suffix := by
  induction bytes generalizing zeros pos rbsp with
  | nil => simp [escapeFrom, zerosBehind]
  | cons byte bytes ih =>
    have hrbsp : rbsp ++ byte :: bytes = rbsp ++ [byte] ++ bytes := by simp
    rw [escapeFrom, hrbsp, zerosBehind, List.foldl_cons, ← zerosBehind]
    by_cases hescaped : 2 ≤ zeros ∧ byte ≤ 3
    · obtain rfl : zeros = 2 := by omega
      rw [if_pos hescaped, List.cons_append, List.cons_append, extractLoop, if_pos ⟨rfl, rfl⟩,
        extractLoop, if_neg (by omega), if_neg (by omega), List.length_cons, List.length_cons]
      have hnext := ih (zerosAfter_le Nat.zero_lt_two byte) (pos + 1 + 1) (rbsp ++ [byte])
      rw [show pos + 1 + 1 + (escapeFrom (zerosAfter 0 byte) bytes).length =
        pos + ((escapeFrom (zerosAfter 0 byte) bytes).length + 1 + 1) by omega] at hnext
      exact hnext
    · rw [if_neg hescaped, List.cons_append, extractLoop, List.length_cons]
      by_cases htwo : zeros = 2
      · have hlarge : 3 < byte := UInt8.not_le.mp fun hle => hescaped ⟨by omega, hle⟩
        have hne : byte ≠ 3 := fun heq => absurd hlarge (by rw [heq]; decide)
        have hne0 : byte ≠ 0 := fun heq => absurd hlarge (by rw [heq]; decide)
        have hgt : ¬byte ≤ 1 := fun hle => absurd (UInt8.lt_of_lt_of_le hlarge hle) (by decide)
        have hafter : ∀ zeros, zerosAfter zeros byte = 0 := fun _ => if_neg hne0
        rw [if_neg (by simp [hne]), if_neg (by simp [hgt]), hafter, hafter]
        dsimp only
        rw [if_neg hne0, ih (Nat.zero_le 2), Nat.add_right_comm, ← Nat.add_assoc]
      · rw [if_neg (by simp [htwo]), if_neg (by simp [htwo]), if_neg htwo]
        dsimp only
        have hbelow : zeros < 2 := by omega
        have hnext := ih (zerosAfter_le hbelow byte) (pos + 1) (rbsp ++ [byte])
        rw [show pos + 1 + (escapeFrom (zerosAfter zeros byte) bytes).length =
          pos + ((escapeFrom (zerosAfter zeros byte) bytes).length + 1) by omega] at hnext
        exact hnext

theorem extractLoop_startCode {zeros : Nat} (hzeros : 2 ≤ zeros) (pos : Nat) (rbsp more : List UInt8) :
    extractLoop true 0 pos rbsp (List.replicate zeros 0 ++ 1 :: more) = (rbsp ++ [0, 0], some pos) := by
  obtain ⟨rest, rfl⟩ := Nat.exists_eq_add_of_le' hzeros
  have hcode : List.replicate (rest + 2) 0 ++ 1 :: more =
      0 :: 0 :: (List.replicate rest (0 : UInt8) ++ 1 :: more) := rfl
  rw [hcode]
  cases rest with
  | zero => simp [extractLoop]
  | succ rest => simp [extractLoop, List.replicate_succ]

/-! ### The two framings -/

def Extraction.ofPayload (startCode : Bool) (pos : Nat) (nalu : Nalu) (payload : List UInt8) : Extraction :=
  let (rbsp, leftAt) := extractLoop startCode 0 pos [] payload
  ⟨leftAt.all (· % 256 ≠ 0), some nalu, rbsp, if leftAt.isSome then rbsp.length - 2 else rbsp.length⟩

/-- The header is not that of an end of sequence or stream, behind which nothing is copied. -/
def Nalu.HasPayload (nalu : Nalu) : Prop :=
  nalu.naluType ≠ naluTypeEoseq ∧ nalu.naluType ≠ naluTypeEostream

theorem Nalu.not_hasPayload_iff (nalu : Nalu) :
    ¬nalu.HasPayload ↔ nalu.naluType = naluTypeEoseq ∨ nalu.naluType = naluTypeEostream := by
  rw [HasPayload, not_and_or, not_ne_iff, not_ne_iff]

theorem Nalu.ofByte_ofNat {nalRefIdc nalUnitType : Nat} (hnalRefIdc : nalRefIdc < 4)
    (hnalUnitType : nalUnitType < 32) :
    Nalu.ofByte (UInt8.ofNat (nalRefIdc * 32 + nalUnitType)) = ⟨nalRefIdc, nalUnitType, 0⟩ := by
  have hall : ∀ nalRefIdc < 4, ∀ nalUnitType < 32,
      Nalu.ofByte (UInt8.ofNat (nalRefIdc * 32 + nalUnitType)) = ⟨nalRefIdc, nalUnitType, 0⟩ := by decide
  exact hall nalRefIdc hnalRefIdc nalUnitType hnalUnitType

variable {header : UInt8}

theorem extractRbsp_behindStartCode {zeros : Nat} (hzeros : 2 ≤ zeros)
    (hpayload : (Nalu.ofByte header).HasPayload) (payload stale : List UInt8) :
    extractRbsp (List.replicate zeros 0 ++ 1 :: header :: payload ++ stale) (zeros + 2 + payload.length) 0 =
      .ofPayload true (zeros + 2) (Nalu.ofByte header) payload := by
  obtain ⟨more, rfl⟩ := Nat.exists_eq_add_of_le' hzeros
  generalize hbytes : List.replicate (more + 2) 0 ++ 1 :: header :: payload = bytes
  have hlength : bytes.length = more + 2 + 2 + payload.length := by
    rw [← hbytes, List.length_append, List.length_replicate, List.length_cons, List.length_cons]
    omega
  have hcode : bytes = 0 :: 0 :: (List.replicate more 0 ++ 1 :: header :: payload) := hbytes.symm
  have htake : (bytes ++ stale).take (more + 2 + 2 + payload.length) = bytes := List.take_left' hlength
  have hfind : findStartCode ((bytes ++ stale).getD 0 0) ((bytes ++ stale).getD 1 0) 2 (bytes.drop 2) =
      some (more + 3) := by
    rw [hcode]
    have hfound := findStartCode_zeros 2 more (header :: payload)
    rw [show 2 + more + 1 = more + 3 by omega] at hfound
    exact hfound
  have hheader : (bytes ++ stale).getD (more + 3) 0 = header := by
    rw [hcode]
    simp [List.getD_eq_getElem?_getD]
  have hdrop : bytes.drop (more + 4) = payload := by
    have hsplit : bytes = (List.replicate (more + 2) 0 ++ [1, header]) ++ payload := by
      rw [← hbytes]
      simp
    rw [hsplit, List.drop_left']
    simp
  rw [extractRbsp]
  simp only [decide_true, if_true, htake, hfind, hheader, Nat.add_zero]
  rw [if_neg (by omega), if_neg (not_or.mpr hpayload), hdrop]
  rfl

theorem extractRbsp_behindLengthField {field payload : List UInt8} (hfield : field ≠ [])
    (hsize : field.length ≤ 4) (hlength : bigEndian field = payload.length + 1)
    (hpayload : (Nalu.ofByte header).HasPayload) (behind : List UInt8) {bufferLength : Nat}
    (hbuffer : field.length + 1 + payload.length ≤ bufferLength) :
    extractRbsp (field ++ header :: payload ++ behind) bufferLength field.length =
      .ofPayload false (field.length + 1) (Nalu.ofByte header) payload := by
  have hpositive : 0 < field.length := List.length_pos_iff.mpr hfield
  have hnalLen : nalLengthField (field ++ header :: payload ++ behind) field.length =
      payload.length + 1 := by
    rw [nalLengthField_eq hsize (by simp), List.append_assoc, List.take_left' rfl, hlength]
  have hheader : (field ++ header :: payload ++ behind).getD field.length 0 = header := by
    simp [List.getD_eq_getElem?_getD]
  have hbytes : ((field ++ header :: payload ++ behind).take
      (payload.length + 1 + field.length)).drop (field.length + 1) = payload := by
    rw [List.take_left' (by simp; omega), show field ++ header :: payload = field ++ [header] ++ payload
      by simp, List.drop_left' (by simp)]
  have hmode : decide (field.length = 0) = false := decide_eq_false hpositive.ne'
  rw [extractRbsp]
  simp only [hmode, Bool.false_eq_true, if_false, hnalLen]
  rw [if_neg (by omega)]
  simp only [hheader]
  rw [if_neg (by omega), if_neg (not_or.mpr hpayload), hbytes]
  rfl

end Nozomi
