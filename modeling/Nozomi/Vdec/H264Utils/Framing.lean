import Nozomi.Vdec.H264Utils.Extraction

/-!
# Both framings of a NAL unit are undone

A NAL unit whose payload does not end in a zero is framed by a start code, with the start code of the next
NAL unit behind it or without one, or by a length field. `extract_rbsp` always finds its header and its
payload. At the next start code it returns the position as its success.
-/

namespace Nozomi

/-- A NAL unit whose payload can be told from the zeros behind it. -/
structure NalUnit where
  nalRefIdc : Nat
  nalRefIdc_lt : nalRefIdc < 4
  nalUnitType : Nat
  nalUnitType_lt : nalUnitType < 32
  nalUnitType_payload : nalUnitType ≠ naluTypeEoseq ∧ nalUnitType ≠ naluTypeEostream
  rbsp : List UInt8
  rbsp_getLast : rbsp.getLast? ≠ some 0

namespace NalUnit

variable (nal : NalUnit)

def headerByte : UInt8 := UInt8.ofNat (nal.nalRefIdc * 32 + nal.nalUnitType)

def bytes : List UInt8 := nal.headerByte :: escape nal.rbsp

def nalu : Nalu := ⟨nal.nalRefIdc, nal.nalUnitType, 0⟩

/-- The next NAL unit with its start code. -/
structure Next where
  zeros : Nat
  twoZeros : 2 ≤ zeros
  bytes : List UInt8

/-- How the NAL unit stands in the buffer. -/
inductive Framing
  | startCode (zeros : Nat) (twoZeros : 2 ≤ zeros) (next : Option Next)
  | lengthField (size : Nat) (positive : 0 < size) (small : size ≤ 4)
      (fits : nal.bytes.length < 256 ^ size) (behind : List UInt8)

variable {nal}

namespace Framing

def behind : nal.Framing → List UInt8
  | startCode _ _ none => []
  | startCode _ _ (some next) => List.replicate next.zeros 0 ++ 1 :: next.bytes
  | lengthField _ _ _ _ behind => behind

def buffer (framing : nal.Framing) : List UInt8 :=
  match framing with
  | startCode zeros _ _ => List.replicate zeros 0 ++ 1 :: nal.bytes ++ framing.behind
  | lengthField size _ _ _ _ => toBigEndian size nal.bytes.length ++ nal.bytes ++ framing.behind

def sizeOfNalLengthField : nal.Framing → Nat
  | startCode _ _ _ => 0
  | lengthField size _ _ _ _ => size

def NextAtZero : nal.Framing → Prop
  | startCode zeros _ (some _) => (zeros + 1 + nal.bytes.length) % 256 = 0
  | _ => False

end Framing

variable (nal) in
/-- `extract_rbsp` has found the header and the payload. -/
structure Found (extraction : Extraction) : Prop where
  nalu : extraction.nalu = some nal.nalu
  rbspLength : extraction.rbspLength = nal.rbsp.length
  rbsp : extraction.rbsp.take extraction.rbspLength = nal.rbsp

variable (nal) in
theorem ofByte_headerByte : Nalu.ofByte nal.headerByte = nal.nalu :=
  Nalu.ofByte_ofNat nal.nalRefIdc_lt nal.nalUnitType_lt

variable (nal) in
theorem hasPayload : (Nalu.ofByte nal.headerByte).HasPayload := by
  rw [ofByte_headerByte]
  exact nal.nalUnitType_payload

variable (nal) in
theorem ofPayload_escape (startCode : Bool) (pos : Nat) :
    Extraction.ofPayload startCode pos nal.nalu (escape nal.rbsp) =
      ⟨true, some nal.nalu, nal.rbsp, nal.rbsp.length⟩ := by
  have hloop := extractLoop_escapeFrom startCode (Nat.zero_le 2) pos [] nal.rbsp []
  rw [List.append_nil, List.nil_append, extractLoop] at hloop
  rw [Extraction.ofPayload, escape, hloop]
  rfl

variable (nal) in
theorem ofPayload_next (next : Next) (pos : Nat) :
    Extraction.ofPayload true pos nal.nalu
        (escape nal.rbsp ++ (List.replicate next.zeros 0 ++ 1 :: next.bytes)) =
      ⟨decide ((pos + (escape nal.rbsp).length) % 256 ≠ 0), some nal.nalu, nal.rbsp ++ [0, 0],
        nal.rbsp.length⟩ := by
  have hloop := extractLoop_escapeFrom true (Nat.zero_le 2) pos [] nal.rbsp
    (List.replicate next.zeros 0 ++ 1 :: next.bytes)
  rw [zerosBehind_of_getLast nal.rbsp_getLast, extractLoop_startCode next.twoZeros] at hloop
  rw [Extraction.ofPayload, escape, hloop]
  simp

theorem extractRbsp_framing (framing : nal.Framing) (stale : List UInt8) :
    nal.Found (extractRbsp (framing.buffer ++ stale) framing.buffer.length framing.sizeOfNalLengthField) ∧
      ((extractRbsp (framing.buffer ++ stale) framing.buffer.length
        framing.sizeOfNalLengthField).success = true ↔ ¬framing.NextAtZero) := by
  have hheader := nal.ofByte_headerByte
  cases framing with
  | startCode zeros twoZeros next =>
    have hlength : ∀ payload : List UInt8,
        (List.replicate zeros 0 ++ 1 :: nal.headerByte :: payload).length = zeros + 2 + payload.length := by
      intro payload
      rw [List.length_append, List.length_replicate, List.length_cons, List.length_cons]
      omega
    cases next with
    | none =>
      have hextract := extractRbsp_behindStartCode twoZeros nal.hasPayload (escape nal.rbsp) stale
      rw [hheader, nal.ofPayload_escape, ← hlength] at hextract
      simp only [Framing.buffer, Framing.behind, Framing.sizeOfNalLengthField, List.append_nil, bytes,
        hextract, Framing.NextAtZero, not_false_eq_true, and_true]
      exact ⟨rfl, rfl, List.take_length⟩
    | some next =>
      have hextract := extractRbsp_behindStartCode twoZeros nal.hasPayload
        (escape nal.rbsp ++ (List.replicate next.zeros 0 ++ 1 :: next.bytes)) stale
      rw [hheader, nal.ofPayload_next, ← hlength] at hextract
      have hbuffer : (Framing.startCode zeros twoZeros (some next) : nal.Framing).buffer =
          List.replicate zeros 0 ++ 1 :: nal.headerByte ::
            (escape nal.rbsp ++ (List.replicate next.zeros 0 ++ 1 :: next.bytes)) := by
        simp [Framing.buffer, Framing.behind, bytes]
      rw [hbuffer, Framing.sizeOfNalLengthField, hextract]
      refine ⟨⟨rfl, rfl, List.take_left' rfl⟩, ?_⟩
      rw [Framing.NextAtZero, bytes, List.length_cons, decide_eq_true_iff,
        show zeros + 1 + ((escape nal.rbsp).length + 1) = zeros + 2 + (escape nal.rbsp).length by omega]
  | lengthField size positive small fits behind =>
    have hfield := toBigEndian_length size nal.bytes.length
    have hnonempty : toBigEndian size nal.bytes.length ≠ [] := by
      intro hempty
      rw [hempty] at hfield
      exact positive.ne hfield
    have hextract := extractRbsp_behindLengthField hnonempty (hfield.le.trans small)
      (bigEndian_toBigEndian fits) nal.hasPayload (behind ++ stale)
      (Nat.le_add_right _ behind.length)
    rw [hheader, nal.ofPayload_escape, hfield] at hextract
    have hbuffer : (Framing.lengthField size positive small fits behind : nal.Framing).buffer ++ stale =
        toBigEndian size nal.bytes.length ++ nal.headerByte :: escape nal.rbsp ++ (behind ++ stale) := by
      simp [Framing.buffer, Framing.behind, bytes]
    have hlength : (Framing.lengthField size positive small fits behind : nal.Framing).buffer.length =
        size + 1 + (escape nal.rbsp).length + behind.length := by
      simp [Framing.buffer, Framing.behind, bytes]
      omega
    rw [hbuffer, hlength, Framing.sizeOfNalLengthField, hextract]
    exact ⟨⟨rfl, rfl, List.take_length⟩, iff_of_true rfl not_false⟩

/-- `extract_rbsp` reports success and gives back the header and the payload if and only if the next start
code is not at a multiple of 256. -/
theorem extractRbsp_succeeds_iff (framing : nal.Framing) (stale : List UInt8) :
    (extractRbsp (framing.buffer ++ stale) framing.buffer.length framing.sizeOfNalLengthField).success =
        true ∧
      nal.Found (extractRbsp (framing.buffer ++ stale) framing.buffer.length
        framing.sizeOfNalLengthField) ↔ ¬framing.NextAtZero := by
  obtain ⟨hfound, hsuccess⟩ := extractRbsp_framing framing stale
  rw [hsuccess]
  exact and_iff_left hfound

def multipleOf256 : NalUnit where
  nalRefIdc := 0
  nalRefIdc_lt := by decide
  nalUnitType := naluTypeNonIdr
  nalUnitType_lt := by decide
  nalUnitType_payload := by decide
  rbsp := List.replicate 251 1
  rbsp_getLast := by decide +kernel

/-- In front of a next NAL unit it is reported as a failure. -/
theorem extractRbsp_not_succeeds :
    ¬∀ (nal : NalUnit) (framing : nal.Framing),
      (extractRbsp framing.buffer framing.buffer.length framing.sizeOfNalLengthField).success = true := by
  intro hsucceeds
  have hfailed := hsucceeds multipleOf256 (.startCode 3 (by decide) (some ⟨3, by decide, [9]⟩))
  revert hfailed
  decide +kernel

end NalUnit

end Nozomi
