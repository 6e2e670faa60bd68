import Nozomi.Vdec.FrameParser.Code

/-!
# Splitting a stream at its start codes

What the start-code parser is for, said without its states: reading a stream from the left, every
position where the codec's masked start code begins ends a frame, the start code opens the next one,
and reading goes on behind it. H.264 has the three-byte start code too, written out with four bytes.
For MPEG-4 and MPEG-2 a sequence header is a start code from the second one on, and the start code
after it ends no frame, so that the header stays with the picture it belongs to.

A suffix that could still become a start code, or a start code with nothing behind it, belongs to no
frame yet: it is the pending part of the split.
-/

namespace Nozomi

namespace CodecType

def codeLength (codec : CodecType) : Nat := if codec = .h263 then 3 else 4

def agrees (codec : CodecType) (bytes : List UInt8) : Bool :=
  (bytes.zipIdx).all fun (byte, index) => codec.matchesAt index byte

def matchesCode (codec : CodecType) (stream : List UInt8) : Bool :=
  decide (codec.codeLength ≤ stream.length) && codec.agrees (stream.take codec.codeLength)

def headerAt (codec : CodecType) : List UInt8 → Bool
  | 0x00 :: 0x00 :: 0x01 :: byte :: _ => codec.isHeaderByte byte
  | _ => false

def startCodeAt (codec : CodecType) (headerFound : Bool) (stream : List UInt8) :
    Option (List UInt8 × List UInt8) :=
  if codec.matchesCode stream then
    some (stream.take codec.codeLength, stream.drop codec.codeLength)
  else if codec = .h264 ∧ stream.take 3 = [0x00, 0x00, 0x01] then
    some ([0x00, 0x00, 0x00, 0x01], stream.drop 3)
  else if headerFound ∧ codec.headerAt stream then some (stream.take 4, stream.drop 4)
  else none

def incomplete (codec : CodecType) (stream : List UInt8) : Bool :=
  decide (stream.length < codec.codeLength) && codec.agrees stream

end CodecType

/-- A split: the completed frames, the bytes of the frame in progress, the pending bytes. -/
structure Split where
  frames : List (List UInt8)
  current : List UInt8
  pending : List UInt8
  deriving DecidableEq, Repr

namespace Split

def prepend (frames : List (List UInt8)) (split : Split) : Split :=
  { split with frames := frames ++ split.frames }

@[simp] theorem prepend_prepend (first second : List (List UInt8)) (split : Split) :
    (split.prepend second).prepend first = split.prepend (first ++ second) := by
  simp only [prepend, List.append_assoc]

end Split

theorem CodecType.startCodeAt_length {codec : CodecType} {headerFound : Bool}
    {stream code rest : List UInt8} (hcode : codec.startCodeAt headerFound stream = some (code, rest)) :
    rest.length < stream.length := by
  unfold CodecType.startCodeAt at hcode
  split at hcode
  · rename_i hmatch
    have hlen : 3 ≤ codec.codeLength := by
      unfold CodecType.codeLength
      split <;> omega
    simp only [CodecType.matchesCode, Bool.and_eq_true, decide_eq_true_eq] at hmatch
    obtain ⟨rfl, rfl⟩ := hcode
    rw [List.length_drop]
    omega
  · split at hcode
    · rename_i hshort
      obtain ⟨rfl, rfl⟩ := hcode
      have := congrArg List.length hshort.2
      simp only [List.length_take, List.length_cons, List.length_nil] at this
      rw [List.length_drop]
      omega
    · split at hcode
      · rename_i hheader
        obtain ⟨rfl, rfl⟩ := hcode
        have hfour := hheader.2
        unfold CodecType.headerAt at hfour
        split at hfour
        · simp only [List.length_drop, List.length_cons]
          omega
        · simp at hfour
      · simp at hcode

def splitFrom (codec : CodecType) (headerFound skip : Bool) (current : List UInt8)
    (stream : List UInt8) : Split :=
  match stream with
  | [] => ⟨[], current, []⟩
  | byte :: tail =>
    if codec.incomplete (byte :: tail) then ⟨[], current, byte :: tail⟩
    else
      match _hcode : codec.startCodeAt headerFound (byte :: tail) with
      | some (code, rest) =>
        let frames := if skip then [] else [current]
        let opened := if skip then current else []
        if rest = [] then ⟨frames, opened, code⟩
        else
          (splitFrom codec headerFound (codec.headerAt code) (opened ++ code) rest).prepend frames
      | none =>
        splitFrom codec (headerFound || codec.headerAt (byte :: tail)) skip (current ++ [byte]) tail
termination_by stream.length
decreasing_by
  · exact CodecType.startCodeAt_length _hcode
  · simp

def split (codec : CodecType) (stream : List UInt8) : Split :=
  splitFrom codec false false [] stream

/-! ### The start code by its first bytes -/

namespace CodecType

@[simp] theorem and_full (byte : UInt8) : byte &&& 255 = byte := UInt8.and_neg_one

@[simp] theorem matchesAt_zero (codec : CodecType) (byte : UInt8) :
    codec.matchesAt 0 byte = (byte == 0) := by
  cases codec <;> simp [matchesAt, maskCode, startCode]

@[simp] theorem matchesAt_one (codec : CodecType) (byte : UInt8) :
    codec.matchesAt 1 byte = (byte == 0) := by
  cases codec <;> simp [matchesAt, maskCode, startCode]

@[simp] theorem matchesAt_two_h264 (byte : UInt8) : h264.matchesAt 2 byte = (byte == 0) := by
  simp [matchesAt, maskCode, startCode]

@[simp] theorem matchesAt_two_mpeg4 (byte : UInt8) : mpeg4.matchesAt 2 byte = (byte == 1) := by
  simp [matchesAt, maskCode, startCode]

@[simp] theorem matchesAt_two_vc1 (byte : UInt8) : vc1.matchesAt 2 byte = (byte == 1) := by
  simp [matchesAt, maskCode, startCode]

@[simp] theorem matchesAt_two_mpeg2 (byte : UInt8) : mpeg2.matchesAt 2 byte = (byte == 1) := by
  simp [matchesAt, maskCode, startCode]

@[simp] theorem matchesAt_three_h264 (byte : UInt8) : h264.matchesAt 3 byte = (byte == 1) := by
  simp [matchesAt, maskCode, startCode]

def fourthByteCode (codec : CodecType) : Prop := codec = .mpeg4 ∨ codec = .vc1 ∨ codec = .mpeg2

instance (codec : CodecType) : Decidable codec.fourthByteCode := by
  unfold fourthByteCode
  infer_instance

variable {codec : CodecType}

theorem fourthByteCode.matchesAt_two (hcodec : codec.fourthByteCode) (byte : UInt8) :
    codec.matchesAt 2 byte = (byte == 1) := by
  rcases hcodec with rfl | rfl | rfl <;> simp

theorem fourthByteCode.ne_h264 (hcodec : codec.fourthByteCode) : codec ≠ .h264 := by
  rintro rfl
  simp [fourthByteCode] at hcodec

theorem cases_code (codec : CodecType) :
    codec = .h263 ∨ codec = .h264 ∨ codec.fourthByteCode := by
  cases codec <;> simp [fourthByteCode]

theorem fourthByteCode.ne_h263 (hcodec : codec.fourthByteCode) : codec ≠ .h263 := by
  rintro rfl
  simp [fourthByteCode] at hcodec

theorem isHeaderByte_of_matchesAt {byte : UInt8} (hmatch : codec.matchesAt 3 byte = true) :
    codec.isHeaderByte byte = false := by
  cases codec <;>
    simp only [isHeaderByte, matchesAt, maskCode, startCode, List.getD_cons_succ,
      List.getD_cons_zero, and_full, beq_iff_eq] at hmatch ⊢
  · subst hmatch
    decide
  · subst hmatch
    decide

theorem fourthByteCode.codeLength_eq (hcodec : codec.fourthByteCode) : codec.codeLength = 4 := by
  rcases hcodec with rfl | rfl | rfl <;> rfl

theorem three_le_codeLength (codec : CodecType) : 3 ≤ codec.codeLength := by
  cases codec <;> decide

variable {codec : CodecType} {headerFound : Bool} {byte : UInt8} {bytes : List UInt8}

theorem agrees_one (first : UInt8) : codec.agrees [first] = (first == 0) := by
  simp [agrees, List.zipIdx_cons]

theorem agrees_two (first second : UInt8) :
    codec.agrees [first, second] = (first == 0 && second == 0) := by
  simp [agrees, List.zipIdx_cons]

theorem agrees_three (first second third : UInt8) :
    codec.agrees [first, second, third] =
      (first == 0 && (second == 0 && codec.matchesAt 2 third)) := by
  simp [agrees, List.zipIdx_cons]

theorem agrees_four (first second third fourth : UInt8) :
    codec.agrees [first, second, third, fourth] =
      (first == 0 && (second == 0 && (codec.matchesAt 2 third && codec.matchesAt 3 fourth))) := by
  simp [agrees, List.zipIdx_cons]

theorem agrees_append {tail : List UInt8} (hagrees : codec.agrees (bytes ++ tail) = true) :
    codec.agrees bytes = true := by
  simp only [agrees, List.zipIdx_append, List.all_append, Bool.and_eq_true] at hagrees
  exact hagrees.1

theorem incomplete_of_disagrees (hbytes : codec.agrees bytes = false) (tail : List UInt8) :
    codec.incomplete (bytes ++ tail) = false := by
  cases hall : codec.agrees (bytes ++ tail) with
  | true =>
    rw [agrees_append hall] at hbytes
    simp at hbytes
  | false => simp [incomplete, hall]

theorem incomplete_of_length {stream : List UInt8} (hlength : codec.codeLength ≤ stream.length) :
    codec.incomplete stream = false := by
  simp only [incomplete, Bool.and_eq_false_imp, decide_eq_true_eq]
  omega

theorem matchesCode_of_disagrees (hbytes : codec.agrees bytes = false)
    (hlength : bytes.length ≤ codec.codeLength) (tail : List UInt8) :
    codec.matchesCode (bytes ++ tail) = false := by
  cases hall : codec.agrees ((bytes ++ tail).take codec.codeLength) with
  | true =>
    rw [List.take_append, List.take_of_length_le hlength] at hall
    rw [agrees_append hall] at hbytes
    simp at hbytes
  | false => simp [matchesCode, hall]

theorem startCodeAt_h263 (hthird : CodecType.h263.matchesAt 2 byte = true) (tail : List UInt8) :
    CodecType.h263.startCodeAt headerFound (0 :: 0 :: byte :: tail) =
      some ([0, 0, byte], tail) := by
  simp [startCodeAt, matchesCode, codeLength, agrees_three, hthird]

theorem startCodeAt_h264_short (tail : List UInt8) :
    CodecType.h264.startCodeAt headerFound (0 :: 0 :: 1 :: tail) = some ([0, 0, 0, 1], tail) := by
  unfold startCodeAt
  rw [if_neg, if_pos ⟨rfl, rfl⟩]
  · rfl
  · cases tail <;> simp [matchesCode, codeLength, agrees_four]

theorem startCodeAt_h264 (tail : List UInt8) :
    CodecType.h264.startCodeAt headerFound (0 :: 0 :: 0 :: 1 :: tail) =
      some ([0, 0, 0, 1], tail) := by
  simp [startCodeAt, matchesCode, codeLength, agrees_four]

theorem startCodeAt_fourth (hcodec : codec.fourthByteCode)
    (hbyte : codec.matchesAt 3 byte = true ∨
      (headerFound = true ∧ codec.isHeaderByte byte = true)) (tail : List UInt8) :
    codec.startCodeAt headerFound (0 :: 0 :: 1 :: byte :: tail) =
      some ([0, 0, 1, byte], tail) := by
  have hlength := hcodec.codeLength_eq
  rcases hbyte with hmatch | ⟨hfound, hheader⟩
  · simp [startCodeAt, matchesCode, hlength, agrees_four, hcodec.matchesAt_two, hmatch]
  · simp [startCodeAt, matchesCode, hlength, hcodec.ne_h264, hfound, headerAt, hheader]

end CodecType

/-! ### The split at a position -/

open CodecType

variable {codec : CodecType} {headerFound : Bool} {byte : UInt8} {bytes : List UInt8}

theorem splitFrom_incomplete {stream : List UInt8} (hincomplete : codec.incomplete stream = true)
    (skip : Bool) (current : List UInt8) :
    splitFrom codec headerFound skip current stream = ⟨[], current, stream⟩ := by
  cases stream with
  | nil => rw [splitFrom]
  | cons byte tail => rw [splitFrom, if_pos hincomplete]

theorem splitFrom_found {stream code rest : List UInt8}
    (hincomplete : codec.incomplete stream = false)
    (hcode : codec.startCodeAt headerFound stream = some (code, rest)) (skip : Bool)
    (current : List UInt8) :
    splitFrom codec headerFound skip current stream =
      if rest = [] then ⟨if skip then [] else [current], if skip then current else [], code⟩
      else
        (splitFrom codec headerFound (codec.headerAt code) ((if skip then current else []) ++ code)
          rest).prepend (if skip then [] else [current]) := by
  cases stream with
  | nil =>
    have := three_le_codeLength codec
    simp only [incomplete, List.length_nil, agrees, List.zipIdx_nil, List.all_nil, Bool.and_true,
      decide_eq_false_iff_not] at hincomplete
    omega
  | cons byte tail =>
    rw [splitFrom, if_neg (by simp [hincomplete])]
    split
    · rename_i hsome
      simp only [hcode, Option.some.injEq, Prod.mk.injEq] at hsome
      obtain ⟨rfl, rfl⟩ := hsome
      rfl
    · rename_i hnone
      simp [hcode] at hnone

theorem splitFrom_release {tail : List UInt8}
    (hincomplete : codec.incomplete (byte :: tail) = false)
    (hcode : codec.startCodeAt headerFound (byte :: tail) = none) (skip : Bool)
    (current : List UInt8) :
    splitFrom codec headerFound skip current (byte :: tail) =
      splitFrom codec (headerFound || codec.headerAt (byte :: tail)) skip (current ++ [byte])
        tail := by
  rw [splitFrom, if_neg (by simp [hincomplete])]
  split
  · rename_i hsome
    simp [hcode] at hsome
  · rfl

theorem splitFrom_of_disagrees (codec : CodecType) (headerFound : Bool) (byte : UInt8)
    (bytes : List UInt8) (hbytes : codec.agrees (byte :: bytes) = false)
    (hlength : bytes.length < codec.codeLength) (tail : List UInt8)
    (hshort : codec = .h264 → (byte :: (bytes ++ tail)).take 3 ≠ [0, 0, 1])
    (hheader : headerFound = true → codec.headerAt (byte :: (bytes ++ tail)) = false)
    (skip : Bool) (current : List UInt8) :
    splitFrom codec headerFound skip current (byte :: (bytes ++ tail)) =
      splitFrom codec (headerFound || codec.headerAt (byte :: (bytes ++ tail))) skip
        (current ++ [byte]) (bytes ++ tail) := by
  have hmatch : codec.matchesCode (byte :: (bytes ++ tail)) = false :=
    matchesCode_of_disagrees hbytes hlength tail
  refine splitFrom_release (incomplete_of_disagrees hbytes tail) ?_ skip current
  unfold startCodeAt
  rw [if_neg (by simp [hmatch]), if_neg (fun h => hshort h.1 h.2),
    if_neg (fun h => by simp [hheader h.1] at h)]

theorem splitFrom_nonzero (hbyte : byte ≠ 0) (tail : List UInt8) (skip : Bool)
    (current : List UInt8) :
    splitFrom codec headerFound skip current (byte :: tail) =
      splitFrom codec headerFound skip (current ++ [byte]) tail := by
  have hheader : codec.headerAt (byte :: tail) = false := by
    unfold headerAt
    split
    · rename_i hcons
      exact absurd (List.cons.inj hcons).1 hbyte
    · rfl
  have hlength := three_le_codeLength codec
  have hstep := splitFrom_of_disagrees codec headerFound byte [] (by simp [agrees_one, hbyte])
    (by rw [List.length_nil]; omega) tail
    (fun _ => by simp [hbyte]) (fun _ => hheader) skip current
  simpa [hheader] using hstep

theorem splitFrom_zero_nonzero (hbyte : byte ≠ 0) (tail : List UInt8) (skip : Bool)
    (current : List UInt8) :
    splitFrom codec headerFound skip current (0 :: byte :: tail) =
      splitFrom codec headerFound skip (current ++ [0]) (byte :: tail) := by
  have hheader : codec.headerAt (0 :: byte :: tail) = false := by simp [headerAt, hbyte]
  have hlength := three_le_codeLength codec
  have hstep := splitFrom_of_disagrees codec headerFound 0 [byte]
    (by simp [agrees_two, hbyte]) (by simp only [List.length_singleton]; omega) tail
    (fun _ => by simp [hbyte]) (fun _ => hheader) skip current
  simpa [hheader] using hstep

theorem splitFrom_zeros (hthird : codec.matchesAt 2 byte = false)
    (hh264 : codec = .h264 → byte ≠ 1) (tail : List UInt8) (skip : Bool) (current : List UInt8) :
    splitFrom codec headerFound skip current (0 :: 0 :: byte :: tail) =
      splitFrom codec headerFound skip (current ++ [0]) (0 :: byte :: tail) := by
  have hheader : codec.headerAt (0 :: 0 :: byte :: tail) = false := by
    unfold headerAt
    split
    · rename_i hcons
      simp only [List.cons.injEq, true_and] at hcons
      obtain ⟨rfl, rfl⟩ := hcons
      cases codec <;> simp_all [isHeaderByte]
    · rfl
  have hlength := three_le_codeLength codec
  have hstep := splitFrom_of_disagrees codec headerFound 0 [0, byte] (by simp [agrees_three, hthird])
    (by simp only [List.length_cons, List.length_nil]; omega)
    tail (fun h => by simp [hh264 h]) (fun _ => hheader) skip current
  simpa [hheader] using hstep

theorem splitFrom_h264_zeros (hbyte : byte ≠ 1) (tail : List UInt8) (skip : Bool)
    (current : List UInt8) :
    splitFrom .h264 headerFound skip current (0 :: 0 :: 0 :: byte :: tail) =
      splitFrom .h264 headerFound skip (current ++ [0]) (0 :: 0 :: byte :: tail) := by
  have hstep := splitFrom_of_disagrees .h264 headerFound 0 [0, 0, byte]
    (by simp [agrees_four, hbyte]) (by simp [codeLength]) tail
    (fun _ => by simp) (fun _ => by simp [headerAt]) skip current
  simpa [headerAt] using hstep

theorem splitFrom_fourth (hcodec : codec.fourthByteCode) (hfourth : codec.matchesAt 3 byte = false)
    (hheader : headerFound = true → codec.isHeaderByte byte = false) (tail : List UInt8)
    (skip : Bool) (current : List UInt8) :
    splitFrom codec headerFound skip current (0 :: 0 :: 1 :: byte :: tail) =
      splitFrom codec (headerFound || codec.isHeaderByte byte) skip (current ++ [0, 0, 1])
        (byte :: tail) := by
  have hstep := splitFrom_of_disagrees codec headerFound 0 [0, 1, byte]
    (by simp [agrees_four, hfourth]) (by simp [hcodec.codeLength_eq]) tail
    (fun h => absurd h hcodec.ne_h264) (fun h => by simp [headerAt, hheader h]) skip current
  simp only [headerAt, List.cons_append, List.nil_append] at hstep
  rw [hstep, splitFrom_zero_nonzero (by decide), splitFrom_nonzero (by decide), List.append_assoc,
    List.append_assoc]
  rfl

end Nozomi
