import Nozomi.Vdec.FrameParser.Split

/-!
# One transition for both state machines

The entry state machine and the parsing state machine take the same transitions. The first writes the
bytes a fallback lets go of, the second leaves them to the exit state machine. `transition` is that
common step, and `transition_split` is the one fact about it the rest of the proof uses: it changes
nothing about how what is held back and what is still to come will be split.
-/

namespace Nozomi

namespace FrameParse

def pending (parser : FrameParse) : List UInt8 :=
  match parser.parseState with
  | .A0 => []
  | .A1 => parser.codec.startCodePrefix 1
  | .A2 => parser.codec.startCodePrefix 2
  | .A3 => parser.codec.startCodePrefix 3
  | .A4 | .A5 =>
    if parser.codec = .h263 then parser.codec.startCodePrefix 2 ++ [parser.lastByteH263]
    else if parser.codec = .h264 then parser.codec.startCodePrefix 4
    else parser.codec.startCodePrefix 3 ++ [parser.lastByte]

/-- The states a parser can be in: no codec uses all six, and only MPEG-4 and MPEG-2 skip a frame
boundary. -/
structure Ok (parser : FrameParse) : Prop where
  h263 : parser.codec = .h263 → parser.parseState ≠ .A3 ∧ parser.parseState ≠ .A4
  fourth : parser.codec.fourthByteCode → parser.parseState ≠ .A5
  skip : parser.skipFrameBoundary = true → parser.codec = .mpeg4 ∨ parser.codec = .mpeg2

theorem initStartCodes_ok (codec : CodecType) (lastByte : UInt8) :
    (initStartCodes codec lastByte).Ok :=
  ⟨fun _ => by simp [initStartCodes], fun _ => by simp [initStartCodes],
    fun h => by simp [initStartCodes] at h⟩

end FrameParse

/-- The outcome of one step of either machine on a byte. -/
structure Transition where
  parser : FrameParse
  taken : Bool
  released : List UInt8

def transition (parser : FrameParse) (byte : UInt8) : Transition :=
  let codec := parser.codec
  match parser.parseState with
  | .A0 =>
    if byte = 0 then ⟨{ parser with parseState := .A1 }, true, []⟩ else ⟨parser, true, [byte]⟩
  | .A1 =>
    if byte = 0 then ⟨{ parser with parseState := .A2 }, true, []⟩
    else ⟨{ parser with parseState := .A0 }, false, [0]⟩
  | .A2 =>
    match advanceA2 parser byte with
    | some parser => ⟨parser, true, []⟩
    | none => ⟨{ parser with parseState := .A1 }, false, [0]⟩
  | .A3 =>
    let parser := parser.parseAdditionalStartCode byte
    if parser.parseState = .A4 then ⟨parser, true, []⟩
    else if codec.matchesAt 3 byte then
      ⟨{ parser with parseState := .A4, lastByte := byte }, true, []⟩
    else if codec = .h264 then ⟨{ parser with parseState := .A2 }, false, [0]⟩
    else ⟨{ parser with parseState := .A0 }, false, codec.startCodePrefix 3⟩
  | _ => ⟨parser, false, []⟩

variable (codec : CodecType)

theorem startCode_one_eq : codec.startCode 1 = codec.startCode 0 := by
  cases codec <;> rfl

theorem startCode_two_eq : codec.startCode 2 = codec.startCode 0 ↔ codec = .h264 := by
  cases codec <;> decide

theorem startCodePrefix_one : codec.startCodePrefix 1 = [0] := by
  cases codec <;> rfl

theorem startCodePrefix_two : codec.startCodePrefix 2 = [0, 0] := by
  cases codec <;> rfl

theorem startCodePrefix_three_h264 : CodecType.h264.startCodePrefix 3 = [0, 0, 0] := rfl

theorem startCodePrefix_four_h264 : CodecType.h264.startCodePrefix 4 = [0, 0, 0, 1] := rfl

theorem startCodePrefix_three {codec : CodecType} (hcodec : codec.fourthByteCode) :
    codec.startCodePrefix 3 = [0, 0, 1] := by
  rcases hcodec with rfl | rfl | rfl <;> rfl

@[simp] theorem BufferHeader.append_nil (header : BufferHeader) : header.append [] = header := by
  simp [BufferHeader.append, memcpy]

theorem parseAdditionalStartCode_codec (parser : FrameParse) (byte : UInt8) :
    (parser.parseAdditionalStartCode byte).codec = parser.codec := by
  unfold FrameParse.parseAdditionalStartCode
  split_ifs <;> rfl

theorem entryStep_eq (state : EntryState) (hstate : state.parser.parseState ≠ .A0)
    (hok : state.parser.Ok) :
    entryStep state =
      let next := transition state.parser (state.source.byteAt 0)
      ⟨next.parser, if next.taken then state.source.consume 1 else state.source,
        state.dest.append next.released⟩ := by
  obtain ⟨parser, source, dest⟩ := state
  cases hcase : parser.parseState with
  | A0 => exact absurd hcase hstate
  | A1 =>
    simp only [entryStep, transition, hcase, CodecType.matchesAt_one, beq_iff_eq,
      startCodePrefix_one]
    split <;> simp
  | A2 =>
    simp only [entryStep, transition, hcase, startCode_one_eq, startCodePrefix_one]
    cases advanceA2 parser (source.byteAt 0) <;> simp
  | A3 =>
    have hcodec := parseAdditionalStartCode_codec parser (source.byteAt 0)
    have hh263 : parser.codec ≠ .h263 := fun h => (hok.h263 h).1 hcase
    simp only [entryStep, transition, hcase, startCode_one_eq, startCode_two_eq, true_and]
    split
    · simp
    · split
      · simp
      · split
        · simp [startCodePrefix_one]
        · simp
  | A4 => simp [entryStep, transition, hcase]
  | A5 => simp [entryStep, transition, hcase]

theorem scanStep_eq (source : BufferHeader) (state : ScanState) :
    scanStep source state =
      let next := transition state.parser (source.byteAt state.parsedLength)
      ⟨next.parser, if next.taken then state.parsedLength + 1 else state.parsedLength⟩ := by
  obtain ⟨parser, parsedLength⟩ := state
  cases hcase : parser.parseState with
  | A0 =>
    simp only [scanStep, transition, hcase, CodecType.matchesAt_zero, beq_iff_eq]
    split <;> simp
  | A1 =>
    simp only [scanStep, transition, hcase, CodecType.matchesAt_one, beq_iff_eq]
    split <;> simp
  | A2 =>
    simp only [scanStep, transition, hcase, startCode_one_eq]
    cases advanceA2 parser (source.byteAt parsedLength) <;> simp
  | A3 =>
    simp only [scanStep, transition, hcase, startCode_one_eq, startCode_two_eq, true_and]
    split
    · simp
    · split
      · simp
      · split <;> simp
  | A4 => simp [scanStep, transition, hcase]
  | A5 => simp [scanStep, transition, hcase]

/-! ### What a step can do -/

open CodecType

theorem parseAdditionalStartCode_eq (parser : FrameParse) (byte : UInt8) :
    parser.parseAdditionalStartCode byte =
      if parser.codec.isHeaderByte byte then
        if parser.headerFound then { parser with lastByte := byte, parseState := .A4 }
        else { parser with headerFound := true }
      else parser := by
  cases hcodec : parser.codec <;> simp [FrameParse.parseAdditionalStartCode, hcodec, isHeaderByte]

variable {parser : FrameParse}

theorem advanceA2_h263 (hcodec : parser.codec = .h263) (byte : UInt8) :
    advanceA2 parser byte =
      if CodecType.h263.matchesAt 2 byte then
        some { parser with lastByteH263 := byte, parseState := .A5 }
      else none := by
  simp [advanceA2, hcodec]

theorem advanceA2_h264 (hcodec : parser.codec = .h264) (byte : UInt8) :
    advanceA2 parser byte =
      if byte = 1 then some { parser with parseState := .A5 }
      else if byte = 0 then some { parser with parseState := .A3 } else none := by
  simp [advanceA2, hcodec]

theorem advanceA2_fourth (hcodec : parser.codec.fourthByteCode) (byte : UInt8) :
    advanceA2 parser byte =
      if byte = 1 then some { parser with parseState := .A3 } else none := by
  rcases hcodec with hcodec | hcodec | hcodec <;> simp [advanceA2, hcodec]

theorem transition_A3_h264 (hstate : parser.parseState = .A3) (hcodec : parser.codec = .h264) (byte : UInt8) :
    transition parser byte =
      if byte = 1 then ⟨{ parser with lastByte := byte, parseState := .A4 }, true, []⟩
      else ⟨{ parser with parseState := .A2 }, false, [0]⟩ := by
  simp [transition, hstate, parseAdditionalStartCode_eq, hcodec, isHeaderByte]

theorem transition_A3_fourth (hstate : parser.parseState = .A3) (hcodec : parser.codec.fourthByteCode)
    (byte : UInt8) :
    transition parser byte =
      if parser.codec.matchesAt 3 byte = true ∨
          (parser.headerFound = true ∧ parser.codec.isHeaderByte byte = true) then
        ⟨{ parser with lastByte := byte, parseState := .A4 }, true, []⟩
      else
        ⟨{ parser with
            headerFound := parser.headerFound || parser.codec.isHeaderByte byte
            parseState := .A0 }, false, [0, 0, 1]⟩ := by
  have hexclusive : parser.codec.matchesAt 3 byte = true → parser.codec.isHeaderByte byte = false :=
    isHeaderByte_of_matchesAt
  simp only [transition, hstate, parseAdditionalStartCode_eq, startCodePrefix_three hcodec,
    hcodec.ne_h264, if_false]
  cases hheader : parser.codec.isHeaderByte byte <;> cases hfound : parser.headerFound <;>
    cases hmatch : parser.codec.matchesAt 3 byte <;> simp_all

/-- Everything a step of the machines can do, by state, codec and byte. -/
inductive TransitionCase (parser : FrameParse) (byte : UInt8) : Transition → Prop where
  | zero (hstate : parser.parseState = .A0) (hbyte : byte = 0) :
      TransitionCase parser byte ⟨{ parser with parseState := .A1 }, true, []⟩
  | pass (hstate : parser.parseState = .A0) (hbyte : byte ≠ 0) :
      TransitionCase parser byte ⟨parser, true, [byte]⟩
  | secondZero (hstate : parser.parseState = .A1) (hbyte : byte = 0) :
      TransitionCase parser byte ⟨{ parser with parseState := .A2 }, true, []⟩
  | fallbackA1 (hstate : parser.parseState = .A1) (hbyte : byte ≠ 0) :
      TransitionCase parser byte ⟨{ parser with parseState := .A0 }, false, [0]⟩
  | foundH263 (hstate : parser.parseState = .A2) (hcodec : parser.codec = .h263)
      (hbyte : CodecType.h263.matchesAt 2 byte = true) :
      TransitionCase parser byte
        ⟨{ parser with lastByteH263 := byte, parseState := .A5 }, true, []⟩
  | foundShort (hstate : parser.parseState = .A2) (hcodec : parser.codec = .h264)
      (hbyte : byte = 1) :
      TransitionCase parser byte ⟨{ parser with parseState := .A5 }, true, []⟩
  | third (hstate : parser.parseState = .A2)
      (hbyte : parser.codec = .h264 ∧ byte = 0 ∨ parser.codec.fourthByteCode ∧ byte = 1) :
      TransitionCase parser byte ⟨{ parser with parseState := .A3 }, true, []⟩
  | fallbackA2 (hstate : parser.parseState = .A2) (hthird : parser.codec.matchesAt 2 byte = false)
      (hshort : parser.codec = .h264 → byte ≠ 1) :
      TransitionCase parser byte ⟨{ parser with parseState := .A1 }, false, [0]⟩
  | foundH264 (hstate : parser.parseState = .A3) (hcodec : parser.codec = .h264)
      (hbyte : byte = 1) :
      TransitionCase parser byte ⟨{ parser with lastByte := byte, parseState := .A4 }, true, []⟩
  | fallbackH264 (hstate : parser.parseState = .A3) (hcodec : parser.codec = .h264)
      (hbyte : byte ≠ 1) :
      TransitionCase parser byte ⟨{ parser with parseState := .A2 }, false, [0]⟩
  | foundFourth (hstate : parser.parseState = .A3) (hcodec : parser.codec.fourthByteCode)
      (hbyte : parser.codec.matchesAt 3 byte = true ∨
        (parser.headerFound = true ∧ parser.codec.isHeaderByte byte = true)) :
      TransitionCase parser byte ⟨{ parser with lastByte := byte, parseState := .A4 }, true, []⟩
  | fallbackFourth (hstate : parser.parseState = .A3) (hcodec : parser.codec.fourthByteCode)
      (hfourth : parser.codec.matchesAt 3 byte = false)
      (hheader : parser.headerFound = true → parser.codec.isHeaderByte byte = false) :
      TransitionCase parser byte
        ⟨{ parser with
            headerFound := parser.headerFound || parser.codec.isHeaderByte byte
            parseState := .A0 }, false, [0, 0, 1]⟩

theorem transition_case (hok : parser.Ok) (hcode : parser.atStartCode = false) (byte : UInt8) :
    TransitionCase parser byte (transition parser byte) := by
  cases hstate : parser.parseState with
  | A0 =>
    simp only [transition, hstate]
    split
    · exact .zero hstate ‹_›
    · exact .pass hstate ‹_›
  | A1 =>
    simp only [transition, hstate]
    split
    · exact .secondZero hstate ‹_›
    · exact .fallbackA1 hstate ‹_›
  | A2 =>
    simp only [transition, hstate]
    rcases cases_code parser.codec with hcodec | hcodec | hcodec
    · rw [advanceA2_h263 hcodec]
      by_cases hthird : CodecType.h263.matchesAt 2 byte = true
      · rw [if_pos hthird]
        exact .foundH263 hstate hcodec hthird
      · rw [if_neg hthird]
        exact .fallbackA2 hstate (by simpa [hcodec] using hthird) (by simp [hcodec])
    · rw [advanceA2_h264 hcodec]
      by_cases hone : byte = 1
      · rw [if_pos hone]
        exact .foundShort hstate hcodec hone
      · rw [if_neg hone]
        by_cases hzero : byte = 0
        · rw [if_pos hzero]
          exact .third hstate (.inl ⟨hcodec, hzero⟩)
        · rw [if_neg hzero]
          exact .fallbackA2 hstate (by simp [hcodec, hzero]) (fun _ => hone)
    · rw [advanceA2_fourth hcodec]
      by_cases hone : byte = 1
      · rw [if_pos hone]
        exact .third hstate (.inr ⟨hcodec, hone⟩)
      · rw [if_neg hone]
        exact .fallbackA2 hstate (by simp [hcodec.matchesAt_two, hone])
          (fun h => absurd h hcodec.ne_h264)
  | A3 =>
    rcases cases_code parser.codec with hcodec | hcodec | hcodec
    · exact absurd hstate (hok.h263 hcodec).1
    · rw [transition_A3_h264 hstate hcodec]
      split
      · exact .foundH264 hstate hcodec ‹_›
      · exact .fallbackH264 hstate hcodec ‹_›
    · rw [transition_A3_fourth hstate hcodec]
      split
      · exact .foundFourth hstate hcodec ‹_›
      · rename_i hnone
        rw [not_or, not_and, Bool.not_eq_true] at hnone
        exact .fallbackFourth hstate hcodec hnone.1 (fun h => by simpa using hnone.2 h)
  | A4 => simp [FrameParse.atStartCode, hstate] at hcode
  | A5 => simp [FrameParse.atStartCode, hstate] at hcode


section

variable {parser : FrameParse}

theorem transition_keeps (hok : parser.Ok) (hcode : parser.atStartCode = false) (byte : UInt8) :
    (transition parser byte).parser.Ok ∧ (transition parser byte).parser.codec = parser.codec ∧
      (transition parser byte).parser.skipFrameBoundary = parser.skipFrameBoundary := by
  generalize hnext : transition parser byte = next
  have hcase := transition_case hok hcode byte
  rw [hnext] at hcase
  have hskip := hok.skip
  cases hcase with
  | zero hstate hbyte | secondZero hstate hbyte | fallbackA1 hstate hbyte | fallbackA2 hstate hthird hshort
  | fallbackH264 hstate hcodec hbyte | fallbackFourth hstate hcodec hfourth hheader =>
    exact ⟨⟨by simp, by simp, hskip⟩, rfl, rfl⟩
  | pass hstate hbyte => exact ⟨hok, rfl, rfl⟩
  | foundH263 hstate hcodec hbyte =>
    exact ⟨⟨by simp, fun h => absurd hcodec h.ne_h263, hskip⟩, rfl, rfl⟩
  | foundShort hstate hcodec hbyte =>
    exact ⟨⟨by simp, fun h => absurd hcodec h.ne_h264, hskip⟩, rfl, rfl⟩
  | third hstate hbyte =>
    have hh263 : parser.codec ≠ .h263 := by
      rcases hbyte with ⟨hcodec, -⟩ | ⟨hcodec, -⟩
      · simp [hcodec]
      · exact hcodec.ne_h263
    exact ⟨⟨fun h => absurd h hh263, by simp, hskip⟩, rfl, rfl⟩
  | foundH264 hstate hcodec hbyte =>
    exact ⟨⟨fun h => by simp [hcodec] at h, by simp, hskip⟩, rfl, rfl⟩
  | foundFourth hstate hcodec hbyte =>
    exact ⟨⟨fun h => absurd h hcodec.ne_h263, by simp, hskip⟩, rfl, rfl⟩

theorem transition_split (hok : parser.Ok) (hcode : parser.atStartCode = false) (byte : UInt8)
    (tail : List UInt8) (skip : Bool) (current : List UInt8)
    (hnone : (transition parser byte).parser.atStartCode = false) :
    splitFrom parser.codec parser.headerFound skip current (parser.pending ++ byte :: tail) =
      splitFrom parser.codec (transition parser byte).parser.headerFound skip
        (current ++ (transition parser byte).released)
        ((transition parser byte).parser.pending ++
          if (transition parser byte).taken then tail else byte :: tail) := by
  generalize hnext : transition parser byte = next at hnone ⊢
  have hcase := transition_case hok hcode byte
  rw [hnext] at hcase
  cases hcase with
  | zero hstate hbyte =>
    simp [FrameParse.pending, hstate, startCodePrefix_one, hbyte]
  | pass hstate hbyte =>
    simp [FrameParse.pending, hstate, splitFrom_nonzero hbyte]
  | secondZero hstate hbyte =>
    simp [FrameParse.pending, hstate, startCodePrefix_one, startCodePrefix_two, hbyte]
  | fallbackA1 hstate hbyte =>
    simp [FrameParse.pending, hstate, startCodePrefix_one, splitFrom_zero_nonzero hbyte]
  | foundH263 hstate hcodec hbyte | foundShort hstate hcodec hbyte | foundH264 hstate hcodec hbyte
  | foundFourth hstate hcodec hbyte => simp [FrameParse.atStartCode] at hnone
  | third hstate hbyte =>
    rcases hbyte with ⟨hcodec, rfl⟩ | ⟨hcodec, rfl⟩
    · simp [FrameParse.pending, hstate, startCodePrefix_two, hcodec, startCodePrefix_three_h264]
    · simp [FrameParse.pending, hstate, startCodePrefix_two, startCodePrefix_three hcodec]
  | fallbackA2 hstate hthird hshort =>
    simp [FrameParse.pending, hstate, startCodePrefix_one, startCodePrefix_two,
      splitFrom_zeros hthird hshort]
  | fallbackH264 hstate hcodec hbyte =>
    simp [FrameParse.pending, hstate, startCodePrefix_two, hcodec, startCodePrefix_three_h264,
      splitFrom_h264_zeros hbyte]
  | fallbackFourth hstate hcodec hfourth hheader =>
    simp [FrameParse.pending, hstate, startCodePrefix_three hcodec,
      splitFrom_fourth hcodec hfourth hheader]

theorem transition_found (hok : parser.Ok) (hcode : parser.atStartCode = false) (byte : UInt8)
    (tail : List UInt8) (hfound : (transition parser byte).parser.atStartCode = true) :
    (transition parser byte).taken = true ∧ (transition parser byte).released = [] ∧
      (transition parser byte).parser.headerFound = parser.headerFound ∧
      parser.pending.length + 1 = (transition parser byte).parser.parseState.withheld ∧
      parser.codec.incomplete (parser.pending ++ byte :: tail) = false ∧
      parser.codec.startCodeAt parser.headerFound (parser.pending ++ byte :: tail) =
        some ((transition parser byte).parser.pending, tail) := by
  generalize hnext : transition parser byte = next at hfound ⊢
  have hcase := transition_case hok hcode byte
  rw [hnext] at hcase
  cases hcase with
  | zero hstate hbyte | secondZero hstate hbyte | fallbackA1 hstate hbyte | third hstate hbyte
  | fallbackA2 hstate hthird hshort | fallbackH264 hstate hcodec hbyte
  | fallbackFourth hstate hcodec hfourth hheader => simp [FrameParse.atStartCode] at hfound
  | pass hstate hbyte => simp [hcode] at hfound
  | foundH263 hstate hcodec hbyte =>
    simp [FrameParse.pending, hstate, hcodec, startCodePrefix_two, startCodeAt_h263 hbyte,
      StartCodeState.withheld, incomplete_of_length, codeLength]
  | foundShort hstate hcodec hbyte =>
    have hdisagrees : CodecType.h264.agrees [0, 0, 1] = false := by decide
    have hincomplete := incomplete_of_disagrees hdisagrees tail
    simp only [List.cons_append, List.nil_append] at hincomplete
    simp [FrameParse.pending, hstate, hcodec, startCodePrefix_two, startCodePrefix_four_h264, hbyte,
      startCodeAt_h264_short, StartCodeState.withheld, hincomplete]
  | foundH264 hstate hcodec hbyte =>
    simp [FrameParse.pending, hstate, hcodec, startCodePrefix_three_h264, startCodePrefix_four_h264,
      hbyte, startCodeAt_h264, StartCodeState.withheld, incomplete_of_length, codeLength]
  | foundFourth hstate hcodec hbyte =>
    simp [FrameParse.pending, hstate, hcodec.ne_h263, hcodec.ne_h264, startCodePrefix_three hcodec,
      startCodeAt_fourth hcodec hbyte, StartCodeState.withheld, incomplete_of_length,
      hcodec.codeLength_eq]

theorem transition_bytes (hok : parser.Ok) (hcode : parser.atStartCode = false) (byte : UInt8)
    (hnone : (transition parser byte).parser.atStartCode = false) :
    parser.pending ++ (if (transition parser byte).taken then [byte] else []) =
      (transition parser byte).released ++ (transition parser byte).parser.pending := by
  generalize hnext : transition parser byte = next at hnone ⊢
  have hcase := transition_case hok hcode byte
  rw [hnext] at hcase
  cases hcase with
  | zero hstate hbyte => simp [FrameParse.pending, hstate, startCodePrefix_one, hbyte]
  | pass hstate hbyte => simp [FrameParse.pending, hstate]
  | secondZero hstate hbyte =>
    simp [FrameParse.pending, hstate, startCodePrefix_one, startCodePrefix_two, hbyte]
  | fallbackA1 hstate hbyte => simp [FrameParse.pending, hstate, startCodePrefix_one]
  | foundH263 hstate hcodec hbyte | foundShort hstate hcodec hbyte | foundH264 hstate hcodec hbyte
  | foundFourth hstate hcodec hbyte => simp [FrameParse.atStartCode] at hnone
  | third hstate hbyte =>
    rcases hbyte with ⟨hcodec, rfl⟩ | ⟨hcodec, rfl⟩
    · simp [FrameParse.pending, hstate, startCodePrefix_two, hcodec, startCodePrefix_three_h264]
    · simp [FrameParse.pending, hstate, startCodePrefix_two, startCodePrefix_three hcodec]
  | fallbackA2 hstate hthird hshort =>
    simp [FrameParse.pending, hstate, startCodePrefix_one, startCodePrefix_two]
  | fallbackH264 hstate hcodec hbyte =>
    simp [FrameParse.pending, hstate, startCodePrefix_two, hcodec, startCodePrefix_three_h264]
  | fallbackFourth hstate hcodec hfourth hheader =>
    simp [FrameParse.pending, hstate, startCodePrefix_three hcodec]

end

end Nozomi
