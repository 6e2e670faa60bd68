import Nozomi.Vdec.FrameParser.Frames
import Nozomi.Vdec.PushInput.Code

/-!
# One call of `parse_sc_frame` from the input path

The input path looks at a call of the parser from outside: which bytes it moved from the source to the
destination, and what is still to be split. Only the H.264 start code changes on its way, so for the
other codecs no byte is lost between the source, the parser and the destination.
-/

namespace Nozomi

open CodecType

theorem CodecType.startCodeAt_append {codec : CodecType} {headerFound : Bool}
    {stream code rest : List UInt8} (hcodec : codec ≠ .h264)
    (hcode : codec.startCodeAt headerFound stream = some (code, rest)) :
    code ++ rest = stream := by
  unfold startCodeAt at hcode
  split at hcode
  · obtain ⟨rfl, rfl⟩ := hcode
    exact List.take_append_drop _ _
  · rw [if_neg (fun h => hcodec h.1)] at hcode
    split at hcode
    · obtain ⟨rfl, rfl⟩ := hcode
      exact List.take_append_drop _ _
    · simp at hcode

theorem Run.bytes_exact {start parser : FrameParse} {data released left : List UInt8}
    (hrun : Run start data parser released left) (hok : start.Ok)
    (hstart : start.atStartCode = false) (hcodec : start.codec ≠ .h264) :
    start.pending ++ data = released ++ parser.pending ++ left := by
  cases hfound : parser.atStartCode with
  | false => exact hrun.bytes_eq hok hfound
  | true =>
    cases hrun with
    | refl =>
      rw [hstart] at hfound
      simp at hfound
    | @step parser released tail byte hrun hcode =>
      obtain ⟨hparser, hsame, -⟩ := hrun.keeps hok
      obtain ⟨htaken, hreleased, -, -, -, hstartCode⟩ :=
        transition_found hparser hcode byte tail hfound
      have hcodeBytes := startCodeAt_append (hsame ▸ hcodec) hstartCode
      rw [hrun.bytes_eq hok hcode, htaken, hreleased, List.append_nil, if_pos rfl,
        List.append_assoc, List.append_assoc, hcodeBytes]

/-! ### What a split delivers -/

namespace Split

def nals (split : Split) : List (List UInt8) :=
  (split.frames ++ [split.current]).filter (· ≠ [])

@[simp] theorem prepend_nals (frames : List (List UInt8)) (split : Split) :
    (split.prepend frames).nals = frames.filter (· ≠ []) ++ split.nals := by
  simp [nals, prepend]

@[simp] theorem prepend_pending (frames : List (List UInt8)) (split : Split) :
    (split.prepend frames).pending = split.pending := rfl

end Split

/-! ### Calls -/

namespace BufferHeader

structure Holds (capacity : Nat) (header : BufferHeader) : Prop extends header.Valid where
  room : capacity ≤ header.room + header.nFilledLen

variable {capacity : Nat} {header : BufferHeader}

theorem contents_of_empty (hempty : header.nFilledLen = 0) : header.contents = [] := by
  simp [contents, read, hempty]

theorem holds_iff : header.Holds capacity ↔
    header.Valid ∧ capacity + header.nOffset ≤ header.nAllocLen := by
  constructor
  · rintro ⟨hvalid, hroom⟩
    rw [hvalid.room_eq] at hroom
    have := hvalid.fits
    exact ⟨hvalid, by omega⟩
  · rintro ⟨hvalid, hroom⟩
    refine ⟨hvalid, ?_⟩
    rw [hvalid.room_eq]
    have := hvalid.fits
    omega

theorem Holds.relabel (hholds : header.Holds capacity) (flags : BitVec 32) (ts : Int) :
    ({ header with nFlags := flags, nTimeStamp := ts } : BufferHeader).Holds capacity :=
  ⟨⟨hholds.alloc, hholds.fits, hholds.bounded⟩, hholds.room⟩

theorem Holds.clear (hholds : header.Holds capacity) :
    ({ header with nFilledLen := 0 } : BufferHeader).Holds capacity := by
  obtain ⟨hvalid, hroom⟩ := holds_iff.mp hholds
  have hfits := hvalid.fits
  exact holds_iff.mpr ⟨⟨hvalid.alloc, by simp only; omega, hvalid.bounded⟩, hroom⟩

end BufferHeader

section

variable {parser : FrameParse} {source dest : BufferHeader} {capacity : Nat}

/-- What a call moved from the source to the destination, seen from outside. A start code of three bytes
may be written with four. -/
structure Parsed (parser : FrameParse) (source dest : BufferHeader) (capacity : Nat)
    (result : ParseResult) (added : List UInt8) : Prop where
  resting : result.parser.Resting
  codec : result.parser.codec = parser.codec
  taken : ∃ count ≤ source.nFilledLen, result.source = source.consume count
  offset : result.dest.nOffset = dest.nOffset
  contents : result.dest.contents = dest.contents ++ added
  holds : result.dest.Holds capacity
  length : 3 * added.length +
      4 * (result.parser.parseState.withheld + result.source.nFilledLen) ≤
    4 * (parser.parseState.withheld + source.nFilledLen)
  bytes : parser.codec ≠ .h264 →
    parser.pending ++ source.contents = added ++ result.parser.pending ++ result.source.contents

theorem parseScFrame_nOffset (hparser : parser.Resting) (hsource : source.Valid)
    (hdest : dest.Valid) : (parseScFrame parser source dest 1).dest.nOffset = dest.nOffset := by
  by_cases hrejected : dest.room < parser.codec.codeLength ∨ source.nFilledLen = 0
  · rw [(parseScFrame_rejected hrejected 1).2.2]
  · obtain ⟨finished, released, count, -, -, -, hcall⟩ := parseScFrame_eq hparser.toOk hsource (by omega) hdest
      (by omega) 1
    rw [hcall]
    exact (parser.openedDest_fields source dest).2.1

theorem FrameParse.openedBytes_length (parser : FrameParse) :
    parser.openedBytes.length = parser.openedLength := by
  unfold openedBytes openedLength
  cases hcode : parser.atStartCode with
  | true => exact pending_found_length hcode
  | false => rfl

theorem FrameParse.finish_parseState {parser : FrameParse} (hok : parser.Ok) :
    parser.finish.1.parseState = parser.parseState := by
  unfold finish
  split
  · rw [checkSkipFrameBoundary_eq hok]
  · rfl

theorem FrameParse.opened_pending (parser : FrameParse) :
    parser.openedBytes ++ parser.opened.pending = parser.pending := by
  unfold openedBytes opened
  cases parser.atStartCode <;> simp [pending]

theorem parseScFrame_filled (hparser : parser.Resting) (hsource : source.Valid)
    (hfilled : 0 < source.nFilledLen) (hdest : dest.Holds capacity)
    (hroom : source.nFilledLen + 5 ≤ dest.room) :
    ∃ added, Parsed parser source dest capacity (parseScFrame parser source dest 1) added ∧
      ∀ current rest, parser.resume current (source.contents ++ rest) =
        if (parseScFrame parser source dest 1).partialframe = 0 then
          ((parseScFrame parser source dest 1).parser.resume []
            ((parseScFrame parser source dest 1).source.contents ++ rest)).prepend
              [current ++ added]
        else (parseScFrame parser source dest 1).parser.resume (current ++ added)
          ((parseScFrame parser source dest 1).source.contents ++ rest) := by
  have hopened := FrameParse.opened_ok hparser.toOk
  have hstart := parser.opened_atStartCode
  obtain ⟨finished, released, count, written, hpos, hcount, hrun, -, hwritten, hcontents, -,
    hwrittenRoom, hcall⟩ := parseScFrame_ample hparser.toOk hsource hfilled hdest.toValid hroom 1
  obtain ⟨hnext, hcodec, -⟩ := hrun.keeps hopened
  obtain ⟨hfinished, hfinishCodec, hfinishPending, -⟩ := FrameParse.finish_spec hnext
  have hopenedCodec : parser.opened.codec = parser.codec := by
    unfold FrameParse.opened
    split <;> rfl
  rw [hcall]
  refine ⟨parser.openedBytes ++ released,
    ⟨hfinished, hfinishCodec.trans (hcodec.trans hopenedCodec), ⟨count, hcount, rfl⟩,
      ?_, ?_, ⟨hwritten, ?_⟩, ?_, ?_⟩, ?_⟩
  · have hoffset := parseScFrame_nOffset hparser hsource hdest.toValid
    rwa [hcall] at hoffset
  · rw [hcontents, List.append_assoc]
  · rw [hwrittenRoom]
    exact hdest.room
  · have hbytes := hrun.length_eq hopened hstart
    have hopenedLength : parser.openedBytes.length = parser.openedLength :=
      parser.openedBytes_length
    have hstate : finished.finish.1.parseState = finished.parseState :=
      FrameParse.finish_parseState hnext
    rw [List.length_drop, BufferHeader.contents_length hsource] at hbytes
    rw [List.length_append, hopenedLength, BufferHeader.consume_nFilledLen, hstate]
    rcases parser.opened_lengths with ⟨hcode, hwhole, hnone⟩ | ⟨hcode, hnone, hsame⟩
    · have := FrameParse.pending_length_le_withheld hcode
      have := parser.pending_length_le
      omega
    · have := FrameParse.pending_length hcode
      omega
  · intro hexact
    have hbytes := hrun.bytes_exact hopened hstart (hopenedCodec ▸ hexact)
    rw [← parser.opened_pending, List.append_assoc, hbytes, hfinishPending,
      BufferHeader.consume_contents]
    simp only [List.append_assoc]
  · intro current rest
    have hdata : source.contents ++ rest ≠ [] := by
      intro hnil
      have hnone := (List.append_eq_nil_iff.mp hnil).1
      rw [← List.length_eq_zero_iff, BufferHeader.contents_length hsource] at hnone
      omega
    rw [FrameParse.resume_opened hparser current _ hdata,
      hrun.resume_finish hopened hstart, ← BufferHeader.consume_contents]
    simp only [List.append_assoc]

theorem parseScFrame_drained (hempty : source.nFilledLen = 0)
    (hstatus : (parseScFrame parser source dest 1).status ≠ -1) :
    source.hasEos = true ∧ parseScFrame parser source dest 1 = ⟨1, parser, source, dest, 0⟩ := by
  unfold parseScFrame at hstatus ⊢
  rw [if_pos (.inr (.inr hempty))] at hstatus ⊢
  split at hstatus
  · rename_i heos
    exact ⟨heos.2, by rw [if_pos heos]⟩
  · exact absurd rfl hstatus

end

end Nozomi
