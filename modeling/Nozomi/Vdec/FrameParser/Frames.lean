import Nozomi.Vdec.FrameParser.Call
import Nozomi.Vdec.FrameParser.Feed

/-!
# The frames of a stream

Between two calls a parser still owes a
split of its held-back bytes and of everything to come; a call pays part of it and leaves the rest as it
was, wherever the buffer ends. So the frames are the split of the stream, for every division of it.
-/

namespace Nozomi

open CodecType

/-- A parser between two calls: a start code it has found does not skip a frame boundary. -/
structure FrameParse.Resting (parser : FrameParse) : Prop extends FrameParse.Ok parser where
  boundary : parser.atStartCode = true → parser.skipFrameBoundary = false

def FrameParse.resume (parser : FrameParse) (current data : List UInt8) : Split :=
  if parser.atStartCode then
    if data = [] then ⟨[], current, parser.pending⟩
    else
      splitFrom parser.codec parser.headerFound (parser.codec.headerAt parser.pending)
        (current ++ parser.pending) data
  else splitFrom parser.codec parser.headerFound parser.skipFrameBoundary current
    (parser.pending ++ data)

namespace FrameParse

variable {parser : FrameParse}

theorem initStartCodes_resting (codec : CodecType) (lastByte : UInt8) :
    (initStartCodes codec lastByte).Resting :=
  ⟨initStartCodes_ok codec lastByte, fun _ => rfl⟩

theorem pending_incomplete (hok : parser.Ok) (hcode : parser.atStartCode = false) :
    parser.codec.incomplete parser.pending = true := by
  cases hstate : parser.parseState with
  | A0 => cases hcodec : parser.codec <;> simp [pending, hstate, incomplete, codeLength, agrees]
  | A1 =>
    cases hcodec : parser.codec <;>
      simp [pending, hstate, incomplete, codeLength, hcodec, startCodePrefix_one, agrees_one]
  | A2 =>
    cases hcodec : parser.codec <;>
      simp [pending, hstate, incomplete, codeLength, hcodec, startCodePrefix_two, agrees_two]
  | A3 =>
    rcases cases_code parser.codec with hcodec | hcodec | hcodec
    · exact absurd hstate (hok.h263 hcodec).1
    · simp [pending, hstate, incomplete, codeLength, hcodec, startCodePrefix_three_h264,
        agrees_three]
    · simp [pending, hstate, incomplete, hcodec.codeLength_eq, startCodePrefix_three hcodec,
        agrees_three, hcodec.matchesAt_two]
  | A4 => simp [atStartCode, hstate] at hcode
  | A5 => simp [atStartCode, hstate] at hcode

theorem resume_nil (hok : parser.Ok) (current : List UInt8) :
    parser.resume current [] = ⟨[], current, parser.pending⟩ := by
  unfold resume
  cases hcode : parser.atStartCode with
  | true => simp
  | false =>
    rw [if_neg Bool.false_ne_true, List.append_nil,
      splitFrom_incomplete (pending_incomplete hok hcode)]

theorem resume_opened (hresting : parser.Resting) (current data : List UInt8)
    (hdata : data ≠ []) :
    parser.resume current data =
      splitFrom parser.opened.codec parser.opened.headerFound parser.opened.skipFrameBoundary
        (current ++ parser.openedBytes) (parser.opened.pending ++ data) := by
  unfold resume opened openedBytes
  cases hcode : parser.atStartCode with
  | true =>
    simp only [if_true, if_neg hdata, hresting.boundary hcode, Bool.false_or, pending,
      List.nil_append]
  | false => simp only [if_neg Bool.false_ne_true, List.append_nil]

end FrameParse

theorem FrameParse.finish_spec {parser : FrameParse} (hok : parser.Ok) :
    parser.finish.1.Resting ∧ parser.finish.1.codec = parser.codec ∧
      parser.finish.1.pending = parser.pending ∧
      parser.finish.1.atStartCode = parser.atStartCode ∧
      (parser.finish.2 = 0 → parser.atStartCode = true) ∧
      (parser.finish.2 ≠ 0 → parser.pending.length = parser.parseState.withheld) := by
  unfold finish
  cases hcode : parser.atStartCode with
  | true =>
    rw [if_pos rfl, checkSkipFrameBoundary_eq hok]
    refine ⟨⟨⟨hok.h263, hok.fourth, by simp⟩, fun _ => rfl⟩, rfl, rfl, hcode, fun _ => rfl, ?_⟩
    intro hpartial
    have hskip : parser.skipFrameBoundary = true := by
      by_contra hskip
      exact hpartial (if_neg hskip)
    have hcodec : parser.codec.fourthByteCode := by
      rcases hok.skip hskip with h | h
      · exact .inl h
      · exact .inr (.inr h)
    have hstate : parser.parseState = .A4 := by
      have : parser.parseState = .A4 ∨ parser.parseState = .A5 := by
        simpa [atStartCode] using hcode
      exact this.resolve_right (hok.fourth hcodec)
    rw [pending_found_length hcode, hcodec.codeLength_eq, hstate]
    rfl
  | false =>
    exact ⟨⟨hok, by simp [hcode]⟩, rfl, rfl, hcode, by simp, fun _ => pending_length hcode⟩

theorem Run.resume_finish {start parser : FrameParse} {data released left : List UInt8}
    (hrun : Run start data parser released left) (hok : start.Ok)
    (hstart : start.atStartCode = false) (current rest : List UInt8) :
    splitFrom start.codec start.headerFound start.skipFrameBoundary current
        (start.pending ++ (data ++ rest)) =
      if parser.finish.2 = 0 then
        (parser.finish.1.resume [] (left ++ rest)).prepend [current ++ released]
      else parser.finish.1.resume (current ++ released) (left ++ rest) := by
  obtain ⟨hparser, hcodec, hskip⟩ := hrun.keeps hok
  cases hfound : parser.atStartCode with
  | true =>
    rw [hrun.split_found hok hstart hfound]
    unfold FrameParse.finish
    rw [if_pos hfound, FrameParse.checkSkipFrameBoundary_eq hparser, hskip]
    have hfinished : ({ parser with skipFrameBoundary := false } : FrameParse).atStartCode = true :=
      hfound
    simp only [FrameParse.resume, hfinished, if_true, ← hcodec]
    cases start.skipFrameBoundary with
    | true =>
      simp only [if_true, Nat.one_ne_zero, if_false]
      split
      · rfl
      · rfl
    | false =>
      simp only [if_neg Bool.false_ne_true, if_true]
      split
      · rfl
      · rfl
  | false =>
    rw [hrun.split_eq hok hfound]
    simp only [FrameParse.finish, hfound, if_neg Bool.false_ne_true, Nat.one_ne_zero, if_false,
      FrameParse.resume, hcodec, hskip]

/-! ### Reachable parsers -/

/-- The states an object can have after any calls on well-formed headers. -/
inductive FrameParse.Reachable : FrameParse → Prop where
  | init (codec : CodecType) (lastByte : UInt8) : Reachable (initStartCodes codec lastByte)
  | nalLength {parser next : FrameParse} {nalLen : Nat} (hparser : Reachable parser)
      (hnext : parser.initNalLength nalLen = some next) : Reachable next
  | flush {parser : FrameParse} (hparser : Reachable parser) : Reachable parser.flush
  | scFrame {parser : FrameParse} {source dest : BufferHeader} (hparser : Reachable parser)
      (hsource : source.Valid) (hdest : dest.Valid) (partialframe : Nat) :
      Reachable (parseScFrame parser source dest partialframe).parser
  | nalFrame {parser : FrameParse} {source dest : BufferHeader} (hparser : Reachable parser)
      (hsource : source.Valid) (hdest : dest.Valid) (partialframe : Nat) :
      Reachable (parseH264Nallength parser source dest partialframe).parser

/-- Two parsers agree in what `parse_sc_frame` keeps between calls. -/
structure FrameParse.SameScan (first second : FrameParse) : Prop where
  codec : first.codec = second.codec
  parseState : first.parseState = second.parseState
  skip : first.skipFrameBoundary = second.skipFrameBoundary

theorem FrameParse.SameScan.resting {first second : FrameParse} (hsame : first.SameScan second)
    (hsecond : second.Resting) : first.Resting := by
  obtain ⟨⟨hh263, hfourth, hskip⟩, hboundary⟩ := hsecond
  refine ⟨⟨?_, ?_, ?_⟩, ?_⟩
  · rwa [hsame.codec, hsame.parseState]
  · rwa [hsame.codec, hsame.parseState]
  · rwa [hsame.codec, hsame.skip]
  · rwa [atStartCode, hsame.parseState, hsame.skip]

theorem accumulateLength_sameScan (tempLen fuel : Nat) :
    ∀ (state : EntryState) (parsedLength : Nat),
      (accumulateLength tempLen fuel state parsedLength).parser.SameScan state.parser := by
  induction fuel with
  | zero => exact fun state parsedLength => ⟨rfl, rfl, rfl⟩
  | succ fuel ih =>
    intro state parsedLength
    rw [accumulateLength]
    split
    · dsimp only
      split
      · exact ⟨rfl, rfl, rfl⟩
      · exact ⟨(ih _ _).codec, (ih _ _).parseState, (ih _ _).skip⟩
    · exact ⟨rfl, rfl, rfl⟩

theorem copyNal_sameScan (state : EntryState) : (copyNal state).parser.SameScan state.parser := by
  unfold copyNal
  dsimp only
  split
  · split <;> exact ⟨rfl, rfl, rfl⟩
  · exact ⟨rfl, rfl, rfl⟩

theorem finishNal_sameScan (state : EntryState) :
    (finishNal state).parser.SameScan state.parser := by
  have hcopied := copyNal_sameScan { state with dest := state.dest.stamp state.source }
  unfold finishNal
  dsimp only
  split <;> exact ⟨hcopied.codec, hcopied.parseState, hcopied.skip⟩

theorem parseH264Nallength_sameScan (parser : FrameParse) (source dest : BufferHeader)
    (partialframe : Nat) :
    (parseH264Nallength parser source dest partialframe).parser.SameScan parser := by
  unfold parseH264Nallength
  split
  · exact ⟨rfl, rfl, rfl⟩
  split
  · have hread := accumulateLength_sameScan (min source.nFilledLen dest.room)
      (min source.nFilledLen dest.room) ⟨parser, source, dest⟩ 0
    have hrest := finishNal_sameScan (accumulateLength (min source.nFilledLen dest.room)
      (min source.nFilledLen dest.room) ⟨parser, source, dest⟩ 0)
    exact ⟨hrest.codec.trans hread.codec, hrest.parseState.trans hread.parseState,
      hrest.skip.trans hread.skip⟩
  · exact finishNal_sameScan ⟨parser, source, dest⟩

theorem FrameParse.Reachable.resting {parser : FrameParse} (hparser : parser.Reachable) :
    parser.Resting := by
  induction hparser with
  | init codec lastByte => exact initStartCodes_resting codec lastByte
  | @nalLength parser next nalLen hparser hnext ih =>
    unfold initNalLength at hnext
    split at hnext
    · simp at hnext
    · obtain rfl := Option.some.inj hnext
      have hsame : SameScan { parser with nalLength := nalLen } parser := ⟨rfl, rfl, rfl⟩
      exact hsame.resting ih
  | flush hparser ih =>
    exact ⟨⟨by simp [FrameParse.flush], by simp [FrameParse.flush], by simp [FrameParse.flush]⟩,
      fun _ => rfl⟩
  | @scFrame parser source dest hparser hsource hdest partialframe ih =>
    by_cases hrejected : dest.room < parser.codec.codeLength ∨ source.nFilledLen = 0
    · rw [(parseScFrame_rejected hrejected partialframe).1]
      exact ih
    · obtain ⟨next, released, count, -, hrun, -, hcall⟩ := parseScFrame_eq ih.toOk hsource
        (by omega) hdest (by omega) partialframe
      rw [hcall]
      exact (finish_spec (hrun.keeps (opened_ok ih.toOk)).1).1
  | nalFrame hparser hsource hdest partialframe ih =>
    exact (parseH264Nallength_sameScan _ _ _ partialframe).resting ih

/-! ### Feeding source buffers -/

namespace Feed

def outcome (feed : Feed) : Split := ⟨feed.frames, feed.dest.contents, feed.parser.pending⟩

def promise (feed : Feed) (data : List UInt8) : Split :=
  (feed.parser.resume feed.dest.contents data).prepend feed.frames

def Ample (fresh : Nat → BufferHeader) (capacity : Nat) : Prop :=
  ∀ index, (fresh index).Valid ∧ (fresh index).nFilledLen = 0 ∧ capacity ≤ (fresh index).room

/-- A feed in which `remaining` bytes are still to come of a stream of `total` bytes. Only the H.264
start code gets longer on its way, and a destination has one start code at most. -/
structure Fits (total : Nat) (feed : Feed) (remaining : Nat) : Prop where
  resting : feed.parser.Resting
  dest : feed.dest.Valid
  room : total + 8 ≤ feed.dest.room + feed.dest.nFilledLen
  used : feed.dest.nFilledLen + feed.parser.pending.length + remaining ≤ total + 1
  unopened : feed.parser.atStartCode = false → feed.dest.nFilledLen = 0 →
    feed.parser.pending.length + remaining ≤ total

variable {fresh : Nat → BufferHeader}

theorem call_spec {total later : Nat} {feed : Feed} {source : BufferHeader} (hfresh : Ample fresh (total + 8))
    (hsource : source.Valid) (hfilled : 0 < source.nFilledLen)
    (hfits : feed.Fits total (source.nFilledLen + later)) :
    ∃ next count, 0 < count ∧ count ≤ source.nFilledLen ∧
      feed.call parseScFrame fresh source = some (next, source.consume count) ∧
      next.Fits total (source.nFilledLen - count + later) ∧
      ∀ rest, feed.promise (source.contents ++ rest) =
        next.promise ((source.consume count).contents ++ rest) := by
  obtain ⟨parser, dest, frames, writtenBefore⟩ := feed
  obtain ⟨hresting, hdest, hroom, hused, hunopened⟩ := hfits
  simp only at hresting hdest hroom hused hunopened
  have hok := hresting.toOk
  have hopened := FrameParse.opened_ok hok
  obtain ⟨finished, released, count, written, hpos, hcount, hrun, hend, hwritten, hcontents,
    hlength, hwrittenRoom, hcall⟩ := parseScFrame_ample hok hsource hfilled hdest (by omega) 1
  obtain ⟨hnext, -, hskip⟩ := hrun.keeps hopened
  obtain ⟨hfinished, -, hfinishPending, hfinishCode, hfinishZero, hfinishPartial⟩ :=
    FrameParse.finish_spec hnext
  obtain ⟨hfreshValid, hfreshFilled, hfreshRoom⟩ := hfresh (frames.length + 1)
  have hbytes := hrun.length_eq hopened parser.opened_atStartCode
  have hsourceLength := BufferHeader.contents_length hsource
  have hdata : source.contents ≠ [] := by
    rw [← List.length_pos_iff, hsourceLength]
    exact hfilled
  rw [List.length_drop, hsourceLength] at hbytes
  have hheld := parser.opened_lengths
  have hopen (rest : List UInt8) := FrameParse.resume_opened hresting dest.contents
    (source.contents ++ rest) (by simp [hdata])
  have hresume := hrun.resume_finish hopened parser.opened_atStartCode
    (dest.contents ++ parser.openedBytes)
  rw [← hcontents] at hresume
  simp only [call, hcall, if_true]
  by_cases hzero : finished.finish.2 = 0
  · have hfound := hfinishZero hzero
    have hpending := FrameParse.pending_length_le_withheld hfound
    have hempty : (fresh (frames.length + 1)).contents = [] := by
      simp [BufferHeader.contents, BufferHeader.read, hfreshFilled]
    rw [if_pos hzero]
    refine ⟨_, count, hpos, hcount, rfl, ⟨hfinished, hfreshValid, ?_, ?_, ?_⟩, ?_⟩
    · simp only
      omega
    · simp only [hfinishPending, hfreshFilled]
      rcases hheld with ⟨hcode, hwhole, hnone⟩ | ⟨hcode, hnone, hsame⟩
      · have := FrameParse.pending_length_le_withheld hcode
        omega
      · have := hunopened hcode
        omega
    · simp [hfinishCode, hfound]
    · intro rest
      simp only [promise, BufferHeader.consume_contents]
      rw [hopen, hresume, if_pos hzero, Split.prepend_prepend, hempty]
  · have hpending := hfinishPartial hzero
    rw [if_neg hzero]
    refine ⟨_, count, hpos, hcount, rfl, ⟨hfinished, hwritten, ?_, ?_, ?_⟩, ?_⟩
    · simp only
      omega
    · simp only [hfinishPending]
      omega
    · simp only [hfinishPending]
      intro hnot hempty
      rcases hheld with ⟨hcode, hwhole, hnone⟩ | ⟨hcode, hnone, hsame⟩
      · have := FrameParse.pending_length_le_withheld hcode
        omega
      · have := hunopened hcode
        omega
    · intro rest
      simp only [promise, BufferHeader.consume_contents]
      rw [hopen, hresume, if_neg hzero]

/-- The invariant of a run: the split that is owed is that of the stream. -/
def Owes (total : Nat) (whole : Split) (feed : Feed) (data : List UInt8) : Prop :=
  feed.Fits total data.length ∧ feed.promise data = whole

theorem owes_preserved {total : Nat} (whole : Split) (hfresh : Ample fresh (total + 8)) :
    Preserves parseScFrame fresh (Owes total whole) := by
  rintro feed source rest hsource hfilled ⟨hfits, hwhole⟩ next left hcall
  rw [List.length_append, BufferHeader.contents_length hsource] at hfits
  obtain ⟨next, count, hpos, hcount, hspec, hnext, hpromise⟩ :=
    call_spec hfresh hsource hfilled hfits
  rw [hcall] at hspec
  obtain ⟨rfl, rfl⟩ := Prod.mk.inj (Option.some.inj hspec)
  refine ⟨count, hpos, hcount, rfl, ?_, (hpromise rest).symm.trans hwhole⟩
  rw [List.length_append,
    BufferHeader.contents_length (BufferHeader.consume_valid hsource hcount)]
  exact hnext

theorem owes_succeeds {total : Nat} (whole : Split) (hfresh : Ample fresh (total + 8)) :
    Succeeds parseScFrame fresh (Owes total whole) := by
  rintro feed source rest hsource hfilled ⟨hfits, hwhole⟩
  rw [List.length_append, BufferHeader.contents_length hsource] at hfits
  obtain ⟨next, count, -, -, hspec, -⟩ := call_spec hfresh hsource hfilled hfits
  rw [hspec]
  exact Option.some_ne_none _

theorem run_outcome (fresh : Nat → BufferHeader) (codec : CodecType) (lastByte : UInt8)
    (sources : List BufferHeader) (hsources : ∀ source ∈ sources, source.Valid)
    (hfresh : Ample fresh ((sources.flatMap BufferHeader.contents).length + 8)) :
    (run parseScFrame fresh (.initStartCodes codec lastByte) sources).map outcome =
      some (split codec (sources.flatMap BufferHeader.contents)) := by
  obtain ⟨hvalid, hempty, hroom⟩ := hfresh 0
  have hcontents : (fresh 0).contents = [] := by
    simp [BufferHeader.contents, BufferHeader.read, hempty]
  have hinit : Owes (sources.flatMap BufferHeader.contents).length
      (split codec (sources.flatMap BufferHeader.contents))
      ⟨.initStartCodes codec lastByte, fresh 0, [], []⟩
      (sources.flatMap BufferHeader.contents) := by
    refine ⟨⟨FrameParse.initStartCodes_resting codec lastByte, hvalid, ?_, ?_, ?_⟩, ?_⟩
    · simp only
      omega
    · simp only [FrameParse.pending, FrameParse.initStartCodes, List.length_nil, hempty]
      omega
    · simp [FrameParse.pending, FrameParse.initStartCodes]
    · simp [promise, Split.prepend, FrameParse.resume, FrameParse.atStartCode,
        FrameParse.initStartCodes, FrameParse.pending, hcontents, split]
  have hpreserved := owes_preserved (split codec (sources.flatMap BufferHeader.contents)) hfresh
  cases hrun : run parseScFrame fresh (.initStartCodes codec lastByte) sources with
  | none => exact absurd hrun (run_ne_none hpreserved (owes_succeeds _ hfresh) hsources hinit)
  | some last =>
    obtain ⟨hfits, hpromise⟩ := run_invariant hpreserved hsources hinit hrun
    rw [promise, FrameParse.resume_nil hfits.resting.toOk] at hpromise
    rw [← hpromise]
    simp [outcome, Split.prepend]

end Feed

/-- However a stream is divided into source buffers, no call fails, the frames are those of the stream
in a single buffer, and they are its split at the start codes. -/
theorem parseScFrame_frames (codec : CodecType) (lastByte : UInt8) (fresh : Nat → BufferHeader)
    (sources : List BufferHeader) (whole : BufferHeader)
    (hsources : ∀ source ∈ sources, source.Valid ∧ 0 < source.nFilledLen) (hwhole : whole.Valid)
    (hstream : whole.contents = sources.flatMap BufferHeader.contents)
    (hfresh : Feed.Ample fresh (whole.nFilledLen + 8)) :
    (Feed.run parseScFrame fresh (.initStartCodes codec lastByte) sources).map Feed.outcome =
        (Feed.run parseScFrame fresh (.initStartCodes codec lastByte) [whole]).map Feed.outcome ∧
      (Feed.run parseScFrame fresh (.initStartCodes codec lastByte) sources).map Feed.outcome =
        some (split codec whole.contents) := by
  have hlength := BufferHeader.contents_length hwhole
  have hwholeContents : [whole].flatMap BufferHeader.contents = whole.contents := by simp
  have hdivided := Feed.run_outcome fresh codec lastByte sources
    (fun source hsource => (hsources source hsource).1) (by rw [← hstream, hlength]; exact hfresh)
  have hsingle := Feed.run_outcome fresh codec lastByte [whole]
    (by simpa using hwhole) (by rw [hwholeContents, hlength]; exact hfresh)
  rw [hwholeContents] at hsingle
  rw [← hstream] at hdivided
  exact ⟨hdivided.trans hsingle.symm, hdivided⟩

/-- A start code that a buffer ends in the middle of. -/
theorem parseScFrame_frames_mpeg4 :
    (Feed.run parseScFrame (fun _ => .blank 32) (.initStartCodes .mpeg4 0)
        [.ofBytes [0x05, 0x00, 0x00], .ofBytes [0x01, 0xB6, 0x07]]).map Feed.outcome =
      (Feed.run parseScFrame (fun _ => .blank 32) (.initStartCodes .mpeg4 0)
        [.ofBytes [0x05, 0x00, 0x00, 0x01, 0xB6, 0x07]]).map Feed.outcome :=
  (parseScFrame_frames .mpeg4 0 (fun _ => .blank 32)
    [.ofBytes [0x05, 0x00, 0x00], .ofBytes [0x01, 0xB6, 0x07]]
    (.ofBytes [0x05, 0x00, 0x00, 0x01, 0xB6, 0x07])
    (by
      intro source hsource
      simp only [List.mem_cons, List.not_mem_nil, or_false] at hsource
      rcases hsource with rfl | rfl
      · exact ⟨BufferHeader.ofBytes_valid (by decide), by decide⟩
      · exact ⟨BufferHeader.ofBytes_valid (by decide), by decide⟩)
    (BufferHeader.ofBytes_valid (by decide)) (by decide)
    (fun _ => ⟨BufferHeader.blank_valid (by decide), rfl,
      (by decide : 6 + 8 ≤ (BufferHeader.blank 32).room)⟩)).1

end Nozomi
