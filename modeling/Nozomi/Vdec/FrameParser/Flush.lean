import Nozomi.Vdec.FrameParser.Call

/-!
# A flushed parser

`flush` leaves `last_byte` and `last_byte_h263` as they are. A parser reads one of them only at a start code
whose last byte it has put there itself, so two parsers that differ in nothing else, and hold back the same
bytes, do the same with the same buffers.
-/

namespace Nozomi

/-- Two parsers that differ at most in last bytes that neither will read. -/
structure FrameParse.Agrees (first second : FrameParse) : Prop where
  others : second = { first with lastByteH263 := second.lastByteH263, lastByte := second.lastByte }
  pending_eq : second.pending = first.pending
  ok : first.Ok

namespace FrameParse.Agrees

variable {first second : FrameParse}

theorem exists_eq (hagrees : Agrees first second) :
    ∃ lastByteH263 lastByte, second = { first with lastByteH263 := lastByteH263, lastByte := lastByte } :=
  ⟨_, _, hagrees.others⟩

theorem atStartCode_eq (hagrees : Agrees first second) : second.atStartCode = first.atStartCode := by
  rw [hagrees.others]
  rfl

theorem second_ok (hagrees : Agrees first second) : second.Ok := by
  rw [hagrees.others]
  exact ⟨hagrees.ok.h263, hagrees.ok.fourth, hagrees.ok.skip⟩

theorem transition (hagrees : Agrees first second) (hcode : first.atStartCode = false) (byte : UInt8) :
    Agrees (transition first byte).parser (transition second byte).parser ∧
      (Nozomi.transition second byte).taken = (Nozomi.transition first byte).taken ∧
      (Nozomi.transition second byte).released = (Nozomi.transition first byte).released := by
  have hok := (transition_keeps hagrees.ok hcode byte).1
  have hpending := hagrees.pending_eq
  obtain ⟨lastByteH263, lastByte, rfl⟩ := hagrees.exists_eq
  cases hstate : first.parseState with
  | A0 =>
    simp only [Nozomi.transition, hstate] at hok ⊢
    by_cases hbyte : byte = 0
    · simp only [if_pos hbyte] at hok ⊢
      exact ⟨⟨rfl, rfl, hok⟩, trivial, trivial⟩
    · simp only [if_neg hbyte] at hok ⊢
      exact ⟨⟨by rw [hstate], by simpa only [hstate] using hpending, hok⟩, trivial, trivial⟩
  | A1 =>
    simp only [Nozomi.transition, hstate] at hok ⊢
    by_cases hbyte : byte = 0
    · simp only [if_pos hbyte] at hok ⊢
      exact ⟨⟨rfl, rfl, hok⟩, trivial, trivial⟩
    · simp only [if_neg hbyte] at hok ⊢
      exact ⟨⟨rfl, rfl, hok⟩, trivial, trivial⟩
  | A2 =>
    simp only [Nozomi.transition, hstate] at hok ⊢
    rcases CodecType.cases_code first.codec with hcodec | hcodec | hcodec
    · rw [advanceA2_h263 hcodec] at hok ⊢
      rw [advanceA2_h263 (by exact hcodec)]
      split_ifs at hok ⊢
      · exact ⟨⟨rfl, by simp [pending, hcodec], hok⟩, rfl, rfl⟩
      · exact ⟨⟨rfl, rfl, hok⟩, rfl, rfl⟩
    · rw [advanceA2_h264 hcodec] at hok ⊢
      rw [advanceA2_h264 (by exact hcodec)]
      split_ifs at hok ⊢
      · exact ⟨⟨rfl, by simp [pending, hcodec], hok⟩, rfl, rfl⟩
      · exact ⟨⟨rfl, rfl, hok⟩, rfl, rfl⟩
      · exact ⟨⟨rfl, rfl, hok⟩, rfl, rfl⟩
    · rw [advanceA2_fourth hcodec] at hok ⊢
      rw [advanceA2_fourth (by exact hcodec)]
      split_ifs at hok ⊢
      · exact ⟨⟨rfl, rfl, hok⟩, rfl, rfl⟩
      · exact ⟨⟨rfl, rfl, hok⟩, rfl, rfl⟩
  | A3 =>
    rcases CodecType.cases_code first.codec with hcodec | hcodec | hcodec
    · exact absurd hstate (hagrees.ok.h263 hcodec).1
    · rw [transition_A3_h264 hstate hcodec] at hok ⊢
      rw [transition_A3_h264 (by rfl) (by exact hcodec)]
      split_ifs at hok ⊢
      · exact ⟨⟨rfl, by simp [pending, hcodec], hok⟩, rfl, rfl⟩
      · exact ⟨⟨rfl, rfl, hok⟩, rfl, rfl⟩
    · rw [transition_A3_fourth hstate hcodec] at hok ⊢
      rw [transition_A3_fourth (by rfl) (by exact hcodec)]
      split_ifs at hok ⊢
      · exact ⟨⟨rfl, by simp [pending, hcodec.ne_h263, hcodec.ne_h264], hok⟩, rfl, rfl⟩
      · exact ⟨⟨rfl, rfl, hok⟩, rfl, rfl⟩
  | A4 => simp [FrameParse.atStartCode, hstate] at hcode
  | A5 => simp [FrameParse.atStartCode, hstate] at hcode

theorem checkSkipFrameBoundary (hagrees : Agrees first second) :
    Agrees first.checkSkipFrameBoundary.1 second.checkSkipFrameBoundary.1 ∧
      second.checkSkipFrameBoundary.2 = first.checkSkipFrameBoundary.2 := by
  have hpending := hagrees.pending_eq
  obtain ⟨lastByteH263, lastByte, rfl⟩ := hagrees.exists_eq
  unfold FrameParse.checkSkipFrameBoundary
  dsimp only
  split
  · exact ⟨⟨rfl, hpending, hagrees.ok.h263, hagrees.ok.fourth, nofun⟩, rfl⟩
  · exact ⟨hagrees, rfl⟩

theorem finish (hagrees : Agrees first second) :
    Agrees first.finish.1 second.finish.1 ∧ second.finish.2 = first.finish.2 := by
  unfold FrameParse.finish
  rw [hagrees.atStartCode_eq]
  split
  · exact hagrees.checkSkipFrameBoundary
  · exact ⟨hagrees, rfl⟩

theorem opened (hagrees : Agrees first second) : Agrees first.opened second.opened := by
  have hok := FrameParse.opened_ok hagrees.ok
  have hcodeEq := hagrees.atStartCode_eq
  have hpending := hagrees.pending_eq
  unfold FrameParse.opened at hok ⊢
  rw [hcodeEq, hpending]
  obtain ⟨lastByteH263, lastByte, rfl⟩ := hagrees.exists_eq
  split
  · rw [if_pos ‹_›] at hok
    exact ⟨rfl, rfl, hok⟩
  · exact hagrees

theorem openedDest_eq (hagrees : Agrees first second) (source dest : BufferHeader) :
    second.openedDest source dest = first.openedDest source dest := by
  rw [FrameParse.openedDest, hagrees.atStartCode_eq, hagrees.pending_eq, FrameParse.openedDest]

end FrameParse.Agrees

/-! ### The two machines -/

/-- Two entry machines that differ in their parsers only, which agree. -/
structure EntryState.Agrees (first second : EntryState) : Prop where
  parser : first.parser.Agrees second.parser
  source_eq : second.source = first.source
  dest_eq : second.dest = first.dest

variable {first second : EntryState}

theorem EntryState.Agrees.running_eq (hagrees : first.Agrees second) : second.running = first.running := by
  obtain ⟨hparser, hsource, hdest⟩ := hagrees
  have hstate : second.parser.parseState = first.parser.parseState := by rw [hparser.others]
  rw [EntryState.running, EntryState.running, hparser.atStartCode_eq, hstate, hsource, hdest]

theorem EntryState.Agrees.entryStep (hagrees : first.Agrees second) (hrunning : first.running = true) :
    (entryStep first).Agrees (entryStep second) := by
  have hsecondRunning := hagrees.running_eq.trans hrunning
  rw [EntryState.running_iff] at hrunning hsecondRunning
  obtain ⟨hparser, hsource, hdest⟩ := hagrees
  rw [entryStep_eq _ hrunning.2.1 hparser.ok, entryStep_eq _ hsecondRunning.2.1 hparser.second_ok, hsource, hdest]
  obtain ⟨hnext, htaken, hreleased⟩ := hparser.transition hrunning.2.2.1 (first.source.byteAt 0)
  refine ⟨hnext, ?_, ?_⟩
  · dsimp only
    rw [htaken]
  · dsimp only
    rw [hreleased]

theorem EntryState.Agrees.entryLoop (hagrees : first.Agrees second) (fuel : Nat) :
    (entryLoop fuel first).Agrees (entryLoop fuel second) :=
  whileLoop_related (fun _ _ hrelated => hrelated.running_eq)
    (fun _ _ hrelated hrunning => hrelated.entryStep hrunning) fuel first second hagrees

/-- Two parsing machines that differ in their parsers only, which agree. -/
structure ScanState.Agrees (first second : ScanState) : Prop where
  parser : first.parser.Agrees second.parser
  parsedLength_eq : second.parsedLength = first.parsedLength

theorem ScanState.Agrees.scanLoop {first second : ScanState} (hagrees : first.Agrees second)
    (source : BufferHeader) (tempLen fuel : Nat) :
    (scanLoop source tempLen fuel first).Agrees (scanLoop source tempLen fuel second) := by
  refine whileLoop_related ?_ ?_ fuel first second hagrees
  · intro first second hrelated
    rw [ScanState.running, ScanState.running, hrelated.parser.atStartCode_eq, hrelated.parsedLength_eq]
  · intro first second hrelated hrunning
    rw [ScanState.running_iff] at hrunning
    obtain ⟨hparser, hlength⟩ := hrelated
    rw [scanStep_eq, scanStep_eq, hlength]
    obtain ⟨hnext, htaken, -⟩ := hparser.transition hrunning.2 (source.byteAt first.parsedLength)
    refine ⟨hnext, ?_⟩
    dsimp only
    rw [htaken]

/-! ### Calls -/

/-- Two results that differ in their parsers only, which agree. -/
structure ParseResult.Agrees (first second : ParseResult) : Prop where
  parser : first.parser.Agrees second.parser
  status_eq : second.status = first.status
  source_eq : second.source = first.source
  dest_eq : second.dest = first.dest
  partialframe_eq : second.partialframe = first.partialframe

theorem FrameParse.Agrees.exitMachine {first second : FrameParse} (hagrees : first.Agrees second)
    (source dest : BufferHeader) (parsedLength : Nat) :
    (exitMachine source dest first parsedLength).Agrees (exitMachine source dest second parsedLength) := by
  have hstate : second.parseState = first.parseState := by rw [hagrees.others]
  obtain ⟨hparser, hframe⟩ := hagrees.finish
  unfold FrameParse.finish at hparser hframe
  unfold Nozomi.exitMachine
  rw [hstate]
  dsimp only
  rw [hframe]
  split
  · exact ⟨hparser, rfl, rfl, rfl, rfl⟩
  · exact ⟨hparser, rfl, rfl, rfl, rfl⟩

theorem EntryState.Agrees.scanSource (hagrees : first.Agrees second) :
    (scanSource first).Agrees (scanSource second) := by
  have hfuel : machineFuel second.source.nFilledLen = machineFuel first.source.nFilledLen := by
    rw [hagrees.source_eq]
  unfold Nozomi.scanSource
  rw [hfuel]
  have hentry := hagrees.entryLoop (machineFuel first.source.nFilledLen)
  revert hentry
  generalize Nozomi.entryLoop _ first = firstEntry
  generalize Nozomi.entryLoop _ second = secondEntry
  intro hentry
  obtain ⟨parser, source, dest⟩ := firstEntry
  obtain ⟨secondParser, _, _⟩ := secondEntry
  obtain ⟨hparser, rfl, rfl⟩ := hentry
  dsimp only at hparser ⊢
  rw [hparser.atStartCode_eq]
  split
  · obtain ⟨hcheck, hframe⟩ := hparser.checkSkipFrameBoundary
    exact ⟨hcheck, rfl, rfl, rfl, hframe⟩
  · split
    · exact ⟨hparser, rfl, rfl, rfl, rfl⟩
    · have hstart : ScanState.Agrees ⟨parser, 0⟩ ⟨secondParser, 0⟩ := ⟨hparser, rfl⟩
      obtain ⟨hscan, hlength⟩ := hstart.scanLoop _ (min _ _) (machineFuel (min _ _))
      rw [hlength]
      exact hscan.exitMachine _ _ _

theorem FrameParse.Agrees.parseScFrame {first second : FrameParse} (hagrees : first.Agrees second)
    (source dest : BufferHeader) (partialframe : Nat) :
    (parseScFrame first source dest partialframe).Agrees (parseScFrame second source dest partialframe) := by
  have hcodec : second.codec = first.codec := by rw [hagrees.others]
  unfold Nozomi.parseScFrame
  rw [hcodec, emitStartCode_eq, emitStartCode_eq, hagrees.openedDest_eq]
  split
  · split
    · exact ⟨hagrees, rfl, rfl, rfl, rfl⟩
    · exact ⟨hagrees, rfl, rfl, rfl, rfl⟩
  · exact EntryState.Agrees.scanSource ⟨hagrees.opened, rfl, rfl⟩

theorem FrameParse.Agrees.setNal {first second : FrameParse} (hagrees : first.Agrees second)
    (stateNal : NalState) (nalLength accumLength bytesTobeparsed : Nat) :
    Agrees
      { first with
        stateNal := stateNal, nalLength := nalLength, accumLength := accumLength
        bytesTobeparsed := bytesTobeparsed }
      { second with
        stateNal := stateNal, nalLength := nalLength, accumLength := accumLength
        bytesTobeparsed := bytesTobeparsed } :=
  ⟨by rw [hagrees.others], hagrees.pending_eq, hagrees.ok.h263, hagrees.ok.fourth, hagrees.ok.skip⟩

theorem EntryState.Agrees.accumulateLength (tempLen fuel : Nat) :
    ∀ {first second : EntryState}, first.Agrees second → ∀ parsedLength,
      (accumulateLength tempLen fuel first parsedLength).Agrees
        (accumulateLength tempLen fuel second parsedLength) := by
  induction fuel with
  | zero => exact fun hagrees _ => hagrees
  | succ fuel ih =>
    intro first second hagrees parsedLength
    obtain ⟨parser, source, dest⟩ := first
    obtain ⟨secondParser, _, _⟩ := second
    obtain ⟨hparser, rfl, rfl⟩ := hagrees
    dsimp only at hparser
    have hset := hparser.setNal
    obtain ⟨lastByteH263, lastByte, rfl⟩ := hparser.exists_eq
    rw [Nozomi.accumulateLength, Nozomi.accumulateLength]
    split
    · dsimp only
      split
      · exact ⟨hset _ _ _ _, rfl, rfl⟩
      · refine ih ?_ _
        exact ⟨hset _ _ _ _, rfl, rfl⟩
    · exact ⟨hparser, rfl, rfl⟩

theorem EntryState.Agrees.copyNal (hagrees : first.Agrees second) : (copyNal first).Agrees (copyNal second) := by
  obtain ⟨parser, source, dest⟩ := first
  obtain ⟨secondParser, _, _⟩ := second
  obtain ⟨hparser, rfl, rfl⟩ := hagrees
  dsimp only at hparser
  have hset := hparser.setNal
  obtain ⟨lastByteH263, lastByte, rfl⟩ := hparser.exists_eq
  unfold Nozomi.copyNal
  dsimp only
  split
  · split
    · exact ⟨hset _ _ _ _, rfl, rfl⟩
    · exact ⟨hset _ _ _ _, rfl, rfl⟩
  · exact ⟨hparser, rfl, rfl⟩

theorem EntryState.Agrees.finishNal (hagrees : first.Agrees second) :
    (finishNal first).Agrees (finishNal second) := by
  obtain ⟨hparser, hsource, hdest⟩ := hagrees
  have hstamped : EntryState.Agrees { first with dest := first.dest.stamp first.source }
      { second with dest := second.dest.stamp second.source } := by
    refine ⟨hparser, hsource, ?_⟩
    dsimp only
    rw [hsource, hdest]
  have hcopied := hstamped.copyNal
  unfold Nozomi.finishNal
  revert hcopied
  generalize Nozomi.copyNal { first with dest := first.dest.stamp first.source } = firstCopied
  generalize Nozomi.copyNal { second with dest := second.dest.stamp second.source } = secondCopied
  intro hcopied
  obtain ⟨parser, source, dest⟩ := firstCopied
  obtain ⟨secondParser, _, _⟩ := secondCopied
  obtain ⟨hcopiedParser, rfl, rfl⟩ := hcopied
  dsimp only at hcopiedParser
  have hset := hcopiedParser.setNal
  obtain ⟨lastByteH263, lastByte, rfl⟩ := hcopiedParser.exists_eq
  dsimp only
  split
  · exact ⟨hset _ _ _ _, rfl, rfl, rfl, rfl⟩
  · exact ⟨hcopiedParser, rfl, rfl, rfl, rfl⟩

theorem FrameParse.Agrees.parseH264Nallength {first second : FrameParse} (hagrees : first.Agrees second)
    (source dest : BufferHeader) (partialframe : Nat) :
    (parseH264Nallength first source dest partialframe).Agrees
      (parseH264Nallength second source dest partialframe) := by
  have hlength : second.nalLength = first.nalLength := by rw [hagrees.others]
  have hstate : second.stateNal = first.stateNal := by rw [hagrees.others]
  have hstart : EntryState.Agrees ⟨first, source, dest⟩ ⟨second, source, dest⟩ := ⟨hagrees, rfl, rfl⟩
  unfold Nozomi.parseH264Nallength
  rw [hlength, hstate]
  split
  · exact ⟨hagrees, rfl, rfl, rfl, rfl⟩
  · split
    · exact (EntryState.Agrees.accumulateLength _ _ hstart _).finishNal
    · exact hstart.finishNal

/-! ### Sequences of calls -/

inductive ParserCall
  | parseScFrame (source dest : BufferHeader) (partialframe : Nat)
  | parseH264Nallength (source dest : BufferHeader) (partialframe : Nat)
  | flush
  | initNalLength (nalLen : Nat)

/-- What the component sees of a use: the result, the headers with their bytes, and `*partialframe`. -/
inductive ParserResponse
  | parsed (status : Int) (source dest : BufferHeader) (partialframe : Nat)
  | flushed
  | nalLength (status : Int)
  deriving DecidableEq

def ParseResult.response (result : ParseResult) : ParserResponse :=
  .parsed result.status result.source result.dest result.partialframe

namespace FrameParse

def use (parser : FrameParse) : ParserCall → FrameParse × ParserResponse
  | .parseScFrame source dest partialframe =>
    let result := Nozomi.parseScFrame parser source dest partialframe
    (result.parser, result.response)
  | .parseH264Nallength source dest partialframe =>
    let result := Nozomi.parseH264Nallength parser source dest partialframe
    (result.parser, result.response)
  | .flush => (parser.flush, .flushed)
  | .initNalLength nalLen =>
    match parser.initNalLength nalLen with
    | some parser => (parser, .nalLength 1)
    | none => (parser, .nalLength (-1))

def responses (parser : FrameParse) : List ParserCall → List ParserResponse
  | [] => []
  | call :: calls => (parser.use call).2 :: (parser.use call).1.responses calls

def newParser (codec : CodecType) (nalLength : Nat) (lastByte : UInt8) : FrameParse :=
  { initStartCodes codec lastByte with nalLength := nalLength }

theorem flush_agrees (parser : FrameParse) (lastByte : UInt8) :
    Agrees parser.flush (newParser parser.codec parser.nalLength lastByte) :=
  ⟨rfl, rfl, fun _ => ⟨nofun, nofun⟩, fun _ => nofun, nofun⟩

theorem Agrees.use {first second : FrameParse} (hagrees : Agrees first second) (call : ParserCall) :
    Agrees (first.use call).1 (second.use call).1 ∧ (second.use call).2 = (first.use call).2 := by
  cases call with
  | parseScFrame source dest partialframe =>
    obtain ⟨hparser, hstatus, hsource, hdest, hframe⟩ := hagrees.parseScFrame source dest partialframe
    refine ⟨hparser, ?_⟩
    simp only [FrameParse.use, ParseResult.response, hstatus, hsource, hdest, hframe]
  | parseH264Nallength source dest partialframe =>
    obtain ⟨hparser, hstatus, hsource, hdest, hframe⟩ :=
      hagrees.parseH264Nallength source dest partialframe
    refine ⟨hparser, ?_⟩
    simp only [FrameParse.use, ParseResult.response, hstatus, hsource, hdest, hframe]
  | flush =>
    refine ⟨⟨?_, ?_, fun _ => ⟨nofun, nofun⟩, fun _ => nofun, nofun⟩, rfl⟩
    · rw [hagrees.others]
      rfl
    · rfl
  | initNalLength nalLen =>
    have hset := hagrees.setNal
    obtain ⟨lastByteH263, lastByte, rfl⟩ := hagrees.exists_eq
    simp only [FrameParse.use, FrameParse.initNalLength]
    split_ifs
    · exact ⟨hagrees, rfl⟩
    · exact ⟨hset _ _ _ _, rfl⟩

theorem Agrees.responses_eq {first second : FrameParse} (calls : List ParserCall)
    (hagrees : Agrees first second) : second.responses calls = first.responses calls := by
  induction calls generalizing first second with
  | nil => rfl
  | cons call calls ih =>
    obtain ⟨hnext, hresponse⟩ := hagrees.use call
    rw [responses, responses, hresponse, ih hnext]

/-- Behind `flush` a parser in any state does what a new one for its codec and its `nal_length` does. -/
theorem flush_responses (parser : FrameParse) (lastByte : UInt8) (calls : List ParserCall) :
    parser.flush.responses calls = (newParser parser.codec parser.nalLength lastByte).responses calls :=
  ((flush_agrees parser lastByte).responses_eq calls).symm

end FrameParse

end Nozomi
