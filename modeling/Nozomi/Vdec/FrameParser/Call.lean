import Nozomi.Vdec.FrameParser.Machines

/-!
# One call of `parse_sc_frame`

A call that passes the length checks is one run of transitions over the source: the destination gets a
start code left over from the call before and then what the run releases, and the call ends at the
first start code, at the end of the source or when the destination has no room.
-/

namespace Nozomi

open CodecType

variable {parser : FrameParse}

theorem FrameParse.checkSkipFrameBoundary_eq (hok : parser.Ok) :
    parser.checkSkipFrameBoundary =
      ({ parser with skipFrameBoundary := false }, if parser.skipFrameBoundary then 1 else 0) := by
  unfold FrameParse.checkSkipFrameBoundary
  split
  · rfl
  · rename_i hcodec
    have hskip : parser.skipFrameBoundary = false := by
      cases hskip : parser.skipFrameBoundary with
      | true => exact absurd (hok.skip hskip) hcodec
      | false => rfl
    rw [hskip, if_neg Bool.false_ne_true, ← hskip]

def FrameParse.finish (parser : FrameParse) : FrameParse × Nat :=
  if parser.atStartCode then parser.checkSkipFrameBoundary else (parser, 1)

/-- The run of a call stops at a start code, at the end of the source, or because the destination has
no room for what the source still has. -/
def Stopped (start : FrameParse) (source dest : BufferHeader) (parser : FrameParse) (count : Nat) :
    Prop :=
  parser.atStartCode = true ∨ count = source.nFilledLen ∨
    ∃ middle written left, Run start source.contents middle written left ∧
      middle.atStartCode = false ∧ (dest.append written).room ≤ left.length

variable {start : FrameParse} {source dest : BufferHeader}

theorem exitMachine_eq {released : List UInt8} {count : Nat} (hsource : source.Valid)
    (hcount : count ≤ source.nFilledLen) (hok : start.Ok) (hpending : start.pending = [])
    (hstart : start.atStartCode = false)
    (hrun : Run start source.contents parser released (source.contents.drop count)) :
    exitMachine source dest parser count =
      ⟨1, parser.finish.1, source.consume count, dest.append released, parser.finish.2⟩ := by
  have hlength := BufferHeader.contents_length hsource
  have hreleased : released = source.read (count - parser.parseState.withheld) := by
    rw [hrun.released_eq hok hstart hpending (by omega),
      BufferHeader.contents_take (Nat.le_trans (Nat.sub_le _ _) hcount)]
  have hdest : (if count > parser.parseState.withheld then
      dest.append (source.read (count - parser.parseState.withheld)) else dest) =
        dest.append released := by
    rw [hreleased]
    split
    · rfl
    · rw [Nat.sub_eq_zero_of_le (by omega)]
      exact (BufferHeader.append_nil dest).symm
  unfold exitMachine
  simp only [hdest]
  rw [if_neg (by omega)]
  unfold FrameParse.finish
  split <;> rfl

theorem scanSource_eq (hok : start.Ok) (hsource : source.Valid)
    (hdest : dest.nFilledLen + dest.nOffset ≤ dest.pBuffer.length) :
    ∃ parser released count, count ≤ source.nFilledLen ∧
      Run start source.contents parser released (source.contents.drop count) ∧
      Stopped start source dest parser count ∧
      scanSource ⟨start, source, dest⟩ =
        ⟨1, parser.finish.1, source.consume count, dest.append released, parser.finish.2⟩ := by
  obtain ⟨hentry, hexit⟩ := entryLoop_run hok hsource hdest
  unfold scanSource
  generalize entryLoop (machineFuel source.nFilledLen) ⟨start, source, dest⟩ = state at *
  obtain ⟨middle, entrySource, entryDest⟩ := state
  obtain ⟨written, entryCount, hentryCount, rfl, rfl, hentryRun, -⟩ := hentry
  have hmiddle := (hentryRun.keeps hok).1
  have hlength := BufferHeader.contents_length hsource
  rw [BufferHeader.consume_contents] at hentryRun
  cases hcode : middle.atStartCode with
  | true =>
    refine ⟨middle, written, entryCount, hentryCount, hentryRun, .inl hcode, ?_⟩
    simp only [hcode, if_true, FrameParse.finish]
  | false =>
    simp only [hcode, if_neg Bool.false_ne_true]
    by_cases htempLen : min (source.consume entryCount).nFilledLen (dest.append written).room = 0
    · refine ⟨middle, written, entryCount, hentryCount, hentryRun, .inr ?_, ?_⟩
      · rw [BufferHeader.consume_nFilledLen] at htempLen
        by_cases hroom : (dest.append written).room = 0
        · exact .inr ⟨middle, written, _, hentryRun, hcode, by omega⟩
        · exact .inl (by omega)
      · simp only [htempLen, if_true, FrameParse.finish, hcode, if_neg Bool.false_ne_true]
    -- The entry machine has stopped in `A0`, so the parsing machine starts with nothing held back.
    have hstateA0 : middle.parseState = .A0 := by
      rw [← Bool.not_eq_true, EntryState.running_iff] at hexit
      by_contra hne
      have hfilled : 0 < (source.consume entryCount).nFilledLen := by omega
      have hroom : 0 < (dest.append written).room := by omega
      exact hexit ⟨hfilled, hne, hcode, hroom⟩
    have hpending : middle.pending = [] := by simp only [FrameParse.pending, hstateA0]
    have hvalid := BufferHeader.consume_valid hsource hentryCount
    obtain ⟨⟨hparsed, released, hscanRun⟩, hstopped⟩ :=
      scanLoop_run hmiddle hvalid (Nat.min_le_left _ (dest.append written).room)
    simp only [if_neg htempLen]
    generalize scanLoop _ _ _ _ = scan at *
    have hremaining := BufferHeader.consume_nFilledLen source entryCount
    have hparsedSource : scan.parsedLength ≤ (source.consume entryCount).nFilledLen :=
      Nat.le_trans hparsed (Nat.min_le_left _ _)
    have hwhole := hentryRun.trans (BufferHeader.consume_contents source entryCount ▸ hscanRun)
    rw [List.drop_drop] at hwhole
    refine ⟨scan.parser, written ++ released, entryCount + scan.parsedLength, by omega, hwhole, ?_,
      ?_⟩
    · cases hfound : scan.parser.atStartCode with
      | true => exact .inl hfound
      | false =>
        rw [← Bool.not_eq_true, ScanState.running_iff] at hstopped
        have hend : ¬ scan.parsedLength < _ := fun hless => hstopped ⟨hless, hfound⟩
        refine .inr ?_
        by_cases hroom : (dest.append written).room ≤ (source.consume entryCount).nFilledLen
        · refine .inr ⟨middle, written, _, hentryRun, hcode, ?_⟩
          rw [List.length_drop]
          omega
        · exact .inl (by omega)
    · rw [exitMachine_eq hvalid hparsedSource hmiddle hpending hcode hscanRun,
        BufferHeader.consume_consume, BufferHeader.append_append hdest]

/-! ### The start code left over from the call before -/

def FrameParse.opened (parser : FrameParse) : FrameParse :=
  if parser.atStartCode then
    { parser with
      parseState := .A0
      skipFrameBoundary := parser.skipFrameBoundary || parser.codec.headerAt parser.pending }
  else parser

def FrameParse.openedBytes (parser : FrameParse) : List UInt8 :=
  if parser.atStartCode then parser.pending else []

def FrameParse.openedDest (parser : FrameParse) (source dest : BufferHeader) : BufferHeader :=
  if parser.atStartCode then
    (dest.stamp source).append parser.pending
  else dest

private theorem emitStartCode_found (hstart : start.atStartCode = true) :
    emitStartCode start source dest =
      ({ start with
          parseState := .A0
          skipFrameBoundary := start.skipFrameBoundary || start.codec.headerAt start.pending },
        (dest.stamp source).append start.pending) := by
  have hstate : start.parseState = .A4 ∨ start.parseState = .A5 := by
    simpa [FrameParse.atStartCode] using hstart
  unfold emitStartCode
  rw [if_pos hstart]
  rcases cases_code start.codec with hcodec | hcodec | hcodec
  · have hpending : start.pending = start.codec.startCodePrefix 2 ++ [start.lastByteH263] := by
      rcases hstate with hstate | hstate <;> simp [FrameParse.pending, hstate, hcodec]
    have hheader : start.codec.headerAt start.pending = false := by
      simp [hpending, startCodePrefix_two, headerAt]
    simp only [hcodec, if_true] at hpending hheader ⊢
    rw [hheader, hpending, Bool.or_false]
  · have hpending : start.pending = start.codec.startCodePrefix 4 := by
      rcases hstate with hstate | hstate <;> simp [FrameParse.pending, hstate, hcodec]
    have hheader : start.codec.headerAt start.pending = false := by
      simp [hpending, hcodec, startCodePrefix_four_h264, headerAt]
    rw [hheader, hpending, Bool.or_false]
    simp [hcodec]
  · have hpending : start.pending = start.codec.startCodePrefix 3 ++ [start.lastByte] := by
      rcases hstate with hstate | hstate <;>
        simp [FrameParse.pending, hstate, hcodec.ne_h263, hcodec.ne_h264]
    have hheader : start.codec.headerAt start.pending =
        start.codec.isHeaderByte start.lastByte := by
      simp [hpending, startCodePrefix_three hcodec, headerAt]
    have hvc1 : start.codec = .vc1 ∨ start.codec = .mpeg4 ∨ start.codec = .mpeg2 := by
      rcases hcodec with h | h | h <;> simp [h]
    rw [if_neg hcodec.ne_h263, if_pos hvc1, hheader, hpending]
    unfold FrameParse.updateSkipFrame
    split
    · simp only [‹_ = true›, Bool.or_true]
    · simp only [Bool.eq_false_iff.mpr ‹_›, Bool.or_false]

theorem emitStartCode_eq (parser : FrameParse) (source dest : BufferHeader) :
    emitStartCode parser source dest = (parser.opened, parser.openedDest source dest) := by
  unfold FrameParse.opened FrameParse.openedDest
  cases hcode : parser.atStartCode with
  | true => exact emitStartCode_found hcode
  | false => simp only [emitStartCode, hcode, if_neg Bool.false_ne_true]

theorem FrameParse.opened_atStartCode (parser : FrameParse) :
    parser.opened.atStartCode = false := by
  unfold opened
  split
  · rfl
  · exact Bool.eq_false_iff.mpr ‹_›

theorem FrameParse.opened_ok (hok : parser.Ok) : parser.opened.Ok := by
  unfold opened
  split
  · refine ⟨by simp, by simp, fun hskip => ?_⟩
    rw [Bool.or_eq_true] at hskip
    rcases hskip with hskip | hheader
    · exact hok.skip hskip
    · change parser.codec.headerAt parser.pending = true at hheader
      unfold headerAt at hheader
      split at hheader
      · cases hcodec : parser.codec <;> simp [hcodec, isHeaderByte] at hheader ⊢
      · simp at hheader
  · exact hok

theorem FrameParse.pending_found_length (hcode : parser.atStartCode = true) :
    parser.pending.length = parser.codec.codeLength := by
  have hstate : parser.parseState = .A4 ∨ parser.parseState = .A5 := by
    simpa [atStartCode] using hcode
  rcases hstate with hstate | hstate <;> cases hcodec : parser.codec <;>
    simp [pending, hstate, hcodec, CodecType.startCodePrefix, codeLength]

def FrameParse.openedLength (parser : FrameParse) : Nat :=
  if parser.atStartCode then parser.codec.codeLength else 0

theorem FrameParse.openedDest_fields (parser : FrameParse) (source dest : BufferHeader) :
    (parser.openedDest source dest).nFilledLen = dest.nFilledLen + parser.openedLength ∧
      (parser.openedDest source dest).nOffset = dest.nOffset ∧
      (parser.openedDest source dest).nAllocLen = dest.nAllocLen := by
  unfold openedDest openedLength
  cases hcode : parser.atStartCode with
  | true => simp [pending_found_length hcode]
  | false => simp

theorem FrameParse.openedDest_valid (parser : FrameParse) (source : BufferHeader)
    (hdest : dest.Valid) (hroom : parser.openedLength ≤ dest.room) :
    (parser.openedDest source dest).Valid := by
  unfold openedDest
  unfold openedLength at hroom
  cases hcode : parser.atStartCode with
  | true =>
    rw [hcode, if_pos rfl, hdest.room_eq, ← pending_found_length hcode] at hroom
    have hfits := hdest.fits
    refine BufferHeader.append_valid (BufferHeader.stamp_valid hdest source) ?_
    rw [BufferHeader.stamp_nOffset, BufferHeader.stamp_nFilledLen, BufferHeader.stamp_nAllocLen]
    omega
  | false => exact hdest

theorem FrameParse.openedDest_contents (parser : FrameParse) (source : BufferHeader)
    (hdest : dest.Valid) (hroom : parser.openedLength ≤ dest.room) :
    (parser.openedDest source dest).contents = dest.contents ++ parser.openedBytes := by
  unfold openedDest openedBytes
  unfold openedLength at hroom
  cases hcode : parser.atStartCode with
  | true =>
    rw [hcode, if_pos rfl, hdest.room_eq, ← pending_found_length hcode] at hroom
    have hfits := hdest.fits
    refine BufferHeader.append_contents (BufferHeader.stamp_valid hdest source) ?_
    rw [BufferHeader.stamp_nOffset, BufferHeader.stamp_nFilledLen, BufferHeader.stamp_nAllocLen]
    omega
  | false => simp

theorem FrameParse.openedLength_le (parser : FrameParse) :
    parser.openedLength ≤ parser.codec.codeLength := by
  unfold openedLength
  split <;> omega

theorem Stopped.of_ample {count : Nat} (hok : start.Ok) (hstart : start.atStartCode = false)
    (hsource : source.Valid) (hdest : dest.Valid) (hroom : start.pending.length + source.nFilledLen < dest.room)
    (hstopped : Stopped start source dest parser count) :
    parser.atStartCode = true ∨ count = source.nFilledLen := by
  rcases hstopped with hfound | hcount | ⟨middle, written, left, hrun, -, hless⟩
  · exact .inl hfound
  · exact .inr hcount
  have hbytes := hrun.length_eq hok hstart
  rw [BufferHeader.contents_length hsource] at hbytes
  rw [hdest.room_eq] at hroom
  have hfits := hdest.fits
  have hvalid : (dest.append written).Valid := BufferHeader.append_valid hdest (by omega)
  rw [hvalid.room_eq, BufferHeader.append_nAllocLen, BufferHeader.append_nFilledLen,
    BufferHeader.append_nOffset] at hless
  omega

theorem parseScFrame_rejected (hrejected : dest.room < start.codec.codeLength ∨
      source.nFilledLen = 0) (partialframe : Nat) :
    (parseScFrame start source dest partialframe).parser = start ∧
      (parseScFrame start source dest partialframe).source = source ∧
      (parseScFrame start source dest partialframe).dest = dest := by
  have hchecks : (start.codec = .h263 ∧ dest.room < 3) ∨
      (start.codec ≠ .h263 ∧ dest.room < 4) ∨ source.nFilledLen = 0 := by
    unfold codeLength at hrejected
    by_cases hcodec : start.codec = .h263
    · rw [if_pos hcodec] at hrejected
      exact hrejected.imp (fun h => ⟨hcodec, h⟩) .inr
    · rw [if_neg hcodec] at hrejected
      exact .inr (hrejected.imp (fun h => ⟨hcodec, h⟩) id)
  unfold parseScFrame
  rw [if_pos hchecks]
  split <;> exact ⟨rfl, rfl, rfl⟩

theorem parseScFrame_accepted (hfilled : 0 < source.nFilledLen)
    (hroom : start.codec.codeLength ≤ dest.room) (partialframe : Nat) :
    parseScFrame start source dest partialframe =
      scanSource ⟨start.opened, source, start.openedDest source dest⟩ := by
  have hchecks : ¬ ((start.codec = .h263 ∧ dest.room < 3) ∨
      (start.codec ≠ .h263 ∧ dest.room < 4) ∨ source.nFilledLen = 0) := by
    unfold codeLength at hroom
    rintro (⟨hcodec, hless⟩ | ⟨hcodec, hless⟩ | hempty)
    · rw [if_pos hcodec] at hroom
      omega
    · rw [if_neg hcodec] at hroom
      omega
    · omega
  unfold parseScFrame
  rw [if_neg hchecks, emitStartCode_eq]

theorem parseScFrame_eq (hok : start.Ok) (hsource : source.Valid) (hfilled : 0 < source.nFilledLen)
    (hdest : dest.Valid) (hroom : start.codec.codeLength ≤ dest.room) (partialframe : Nat) :
    ∃ parser released count, count ≤ source.nFilledLen ∧
      Run start.opened source.contents parser released (source.contents.drop count) ∧
      Stopped start.opened source (start.openedDest source dest) parser count ∧
      parseScFrame start source dest partialframe =
        ⟨1, parser.finish.1, source.consume count, (start.openedDest source dest).append released,
          parser.finish.2⟩ := by
  have hopened := start.openedDest_valid source hdest
    (Nat.le_trans start.openedLength_le hroom)
  have hused : (start.openedDest source dest).nFilledLen + (start.openedDest source dest).nOffset ≤
      (start.openedDest source dest).pBuffer.length := by
    have halloc := hopened.alloc
    have hfits := hopened.fits
    omega
  rw [parseScFrame_accepted hfilled hroom]
  exact scanSource_eq (FrameParse.opened_ok hok) hsource hused

theorem FrameParse.opened_lengths (parser : FrameParse) :
    (parser.atStartCode = true ∧ parser.openedLength = parser.pending.length ∧
        parser.opened.pending.length = 0) ∨
      (parser.atStartCode = false ∧ parser.openedLength = 0 ∧
        parser.opened.pending.length = parser.pending.length) := by
  unfold openedLength opened
  cases hcode : parser.atStartCode with
  | true => exact .inl ⟨rfl, (pending_found_length hcode).symm, rfl⟩
  | false => exact .inr ⟨rfl, rfl, rfl⟩

theorem FrameParse.pending_length_le (parser : FrameParse) : parser.pending.length ≤ 4 := by
  cases hcode : parser.atStartCode with
  | true =>
    rw [pending_found_length hcode]
    cases parser.codec <;> decide
  | false =>
    rw [pending_length hcode]
    cases parser.parseState <;> decide

theorem FrameParse.pending_length_le_withheld (hcode : parser.atStartCode = true) :
    3 ≤ parser.pending.length ∧ parser.pending.length ≤ parser.parseState.withheld + 1 ∧
      3 ≤ parser.parseState.withheld := by
  have hstate : parser.parseState = .A4 ∨ parser.parseState = .A5 := by
    simpa [atStartCode] using hcode
  rw [pending_found_length hcode]
  rcases hstate with hstate | hstate <;> cases hcodec : parser.codec <;>
    simp [hstate, StartCodeState.withheld, codeLength]

theorem parseScFrame_ample (hok : start.Ok) (hsource : source.Valid)
    (hfilled : 0 < source.nFilledLen) (hdest : dest.Valid)
    (hroom : source.nFilledLen + 5 ≤ dest.room) (partialframe : Nat) :
    ∃ parser released count written, 0 < count ∧ count ≤ source.nFilledLen ∧
      Run start.opened source.contents parser released (source.contents.drop count) ∧
      (parser.atStartCode = true ∨ count = source.nFilledLen) ∧
      written.Valid ∧ written.contents = dest.contents ++ start.openedBytes ++ released ∧
      written.nFilledLen = dest.nFilledLen + start.openedLength + released.length ∧
      written.room + written.nFilledLen = dest.room + dest.nFilledLen ∧
      parseScFrame start source dest partialframe =
        ⟨1, parser.finish.1, source.consume count, written, parser.finish.2⟩ := by
  have hcodeLength : start.codec.codeLength ≤ 4 := by cases start.codec <;> decide
  have hopenedLength := start.openedLength_le
  have hpendingLength := start.pending_length_le
  have hheld := start.opened_lengths
  have hopened := FrameParse.opened_ok hok
  have hcodeOpened := start.opened_atStartCode
  have hlength := BufferHeader.contents_length hsource
  obtain ⟨parser, released, count, hcount, hrun, hstopped, hcall⟩ :=
    parseScFrame_eq hok hsource hfilled hdest (by omega) partialframe
  have hvalid := start.openedDest_valid source hdest (by omega)
  obtain ⟨hopenedFilled, hopenedOffset, hopenedAlloc⟩ := start.openedDest_fields source dest
  have hfits := hdest.fits
  have hroomEq := hdest.room_eq
  have hroomOpened := hvalid.room_eq
  have hbytes := hrun.length_eq hopened hcodeOpened
  rw [List.length_drop, hlength] at hbytes
  have hwritten : ((start.openedDest source dest).append released).Valid :=
    BufferHeader.append_valid hvalid (by omega)
  have hend : parser.atStartCode = true ∨ count = source.nFilledLen :=
    hstopped.of_ample hopened hcodeOpened hsource hvalid (by omega)
  refine ⟨parser, released, count, _, ?_, hcount, hrun, hend, hwritten, ?_, ?_, ?_, hcall⟩
  · rcases hend with hfound | hend
    · have hless := (hrun.bytes_found hopened hcodeOpened hfound).1
      rw [List.length_drop] at hless
      omega
    · omega
  · rw [BufferHeader.append_contents hvalid (by omega),
      start.openedDest_contents source hdest (by omega)]
  · rw [BufferHeader.append_nFilledLen, hopenedFilled]
  · rw [hwritten.room_eq, BufferHeader.append_nAllocLen, BufferHeader.append_nFilledLen,
      BufferHeader.append_nOffset]
    omega

end Nozomi
