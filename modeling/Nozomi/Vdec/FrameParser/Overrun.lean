import Nozomi.Vdec.FrameParser.Frames

/-!
# Writing past the destination

`parse_sc_frame` asks for the room of one start code and from then on only for room at all. A fallback
of the entry machine writes one byte, except where `00 00 01` turns out to begin no start code: there it
writes three. So it writes past the allocation exactly when a row of zeros has used the room up to one
or two bytes before that happens.
-/

namespace Nozomi

open CodecType

/-- The held-back zeros and the source are a row of zeros that leaves one or two bytes of room, then
`01` and a byte that completes no start code. -/
def Overruns (parser : FrameParse) (source dest : BufferHeader) : Prop :=
  parser.codec.fourthByteCode ∧ (parser.parseState = .A1 ∨ parser.parseState = .A2) ∧
    4 ≤ dest.room ∧
    ∃ zeros byte rest, (dest.room = zeros + 1 ∨ dest.room = zeros + 2) ∧
      parser.pending ++ source.contents = List.replicate (zeros + 2) 0 ++ 1 :: byte :: rest ∧
      parser.codec.matchesAt 3 byte = false ∧
      (parser.headerFound = true → parser.codec.isHeaderByte byte = false)

variable {start : FrameParse} {source dest : BufferHeader}

/-! ### A row of zeros -/

theorem replicate_append_cancel {released left tail : List UInt8} {zeros : Nat}
    (hbytes : List.replicate zeros 0 ++ tail = released ++ left) (hle : released.length ≤ zeros) :
    left = List.replicate (zeros - released.length) 0 ++ tail := by
  have hdrop := congrArg (List.drop released.length) hbytes
  rw [List.drop_left, List.drop_append_of_le_length (by rwa [List.length_replicate]),
    List.drop_replicate] at hdrop
  exact hdrop.symm

theorem run_zeros {data released left rest : List UInt8} {parser : FrameParse} {zeros : Nat}
    {byte : UInt8} (hok : start.Ok) (hcodec : start.codec.fourthByteCode)
    (hstate : start.parseState = .A1 ∨ start.parseState = .A2)
    (hbytes : start.pending ++ data = List.replicate (zeros + 2) 0 ++ 1 :: byte :: rest)
    (hfourth : start.codec.matchesAt 3 byte = false)
    (hheader : start.headerFound = true → start.codec.isHeaderByte byte = false)
    (hrun : Run start data parser released left) :
    (parser.headerFound = start.headerFound ∧ left ≠ [] ∧ released.length ≤ zeros ∧
        (parser.parseState = .A1 ∨ parser.parseState = .A2 ∨ parser.parseState = .A3)) ∨
      zeros + 3 ≤ released.length := by
  induction hrun with
  | refl =>
    refine .inl ⟨rfl, ?_, Nat.zero_le _, by rcases hstate with h | h <;> simp [h]⟩
    rintro rfl
    have := congrArg List.length hbytes
    rcases hstate with h | h <;>
      simp [FrameParse.pending, h, startCodePrefix_one, startCodePrefix_two] at this <;>
      omega
  | @step parser released tail next hrun hcode ih =>
    rcases ih with ⟨hflag, -, hle, hstates⟩ | hlate
    · obtain ⟨hparser, hparserCodec, -⟩ := hrun.keeps hok
      have hrow := hrun.bytes_eq hok hcode
      rw [hbytes, List.append_assoc] at hrow
      obtain ⟨ahead, hahead⟩ := Nat.exists_eq_add_of_le hle
      have hleft := replicate_append_cancel hrow (by omega)
      rw [show zeros + 2 - released.length = ahead + 1 + 1 by omega, List.replicate_succ,
        List.replicate_succ, List.cons_append, List.cons_append] at hleft
      have hparserFourth : parser.codec.fourthByteCode := by rwa [hparserCodec]
      generalize hstep : transition parser next = result
      have hcase := transition_case hparser hcode next
      rw [hstep] at hcase
      cases hcase with
      | zero hstate hbyte => simp [hstate] at hstates
      | pass hstate hbyte => simp [hstate] at hstates
      | secondZero hstate hbyte =>
        simp only [FrameParse.pending, hstate, startCodePrefix_one, List.cons_append,
          List.nil_append, List.cons.injEq, true_and] at hleft
        refine .inl ⟨hflag, ?_, by simpa using hle, by simp⟩
        simp [hleft.2]
      | fallbackA1 hstate hbyte =>
        simp [FrameParse.pending, hstate, startCodePrefix_one, hbyte] at hleft
      | foundH263 hstate hcodec hbyte => exact absurd hcodec hparserFourth.ne_h263
      | foundShort hstate hcodec hbyte => exact absurd hcodec hparserFourth.ne_h264
      | third hstate hbyte =>
        have hone : next = 1 := by
          rcases hbyte with ⟨hcodec, -⟩ | ⟨-, hone⟩
          · exact absurd hcodec hparserFourth.ne_h264
          · exact hone
        simp only [FrameParse.pending, hstate, startCodePrefix_two, List.cons_append,
          List.nil_append, List.cons.injEq, true_and, hone] at hleft
        refine .inl ⟨hflag, ?_, by simpa using hle, by simp⟩
        rintro rfl
        have := congrArg List.length hleft
        simp at this
        omega
      | fallbackA2 hstate hthird hshort =>
        rw [hparserFourth.matchesAt_two, beq_eq_false_iff_ne] at hthird
        simp only [FrameParse.pending, hstate, startCodePrefix_two, List.cons_append,
          List.nil_append, List.cons.injEq, true_and] at hleft
        refine .inl ⟨hflag, by simp, ?_, by simp⟩
        cases ahead with
        | zero => simp [hthird] at hleft
        | succ ahead =>
          simp only [List.length_append, List.length_singleton]
          omega
      | foundH264 hstate hcodec hbyte => exact absurd hcodec hparserFourth.ne_h264
      | fallbackH264 hstate hcodec hbyte => exact absurd hcodec hparserFourth.ne_h264
      | foundFourth hstate hcodec hbyte =>
        simp only [FrameParse.pending, hstate, startCodePrefix_three hcodec, List.cons_append,
          List.nil_append, List.cons.injEq, true_and] at hleft
        cases ahead with
        | zero =>
          simp only [List.replicate_zero, List.nil_append, List.cons.injEq, true_and] at hleft
          rw [hflag, hparserCodec, hleft.1] at hbyte
          rcases hbyte with hmatch | ⟨hfound, hmatch⟩
          · simp [hfourth] at hmatch
          · simp [hheader hfound] at hmatch
        | succ ahead => simp [List.replicate_succ] at hleft
      | fallbackFourth hstate hcodec hmismatch hnoHeader =>
        refine .inr ?_
        simp only [FrameParse.pending, hstate, startCodePrefix_three hcodec, List.cons_append,
          List.nil_append, List.cons.injEq, true_and] at hleft
        cases ahead with
        | zero =>
          simp only [List.length_append, List.length_cons, List.length_nil]
          omega
        | succ ahead => simp [List.replicate_succ] at hleft
    · refine .inr ?_
      rw [List.length_append]
      omega

theorem transition_released_length {parser : FrameParse} (hok : parser.Ok)
    (hcode : parser.atStartCode = false) (byte : UInt8) :
    (transition parser byte).released.length ≤ 1 ∨
      (parser.parseState = .A3 ∧ parser.codec.fourthByteCode ∧
        (transition parser byte).released.length = 3 ∧
        parser.codec.matchesAt 3 byte = false ∧
        (parser.headerFound = true → parser.codec.isHeaderByte byte = false)) := by
  generalize hstep : transition parser byte = next
  have hcase := transition_case hok hcode byte
  rw [hstep] at hcase
  cases hcase with
  | fallbackFourth hstate hcodec hfourth hheader =>
    exact .inr ⟨hstate, hcodec, rfl, hfourth, hheader⟩
  | _ => exact .inl (by simp)

/-! ### The entry machine inside the allocation -/

theorem entryStep_inside {state : EntryState} (hok : start.Ok) (hsource : source.Valid)
    (hdest : dest.Valid) (hsafe : ¬ Overruns start source dest)
    (hroom : start.codec.codeLength ≤ dest.room) (hstart : start.parseState ≠ .A0)
    (hcode : start.atStartCode = false)
    (hstate : EntryRun start source dest state) (hinside : state.dest.Inside)
    (hrunning : state.running = true) : (entryStep state).dest.Inside := by
  obtain ⟨released, count, hcount, hconsumed, hwritten, hrun, hzeros⟩ := hstate
  obtain ⟨hfilled, hstateA0, hnone, hleft⟩ := state.running_iff.mp hrunning
  obtain ⟨hparser, hcodec, -⟩ := hrun.keeps hok
  obtain ⟨hreleased, hheader⟩ := hzeros hstateA0
  have hfits := hdest.fits
  have hbounded := hdest.bounded
  have hdestRoom := hdest.room_eq
  rw [hwritten] at hinside hleft
  simp only [BufferHeader.Inside, BufferHeader.append_nOffset, BufferHeader.append_nFilledLen,
    BufferHeader.append_nAllocLen] at hinside
  have hroomLeft : (dest.append released).room = dest.room - released.length := by
    simp only [BufferHeader.room, BufferHeader.append_nOffset, BufferHeader.append_nFilledLen,
      BufferHeader.append_nAllocLen]
    rw [sub32_of_le (by omega) hbounded, sub32_of_le (by omega) hbounded]
    omega
  rw [hroomLeft] at hleft
  rw [entryStep_eq state hstateA0 hparser]
  simp only [BufferHeader.Inside, hwritten, BufferHeader.append_nOffset,
    BufferHeader.append_nFilledLen, BufferHeader.append_nAllocLen]
  rcases transition_released_length hparser hnone (state.source.byteAt 0) with
    hone | ⟨hA3, hfourth, hthree, hmatch, hnoHeader⟩
  · omega
  rw [hthree]
  by_contra hover
  have hstartFourth : start.codec.fourthByteCode := hcodec ▸ hfourth
  have hcodeLength := hstartFourth.codeLength_eq
  have hvalid : state.source.Valid := hconsumed ▸ BufferHeader.consume_valid hsource hcount
  have hrow : start.pending ++ source.contents = List.replicate (released.length + 2) 0 ++
      1 :: state.source.byteAt 0 :: (state.source.consume 1).contents := by
    have hbytes := hrun.bytes_eq hok hnone
    rw [BufferHeader.contents_eq_cons hvalid hfilled] at hbytes
    rw [hbytes, ← List.replicate_append_replicate, ← List.eq_replicate_of_mem hreleased]
    simp only [FrameParse.pending, hA3, startCodePrefix_three hfourth, List.append_assoc]
    rfl
  have hstates : start.parseState = .A1 ∨ start.parseState = .A2 := by
    cases hcase : start.parseState with
    | A0 => exact absurd hcase hstart
    | A1 => exact .inl rfl
    | A2 => exact .inr rfl
    | A3 =>
      -- Held-back bytes `00 00 01` are no row of zeros, and at least two were written.
      obtain ⟨more, hmore⟩ : ∃ more, released.length = more + 1 :=
        ⟨released.length - 1, by omega⟩
      simp [FrameParse.pending, hcase, startCodePrefix_three hstartFourth, hmore,
        List.replicate_succ] at hrow
    | A4 => simp [FrameParse.atStartCode, hcase] at hcode
    | A5 => simp [FrameParse.atStartCode, hcase] at hcode
  refine hsafe ⟨hstartFourth, hstates, by omega, released.length, state.source.byteAt 0,
    (state.source.consume 1).contents, by omega, hrow, hcodec ▸ hmatch, ?_⟩
  rw [← hheader, ← hcodec]
  exact hnoHeader

theorem exitMachine_dest (source dest : BufferHeader) (parser : FrameParse) (parsedLength : Nat) :
    (exitMachine source dest parser parsedLength).dest.nOffset = dest.nOffset ∧
      (exitMachine source dest parser parsedLength).dest.nAllocLen = dest.nAllocLen ∧
      dest.nFilledLen ≤ (exitMachine source dest parser parsedLength).dest.nFilledLen ∧
      (exitMachine source dest parser parsedLength).dest.nFilledLen ≤
        dest.nFilledLen + parsedLength := by
  have hdest : (exitMachine source dest parser parsedLength).dest =
      if parsedLength > parser.parseState.withheld then
        dest.append (source.read (parsedLength - parser.parseState.withheld)) else dest := by
    unfold exitMachine
    dsimp only
    split <;> rfl
  rw [hdest]
  split
  · have hlength : (source.read (parsedLength - parser.parseState.withheld)).length ≤
        parsedLength - parser.parseState.withheld := List.length_take_le _ _
    refine ⟨rfl, rfl, ?_, ?_⟩
    · rw [BufferHeader.append_nFilledLen]
      omega
    · rw [BufferHeader.append_nFilledLen]
      omega
  · exact ⟨rfl, rfl, Nat.le_refl _, Nat.le_add_right _ _⟩

theorem scanSource_inside (hok : start.Ok) (hsource : source.Valid) (hdest : dest.Valid)
    (hinside : (entryLoop (machineFuel source.nFilledLen) ⟨start, source, dest⟩).dest.Inside) :
    (scanSource ⟨start, source, dest⟩).dest.Inside := by
  have hused : dest.nFilledLen + dest.nOffset ≤ dest.pBuffer.length := by
    have halloc := hdest.alloc
    have hfits := hdest.fits
    omega
  obtain ⟨⟨written, entryCount, hentryCount, hconsumed, hwritten, hrun, -⟩, -⟩ :=
    entryLoop_run hok hsource hused
  unfold scanSource
  generalize entryLoop (machineFuel source.nFilledLen) ⟨start, source, dest⟩ = state at *
  obtain ⟨middle, entrySource, entryDest⟩ := state
  simp only at hconsumed hwritten hinside
  have hbounded : entryDest.nAllocLen < 2 ^ 32 := by
    rw [hwritten, BufferHeader.append_nAllocLen]
    exact hdest.bounded
  have hroom : entryDest.room = entryDest.nAllocLen - (entryDest.nFilledLen + entryDest.nOffset) := by
    unfold BufferHeader.Inside at hinside
    exact sub32_of_le (by omega) hbounded
  dsimp only
  split
  · exact hinside
  split
  · exact hinside
  · rename_i htempLen
    have hvalid : entrySource.Valid := hconsumed ▸ BufferHeader.consume_valid hsource hentryCount
    obtain ⟨⟨hparsed, -⟩, -⟩ := scanLoop_run (hrun.keeps hok).1 hvalid
      (Nat.min_le_left _ entryDest.room)
    generalize scanLoop _ _ _ _ = scan at *
    obtain ⟨hoffset, halloc, -, hfilled⟩ :=
      exitMachine_dest entrySource entryDest scan.parser scan.parsedLength
    have hscanned : scan.parsedLength ≤ entryDest.room :=
      Nat.le_trans hparsed (Nat.min_le_right _ _)
    unfold BufferHeader.Inside at hinside ⊢
    rw [hoffset, halloc]
    omega

theorem scanSource_outside (state : EntryState)
    (houtside : ¬ (entryLoop (machineFuel state.source.nFilledLen) state).dest.Inside) :
    ¬ (scanSource state).dest.Inside := by
  unfold scanSource
  generalize entryLoop (machineFuel state.source.nFilledLen) state = entry at *
  dsimp only
  split
  · exact houtside
  split
  · exact houtside
  · generalize scanLoop _ _ _ _ = scan
    obtain ⟨hoffset, halloc, hfilled, -⟩ :=
      exitMachine_dest entry.source entry.dest scan.parser scan.parsedLength
    unfold BufferHeader.Inside at houtside ⊢
    rw [hoffset, halloc]
    omega

theorem entryLoop_inside (hok : start.Ok) (hsource : source.Valid) (hdest : dest.Valid)
    (hsafe : ¬ Overruns start source dest) (hcode : start.atStartCode = false)
    (hroom : start.parseState ≠ .A0 → start.codec.codeLength ≤ dest.room) (fuel : Nat) :
    (entryLoop fuel ⟨start, source, dest⟩).dest.Inside := by
  have hused : dest.nFilledLen + dest.nOffset ≤ dest.pBuffer.length := by
    have halloc := hdest.alloc
    have hfits := hdest.fits
    omega
  by_cases hstart : start.parseState = .A0
  · have hstopped : EntryState.running ⟨start, source, dest⟩ = false := by
      rw [← Bool.not_eq_true, EntryState.running_iff]
      exact fun hrunning => hrunning.2.1 hstart
    rw [entryLoop, whileLoop_of_not hstopped]
    exact hdest.fits
  have hinit : EntryRun start source dest ⟨start, source, dest⟩ ∧ dest.Inside :=
    ⟨⟨[], 0, Nat.zero_le _, rfl, (BufferHeader.append_nil dest).symm, .refl, by simp⟩,
      hdest.fits⟩
  have hbody : ∀ state, EntryRun start source dest state ∧ state.dest.Inside →
      state.running = true →
      EntryRun start source dest (entryStep state) ∧ (entryStep state).dest.Inside := by
    rintro state ⟨hstate, hinside⟩ hrunning
    exact ⟨entryStep_run hok hsource hused hstate hrunning,
      entryStep_inside hok hsource hdest hsafe (hroom hstart) hstart hcode hstate hinside
        hrunning⟩
  exact (whileLoop_invariant hbody fuel _ hinit).2

theorem entryLoop_outside (hok : start.Ok) (hsource : source.Valid) (hdest : dest.Valid)
    (hover : Overruns start source dest) :
    ¬ (entryLoop (machineFuel source.nFilledLen) ⟨start, source, dest⟩).dest.Inside := by
  have halloc := hdest.alloc
  have hfits := hdest.fits
  have hbounded := hdest.bounded
  obtain ⟨hcodec, hstate, hfour, zeros, byte, rest, hroom, hbytes, hfourth, hheader⟩ := hover
  obtain ⟨⟨released, count, hcount, hconsumed, hwritten, hrun, -⟩, hexit⟩ :=
    entryLoop_run hok hsource (show dest.nFilledLen + dest.nOffset ≤ dest.pBuffer.length by omega)
  rw [hdest.room_eq] at hroom
  intro hinside
  rw [hwritten] at hinside
  simp only [BufferHeader.Inside, BufferHeader.append_nOffset, BufferHeader.append_nFilledLen,
    BufferHeader.append_nAllocLen] at hinside
  rcases run_zeros hok hcodec hstate hbytes hfourth hheader hrun with
    ⟨-, hleft, hlength, hstates⟩ | hlate
  · -- On the row of zeros nothing stops the machine.
    rw [← Bool.not_eq_true, EntryState.running_iff] at hexit
    refine hexit ⟨?_, ?_, ?_, ?_⟩
    · rw [hconsumed] at hleft ⊢
      rw [← BufferHeader.contents_length (BufferHeader.consume_valid hsource hcount)]
      exact List.length_pos_iff.mpr hleft
    · rcases hstates with h | h | h <;> simp [h]
    · rcases hstates with h | h | h <;> simp [FrameParse.atStartCode, h]
    · rw [hwritten]
      simp only [BufferHeader.room, BufferHeader.append_nOffset, BufferHeader.append_nFilledLen,
        BufferHeader.append_nAllocLen]
      rw [sub32_of_le (by omega) hbounded]
      omega
  · omega

/-! ### The bound -/

private theorem inside_iff (hok : start.Ok) (hsource : source.Valid) (hdest : dest.Valid)
    (partialframe : Nat) :
    ((parseScFrame start source dest partialframe).dest.Inside ∧
        source.nFilledLen - (parseScFrame start source dest partialframe).source.nFilledLen =
          (parseScFrame start source dest partialframe).source.nOffset - source.nOffset) ↔
      ¬ Overruns start source dest := by
  by_cases hrejected : dest.room < start.codec.codeLength ∨ source.nFilledLen = 0
  · obtain ⟨-, hsourceEq, hdestEq⟩ := parseScFrame_rejected hrejected partialframe
    rw [hsourceEq, hdestEq]
    refine ⟨fun _ hover => ?_, fun _ => ⟨hdest.fits, by omega⟩⟩
    obtain ⟨hcodec, hstate, hfour, zeros, byte, rest, -, hbytes, -⟩ := hover
    rcases hrejected with hroom | hempty
    · rw [hcodec.codeLength_eq] at hroom
      omega
    · have hlengths := congrArg List.length hbytes
      rw [List.length_append, BufferHeader.contents_length hsource, hempty] at hlengths
      rcases hstate with h | h <;>
        simp [FrameParse.pending, h, startCodePrefix_one, startCodePrefix_two] at hlengths <;>
        omega
  · have hfilled : 0 < source.nFilledLen := by omega
    have hroom : start.codec.codeLength ≤ dest.room := by omega
    obtain ⟨parser, released, count, hcount, -, -, hcall⟩ :=
      parseScFrame_eq hok hsource hfilled hdest hroom partialframe
    have hmoved : source.nFilledLen - (parseScFrame start source dest partialframe).source.nFilledLen =
        (parseScFrame start source dest partialframe).source.nOffset - source.nOffset := by
      rw [hcall, BufferHeader.consume_nFilledLen, BufferHeader.consume_nOffset]
      omega
    rw [and_iff_left hmoved, parseScFrame_accepted hfilled hroom]
    cases hcode : start.atStartCode with
    | true =>
      have hopened : start.opened.parseState = .A0 := by
        simp only [FrameParse.opened, hcode, if_true]
      have hsafe : ¬ Overruns start.opened source (start.openedDest source dest) := by
        rintro ⟨-, hstate, -⟩
        rcases hstate with h | h <;> simp [hopened] at h
      refine ⟨fun _ hover => ?_, fun _ => ?_⟩
      · rcases hover.2.1 with h | h <;> simp [FrameParse.atStartCode, h] at hcode
      · have hvalid := start.openedDest_valid source hdest
          (Nat.le_trans start.openedLength_le hroom)
        have hopenedOk := FrameParse.opened_ok hok
        exact scanSource_inside hopenedOk hsource hvalid
          (entryLoop_inside hopenedOk hsource hvalid hsafe start.opened_atStartCode
            (fun h => absurd hopened h) _)
    | false =>
      have hopened : start.opened = start := by
        simp only [FrameParse.opened, hcode, if_neg Bool.false_ne_true]
      have hopenedDest : start.openedDest source dest = dest := by
        simp only [FrameParse.openedDest, hcode, if_neg Bool.false_ne_true]
      rw [hopened, hopenedDest]
      refine ⟨fun hinside hover => ?_, fun hsafe => ?_⟩
      · exact scanSource_outside ⟨start, source, dest⟩
          (entryLoop_outside hok hsource hdest hover) hinside
      · exact scanSource_inside hok hsource hdest
          (entryLoop_inside hok hsource hdest hsafe hcode (fun _ => hroom) _)

/-- A call keeps the used part of the destination inside the allocation, and moves the source by what
it takes, except for the row of zeros that brings the entry machine to the end of the room. -/
theorem parseScFrame_inside_iff (parser : FrameParse) (hparser : parser.Reachable)
    (source dest : BufferHeader) (hsource : source.Valid) (hdest : dest.Valid)
    (partialframe : Nat) :
    ((parseScFrame parser source dest partialframe).dest.Inside ∧
        source.nFilledLen - (parseScFrame parser source dest partialframe).source.nFilledLen =
          (parseScFrame parser source dest partialframe).source.nOffset - source.nOffset) ↔
      ¬ Overruns parser source dest :=
  inside_iff hparser.resting.toOk hsource hdest partialframe

def afterZeros : FrameParse :=
  (parseScFrame (.initStartCodes .mpeg4 0) (.ofBytes [0x00, 0x00]) (.blank 64) 1).parser

theorem afterZeros_reachable : afterZeros.Reachable :=
  .scFrame (.init .mpeg4 0) (BufferHeader.ofBytes_valid (by decide))
    (BufferHeader.blank_valid (by decide)) 1

theorem parseScFrame_inside_iff_mpeg4 :
    ¬ Overruns afterZeros (.ofBytes [0x00, 0x01, 0xFF]) (.blank 4) :=
  (parseScFrame_inside_iff afterZeros afterZeros_reachable (.ofBytes [0x00, 0x01, 0xFF]) (.blank 4)
    (BufferHeader.ofBytes_valid (by decide)) (BufferHeader.blank_valid (by decide)) 1).mp
    (by decide)

/-- Four bytes of room, two zeros held back, and `00 00 00 01 FF` in the source: after three zeros
the fourth byte of room gets three bytes. -/
theorem parseScFrame_overruns :
    ¬ ∀ (parser : FrameParse) (source dest : BufferHeader) (partialframe : Nat),
      parser.Reachable → source.Valid → dest.Valid →
        (parseScFrame parser source dest partialframe).dest.Inside ∧
          source.nFilledLen - (parseScFrame parser source dest partialframe).source.nFilledLen =
            (parseScFrame parser source dest partialframe).source.nOffset - source.nOffset := by
  intro hall
  obtain ⟨hinside, -⟩ := hall afterZeros (.ofBytes [0x00, 0x00, 0x00, 0x01, 0xFF]) (.blank 4) 1
    afterZeros_reachable (BufferHeader.ofBytes_valid (by decide))
    (BufferHeader.blank_valid (by decide))
  exact absurd hinside (by decide)

end Nozomi
