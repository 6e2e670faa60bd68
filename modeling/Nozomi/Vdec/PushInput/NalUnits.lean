import Nozomi.Vdec.PushInput.Events
import Nozomi.Vdec.PushInput.Parsing

/-!
# The NAL units of an H.264 stream

A NAL unit is collected in `h264_scratch` and goes from there into a frame, or waits for the next one.
So the frames handed over are the NAL units of the stream, grouped, up to those still owed: the one in
`h264_scratch` and what the parser has still to cut. The one way to lose a NAL unit is the end of the
stream: a frame that carries its flag resets `h264_scratch` when it is handed over, also when the NAL
unit there begins another frame.
-/

namespace Nozomi

namespace PushInput

def Fit (header : BufferHeader) : Prop := header.Valid ∧ header.nOffset = 0

theorem fit_clears : Clears Fit := by
  rintro header flags ts ⟨hvalid, hoffset⟩
  have hfits := hvalid.fits
  exact ⟨⟨hvalid.alloc, by simp only; omega, hvalid.bounded⟩, hoffset⟩

theorem Fit.relabel {header : BufferHeader} (hfit : Fit header) (flags : BitVec 32) (ts : Int) :
    Fit { header with nFlags := flags, nTimeStamp := ts } :=
  ⟨⟨hfit.1.alloc, hfit.1.fits, hfit.1.bounded⟩, hfit.2⟩

def nal (bytes : List UInt8) : List (List UInt8) := [bytes].filter (· ≠ [])

def owed (state : PushInput) (complete : Bool) (data : List UInt8) : List (List UInt8) :=
  if complete then nal state.h264Scratch.contents ++ (state.mFrameParser.resume [] data).nals
  else (state.mFrameParser.resume state.h264Scratch.contents data).nals

/-- The frames handed over, the bytes `dest` of the frame in progress and the NAL units owed are those
of the stream, in order. -/
structure Carries (total : Nat) (nals : List (List UInt8)) (complete : Bool) (state : PushInput)
    (dest data : List UInt8) : Prop where
  resting : state.mFrameParser.Resting
  sameCodec : state.mFrameParser.codec = .h264
  startCodes : state.nalLength = 0
  scratch : state.h264Scratch.Holds (2 * total + 8)
  offset : state.h264Scratch.nOffset = 0
  size : 3 * state.h264Scratch.nFilledLen +
    4 * (state.mFrameParser.parseState.withheld + data.length) ≤ 4 * total
  grouped : ∃ (groups : List (List (List UInt8))) (filling : List (List UInt8)),
    state.handed.map BufferHeader.contents = groups.map List.flatten ∧ dest = filling.flatten ∧
      groups.flatten ++ filling ++ state.owed complete data = nals

variable {total : Nat} {nals : List (List UInt8)} {complete : Bool} {state next : PushInput}
  {dest filled source : BufferHeader} {data bytes : List UInt8} {later : List BufferHeader}

theorem flatten_nal (bytes : List UInt8) : (nal bytes).flatten = bytes := by
  by_cases hbytes : bytes = []
  · simp [nal, hbytes]
  · simp [nal, hbytes]

theorem owed_nil (hresting : state.mFrameParser.Resting) (complete : Bool) :
    state.owed complete [] = nal state.h264Scratch.contents := by
  unfold owed
  rw [FrameParse.resume_nil hresting.toOk, FrameParse.resume_nil hresting.toOk]
  cases complete <;> simp [nal, Split.nals]

theorem owed_empty (hempty : state.h264Scratch.nFilledLen = 0) (complete : Bool) :
    state.owed complete data = (state.mFrameParser.resume [] data).nals := by
  unfold owed
  rw [BufferHeader.contents_of_empty hempty]
  cases complete <;> simp [nal]

theorem Carries.copyScratch (hstate : Carries total nals true state dest.contents data)
    (hdest : Fit dest) (hcopied : state.copyScratch dest = some (next, filled)) :
    Carries total nals false next filled.contents data ∧ Fit filled ∧
      next = { state with h264Scratch := { state.h264Scratch with nFilledLen := 0 } } := by
  obtain ⟨hresting, hcodec, hstart, hscratch, hoffset, hsize, groups, filling, hhanded, hfilling,
    hnals⟩ := hstate
  obtain ⟨hvalid, hdestOffset⟩ := hdest
  have hbytes : state.h264Scratch.pBuffer.take state.h264Scratch.nFilledLen =
      state.h264Scratch.contents := by
    simp [BufferHeader.contents, BufferHeader.read, hoffset]
  have hlength := BufferHeader.contents_length hscratch.toValid
  unfold PushInput.copyScratch at hcopied
  split at hcopied
  · rename_i hroom
    have hfits := hvalid.fits
    rw [sub32_of_le (by omega) hvalid.bounded] at hroom
    simp only [Option.some.injEq, Prod.mk.injEq] at hcopied
    obtain ⟨hnext, hfilled⟩ := hcopied
    have happend : filled = dest.append state.h264Scratch.contents := by
      rw [← hfilled, BufferHeader.append, hbytes, hdestOffset, hlength, Nat.add_zero]
    have hspace : dest.nOffset + dest.nFilledLen + state.h264Scratch.contents.length ≤
        dest.nAllocLen := by
      omega
    refine ⟨⟨?_, ?_, ?_, ?_, ?_, ?_, groups, filling ++ nal state.h264Scratch.contents, ?_, ?_, ?_⟩,
      ⟨happend ▸ BufferHeader.append_valid hvalid hspace, happend ▸ hdestOffset⟩, hnext.symm⟩
    all_goals subst hnext
    · exact hresting
    · exact hcodec
    · exact hstart
    · exact hscratch.clear
    · exact hoffset
    · simp only
      omega
    · exact hhanded
    · rw [happend, BufferHeader.append_contents hvalid hspace, hfilling, List.flatten_append,
        flatten_nal]
    · rw [owed_empty rfl, ← hnals, owed, if_pos rfl]
      simp only [List.append_assoc]
  · simp at hcopied

/-! ### One call -/

/-- What the timestamps and the frame check leave alone. -/
structure SameNals (state next : PushInput) : Prop extends SameQueues state next where
  dest : next.pdestFrame = state.pdestFrame
  parser : next.mFrameParser = state.mFrameParser
  nalLength : next.nalLength = state.nalLength
  scratch : next.h264Scratch = state.h264Scratch
  lookAhead : next.lookAheadNal = state.lookAheadNal
  handed : next.handed = state.handed

theorem Carries.moved (hstate : Carries total nals complete state bytes data)
    (hparser : next.mFrameParser = state.mFrameParser) (hlength : next.nalLength = state.nalLength)
    (hscratch : next.h264Scratch = state.h264Scratch) (hhanded : next.handed = state.handed) :
    Carries total nals complete next bytes data := by
  obtain ⟨hresting, hcodec, hstart, hholds, hoffset, hsize, hgrouped⟩ := hstate
  refine ⟨hparser ▸ hresting, hparser ▸ hcodec, hlength ▸ hstart, hscratch ▸ hholds,
    hscratch ▸ hoffset, ?_, ?_⟩
  · rw [hparser, hscratch]
    exact hsize
  · unfold owed at hgrouped ⊢
    rw [hparser, hscratch, hhanded]
    exact hgrouped

theorem SameNals.carries (hsame : SameNals state next)
    (hstate : Carries total nals complete state bytes data) :
    Carries total nals complete next bytes data :=
  hstate.moved hsame.parser hsame.nalLength hsame.scratch hsame.handed

theorem Carries.copyLookAhead (hstate : Carries total nals state.lookAheadNal state dest.contents data)
    (hwaits : state.lookAheadNal = true → state.h264Scratch.nFilledLen ≠ 0) (hdest : Fit dest)
    (hcopied : state.copyLookAhead dest = some (next, filled)) :
    Carries total nals false next filled.contents data ∧ Fit filled ∧ next.lookAheadNal = false ∧
      SameQueues state next := by
  unfold PushInput.copyLookAhead at hcopied
  split at hcopied
  · rename_i hlook
    rw [hlook.2] at hstate
    have hmoved : Carries total nals true { state with lookAheadNal := false } dest.contents data :=
      hstate.moved rfl rfl rfl rfl
    obtain ⟨hnext, hfit, rfl⟩ := hmoved.copyScratch hdest hcopied
    exact ⟨hnext, hfit, rfl, ⟨rfl, rfl, rfl, rfl⟩⟩
  rename_i hlook
  simp only [Option.some.injEq, Prod.mk.injEq] at hcopied
  obtain ⟨rfl, rfl⟩ := hcopied
  have hnone : state.lookAheadNal = false := by
    by_contra htrue
    rw [Bool.not_eq_false] at htrue
    exact hlook ⟨hwaits htrue, htrue⟩
  exact ⟨hnone ▸ hstate, hdest, hnone, ⟨rfl, rfl, rfl, rfl⟩⟩

theorem Carries.parse (hstate : Carries total nals false state bytes (source.contents ++ data))
    (hsource : source.Valid) (hend : source.nFilledLen = 0 → source.hasEos = true → data = [])
    (hstatus : (parseScFrame state.mFrameParser source state.h264Scratch 1).status ≠ -1) :
    Carries total nals
      (decide ((parseScFrame state.mFrameParser source state.h264Scratch 1).partialframe = 0))
      { state with
        mFrameParser := (parseScFrame state.mFrameParser source state.h264Scratch 1).parser
        h264Scratch := (parseScFrame state.mFrameParser source state.h264Scratch 1).dest } bytes
      ((parseScFrame state.mFrameParser source state.h264Scratch 1).source.contents ++ data) ∧
    ∃ count ≤ source.nFilledLen,
      (parseScFrame state.mFrameParser source state.h264Scratch 1).source = source.consume count := by
  obtain ⟨hresting, hcodec, hstart, hscratch, hoffset, hsize, groups, filling, hhanded, hfilling,
    hnals⟩ := hstate
  have hlength := BufferHeader.contents_length hsource
  by_cases hempty : source.nFilledLen = 0
  · obtain ⟨heos, hcall⟩ := parseScFrame_drained hempty hstatus
    have hnone : source.contents ++ data = [] := by
      rw [hend hempty heos, BufferHeader.contents_of_empty hempty]
      rfl
    rw [hcall]
    refine ⟨⟨hresting, hcodec, hstart, hscratch, hoffset, hsize, groups, filling, hhanded, hfilling,
      ?_⟩, 0, Nat.zero_le _, rfl⟩
    rw [hnone, owed_nil hresting] at hnals
    dsimp only
    rw [hnone, owed_nil (by exact hresting)]
    exact hnals
  · have hroom := hscratch.room
    rw [List.length_append, hlength] at hsize
    obtain ⟨added, hparsed, howes⟩ := parseScFrame_filled hresting hsource (by omega) hscratch
      (by omega)
    generalize parseScFrame state.mFrameParser source state.h264Scratch 1 = result at hparsed howes ⊢
    obtain ⟨count, hcount, hconsumed⟩ := hparsed.taken
    have hleft : result.source.contents.length = result.source.nFilledLen := by
      rw [hconsumed]
      exact BufferHeader.contents_length (BufferHeader.consume_valid hsource hcount)
    have hfilled := congrArg List.length hparsed.contents
    rw [List.length_append, BufferHeader.contents_length hparsed.holds.toValid,
      BufferHeader.contents_length hscratch.toValid] at hfilled
    have hpaid := hparsed.length
    refine ⟨⟨hparsed.resting, hparsed.codec.trans hcodec, hstart, hparsed.holds,
      hparsed.offset.trans hoffset, ?_, groups, filling, hhanded, hfilling, ?_⟩, count, hcount,
      hconsumed⟩
    · rw [List.length_append, hleft]
      dsimp only
      omega
    · rw [owed, if_neg Bool.false_ne_true, howes] at hnals
      rw [← hnals, owed]
      dsimp only
      rw [hparsed.contents]
      split
      · rename_i hzero
        rw [if_pos (of_decide_eq_true hzero), Split.prepend_nals, nal]
      · rename_i hzero
        rw [if_neg (of_decide_eq_false (Bool.not_eq_true _ ▸ hzero))]

theorem Carries.handOver (hstate : Carries total nals complete state bytes data)
    (frame : BufferHeader) (hbytes : frame.contents = bytes) (hfilled : frame.nFilledLen ≠ 0)
    (heos : frame.hasEos = false) :
    Carries total nals complete (state.emptyThisBufferProxy frame) [] data := by
  obtain ⟨hresting, hcodec, hstart, hscratch, hoffset, hsize, groups, filling, hhanded, hfilling,
    hnals⟩ := hstate
  rw [emptyThisBufferProxy_eq state frame hfilled heos]
  refine ⟨hresting, hcodec, hstart, hscratch, hoffset, hsize, groups ++ [filling], [], ?_, rfl, ?_⟩
  · simp [hhanded, hbytes, hfilling]
  · simpa [owed] using hnals

/-- What holds between two steps: the buffers are sound, and the NAL units are in order. -/
structure Keeps (total : Nat) (nals : List (List UInt8)) (state : PushInput)
    (later : List BufferHeader) : Prop extends state.Sound Fit later where
  carries : Carries total nals state.lookAheadNal state state.destBytes
    ((state.left later).flatMap BufferHeader.contents)
  waits : state.lookAheadNal = true → state.h264Scratch.nFilledLen ≠ 0

theorem Carries.setDest (hcarries : Carries total nals false state dest.contents
      ((state.left later).flatMap BufferHeader.contents))
    (hsound : state.Sound Fit later) (hdest : Fit dest) (hlook : state.lookAheadNal = false) :
    Keeps total nals { state with pdestFrame := some dest } later := by
  refine ⟨hsound.moved ⟨rfl, rfl, rfl, rfl⟩ ?_, ?_, ?_⟩
  · rintro header ⟨rfl⟩
    exact hdest
  · simp only [hlook, destBytes, Option.toList_some, List.flatMap_singleton]
    exact hcarries.moved rfl rfl rfl rfl
  · simp [hlook]

theorem SameQueues.left_eq (hsame : SameQueues state next) (later : List BufferHeader) :
    next.left later = state.left later := by
  rw [left, left, hsame.source, hsame.pending]

theorem Carries.beginFrame (hsound : state.Sound Fit later) (hdest : Fit dest)
    (hcarries : Carries total nals true state dest.contents
      ((state.left later).flatMap BufferHeader.contents))
    (hscratch : state.h264Scratch.nFilledLen ≠ 0)
    (hnext : state.beginFrame dest = some next) : Keeps total nals next later := by
  unfold PushInput.beginFrame at hnext
  split at hnext
  · obtain ⟨⟨copied, filled⟩, hcopied, hset⟩ := Option.bind_eq_some_iff.mp hnext
    obtain rfl := Option.some.inj hset
    have hmoved : Carries total nals true { state with lookAheadNal := false } dest.contents
        ((state.left later).flatMap BufferHeader.contents) := hcarries.moved rfl rfl rfl rfl
    obtain ⟨hcopies, hfit, rfl⟩ := hmoved.copyScratch hdest hcopied
    exact hcopies.setDest (hsound.moved ⟨rfl, rfl, rfl, rfl⟩ hsound.dest) hfit rfl
  rename_i hfilled
  obtain rfl := Option.some.inj hnext
  have hframe := hdest.relabel (dest.nFlags &&& ~~~bufferFlagEos) dest.nTimeStamp
  have hbytes : ({ dest with nFlags := dest.nFlags &&& ~~~bufferFlagEos } :
    BufferHeader).contents = dest.contents := rfl
  have hlength : ({ dest with nFlags := dest.nFlags &&& ~~~bufferFlagEos } :
    BufferHeader).nFilledLen ≠ 0 := hfilled
  have heos := hasEos_clear dest
  generalize ({ dest with nFlags := dest.nFlags &&& ~~~bufferFlagEos } : BufferHeader) = frame
    at hframe hbytes hlength heos ⊢
  have hmoved : Carries total nals true { state with lookAheadNal := true } dest.contents
      ((state.left later).flatMap BufferHeader.contents) := hcarries.moved rfl rfl rfl rfl
  have hmovedSound : Sound Fit { state with lookAheadNal := true } later :=
    hsound.moved ⟨rfl, rfl, rfl, rfl⟩ hsound.dest
  have hhanded := hmoved.handOver frame hbytes hlength heos
  have hpushed := emptyThisBufferProxy_sound (hframe.relabel _ _) hmovedSound
  have hkeeps := emptyThisBufferProxy_eq { state with lookAheadNal := true } frame hlength heos
  generalize ({ state with lookAheadNal := true } : PushInput).emptyThisBufferProxy frame = proxied
    at hhanded hpushed hkeeps ⊢
  obtain ⟨hpopped, hempty⟩ := popFreeQ_sound
    (fun dest => { dest with nFilledLen := 0, nFlags := 0, nTimeStamp := llongMax })
    (fun header hheader => ⟨fit_clears header 0 llongMax hheader, contents_clear ..⟩) hpushed
  obtain ⟨hparser, hnalLength, hsame, hlook, hout, hsource, hpending⟩ := proxied.popFreeQ_fields
    fun dest => { dest with nFilledLen := 0, nFlags := 0, nTimeStamp := llongMax }
  have hleft : (proxied.popFreeQ fun dest => { dest with
      nFilledLen := 0, nFlags := 0, nTimeStamp := llongMax }).left later = state.left later := by
    rw [left, hsource, hpending, hkeeps]
    rfl
  refine ⟨hpopped, ?_, ?_⟩
  · rw [hempty, hlook, hleft, show proxied.lookAheadNal = true by rw [hkeeps]]
    exact hhanded.moved hparser hnalLength hsame hout
  · rw [hsame, show proxied.h264Scratch = state.h264Scratch by rw [hkeeps]]
    exact fun _ => hscratch

theorem stampNal_sameNals (state : PushInput) (dest : BufferHeader) :
    SameNals state (state.stampNal dest).1 ∧
      ∃ flags ts, (state.stampNal dest).2 = { dest with nFlags := flags, nTimeStamp := ts } := by
  unfold stampNal
  dsimp only
  split
  · refine ⟨⟨⟨rfl, rfl, rfl, rfl⟩, rfl, rfl, rfl, rfl, rfl, rfl⟩, ?_⟩
    split <;> exact ⟨_, _, rfl⟩
  · refine ⟨⟨⟨rfl, rfl, rfl, rfl⟩, rfl, rfl, rfl, rfl, rfl, rfl⟩, ?_⟩
    split <;> exact ⟨_, _, rfl⟩

theorem checkNal_sameNals {frame : BufferHeader} {isNewFrame : Bool} (hdest : Fit dest)
    (hnext : state.checkNal dest = some (next, frame, isNewFrame)) :
    SameNals state next ∧ Fit frame ∧ frame.contents = dest.contents ∧
      (isNewFrame = true → state.h264Scratch.nFilledLen ≠ 0) := by
  unfold checkNal at hnext
  split at hnext
  · rename_i hfilled
    obtain ⟨⟨utils, status, isNew⟩, -, hstamp⟩ := Option.bind_eq_some_iff.mp hnext
    obtain ⟨hsame, flags, ts, hframe⟩ := stampNal_sameNals
      { state with mutils := utils, nalCount := (state.nalCount + 1) % 2 ^ 32 } dest
    simp only [Option.some.injEq, Prod.mk.injEq] at hstamp
    obtain ⟨rfl, rfl, rfl⟩ := hstamp
    rw [hframe]
    exact ⟨⟨⟨hsame.source, hsame.pending, hsame.free, hsame.driver⟩, hsame.dest, hsame.parser,
      hsame.nalLength, hsame.scratch, hsame.lookAhead, hsame.handed⟩, hdest.relabel flags ts, rfl,
      fun _ => hfilled⟩
  · simp only [Option.some.injEq, Prod.mk.injEq] at hnext
    obtain ⟨rfl, rfl, rfl⟩ := hnext
    exact ⟨⟨⟨rfl, rfl, rfl, rfl⟩, rfl, rfl, rfl, rfl, rfl, rfl⟩, hdest, rfl, by simp⟩

theorem Carries.continueFrame (hsound : state.Sound Fit later) (hdest : Fit dest)
    (hcarries : Carries total nals true state dest.contents
      ((state.left later).flatMap BufferHeader.contents))
    (hlook : state.lookAheadNal = false) (hnext : state.continueFrame dest = some next) :
    Keeps total nals next later := by
  unfold PushInput.continueFrame at hnext
  obtain ⟨⟨copied, filled⟩, hcopied, hset⟩ := Option.bind_eq_some_iff.mp hnext
  obtain rfl := Option.some.inj hset
  obtain ⟨hcopies, hfit, rfl⟩ := hcarries.copyScratch hdest hcopied
  have hcopiedSound : Sound Fit { state with
      h264Scratch := { state.h264Scratch with nFilledLen := 0 } } later :=
    hsound.moved ⟨rfl, rfl, rfl, rfl⟩ hsound.dest
  split
  · exact Carries.setDest hcopies hcopiedSound (hfit.relabel _ _) hlook
  · exact hcopies.setDest hcopiedSound hfit hlook

theorem Carries.completeNal (hsound : state.Sound Fit later) (hdest : Fit dest)
    (hcarries : Carries total nals true state dest.contents
      ((state.left later).flatMap BufferHeader.contents))
    (hlook : state.lookAheadNal = false) (hnext : state.completeNal source dest = some next) :
    Keeps total nals next later := by
  unfold PushInput.completeNal at hnext
  split at hnext
  · rename_i hfirst
    obtain rfl := Option.some.inj hnext
    obtain ⟨hresting, hcodec, hstart, hholds, hoffset, hsize, hgrouped⟩ := hcarries
    rw [owed_empty hfirst.2] at hgrouped
    have hmarked : Carries total nals false
        { state with nalCount := 1, h264Scratch := state.h264Scratch.stamp source } dest.contents
        ((state.left later).flatMap BufferHeader.contents) := by
      refine ⟨hresting, hcodec, hstart, hholds.relabel _ _, hoffset, hsize, ?_⟩
      rw [owed_empty (by exact hfirst.2)]
      exact hgrouped
    exact hmarked.setDest (hsound.moved ⟨rfl, rfl, rfl, rfl⟩ hsound.dest) hdest hlook
  · obtain ⟨⟨middle, frame, isNewFrame⟩, hchecked, hplaced⟩ := Option.bind_eq_some_iff.mp hnext
    obtain ⟨hsame, hframe, hcontents, hnew⟩ := checkNal_sameNals hdest hchecked
    have hmoved := hsame.carries hcarries
    rw [← hcontents, ← hsame.toSameQueues.left_eq later] at hmoved
    have hmiddle : middle.Sound Fit later := hsound.moved hsame.toSameQueues
      (hsame.dest ▸ hsound.dest)
    cases isNewFrame with
    | true => exact hmoved.beginFrame hmiddle hframe (hsame.scratch ▸ hnew rfl) hplaced
    | false => exact hmoved.continueFrame hmiddle hframe (hsame.lookAhead.trans hlook) hplaced

theorem Keeps.parseH264 (hstate : Keeps total nals state later)
    (hsource : state.psourceFrame = some source) (hdest : state.pdestFrame = some dest)
    (hnext : state.parseH264 source dest = some next) : Keeps total nals next later := by
  have hcarries := hstate.carries
  rw [left_bytes hsource, destBytes, hdest] at hcarries
  simp only [Option.toList_some, List.flatMap_singleton] at hcarries
  unfold PushInput.parseH264 at hnext
  obtain ⟨⟨ahead, filled⟩, hahead, hnext⟩ := Option.bind_eq_some_iff.mp hnext
  obtain ⟨hcopied, hfilled, hlook, hsame⟩ :=
    hcarries.copyLookAhead hstate.waits (hstate.dest dest hdest) hahead
  have hvalid : source.Valid := hstate.sources source (by simp [left, hsource])
  have hend : source.nFilledLen = 0 → source.hasEos = true →
      (state.mInputPendingQ ++ later).flatMap BufferHeader.contents = [] := by
    intro _ heos
    obtain ⟨hpending, hlater⟩ := hstate.last hsource heos
    rw [hpending, hlater]
    rfl
  dsimp only at hnext
  rw [if_pos hcopied.startCodes] at hnext
  split at hnext
  · simp at hnext
  obtain ⟨hparsed, count, hcount, hconsumed⟩ := hcopied.parse hvalid hend ‹_›
  generalize parseScFrame ahead.mFrameParser source ahead.h264Scratch 1 = result
    at hparsed hconsumed hnext
  have hconsume := hstate.consume hsource hcount
  rw [← hconsumed] at hconsume
  set parsed : PushInput := { ahead with
    mFrameParser := result.parser
    psourceFrame := some result.source
    h264Scratch := result.dest
    pdestFrame := some filled } with hparsedState
  have hsound : parsed.Sound Fit later := by
    refine hconsume.moved ⟨rfl, hsame.pending, hsame.free, hsame.driver⟩ ?_
    rintro header ⟨rfl⟩
    exact hfilled
  have hleft : (parsed.left later).flatMap BufferHeader.contents =
      result.source.contents ++ (state.mInputPendingQ ++ later).flatMap BufferHeader.contents := by
    rw [left_bytes (by rfl)]
    simp only [hparsedState, hsame.pending]
  have hmoved : Carries total nals (decide (result.partialframe = 0)) parsed filled.contents
      ((parsed.left later).flatMap BufferHeader.contents) := by
    rw [hleft]
    exact hparsed.moved rfl rfl rfl rfl
  split at hnext
  · rename_i hzero
    rw [decide_eq_true hzero] at hmoved
    exact hmoved.completeNal hsound hfilled hlook hnext
  · rename_i hzero
    rw [decide_eq_false hzero] at hmoved
    split at hnext
    · simp at hnext
    · obtain rfl := Option.some.inj hnext
      exact hmoved.setDest hsound hfilled hlook

/-! ### The end of the stream -/

def discardsScratch (state : PushInput) : Bool :=
  match state.psourceFrame, state.pdestFrame with
  | some source, some dest =>
    source.nFilledLen = 0 && source.hasEos && dest.nFilledLen ≠ 0 && dest.hasEos &&
      (state.mutils.isNewFrame state.h264Scratch 0).any fun (_, _, isNewFrame) => isNewFrame
  | _, _ => false

/-- The stream is over: its NAL units are in the frames. -/
structure Delivered (nals : List (List UInt8)) (state : PushInput) (later : List BufferHeader) :
    Prop where
  returned : state.AllReturned
  later : later = []
  grouped : ∃ groups : List (List (List UInt8)),
    state.handed.map BufferHeader.contents = groups.map List.flatten ∧ groups.flatten = nals

theorem Carries.pushLast {ts : Int} (hcarries : Carries total nals true state dest.contents [])
    (hresting : state.mInputPendingQ = []) (hdest : Fit dest) (hlater : later = [])
    (hnext : state.pushLast source dest ts = some next) : Delivered nals next later := by
  unfold PushInput.pushLast at hnext
  obtain ⟨⟨copied, filled⟩, hcopied, hset⟩ := Option.bind_eq_some_iff.mp hnext
  obtain rfl := Option.some.inj hset
  obtain ⟨hcopies, -, rfl⟩ := hcarries.copyScratch hdest hcopied
  obtain ⟨groups, filling, hhanded, hfilling, hnals⟩ := hcopies.grouped
  rw [owed_nil hcopies.resting] at hnals
  refine ⟨returnSource_returned source ?_, hlater, groups ++ [filling], ?_, ?_⟩
  · exact (emptyThisBufferProxy_sources _ _).2.trans hresting
  · simp only [returnSource, popPendingQ, countFrame, emptyThisBufferProxy_handed, List.map_append,
      hhanded, List.map_cons, List.map_nil, ← hfilling]
    rfl
  · simpa [nal, BufferHeader.contents, BufferHeader.read] using hnals

theorem Carries.complete_nil (hcarries : Carries total nals complete state bytes []) :
    Carries total nals true state bytes [] := by
  obtain ⟨hresting, hcodec, hstart, hscratch, hoffset, hsize, hgrouped⟩ := hcarries
  rw [owed_nil hresting] at hgrouped
  refine ⟨hresting, hcodec, hstart, hscratch, hoffset, hsize, ?_⟩
  rw [owed_nil hresting]
  exact hgrouped

theorem Keeps.drainEos (hstate : Keeps total nals state later)
    (hsource : state.psourceFrame = some source) (hdest : state.pdestFrame = some dest)
    (hdrained : source.nFilledLen = 0) (heos : source.hasEos = true)
    (hkeeps : state.discardsScratch = false) (hnext : state.drainEos source dest = some next) :
    Keeps total nals next later ∨ Delivered nals next later := by
  obtain ⟨hpending, hlater⟩ := hstate.last hsource heos
  have hfit := hstate.dest dest hdest
  have hnone : (state.left later).flatMap BufferHeader.contents = [] := by
    rw [left_bytes hsource, BufferHeader.contents_of_empty hdrained, hpending, hlater]
    rfl
  have hcarries := hstate.carries
  rw [hnone, destBytes, hdest] at hcarries
  simp only [Option.toList_some, List.flatMap_singleton] at hcarries
  unfold PushInput.drainEos at hnext
  split at hnext
  · simp at hnext
  split at hnext
  · exact .inr (hcarries.complete_nil.pushLast hpending hfit hlater hnext)
  · rename_i hfilled
    obtain ⟨⟨utils, status, isNewFrame⟩, hnew, hset⟩ := Option.bind_eq_some_iff.mp hnext
    cases isNewFrame with
    | false =>
      have hmoved : Carries total nals true { state with mutils := utils } dest.contents [] :=
        hcarries.complete_nil.moved rfl rfl rfl rfl
      exact .inr (hmoved.pushLast hpending hfit hlater hset)
    | true =>
      obtain rfl := Option.some.inj hset
      have hplain : dest.hasEos = false := by
        by_contra hflag
        rw [Bool.not_eq_false] at hflag
        simp [discardsScratch, hsource, hdest, hdrained, heos, hfilled, hflag, hnew] at hkeeps
      have hmoved : Carries total nals state.lookAheadNal
          { state with mutils := utils, h264LastAuTs := state.h264Scratch.nTimeStamp }
          dest.contents [] :=
        hcarries.moved rfl rfl rfl rfl
      have hmovedSound : Sound Fit
          { state with mutils := utils, h264LastAuTs := state.h264Scratch.nTimeStamp } later :=
        hstate.moved ⟨rfl, rfl, rfl, rfl⟩ hstate.dest
      have hhanded := hmoved.handOver { dest with nTimeStamp := state.h264LastAuTs } rfl hfilled
        hplain
      have hpushed := emptyThisBufferProxy_sound
        ((hfit.relabel dest.nFlags state.h264LastAuTs).relabel _ _) hmovedSound
      have hsame := emptyThisBufferProxy_eq
        { state with mutils := utils, h264LastAuTs := state.h264Scratch.nTimeStamp }
        { dest with nTimeStamp := state.h264LastAuTs } hfilled hplain
      dsimp only at hhanded hpushed hsame ⊢
      generalize PushInput.emptyThisBufferProxy _ _ = proxied at hhanded hpushed hsame ⊢
      have hlook : proxied.lookAheadNal = state.lookAheadNal := by rw [hsame]
      have hscratch : proxied.h264Scratch = state.h264Scratch := by rw [hsame]
      have hqueues : proxied.left later = state.left later := by
        rw [hsame]
        rfl
      refine .inl ⟨hpushed.moved ⟨rfl, rfl, rfl, rfl⟩ (by simp [countFrame]), ?_, ?_⟩
      · have hleft : (({ proxied with pdestFrame := none } : PushInput).countFrame.left
            later).flatMap BufferHeader.contents = [] := by
          rw [← hnone, ← hqueues]
          rfl
        rw [hleft]
        exact (hlook ▸ hhanded).moved rfl rfl rfl rfl
      · simp only [countFrame, hlook, hscratch]
        exact hstate.waits

theorem Keeps.drainH264 (hstate : Keeps total nals state later)
    (hsource : state.psourceFrame = some source) (hkeeps : state.discardsScratch = false)
    (hnext : state.drainH264 source = some next) :
    Keeps total nals next later ∨ Delivered nals next later := by
  unfold PushInput.drainH264 at hnext
  split at hnext
  · obtain rfl := Option.some.inj hnext
    exact .inl hstate
  rename_i hfilled
  have hempty : source.contents = [] := BufferHeader.contents_of_empty (not_not.mp hfilled)
  split at hnext
  · rename_i heos
    cases hdest : state.pdestFrame with
    | none =>
      simp only [hdest, Option.some.injEq] at hnext
      exact .inl (hnext ▸ hstate)
    | some dest =>
      simp only [hdest] at hnext
      exact hstate.drainEos hsource hdest (not_not.mp hfilled) heos hkeeps hnext
  · rename_i heos
    rw [Bool.not_eq_true] at heos
    obtain rfl := Option.some.inj hnext
    refine .inl ⟨returnSource_sound hsource heos hstate.toSound, ?_, hstate.waits⟩
    have hcarries := hstate.carries
    rw [left_returnSource hsource later, List.flatMap_cons, hempty, List.nil_append] at hcarries
    exact hcarries.moved rfl rfl rfl rfl

/-! ### Runs -/

def InOrder (total : Nat) (nals : List (List UInt8)) (state : PushInput) (actions : List Action) :
    Prop :=
  Keeps total nals state (sources actions) ∨ Delivered nals state (sources actions)

theorem step_inOrder {action : Action} {actions : List Action}
    (hkeeps : action = .drain → state.discardsScratch = false)
    (hstate : InOrder total nals state (action :: actions))
    (hnext : state.step action = some next) : InOrder total nals next actions := by
  rcases hstate with hstate | ⟨hreturned, hlater, groups, hhanded, hgroups⟩
  · by_cases hevent : action ≠ .parse ∧ action ≠ .drain
    · obtain ⟨hsound, hsame, hleft⟩ := step_event fit_clears hstate.toSound hevent hnext
      refine .inl ⟨hsound, ?_, ?_⟩
      · rw [hsame.lookAhead, hsame.destBytes, hleft]
        exact hstate.carries.moved hsame.parser hsame.nalLength hsame.scratch hsame.handed
      · rw [hsame.lookAhead, hsame.scratch]
        exact hstate.waits
    · cases action with
      | emptyThisBuffer buffer => simp at hevent
      | emptyBufferDone index => simp at hevent
      | parse =>
        obtain ⟨source, dest, middle, hsource, hdest, hround, rfl⟩ := step_parse hnext
        rw [parseRound, hstate.carries.sameCodec] at hround
        have hparsed := hstate.parseH264 hsource hdest hround
        exact .inl ⟨hparsed.moved ⟨rfl, rfl, rfl, rfl⟩ hparsed.dest,
          hparsed.carries.moved rfl rfl rfl rfl, hparsed.waits⟩
      | drain =>
        obtain ⟨source, hsource, hround⟩ := step_drain hnext
        rw [drainRound, hstate.carries.sameCodec] at hround
        have hrest : Keeps total nals { state with parsed := false } (sources actions) :=
          ⟨hstate.toSound.moved ⟨rfl, rfl, rfl, rfl⟩ hstate.dest,
            hstate.carries.moved rfl rfl rfl rfl, hstate.waits⟩
        exact hrest.drainH264 hsource (hkeeps rfl) hround
  · obtain ⟨hreturned, hlater, hsame⟩ := step_returned hreturned hlater hnext
    exact .inr ⟨hreturned, hlater, groups, hsame ▸ hhanded, hgroups⟩

def timedBuffer (bytes : List UInt8) (rounds : Nat) : List Action :=
  .emptyThisBuffer { BufferHeader.ofBytes bytes with nFlags := bufferFlagEos, nTimeStamp := 5 } ::
    (List.replicate rounds [.parse, .drain]).flatten

theorem timedBuffer_sources (bytes : List UInt8) (rounds : Nat) (more : List Action) :
    sources (timedBuffer bytes rounds ++ more) =
      { BufferHeader.ofBytes bytes with nFlags := bufferFlagEos, nTimeStamp := 5 } ::
        sources more := by
  induction rounds with
  | zero => rfl
  | succ rounds ih =>
    simp only [timedBuffer, List.replicate_succ, List.flatten_cons] at ih ⊢
    exact ih

end PushInput

end Nozomi
