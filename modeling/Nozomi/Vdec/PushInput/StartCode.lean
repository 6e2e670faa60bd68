import Nozomi.Vdec.PushInput.Events
import Nozomi.Vdec.PushInput.Parsing

/-!
# The bytes of a start-code stream

For MPEG-4, H.263 and MPEG-2 every byte of the stream is in a frame that was handed over, in
`pdest_frame`, held back by the parser, or still to come. At the end of the stream the last frame goes
out without the bytes held back, and they are gone. So the frames are the whole stream exactly when its
split at the start codes ends with nothing pending.
-/

namespace Nozomi

namespace PushInput

def ScCodec (codec : CodecType) : Prop := codec = .mpeg4 ∨ codec = .h263 ∨ codec = .mpeg2

/-- No byte of the stream is lost so far, and the parser has still to make the end of its split. -/
structure Conserves (codec : CodecType) (stream : List UInt8) (state : PushInput)
    (later : List BufferHeader) : Prop
    extends state.Sound (BufferHeader.Holds (stream.length + 8)) later where
  resting : state.mFrameParser.Resting
  sameCodec : state.mFrameParser.codec = codec
  bytes : state.handed.flatMap BufferHeader.contents ++ state.destBytes ++
    state.mFrameParser.pending ++ (state.left later).flatMap BufferHeader.contents = stream
  owes : ∃ current, (state.mFrameParser.resume current
    ((state.left later).flatMap BufferHeader.contents)).pending = (split codec stream).pending

/-- The stream is over: the frames and the pending bytes of the split are all of it. -/
structure Ended (codec : CodecType) (stream : List UInt8) (state : PushInput)
    (later : List BufferHeader) : Prop where
  returned : state.AllReturned
  later : later = []
  bytes : state.handed.flatMap BufferHeader.contents ++ (split codec stream).pending = stream

theorem holds_clears (capacity : Nat) : Clears (BufferHeader.Holds capacity) :=
  fun _ flags ts hheader => hheader.clear.relabel flags ts

variable {codec : CodecType} {stream : List UInt8} {state next : PushInput}
  {later : List BufferHeader} {source dest : BufferHeader}

theorem Conserves.parse (hcodec : ScCodec codec) (hstate : Conserves codec stream state later)
    (hsource : state.psourceFrame = some source) (hdest : state.pdestFrame = some dest)
    (hstatus : (parseScFrame state.mFrameParser source dest 1).status ≠ -1) :
    Conserves codec stream
      { state with
        mFrameParser := (parseScFrame state.mFrameParser source dest 1).parser
        psourceFrame := some (parseScFrame state.mFrameParser source dest 1).source
        pdestFrame := some (parseScFrame state.mFrameParser source dest 1).dest } later := by
  by_cases hempty : source.nFilledLen = 0
  · rw [(parseScFrame_drained hempty hstatus).2]
    simp only [← hsource, ← hdest]
    exact hstate
  have hvalid : source.Valid := hstate.sources source (by simp [left, hsource])
  have hholds := hstate.dest dest hdest
  have hlength := congrArg List.length hstate.bytes
  simp only [destBytes, hdest, Option.toList_some, List.flatMap_singleton,
    left_bytes hsource, List.length_append, BufferHeader.contents_length hvalid,
    BufferHeader.contents_length hholds.toValid] at hlength
  have hroom := hholds.room
  obtain ⟨added, hparsed, howes⟩ := parseScFrame_filled hstate.resting hvalid (by omega) hholds
    (by omega)
  generalize parseScFrame state.mFrameParser source dest 1 = result at hparsed howes
  obtain ⟨count, hcount, hconsumed⟩ := hparsed.taken
  have hconsume := hstate.consume hsource hcount
  rw [← hconsumed] at hconsume
  refine ⟨hconsume.moved ⟨rfl, rfl, rfl, rfl⟩ ?_, hparsed.resting,
    hparsed.codec.trans hstate.sameCodec, ?_, ?_⟩
  · rintro header ⟨rfl⟩
    exact hparsed.holds
  · have hbytes := hparsed.bytes (by
      rw [hstate.sameCodec]
      rintro rfl
      simp [ScCodec] at hcodec)
    have hall := hstate.bytes
    rw [left_bytes hsource, destBytes, hdest] at hall
    rw [left_bytes (by rfl), destBytes]
    simp only [Option.toList_some, List.flatMap_singleton, hparsed.contents,
      List.append_assoc] at hall hbytes ⊢
    rw [← hall, ← List.append_assoc state.mFrameParser.pending, hbytes]
    simp only [List.append_assoc]
  · obtain ⟨current, hcurrent⟩ := hstate.owes
    rw [left_bytes hsource, howes] at hcurrent
    rw [left_bytes (by rfl)]
    split at hcurrent
    · exact ⟨[], by rwa [Split.prepend_pending] at hcurrent⟩
    · exact ⟨_, hcurrent⟩

theorem Conserves.handOver (hstate : Conserves codec stream state later) (frame : BufferHeader)
    (hholds : frame.Holds (stream.length + 8)) (hcontents : frame.contents = state.destBytes)
    (hfilled : frame.nFilledLen ≠ 0) (heos : frame.hasEos = false) :
    Conserves codec stream ((state.emptyThisBufferProxy frame).countFrame.popFreeQ
      fun dest => { dest with nFilledLen := 0 }) later := by
  obtain ⟨hsound, hresting, hcodec, hbytes, howes⟩ := hstate
  have hpushed := emptyThisBufferProxy_sound (hholds.relabel _ _) hsound
  have hhanded := emptyThisBufferProxy_handed state frame
  have hkeeps := emptyThisBufferProxy_eq state frame hfilled heos
  generalize state.emptyThisBufferProxy frame = proxied at hpushed hhanded hkeeps ⊢
  have hcounted : proxied.countFrame.Sound (BufferHeader.Holds (stream.length + 8)) later :=
    ⟨hpushed.sources, hpushed.eos, hpushed.waiting, hpushed.dest, hpushed.free, hpushed.driver⟩
  obtain ⟨hnext, hempty⟩ := popFreeQ_sound (fun dest => { dest with nFilledLen := 0 })
    (fun header hheader => ⟨holds_clears _ header header.nFlags header.nTimeStamp hheader,
      contents_clear ..⟩) hcounted
  obtain ⟨hparser, -, -, -, hsame, hsource, hpending⟩ :=
    proxied.countFrame.popFreeQ_fields fun dest => { dest with nFilledLen := 0 }
  generalize proxied.countFrame.popFreeQ (fun dest => { dest with nFilledLen := 0 }) = next
    at hnext hempty hparser hsame hsource hpending ⊢
  simp only [countFrame, hkeeps] at hparser hsource hpending
  have hleft : next.left later = state.left later := by
    simp only [left, hsource, hpending]
  refine ⟨hnext, hparser ▸ hresting, hparser ▸ hcodec, ?_, ?_⟩
  · rw [hsame, countFrame, hhanded, hempty, hleft, hparser, List.append_nil, List.flatMap_append,
      List.flatMap_singleton, hcontents]
    exact hbytes
  · rw [hparser, hleft]
    exact howes

theorem Conserves.complete (hstate : Conserves codec stream state later)
    (hdest : state.pdestFrame = some dest) (source : BufferHeader) :
    Conserves codec stream (state.completeScFrame source dest) later := by
  have hholds := hstate.dest dest hdest
  have hdestBytes : state.destBytes = dest.contents := by simp [destBytes, hdest]
  unfold completeScFrame
  split
  · exact ⟨⟨hstate.sources, hstate.eos, hstate.waiting, hstate.dest, hstate.free, hstate.driver⟩,
      hstate.resting, hstate.sameCodec, hstate.bytes, hstate.owes⟩
  have hframe := hholds.relabel (dest.nFlags &&& ~~~bufferFlagEos) dest.nTimeStamp
  have hcontents : ({ dest with nFlags := dest.nFlags &&& ~~~bufferFlagEos } :
    BufferHeader).contents = dest.contents := rfl
  have heos := hasEos_clear dest
  generalize ({ dest with nFlags := dest.nFlags &&& ~~~bufferFlagEos } : BufferHeader) = frame
    at hframe hcontents heos ⊢
  rw [← hdestBytes] at hcontents
  by_cases hfilled : frame.nFilledLen ≠ 0
  · rw [if_pos hfilled]
    exact hstate.handOver frame hframe hcontents hfilled heos
  rw [if_neg hfilled]
  have hnone : state.destBytes = [] :=
    hcontents.symm.trans (BufferHeader.contents_of_empty (not_not.mp hfilled))
  have hbytes := hstate.bytes
  rw [hnone] at hbytes
  split
  · obtain ⟨hnext, hsame⟩ := insertFreeQ_sound hframe hstate.toSound
    have hleft : (state.insertFreeQ frame).left later = state.left later := by
      unfold insertFreeQ
      split <;> rfl
    refine ⟨⟨hnext.sources, hnext.eos, hnext.waiting, by simp, hnext.free, hnext.driver⟩, ?_, ?_,
      ?_, ?_⟩
    · exact hsame.parser ▸ hstate.resting
    · exact hsame.parser ▸ hstate.sameCodec
    · change (state.insertFreeQ frame).handed.flatMap _ ++ [] ++
        (state.insertFreeQ frame).mFrameParser.pending ++
        ((state.insertFreeQ frame).left later).flatMap _ = stream
      rw [hsame.handed, hsame.parser, hleft]
      exact hbytes
    · change ∃ current, ((state.insertFreeQ frame).mFrameParser.resume current
        (((state.insertFreeQ frame).left later).flatMap _)).pending = _
      rw [hsame.parser, hleft]
      exact hstate.owes
  · refine ⟨⟨hstate.sources, hstate.eos, hstate.waiting, ?_, hstate.free, hstate.driver⟩,
      hstate.resting, hstate.sameCodec, ?_, hstate.owes⟩
    · rintro header ⟨rfl⟩
      exact hframe
    · simp only [destBytes, Option.toList_some, List.flatMap_singleton]
      rw [hcontents, hnone]
      exact hbytes

theorem Conserves.drain (hstate : Conserves codec stream state later)
    (hsource : state.psourceFrame = some source) :
    Conserves codec stream (state.drainScCodec source) later ∨
      Ended codec stream (state.drainScCodec source) later := by
  unfold drainScCodec
  by_cases hfilled : source.nFilledLen ≠ 0
  · rw [if_pos hfilled]
    exact .inl hstate
  rw [if_neg hfilled]
  have hempty : source.contents = [] := BufferHeader.contents_of_empty (not_not.mp hfilled)
  have hleft := left_returnSource hsource later
  cases heos : source.hasEos with
  | false =>
    rw [if_neg Bool.false_ne_true]
    refine .inl ⟨returnSource_sound hsource heos hstate.toSound, hstate.resting,
      hstate.sameCodec, ?_, ?_⟩
    · have hbytes := hstate.bytes
      rw [hleft, List.flatMap_cons, hempty, List.nil_append] at hbytes
      exact hbytes
    · have howes := hstate.owes
      rw [hleft, List.flatMap_cons, hempty, List.nil_append] at howes
      exact howes
  | true =>
    rw [if_pos rfl]
    cases hdest : state.pdestFrame with
    | none => exact .inl hstate
    | some dest =>
      obtain ⟨hpending, hlater⟩ := hstate.last hsource heos
      have hend : state.left later = [source] := by
        rw [left, hsource, hpending, hlater]
        rfl
      obtain ⟨current, howes⟩ := hstate.owes
      have hbytes := hstate.bytes
      rw [hend, List.flatMap_singleton, hempty] at howes hbytes
      rw [FrameParse.resume_nil hstate.resting.toOk] at howes
      refine .inr ⟨?_, hlater, ?_⟩
      · refine returnSource_returned source ?_
        exact (state.emptyThisBufferProxy_sources _).2.trans hpending
      · have hlast : ({ dest with nFlags := dest.nFlags ||| source.nFlags } :
          BufferHeader).contents = state.destBytes := by
          simp [destBytes, hdest, BufferHeader.contents, BufferHeader.read]
        simp only [returnSource, popPendingQ, countFrame, emptyThisBufferProxy_handed,
          List.flatMap_append, List.flatMap_singleton, hlast, ← howes]
        simpa using hbytes

theorem Conserves.parseRound (hcodec : ScCodec codec) (hstate : Conserves codec stream state later)
    (hsource : state.psourceFrame = some source) (hdest : state.pdestFrame = some dest)
    (hnext : state.parseRound source dest = some next) : Conserves codec stream next later := by
  have hparse : state.parseRound source dest = state.parseScCodec source dest := by
    rw [PushInput.parseRound, hstate.sameCodec]
    rcases hcodec with rfl | rfl | rfl <;> rfl
  rw [hparse, PushInput.parseScCodec] at hnext
  split at hnext
  · simp at hnext
  have hparsed := hstate.parse hcodec hsource hdest ‹_›
  split at hnext
  · obtain rfl := Option.some.inj hnext
    exact hparsed.complete rfl _
  · split at hnext
    · simp at hnext
    · obtain rfl := Option.some.inj hnext
      exact hparsed

/-! ### Runs -/

def Kept (codec : CodecType) (stream : List UInt8) (state : PushInput) (actions : List Action) :
    Prop :=
  Conserves codec stream state (sources actions) ∨ Ended codec stream state (sources actions)

theorem step_kept {action : Action} {actions : List Action} (hcodec : ScCodec codec)
    (hstate : Kept codec stream state (action :: actions))
    (hnext : state.step action = some next) : Kept codec stream next actions := by
  rcases hstate with hstate | ⟨hreturned, hlater, hbytes⟩
  · by_cases hevent : action ≠ .parse ∧ action ≠ .drain
    · obtain ⟨hsound, hsame, hleft⟩ := step_event (holds_clears _) hstate.toSound hevent hnext
      refine .inl ⟨hsound, hsame.parser ▸ hstate.resting, hsame.parser ▸ hstate.sameCodec, ?_, ?_⟩
      · rw [hsame.handed, hsame.destBytes, hsame.parser, hleft]
        exact hstate.bytes
      · rw [hsame.parser, hleft]
        exact hstate.owes
    · cases action with
      | emptyThisBuffer buffer => simp at hevent
      | emptyBufferDone index => simp at hevent
      | parse =>
        obtain ⟨source, dest, middle, hsource, hdest, hround, rfl⟩ := step_parse hnext
        obtain ⟨hsound, hresting, hsame, hbytes, howes⟩ :=
          hstate.parseRound hcodec hsource hdest hround
        exact .inl ⟨⟨hsound.sources, hsound.eos, hsound.waiting, hsound.dest, hsound.free,
          hsound.driver⟩, hresting, hsame, hbytes, howes⟩
      | drain =>
        obtain ⟨source, hsource, hround⟩ := step_drain hnext
        have hrest : Conserves codec stream { state with parsed := false } (sources actions) :=
          ⟨⟨hstate.sources, hstate.eos, hstate.waiting, hstate.dest, hstate.free, hstate.driver⟩,
            hstate.resting, hstate.sameCodec, hstate.bytes, hstate.owes⟩
        have hdrain : { state with parsed := false }.drainRound source =
            some ({ state with parsed := false }.drainScCodec source) := by
          rw [drainRound, hrest.sameCodec]
          rcases hcodec with rfl | rfl | rfl <;> rfl
        obtain rfl := Option.some.inj (hdrain.symm.trans hround)
        exact hrest.drain hsource
  · obtain ⟨hreturned, hlater, hhanded⟩ := step_returned hreturned hlater hnext
    exact .inr ⟨hreturned, hlater, hhanded ▸ hbytes⟩

/-- Sent in any division and with the driver returning its buffers at any time, a stream is in the
frames handed over exactly when it does not end in bytes that the parser holds back. -/
theorem pushInputScCodec_conserves_iff (codec : CodecType) (hcodec : ScCodec codec)
    (lastByte : UInt8) (utils : H264Utils) (scratch : BufferHeader) (pool : List BufferHeader)
    (actions : List Action) (last : PushInput)
    (hsources : ∀ source ∈ sources actions, source.Valid) (heos : EosLast (sources actions))
    (hpool : ∀ dest ∈ pool, dest.Holds
      (((sources actions).flatMap BufferHeader.contents).length + 8))
    (hrun : runSteps step (init (.initStartCodes codec lastByte) utils scratch pool) actions =
      some last)
    (hreturned : last.AllReturned) :
    last.handed.flatMap BufferHeader.contents = (sources actions).flatMap BufferHeader.contents ↔
      (split codec ((sources actions).flatMap BufferHeader.contents)).pending = [] := by
  set stream := (sources actions).flatMap BufferHeader.contents with hstream
  have hinit : Kept codec stream (init (.initStartCodes codec lastByte) utils scratch pool)
      actions := by
    refine .inl ⟨⟨hsources, heos, fun _ => rfl, by simp [init], hpool, by simp [init]⟩,
      FrameParse.initStartCodes_resting codec lastByte, rfl, ?_, [], ?_⟩
    · simp [init, left, destBytes, FrameParse.pending, FrameParse.initStartCodes, hstream]
    · simp [init, left, FrameParse.resume, FrameParse.atStartCode, FrameParse.initStartCodes,
        FrameParse.pending, split, hstream]
  have hlast : Kept codec stream last [] := runSteps_invariant
    (fun state action actions next => step_kept hcodec) (by rwa [List.append_nil]) hrun
  rcases hlast with hlast | ⟨-, -, hbytes⟩
  · have hnone := hlast.eos
    rw [left, hreturned.1, hreturned.2] at hnone
    exact absurd hnone (by simp [EosLast, sources])
  · constructor
    · intro hall
      rw [hall] at hbytes
      exact List.append_right_eq_self.mp hbytes
    · intro hnone
      rwa [hnone, List.append_nil] at hbytes

def singleBuffer (bytes : List UInt8) : List Action :=
  [.emptyThisBuffer { BufferHeader.ofBytes bytes with nFlags := bufferFlagEos },
    .parse, .drain, .parse, .drain]

theorem singleBuffer_eosLast (bytes : List UInt8) : EosLast (sources (singleBuffer bytes)) := by
  simp [sources, singleBuffer, Action.source?, EosLast, BufferHeader.hasEos, bufferFlagEos]

theorem pushInputScCodec_conserves_mpeg4 :
    ∃ last, runSteps step (init (.initStartCodes .mpeg4 0) (.new 32) (.blank 32) [.blank 32])
        (singleBuffer [0x00, 0x00, 0x01, 0xB6, 0x05]) = some last ∧
      (last.handed.flatMap BufferHeader.contents =
          (sources (singleBuffer [0x00, 0x00, 0x01, 0xB6, 0x05])).flatMap BufferHeader.contents ↔
        (split .mpeg4 ((sources (singleBuffer [0x00, 0x00, 0x01, 0xB6, 0x05])).flatMap
          BufferHeader.contents)).pending = []) := by
  have hsome : (runSteps step (init (.initStartCodes .mpeg4 0) (.new 32) (.blank 32) [.blank 32])
      (singleBuffer [0x00, 0x00, 0x01, 0xB6, 0x05])).any (fun last => decide last.AllReturned) := by
    decide
  obtain ⟨last, hrun, hreturned⟩ := (Option.any_eq_true _ _).mp hsome
  refine ⟨last, hrun, pushInputScCodec_conserves_iff .mpeg4 (.inl rfl) 0 (.new 32) (.blank 32)
    [.blank 32] (singleBuffer [0x00, 0x00, 0x01, 0xB6, 0x05]) last ?_ (singleBuffer_eosLast _) ?_
    hrun (of_decide_eq_true hreturned)⟩
  · intro source hsource
    obtain rfl := List.mem_singleton.mp hsource
    exact ⟨rfl, by decide, by decide⟩
  · intro dest hdest
    obtain rfl := List.mem_singleton.mp hdest
    exact ⟨BufferHeader.blank_valid (by decide), by decide⟩

/-- Zeros at the end of the stream could begin a start code, and are lost. -/
theorem pushInputScCodec_loses_zeros :
    ∃ last, runSteps step (init (.initStartCodes .mpeg4 0) (.new 32) (.blank 32) [.blank 32])
        (singleBuffer [0x00, 0x00, 0x01, 0xB6, 0x05, 0x00, 0x00]) = some last ∧
      last.AllReturned ∧ EosLast (sources (singleBuffer
        [0x00, 0x00, 0x01, 0xB6, 0x05, 0x00, 0x00])) ∧
      last.handed.flatMap BufferHeader.contents = [0x00, 0x00, 0x01, 0xB6, 0x05] ∧
      (sources (singleBuffer [0x00, 0x00, 0x01, 0xB6, 0x05, 0x00, 0x00])).flatMap
        BufferHeader.contents = [0x00, 0x00, 0x01, 0xB6, 0x05, 0x00, 0x00] := by
  have hsome : (runSteps step (init (.initStartCodes .mpeg4 0) (.new 32) (.blank 32) [.blank 32])
      (singleBuffer [0x00, 0x00, 0x01, 0xB6, 0x05, 0x00, 0x00])).any (fun last =>
        decide (last.AllReturned ∧ last.handed.flatMap BufferHeader.contents =
          [0x00, 0x00, 0x01, 0xB6, 0x05])) := by
    decide
  obtain ⟨last, hrun, hlast⟩ := (Option.any_eq_true _ _).mp hsome
  obtain ⟨hreturned, hhanded⟩ := of_decide_eq_true hlast
  exact ⟨last, hrun, hreturned, singleBuffer_eosLast _, hhanded, by decide⟩

end PushInput

end Nozomi
