import Nozomi.Vdec.FrameParser.Transition

/-!
# Runs of the two state machines

A run is a sequence of transitions over a list of bytes, the same for either machine. The entry machine
and the parsing machine each make a run over the source, so the rest of the development reasons about
one relation: how a run splits its bytes, and that it loses none.
-/

namespace Nozomi

open CodecType

/-- From a parser state with the bytes `data` before it, transitions lead to a parser state with the
bytes `left` before it, and release the bytes `released`. -/
inductive Run (start : FrameParse) (data : List UInt8) :
    FrameParse → List UInt8 → List UInt8 → Prop where
  | refl : Run start data start [] data
  | step {parser : FrameParse} {released tail : List UInt8} {byte : UInt8}
      (hrun : Run start data parser released (byte :: tail)) (hcode : parser.atStartCode = false) :
      Run start data (transition parser byte).parser
        (released ++ (transition parser byte).released)
        (if (transition parser byte).taken then tail else byte :: tail)

theorem FrameParse.pending_length {parser : FrameParse} (hcode : parser.atStartCode = false) :
    parser.pending.length = parser.parseState.withheld := by
  cases hstate : parser.parseState <;>
    simp only [atStartCode, hstate] at hcode <;>
    simp [pending, hstate, StartCodeState.withheld, CodecType.startCodePrefix] at hcode ⊢

namespace Run

variable {start parser : FrameParse} {data released left : List UInt8}

theorem trans {middle : FrameParse} {between first second : List UInt8}
    (hfirst : Run start data middle first between) (hsecond : Run middle between parser second left) :
    Run start data parser (first ++ second) left := by
  induction hsecond with
  | refl => rwa [List.append_nil]
  | step hrun hcode ih =>
    rw [← List.append_assoc]
    exact .step ih hcode

theorem keeps (hrun : Run start data parser released left) (hok : start.Ok) :
    parser.Ok ∧ parser.codec = start.codec ∧
      parser.skipFrameBoundary = start.skipFrameBoundary := by
  induction hrun with
  | refl => exact ⟨hok, rfl, rfl⟩
  | step hrun hcode ih =>
    obtain ⟨hprevious, hcodec, hskip⟩ := ih
    obtain ⟨hnext, hnextCodec, hnextSkip⟩ := transition_keeps hprevious hcode _
    exact ⟨hnext, hnextCodec.trans hcodec, hnextSkip.trans hskip⟩

theorem split_eq (hrun : Run start data parser released left) (hok : start.Ok)
    (hnone : parser.atStartCode = false) (skip : Bool) (current rest : List UInt8) :
    splitFrom start.codec start.headerFound skip current (start.pending ++ (data ++ rest)) =
      splitFrom start.codec parser.headerFound skip (current ++ released)
        (parser.pending ++ (left ++ rest)) := by
  induction hrun with
  | refl => rw [List.append_nil]
  | @step parser released tail byte hrun hcode ih =>
    obtain ⟨hprevious, hcodec, -⟩ := hrun.keeps hok
    have hstep := transition_split hprevious hcode byte (tail ++ rest) skip (current ++ released)
      hnone
    rw [hcodec] at hstep
    rw [ih hcode, List.cons_append, hstep, List.append_assoc]
    split <;> rfl

theorem split_found (hrun : Run start data parser released left) (hok : start.Ok)
    (hstart : start.atStartCode = false) (hfound : parser.atStartCode = true) (skip : Bool)
    (current rest : List UInt8) :
    splitFrom start.codec start.headerFound skip current (start.pending ++ (data ++ rest)) =
      if left ++ rest = [] then
        ⟨if skip then [] else [current ++ released], if skip then current ++ released else [],
          parser.pending⟩
      else
        (splitFrom start.codec parser.headerFound (start.codec.headerAt parser.pending)
          ((if skip then current ++ released else []) ++ parser.pending)
          (left ++ rest)).prepend (if skip then [] else [current ++ released]) := by
  cases hrun with
  | refl => rw [hstart] at hfound; simp at hfound
  | @step parser released tail byte hrun hcode =>
    obtain ⟨hprevious, hcodec, -⟩ := hrun.keeps hok
    obtain ⟨htaken, hreleased, hheader, -, hincomplete, hcodeAt⟩ :=
      transition_found hprevious hcode byte (tail ++ rest) hfound
    rw [hcodec] at hincomplete hcodeAt
    rw [hrun.split_eq hok hcode, List.cons_append, splitFrom_found hincomplete hcodeAt, htaken,
      hreleased, hheader, List.append_nil]
    rfl

theorem bytes_eq (hrun : Run start data parser released left) (hok : start.Ok)
    (hnone : parser.atStartCode = false) :
    start.pending ++ data = released ++ parser.pending ++ left := by
  induction hrun with
  | refl => rfl
  | @step parser released tail byte hrun hcode ih =>
    have hbytes := transition_bytes (hrun.keeps hok).1 hcode byte hnone
    rw [ih hcode, List.append_assoc released (transition parser byte).released, ← hbytes]
    split <;> simp

theorem left_suffix (hrun : Run start data parser released left) : left <:+ data := by
  induction hrun with
  | refl => exact List.suffix_rfl
  | @step parser released tail byte hrun hcode ih =>
    split
    · exact (List.suffix_cons byte tail).trans ih
    · exact ih

theorem bytes_found (hrun : Run start data parser released left) (hok : start.Ok)
    (hstart : start.atStartCode = false) (hfound : parser.atStartCode = true) :
    left.length < data.length ∧
      ∃ code, code.length = parser.parseState.withheld ∧
        start.pending ++ data = released ++ code ++ left := by
  cases hrun with
  | refl =>
    rw [hstart] at hfound
    simp at hfound
  | @step parser released tail byte hrun hcode =>
    obtain ⟨htaken, hreleased, -, hwithheld, -⟩ :=
      transition_found (hrun.keeps hok).1 hcode byte tail hfound
    have hlength := hrun.left_suffix.length_le
    rw [htaken, hreleased, List.append_nil]
    refine ⟨?_, parser.pending ++ [byte], ?_, ?_⟩
    · simp only [if_true, List.length_cons] at hlength ⊢
      omega
    · rw [List.length_append, List.length_singleton, hwithheld]
    · rw [hrun.bytes_eq hok hcode]
      simp

theorem length_eq (hrun : Run start data parser released left) (hok : start.Ok)
    (hstart : start.atStartCode = false) :
    released.length + parser.parseState.withheld + left.length =
      start.pending.length + data.length := by
  cases hfound : parser.atStartCode with
  | true =>
    obtain ⟨-, code, hlength, hbytes⟩ := hrun.bytes_found hok hstart hfound
    have := congrArg List.length hbytes
    simp only [List.length_append] at this
    omega
  | false =>
    have := congrArg List.length (hrun.bytes_eq hok hfound)
    simp only [List.length_append, FrameParse.pending_length hfound] at this
    omega

theorem released_eq {count : Nat} (hrun : Run start data parser released (data.drop count))
    (hok : start.Ok) (hstart : start.atStartCode = false) (hpending : start.pending = [])
    (hcount : count ≤ data.length) :
    released = data.take (count - parser.parseState.withheld) := by
  obtain ⟨code, hlength, hbytes⟩ : ∃ code : List UInt8,
      code.length = parser.parseState.withheld ∧ data = released ++ code ++ data.drop count := by
    cases hfound : parser.atStartCode with
    | true =>
      obtain ⟨-, code, hlength, hbytes⟩ := hrun.bytes_found hok hstart hfound
      exact ⟨code, hlength, by rwa [hpending, List.nil_append] at hbytes⟩
    | false =>
      have hbytes := hrun.bytes_eq hok hfound
      rw [hpending, List.nil_append] at hbytes
      exact ⟨parser.pending, FrameParse.pending_length hfound, hbytes⟩
  have htaken : data.take count = released ++ code := by
    have hsplit := List.take_append_drop count data
    conv_rhs at hsplit => rw [hbytes]
    exact List.append_cancel_right hsplit
  have hlengths := congrArg List.length htaken
  rw [List.length_append, List.length_take, Nat.min_eq_left hcount] at hlengths
  have hshorter : data.take (count - parser.parseState.withheld) =
      (data.take count).take (count - parser.parseState.withheld) := by
    rw [List.take_take, Nat.min_eq_left (Nat.sub_le _ _)]
  rw [hshorter, htaken, List.take_left' (by omega)]

end Run

/-! ### The measure of both loops -/

def StartCodeState.rank : StartCodeState → Nat
  | .A1 => 1
  | .A2 => 2
  | .A3 => 3
  | _ => 0

theorem transition_rank {parser : FrameParse} (hok : parser.Ok)
    (hcode : parser.atStartCode = false) (byte : UInt8) :
    (transition parser byte).parser.parseState.rank + 1 ≤
      parser.parseState.rank + if (transition parser byte).taken then 2 else 0 := by
  generalize hnext : transition parser byte = next
  have hcase := transition_case hok hcode byte
  rw [hnext] at hcase
  cases hcase <;> simp_all [StartCodeState.rank]

theorem transition_zeros {parser : FrameParse} (hok : parser.Ok)
    (hcode : parser.atStartCode = false) (hstate : parser.parseState ≠ .A0) (byte : UInt8)
    (hnext : (transition parser byte).parser.parseState ≠ .A0) :
    (transition parser byte).parser.headerFound = parser.headerFound ∧
      ((transition parser byte).released = [] ∨ (transition parser byte).released = [0]) := by
  generalize hstep : transition parser byte = next at hnext ⊢
  have hcase := transition_case hok hcode byte
  rw [hstep] at hcase
  cases hcase <;> simp_all

/-! ### The entry machine -/

theorem EntryState.running_iff (state : EntryState) :
    state.running = true ↔ 0 < state.source.nFilledLen ∧ state.parser.parseState ≠ .A0 ∧
      state.parser.atStartCode = false ∧ 0 < state.dest.room := by
  simp only [running, Bool.and_eq_true, decide_eq_true_eq, bne_iff_ne, ne_eq, Bool.not_eq_true',
    and_assoc]

/-- What the entry machine has done from `source` and `dest`: it took bytes of the source by a run, and
wrote what the run released. Short of `A0` that is a row of zeros. -/
def EntryRun (start : FrameParse) (source dest : BufferHeader) (state : EntryState) : Prop :=
  ∃ released count, count ≤ source.nFilledLen ∧ state.source = source.consume count ∧
    state.dest = dest.append released ∧
    Run start source.contents state.parser released state.source.contents ∧
    (state.parser.parseState ≠ .A0 →
      (∀ byte ∈ released, byte = 0) ∧ state.parser.headerFound = start.headerFound)

variable {start : FrameParse} {source : BufferHeader}

theorem entryStep_run {dest : BufferHeader} {state : EntryState} (hok : start.Ok) (hsource : source.Valid)
    (hdest : dest.nFilledLen + dest.nOffset ≤ dest.pBuffer.length) (hstate : EntryRun start source dest state)
    (hrunning : state.running = true) : EntryRun start source dest (entryStep state) := by
  obtain ⟨released, count, hcount, hconsumed, hwritten, hrun, hzeros⟩ := hstate
  obtain ⟨hfilled, hstateA0, hcode, -⟩ := state.running_iff.mp hrunning
  have hvalid : state.source.Valid := hconsumed ▸ BufferHeader.consume_valid hsource hcount
  have hcontents := BufferHeader.contents_eq_cons hvalid hfilled
  rw [entryStep_eq state hstateA0 (hrun.keeps hok).1]
  have hnext := (hcontents ▸ hrun).step hcode
  have hless : count < source.nFilledLen := by
    rw [hconsumed, BufferHeader.consume_nFilledLen] at hfilled
    omega
  have hnextZeros (hshort : (transition state.parser (state.source.byteAt 0)).parser.parseState ≠
      .A0) : (∀ byte ∈ released ++ (transition state.parser (state.source.byteAt 0)).released,
        byte = 0) ∧ (transition state.parser (state.source.byteAt 0)).parser.headerFound =
          start.headerFound := by
    obtain ⟨hheader, hreleased⟩ :=
      transition_zeros (hrun.keeps hok).1 hcode hstateA0 _ hshort
    obtain ⟨hall, hsame⟩ := hzeros hstateA0
    refine ⟨?_, hheader.trans hsame⟩
    intro byte hbyte
    rcases List.mem_append.mp hbyte with hbyte | hbyte
    · exact hall byte hbyte
    · rcases hreleased with hreleased | hreleased <;> simp [hreleased] at hbyte
      exact hbyte
  cases htaken : (transition state.parser (state.source.byteAt 0)).taken with
  | true =>
    rw [htaken, if_pos rfl] at hnext
    simp only [EntryRun, htaken, if_true]
    refine ⟨_, count + 1, hless, ?_, ?_, hnext, hnextZeros⟩
    · rw [hconsumed, BufferHeader.consume_consume]
    · rw [hwritten, BufferHeader.append_append hdest]
  | false =>
    rw [htaken, if_neg Bool.false_ne_true, ← hcontents] at hnext
    simp only [EntryRun, htaken, if_neg Bool.false_ne_true]
    refine ⟨_, count, hcount, hconsumed, ?_, hnext, hnextZeros⟩
    rw [hwritten, BufferHeader.append_append hdest]

theorem entryLoop_run {dest : BufferHeader} (hok : start.Ok) (hsource : source.Valid)
    (hdest : dest.nFilledLen + dest.nOffset ≤ dest.pBuffer.length) :
    let state := entryLoop (machineFuel source.nFilledLen) ⟨start, source, dest⟩
    EntryRun start source dest state ∧ state.running = false := by
  have hinit : EntryRun start source dest ⟨start, source, dest⟩ :=
    ⟨[], 0, Nat.zero_le _, rfl, (BufferHeader.append_nil dest).symm, .refl, by simp⟩
  have hbody : ∀ state, EntryRun start source dest state → state.running = true →
      EntryRun start source dest (entryStep state) :=
    fun state hstate hrunning => entryStep_run hok hsource hdest hstate hrunning
  refine ⟨whileLoop_invariant hbody _ _ hinit, ?_⟩
  refine whileLoop_exit (fun state =>
    2 * state.source.nFilledLen + state.parser.parseState.rank) hbody ?_ _ _ hinit ?_
  · intro state hstate hrunning
    obtain ⟨released, count, -, -, -, hrun, -⟩ := hstate
    obtain ⟨hfilled, hstateA0, hcode, -⟩ := state.running_iff.mp hrunning
    have hstate := (hrun.keeps hok).1
    have hrank := transition_rank hstate hcode (state.source.byteAt 0)
    rw [entryStep_eq state hstateA0 hstate]
    cases htaken : (transition state.parser (state.source.byteAt 0)).taken with
    | true =>
      simp only [htaken, if_true, BufferHeader.consume_nFilledLen] at hrank ⊢
      omega
    | false =>
      simp only [htaken, if_neg Bool.false_ne_true] at hrank ⊢
      omega
  · have hrank : start.parseState.rank ≤ 3 := by
      cases start.parseState <;> simp [StartCodeState.rank]
    simp only [machineFuel]
    omega

/-! ### The parsing machine -/

theorem ScanState.running_iff (tempLen : Nat) (state : ScanState) :
    state.running tempLen = true ↔
      state.parsedLength < tempLen ∧ state.parser.atStartCode = false := by
  simp only [running, Bool.and_eq_true, decide_eq_true_eq, Bool.not_eq_true']

/-- What the parsing machine has seen from `source`: a run over the bytes it has counted. -/
def ScanRun (start : FrameParse) (source : BufferHeader) (tempLen : Nat) (state : ScanState) :
    Prop :=
  state.parsedLength ≤ tempLen ∧
    ∃ released, Run start source.contents state.parser released
      (source.contents.drop state.parsedLength)

theorem scanStep_run {tempLen : Nat} {state : ScanState} (hsource : source.Valid)
    (htempLen : tempLen ≤ source.nFilledLen) (hstate : ScanRun start source tempLen state)
    (hrunning : state.running tempLen = true) : ScanRun start source tempLen (scanStep source state) := by
  obtain ⟨hparsed, released, hrun⟩ := hstate
  obtain ⟨hless, hcode⟩ := (state.running_iff tempLen).mp hrunning
  have hbyte : source.contents.drop state.parsedLength =
      source.byteAt state.parsedLength :: source.contents.drop (state.parsedLength + 1) := by
    have hvalid := BufferHeader.consume_valid hsource (Nat.le_trans hparsed htempLen)
    have hcons := BufferHeader.contents_eq_cons hvalid
      (by rw [BufferHeader.consume_nFilledLen]; omega)
    rwa [BufferHeader.byteAt_consume, BufferHeader.consume_consume,
      BufferHeader.consume_contents, BufferHeader.consume_contents, Nat.add_zero] at hcons
  have hnext := (hbyte ▸ hrun).step hcode
  rw [scanStep_eq]
  cases htaken : (transition state.parser (source.byteAt state.parsedLength)).taken with
  | true =>
    rw [htaken, if_pos rfl] at hnext
    simp only [ScanRun, htaken, if_true]
    exact ⟨hless, _, hnext⟩
  | false =>
    rw [htaken, if_neg Bool.false_ne_true, ← hbyte] at hnext
    simp only [ScanRun, htaken, if_neg Bool.false_ne_true]
    exact ⟨hparsed, _, hnext⟩

theorem scanLoop_run {tempLen : Nat} (hok : start.Ok) (hsource : source.Valid)
    (htempLen : tempLen ≤ source.nFilledLen) :
    let state := scanLoop source tempLen (machineFuel tempLen) ⟨start, 0⟩
    ScanRun start source tempLen state ∧ state.running tempLen = false := by
  have hinit : ScanRun start source tempLen ⟨start, 0⟩ := ⟨Nat.zero_le _, [], .refl⟩
  have hbody : ∀ state, ScanRun start source tempLen state → state.running tempLen = true →
      ScanRun start source tempLen (scanStep source state) :=
    fun state hstate hrunning => scanStep_run hsource htempLen hstate hrunning
  refine ⟨whileLoop_invariant hbody _ _ hinit, ?_⟩
  refine whileLoop_exit (fun state =>
    2 * (tempLen - state.parsedLength) + state.parser.parseState.rank) hbody ?_ _ _ hinit ?_
  · intro state hstate hrunning
    obtain ⟨-, released, hrun⟩ := hstate
    obtain ⟨hless, hcode⟩ := (state.running_iff tempLen).mp hrunning
    have hrank := transition_rank (hrun.keeps hok).1 hcode (source.byteAt state.parsedLength)
    rw [scanStep_eq]
    cases htaken : (transition state.parser (source.byteAt state.parsedLength)).taken with
    | true =>
      simp only [htaken, if_true] at hrank ⊢
      omega
    | false =>
      simp only [htaken, if_neg Bool.false_ne_true] at hrank ⊢
      omega
  · have hrank : start.parseState.rank ≤ 3 := by
      cases start.parseState <;> simp [StartCodeState.rank]
    simp only [machineFuel]
    omega

end Nozomi
