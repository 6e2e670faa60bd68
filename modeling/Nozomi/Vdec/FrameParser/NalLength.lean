import Nozomi.Base.BigEndian
import Nozomi.Vdec.FrameParser.Feed

/-!
# Length-prefixed NAL units

`parse_h264_nallength` on a stream of records, each a big-endian length and a payload: it puts the
length together byte by byte, writes an Annex B start code and copies the payload behind it. The
invariant of a run says where in a record the parser stands, with a length field or a payload cut by the
end of a buffer at any place.
-/

namespace Nozomi

open CodecType

def nalRecord (nalLength : Nat) (payload : List UInt8) : List UInt8 :=
  toBigEndian nalLength payload.length ++ payload

def annexB (payload : List UInt8) : List UInt8 := h264.startCodePrefix 4 ++ payload

theorem nalRecord_length (nalLength : Nat) (payload : List UInt8) :
    (nalRecord nalLength payload).length = nalLength + payload.length := by
  rw [nalRecord, List.length_append, toBigEndian_length]

/-! ### The length field -/

def partialLength (nalLength : Nat) (seen : List UInt8) : Nat :=
  bigEndian seen * 2 ^ (8 * (nalLength - seen.length))

variable {nalLength : Nat}

theorem partialLength_concat {seen : List UInt8} (hseen : seen.length < nalLength) (hfour : nalLength ≤ 4)
    (byte : UInt8) :
    (partialLength nalLength seen |||
        byte.toNat <<< ((nalLength - seen.length - 1) <<< 3)) % 2 ^ 32 =
      partialLength nalLength (seen ++ [byte]) := by
  obtain ⟨more, hmore⟩ : ∃ more, nalLength = seen.length + 1 + more :=
    ⟨nalLength - seen.length - 1, by omega⟩
  have hshift : (nalLength - seen.length - 1) <<< 3 = 8 * more := by
    rw [Nat.shiftLeft_eq]
    omega
  have hbefore : 8 * (nalLength - seen.length) = 8 * more + 8 := by omega
  have hafter : 8 * (nalLength - (seen ++ [byte]).length) = 8 * more := by
    rw [List.length_append, List.length_singleton]
    omega
  have hlt : bigEndian (seen ++ [byte]) * 2 ^ (8 * more) < 2 ^ 32 := by
    calc bigEndian (seen ++ [byte]) * 2 ^ (8 * more)
        < 256 ^ (seen ++ [byte]).length * 2 ^ (8 * more) :=
          Nat.mul_lt_mul_of_pos_right (bigEndian_lt _) (Nat.two_pow_pos _)
      _ = 2 ^ (8 * nalLength) := by
          rw [List.length_append, List.length_singleton, show 256 = 2 ^ 8 by rfl, ← pow_mul,
            ← pow_add]
          congr 1
          omega
      _ ≤ 2 ^ 32 := Nat.pow_le_pow_right (by decide) (by omega)
  rw [partialLength, partialLength, hshift, hbefore, hafter, shifted_or_byte, ← bigEndian_concat,
    Nat.mod_eq_of_lt hlt]

/-- The parser is in a length field of which it has taken the bytes `seen`. -/
structure InLength (nalLength : Nat) (parser : FrameParse) (seen : List UInt8) : Prop where
  nalLength_eq : parser.nalLength = nalLength
  stateNal_eq : parser.stateNal = .lengthAcc
  accum : parser.accumLength = seen.length
  short : seen.length < nalLength
  value : parser.bytesTobeparsed = partialLength nalLength seen

/-- The parser is in a payload, or at its end, with `left` bytes to come. -/
structure InPayload (nalLength : Nat) (parser : FrameParse) (left : Nat) : Prop where
  nalLength_eq : parser.nalLength = nalLength
  stateNal_eq : parser.stateNal = .parsing
  accum : parser.accumLength = 0
  value : parser.bytesTobeparsed = left

theorem accumulateLength_spec {tempLen : Nat} (hfour : nalLength ≤ 4) (fuel : Nat) :
    ∀ (state : EntryState) (parsedLength : Nat) (seen : List UInt8), state.source.Valid →
      InLength nalLength state.parser seen → tempLen - parsedLength ≤ state.source.nFilledLen →
      tempLen - parsedLength ≤ fuel →
      ∃ count, count ≤ tempLen - parsedLength ∧
        (accumulateLength tempLen fuel state parsedLength).source = state.source.consume count ∧
        ((count = tempLen - parsedLength ∧
            InLength nalLength (accumulateLength tempLen fuel state parsedLength).parser
              (seen ++ state.source.contents.take count) ∧
            (accumulateLength tempLen fuel state parsedLength).dest = state.dest) ∨
          (seen.length + count = nalLength ∧
            InPayload nalLength (accumulateLength tempLen fuel state parsedLength).parser
              (bigEndian (seen ++ state.source.contents.take count)) ∧
            (accumulateLength tempLen fuel state parsedLength).dest =
              state.dest.append (h264.startCodePrefix 4))) := by
  induction fuel with
  | zero =>
    intro state parsedLength seen hsource hseen hlength hfuel
    refine ⟨0, Nat.zero_le _, rfl, .inl ⟨by omega, ?_, rfl⟩⟩
    rwa [List.take_zero, List.append_nil]
  | succ fuel ih =>
    intro state parsedLength seen hsource hseen hlength hfuel
    rw [accumulateLength]
    by_cases hmore : parsedLength < tempLen
    · rw [if_pos hmore]
      obtain ⟨rfl, hstate, haccum, hshort, hvalue⟩ := hseen
      have hfilled : 0 < state.source.nFilledLen := by omega
      have hcontents := BufferHeader.contents_eq_cons hsource hfilled
      have hconsumed := BufferHeader.consume_valid hsource (show 1 ≤ state.source.nFilledLen from hfilled)
      have hor := partialLength_concat hshort hfour (state.source.byteAt 0)
      dsimp only
      rw [hvalue, haccum, hor]
      by_cases hlast : seen.length + 1 = state.parser.nalLength
      · rw [if_pos hlast]
        refine ⟨1, by omega, rfl, .inr ⟨hlast, ⟨rfl, rfl, rfl, ?_⟩, rfl⟩⟩
        rw [hcontents, List.take_succ_cons, List.take_zero, partialLength, List.length_append,
          List.length_singleton, hlast, Nat.sub_self, Nat.mul_zero, pow_zero, Nat.mul_one]
      rw [if_neg hlast]
      have hnext : InLength state.parser.nalLength
          { state.parser with
            bytesTobeparsed := partialLength state.parser.nalLength (seen ++ [state.source.byteAt 0])
            accumLength := seen.length + 1 } (seen ++ [state.source.byteAt 0]) := by
        refine ⟨rfl, hstate, ?_, ?_, rfl⟩
        · rw [List.length_append, List.length_singleton]
        · rw [List.length_append, List.length_singleton]
          omega
      obtain ⟨count, hcount, hsourceEq, houtcome⟩ :=
        ih ⟨_, state.source.consume 1, state.dest⟩ (parsedLength + 1) _ hconsumed hnext
          (by rw [BufferHeader.consume_nFilledLen]; omega) (by omega)
      have htake : seen ++ state.source.contents.take (count + 1) =
          seen ++ [state.source.byteAt 0] ++ (state.source.consume 1).contents.take count := by
        rw [hcontents, List.take_succ_cons, List.append_assoc]
        rfl
      rw [← htake, List.length_append, List.length_singleton] at houtcome
      refine ⟨count + 1, by omega, ?_, ?_⟩
      · rw [hsourceEq, BufferHeader.consume_consume, Nat.add_comm]
      · refine houtcome.imp (fun hend => ?_) (fun hend => ?_)
        · exact ⟨by omega, hend.2⟩
        · exact ⟨by omega, hend.2⟩
    · rw [if_neg hmore]
      refine ⟨0, Nat.zero_le _, rfl, .inl ⟨by omega, ?_, rfl⟩⟩
      rwa [List.take_zero, List.append_nil]

/-! ### The payload -/

theorem copyNal_payload (state : EntryState) {left : Nat} (hpayload : InPayload nalLength state.parser left) :
    copyNal state =
      ⟨{ state.parser with
          bytesTobeparsed := left - min (min state.source.nFilledLen state.dest.room) left },
        state.source.consume (min (min state.source.nFilledLen state.dest.room) left),
        state.dest.append
          (state.source.read (min (min state.source.nFilledLen state.dest.room) left))⟩ := by
  obtain ⟨-, hstate, -, hvalue⟩ := hpayload
  unfold copyNal
  dsimp only
  generalize min state.source.nFilledLen state.dest.room = tempLen
  by_cases hpos : tempLen > 0
  · rw [if_pos ⟨hstate, hpos⟩, hvalue]
    by_cases hless : tempLen < left
    · rw [if_pos hless, Nat.min_eq_left (Nat.le_of_lt hless)]
    · rw [if_neg hless, Nat.min_eq_right (by omega), Nat.sub_self]
  · have hzero : tempLen = 0 := by omega
    rw [if_neg (fun h => hpos h.2), hzero, Nat.zero_min, Nat.sub_zero, ← hvalue]
    simp [BufferHeader.read, BufferHeader.append, memcpy]

theorem finishNal_payload {state : EntryState} {payload later rest : List UInt8}
    (hpayload : InPayload nalLength state.parser payload.length) (hnal : 0 < nalLength)
    (hsource : state.source.Valid) (hdest : state.dest.Valid)
    (hdata : state.source.contents ++ rest = payload ++ later) :
    ∃ moved, moved ≤ state.source.nFilledLen ∧ moved ≤ payload.length ∧
      (0 < state.source.nFilledLen → 0 < state.dest.room → 0 < payload.length → 0 < moved) ∧
      (finishNal state).status = 1 ∧
      (finishNal state).source = state.source.consume moved ∧
      (finishNal state).dest.Valid ∧
      (finishNal state).dest.contents = state.dest.contents ++ payload.take moved ∧
      (state.source.consume moved).contents ++ rest = payload.drop moved ++ later ∧
      ((moved = payload.length ∧ (finishNal state).partialframe = 0 ∧
          InLength nalLength (finishNal state).parser []) ∨
        (moved < payload.length ∧ (finishNal state).partialframe = 1 ∧
          InPayload nalLength (finishNal state).parser (payload.drop moved).length)) := by
  have hcopy := copyNal_payload { state with dest := state.dest.stamp state.source } hpayload
  have hstamped := BufferHeader.stamp_valid hdest state.source
  have hroom := hdest.room_eq
  have hfits := hdest.fits
  have hlength := BufferHeader.contents_length hsource
  simp only [BufferHeader.stamp_room] at hcopy
  generalize hmoved : min (min state.source.nFilledLen state.dest.room) payload.length = moved
    at hcopy
  have hread : state.source.read moved = payload.take moved := by
    rw [← BufferHeader.contents_take (by omega),
      ← List.take_append_of_le_length  (by omega), hdata,
      List.take_append_of_le_length (by omega)]
  have hreadLength : (state.source.read moved).length = moved :=
    BufferHeader.read_length hsource (by omega)
  have hleft : (state.source.consume moved).contents ++ rest = payload.drop moved ++ later := by
    rw [BufferHeader.consume_contents, ← List.drop_append_of_le_length (by omega), hdata,
      List.drop_append_of_le_length (by omega)]
  have hwritten : (state.dest.stamp state.source).nOffset +
      (state.dest.stamp state.source).nFilledLen + (state.source.read moved).length ≤
        (state.dest.stamp state.source).nAllocLen := by
    simp only [BufferHeader.stamp_nOffset, BufferHeader.stamp_nFilledLen,
      BufferHeader.stamp_nAllocLen]
    omega
  have hvalid := BufferHeader.append_valid hstamped hwritten
  have hcontents := BufferHeader.append_contents hstamped hwritten
  rw [hread, BufferHeader.stamp_contents] at hcontents
  obtain ⟨hnalLength, hstate, haccum, hvalue⟩ := hpayload
  refine ⟨moved, by omega, by omega, fun _ _ _ => by omega, ?_⟩
  unfold finishNal
  dsimp only
  rw [hcopy]
  by_cases hend : moved = payload.length
  · rw [if_pos ⟨by simp only; omega, hstate⟩]
    refine ⟨rfl, rfl, hvalid, by rw [hread]; exact hcontents, hleft,
      .inl ⟨hend, rfl, ⟨hnalLength, rfl, haccum, hnal, ?_⟩⟩⟩
    simp only [hend, Nat.sub_self]
    simp [partialLength, bigEndian]
  · rw [if_neg (fun h => hend (by have := h.1; simp only at this; omega))]
    refine ⟨rfl, rfl, hvalid, by rw [hread]; exact hcontents, hleft,
      .inr ⟨by omega, rfl, ⟨hnalLength, hstate, haccum, ?_⟩⟩⟩
    rw [List.length_drop]

theorem finishNal_length {state : EntryState} {seen : List UInt8} (hseen : InLength nalLength state.parser seen) :
    finishNal state =
      ⟨1, state.parser, state.source, state.dest.stamp state.source, 1⟩ := by
  have hstate := hseen.stateNal_eq
  simp [finishNal, copyNal, hstate]

/-! ### Between two calls -/

/-- Where the parser stands: `todo` are the payloads not reported yet, `written` is what the
destination has, `data` is still to come. -/
inductive NalProgress (nalLength : Nat) (parser : FrameParse) (written data : List UInt8)
    (todo : List (List UInt8)) : Prop where
  | length (seen : List UInt8) (hseen : InLength nalLength parser seen) (hwritten : written = [])
      (hdata : seen ++ data = todo.flatMap (nalRecord nalLength))
  | payload (copied left : List UInt8) (later : List (List UInt8))
      (hpayload : InPayload nalLength parser left.length) (hleft : left ≠ [])
      (hwritten : written = annexB copied) (htodo : todo = (copied ++ left) :: later)
      (hdata : data = left ++ later.flatMap (nalRecord nalLength))

theorem NalProgress.finished {parser : FrameParse} {written : List UInt8} {todo : List (List UInt8)}
    (hprogress : NalProgress nalLength parser written [] todo) : todo = [] := by
  cases hprogress with
  | length seen hseen hwritten hdata =>
    cases todo with
    | nil => rfl
    | cons payload later =>
      have hlength := congrArg List.length hdata
      have hshort := hseen.short
      rw [List.append_nil, List.flatMap_cons, List.length_append, nalRecord_length] at hlength
      omega
  | payload copied left later hpayload hleft hwritten htodo hdata =>
    exact absurd (List.append_eq_nil_iff.mp hdata.symm).1 hleft

theorem finishNal_progress (state : EntryState) (copied left rest : List UInt8) (later : List (List UInt8))
    (hpayload : InPayload nalLength state.parser left.length) (hnal : 0 < nalLength)
    (hsource : state.source.Valid) (hdest : state.dest.Valid) (hwritten : state.dest.contents = annexB copied)
    (hdata : state.source.contents ++ rest = left ++ later.flatMap (nalRecord nalLength)) :
    ∃ moved, moved ≤ state.source.nFilledLen ∧
      (0 < state.source.nFilledLen → 0 < state.dest.room → 0 < left.length → 0 < moved) ∧
      (finishNal state).status = 1 ∧
      (finishNal state).source = state.source.consume moved ∧ (finishNal state).dest.Valid ∧
      (((finishNal state).partialframe = 0 ∧
          (finishNal state).dest.contents = annexB (copied ++ left) ∧
          NalProgress nalLength (finishNal state).parser []
            ((finishNal state).source.contents ++ rest) later) ∨
        ((finishNal state).partialframe = 1 ∧
          NalProgress nalLength (finishNal state).parser (finishNal state).dest.contents
            ((finishNal state).source.contents ++ rest) ((copied ++ left) :: later))) := by
  obtain ⟨moved, hmoved, hle, hpos, hstatus, hsourceEq, hvalid, hcontents, hleftover, hend⟩ :=
    finishNal_payload hpayload hnal hsource hdest hdata
  refine ⟨moved, hmoved, hpos, hstatus, hsourceEq, hvalid, ?_⟩
  rw [hwritten, annexB, List.append_assoc] at hcontents
  rw [hsourceEq, hleftover]
  rcases hend with ⟨rfl, hzero, hlength⟩ | ⟨hless, hone, hmore⟩
  · rw [List.take_length] at hcontents
    refine .inl ⟨hzero, hcontents, .length [] hlength rfl ?_⟩
    rw [List.drop_length, List.nil_append, List.nil_append]
  · refine .inr ⟨hone, .payload (copied ++ left.take moved) (left.drop moved) later hmore ?_
      hcontents ?_ rfl⟩
    · rw [← List.length_pos_iff, List.length_drop]
      omega
    · rw [List.append_assoc, List.take_append_drop]

theorem parseH264Nallength_progress {parser : FrameParse} {source dest : BufferHeader} {rest : List UInt8}
    {todo : List (List UInt8)} (hfour : nalLength ≤ 4)
    (hbounded : ∀ payload ∈ todo, payload.length < 256 ^ nalLength) (hsource : source.Valid) (hdest : dest.Valid)
    (hprogress : NalProgress nalLength parser dest.contents (source.contents ++ rest) todo)
    (hstatus : (parseH264Nallength parser source dest 1).status = 1) :
    ∃ count, 0 < count ∧ count ≤ source.nFilledLen ∧
      (parseH264Nallength parser source dest 1).source = source.consume count ∧
      (parseH264Nallength parser source dest 1).dest.Valid ∧
      (((parseH264Nallength parser source dest 1).partialframe = 0 ∧
          ∃ payload later, todo = payload :: later ∧
            (parseH264Nallength parser source dest 1).dest.contents = annexB payload ∧
            NalProgress nalLength (parseH264Nallength parser source dest 1).parser []
              ((parseH264Nallength parser source dest 1).source.contents ++ rest) later) ∨
        ((parseH264Nallength parser source dest 1).partialframe = 1 ∧
          NalProgress nalLength (parseH264Nallength parser source dest 1).parser
            (parseH264Nallength parser source dest 1).dest.contents
            ((parseH264Nallength parser source dest 1).source.contents ++ rest) todo)) := by
  by_cases hchecks : dest.room < 4 ∨ source.nFilledLen = 0 ∨ parser.nalLength = 0
  · rw [parseH264Nallength, if_pos hchecks] at hstatus
    simp at hstatus
  have hroom := hdest.room_eq
  have hfits := hdest.fits
  cases hprogress with
  | payload copied left later hpayload hleft hwritten htodo hdata =>
    have hparsing : ¬ parser.stateNal = .lengthAcc := by simp [hpayload.stateNal_eq]
    have hnal : 0 < nalLength := by
      have := hpayload.nalLength_eq
      omega
    obtain ⟨moved, hmoved, hpos, -, hsourceEq, hvalid, hend⟩ :=
      finishNal_progress ⟨parser, source, dest⟩ copied left rest later hpayload hnal hsource hdest
        hwritten hdata
    rw [parseH264Nallength, if_neg hchecks, if_neg hparsing]
    have hleftPos : 0 < left.length := List.length_pos_iff.mpr hleft
    have hsourcePos : 0 < source.nFilledLen := by omega
    have hroomPos : 0 < dest.room := by omega
    refine ⟨moved, hpos hsourcePos hroomPos hleftPos, hmoved, hsourceEq, hvalid, ?_⟩
    subst htodo
    exact hend.imp (fun hzero => ⟨hzero.1, _, _, rfl, hzero.2⟩) id
  | length seen hseen hwritten hdata =>
    have hlength := BufferHeader.contents_length hsource
    have hshort := hseen.short
    rw [parseH264Nallength, if_neg hchecks, if_pos hseen.stateNal_eq]
    dsimp only
    generalize htempLen : min source.nFilledLen dest.room = tempLen
    obtain ⟨count, hcount, hsourceEq, hend⟩ :=
      accumulateLength_spec hfour tempLen ⟨parser, source, dest⟩ 0 seen hsource hseen
        (show tempLen - 0 ≤ source.nFilledLen by omega) (Nat.sub_le _ _)
    rw [Nat.sub_zero] at hcount hend
    generalize accumulateLength tempLen tempLen ⟨parser, source, dest⟩ 0 = state at *
    obtain ⟨next, nextSource, nextDest⟩ := state
    simp only at hsourceEq hend
    rcases hend with ⟨hall, hmore, rfl⟩ | ⟨hwhole, hpayload, rfl⟩
    · -- The source ends in the length field: with four bytes of room nothing else stops the loop.
      have hmoreShort := hmore.short
      rw [List.length_append, List.length_take] at hmoreShort
      have hdrained : count = source.nFilledLen := by omega
      rw [finishNal_length hmore]
      refine ⟨count, by omega, by omega, hsourceEq, BufferHeader.stamp_valid hdest _,
        .inr ⟨rfl, .length _ hmore hwritten ?_⟩⟩
      rw [hsourceEq, BufferHeader.consume_contents, List.append_assoc,
        ← List.append_assoc (source.contents.take count), List.take_append_drop, hdata]
    · -- The length field is complete, so the bytes behind it begin with its payload.
      obtain ⟨payload, later, rfl⟩ : ∃ payload later, todo = payload :: later := by
        cases todo with
        | nil =>
          have := congrArg List.length hdata
          simp only [List.length_append, List.flatMap_nil, List.length_nil] at this
          omega
        | cons payload later => exact ⟨payload, later, rfl⟩
      rw [List.flatMap_cons, nalRecord, List.append_assoc,
        ← List.take_append_drop count source.contents, List.append_assoc,
        ← List.append_assoc seen] at hdata
      obtain ⟨hfield, hrest⟩ := List.append_inj hdata (by
        rw [List.length_append, List.length_take, toBigEndian_length]
        omega)
      rw [hfield, bigEndian_toBigEndian (hbounded payload (List.mem_cons_self ..))] at hpayload
      have hstartCode : (h264.startCodePrefix 4).length = 4 := rfl
      have hvalid := BufferHeader.append_valid hdest
        (show dest.nOffset + dest.nFilledLen + (h264.startCodePrefix 4).length ≤ dest.nAllocLen by
          omega)
      have hcontents := BufferHeader.append_contents hdest
        (show dest.nOffset + dest.nFilledLen + (h264.startCodePrefix 4).length ≤ dest.nAllocLen by
          omega)
      rw [hwritten, List.nil_append] at hcontents
      subst hsourceEq
      obtain ⟨moved, hmoved, -, -, hmovedEq, hmovedValid, hend⟩ :=
        finishNal_progress ⟨next, source.consume count, dest.append (h264.startCodePrefix 4)⟩ []
          payload rest later hpayload (by omega) (BufferHeader.consume_valid hsource (by omega)) hvalid
          (by rw [hcontents, annexB, List.append_nil])
          (by rw [BufferHeader.consume_contents]; exact hrest)
      rw [BufferHeader.consume_nFilledLen] at hmoved
      refine ⟨count + moved, by omega, by omega, ?_, hmovedValid, ?_⟩
      · rw [hmovedEq, BufferHeader.consume_consume]
      · exact hend.imp (fun hzero => ⟨hzero.1, _, _, rfl, hzero.2⟩) id

/-! ### A run -/

/-- The payloads are those reported and those still to report, and every call has kept the destination
inside its allocation. -/
def NalRun (nalLength : Nat) (payloads : List (List UInt8)) (feed : Feed) (data : List UInt8) :
    Prop :=
  ∃ reported todo, payloads = reported ++ todo ∧ feed.frames = reported.map annexB ∧
    NalProgress nalLength feed.parser feed.dest.contents data todo ∧ feed.dest.Valid ∧
    ∀ header ∈ feed.written, header.Inside

theorem nalRun_preserved {payloads : List (List UInt8)} {fresh : Nat → BufferHeader} (hfour : nalLength ≤ 4)
    (hbounded : ∀ payload ∈ payloads, payload.length < 256 ^ nalLength)
    (hfresh : ∀ index, (fresh index).Valid ∧ (fresh index).nFilledLen = 0) :
    Feed.Preserves parseH264Nallength fresh (NalRun nalLength payloads) := by
  rintro ⟨parser, dest, frames, written⟩ source rest hsource hfilled
    ⟨reported, todo, rfl, hframes, hprogress, hdest, hinside⟩ next left hcall
  simp only at hframes hprogress hdest hinside
  simp only [Feed.call] at hcall
  split at hcall
  · rename_i hstatus
    obtain ⟨count, hpos, hcount, hsourceEq, hvalid, hend⟩ :=
      parseH264Nallength_progress hfour
        (fun payload hpayload => hbounded payload (List.mem_append_right _ hpayload)) hsource hdest
        hprogress hstatus
    generalize parseH264Nallength parser source dest 1 = result at *
    have hwritten : ∀ header ∈ written ++ [result.dest], header.Inside := by
      intro header hheader
      rcases List.mem_append.mp hheader with hheader | hheader
      · exact hinside header hheader
      · rw [List.mem_singleton.mp hheader]
        exact hvalid.fits
    rcases hend with ⟨hzero, payload, later, rfl, hcontents, hnext⟩ | ⟨hone, hnext⟩
    · rw [if_pos hzero] at hcall
      obtain ⟨rfl, rfl⟩ := Prod.mk.inj (Option.some.inj hcall)
      obtain ⟨hfreshValid, hfreshEmpty⟩ := hfresh (frames.length + 1)
      have hempty : (fresh (frames.length + 1)).contents = [] := by
        simp [BufferHeader.contents, BufferHeader.read, hfreshEmpty]
      refine ⟨count, hpos, hcount, hsourceEq, reported ++ [payload], later, ?_, ?_, ?_,
        hfreshValid, hwritten⟩
      · rw [List.append_assoc]
        rfl
      · rw [hframes, hcontents, List.map_append]
        rfl
      · rwa [hempty]
    · rw [if_neg (by omega)] at hcall
      obtain ⟨rfl, rfl⟩ := Prod.mk.inj (Option.some.inj hcall)
      exact ⟨count, hpos, hcount, hsourceEq, reported, todo, rfl, hframes, hnext, hvalid,
        hwritten⟩
  · simp at hcall

/-- However the records are divided into source buffers, a run without a failing call reports one
frame for each payload, the payload behind a start code, and stays inside its destinations. -/
theorem parseH264Nallength_frames (nalLength : Nat) (lastByte : UInt8) (parser : FrameParse)
    (hparser : (FrameParse.initStartCodes .h264 lastByte).initNalLength nalLength = some parser)
    (payloads : List (List UInt8))
    (hbounded : ∀ payload ∈ payloads, payload.length < 256 ^ nalLength)
    (fresh : Nat → BufferHeader)
    (hfresh : ∀ index, (fresh index).Valid ∧ (fresh index).nFilledLen = 0)
    (sources : List BufferHeader)
    (hsources : ∀ source ∈ sources, source.Valid ∧ 0 < source.nFilledLen)
    (hstream : sources.flatMap BufferHeader.contents = payloads.flatMap (nalRecord nalLength))
    (feed : Feed) (hrun : Feed.run parseH264Nallength fresh parser sources = some feed) :
    feed.frames = payloads.map annexB ∧ ∀ header ∈ feed.written, header.Inside := by
  obtain ⟨hpos, hfour, hstate⟩ : 0 < nalLength ∧ nalLength ≤ 4 ∧
      InLength nalLength parser [] := by
    unfold FrameParse.initNalLength at hparser
    split at hparser
    · simp at hparser
    · obtain rfl := Option.some.inj hparser
      refine ⟨by omega, by omega, rfl, rfl, rfl, ?_, ?_⟩
      · simp only [List.length_nil]
        omega
      · simp [FrameParse.initStartCodes, partialLength, bigEndian]
  obtain ⟨hvalid, hempty⟩ := hfresh 0
  have hcontents : (fresh 0).contents = [] := by
    simp [BufferHeader.contents, BufferHeader.read, hempty]
  have hinit : NalRun nalLength payloads ⟨parser, fresh 0, [], []⟩
      (sources.flatMap BufferHeader.contents) :=
    ⟨[], payloads, rfl, rfl, .length [] hstate hcontents hstream, hvalid, by simp⟩
  obtain ⟨reported, todo, rfl, hframes, hprogress, -, hinside⟩ :=
    Feed.run_invariant (nalRun_preserved hfour hbounded hfresh)
      (fun source hsource => (hsources source hsource).1) hinit hrun
  obtain rfl := hprogress.finished
  rw [List.append_nil]
  exact ⟨hframes, hinside⟩

/-- A length field cut in two, and an empty payload. -/
theorem parseH264Nallength_frames_cut :
    (Feed.run parseH264Nallength (fun _ => .blank 16)
        { FrameParse.initStartCodes .h264 0 with nalLength := 2 }
        [.ofBytes [0x00], .ofBytes [0x01, 0x65, 0x00, 0x00]]).map Feed.frames =
      some [[0x00, 0x00, 0x00, 0x01, 0x65], [0x00, 0x00, 0x00, 0x01]] := by
  obtain ⟨feed, hrun⟩ : ∃ feed, Feed.run parseH264Nallength (fun _ => .blank 16)
      { FrameParse.initStartCodes .h264 0 with nalLength := 2 }
      [.ofBytes [0x00], .ofBytes [0x01, 0x65, 0x00, 0x00]] = some feed :=
    Option.isSome_iff_exists.mp (by decide)
  have hsources : ∀ source ∈ [BufferHeader.ofBytes [0x00], .ofBytes [0x01, 0x65, 0x00, 0x00]],
      source.Valid ∧ 0 < source.nFilledLen := by
    intro source hsource
    simp only [List.mem_cons, List.not_mem_nil, or_false] at hsource
    rcases hsource with rfl | rfl
    · exact ⟨BufferHeader.ofBytes_valid (by decide), by decide⟩
    · exact ⟨BufferHeader.ofBytes_valid (by decide), by decide⟩
  rw [hrun, Option.map_some, (parseH264Nallength_frames 2 0 _ rfl [[0x65], []] (by decide)
    (fun _ => .blank 16) (fun _ => ⟨BufferHeader.blank_valid (by decide), rfl⟩) _ hsources
    (by decide) feed hrun).1]
  rfl

end Nozomi
