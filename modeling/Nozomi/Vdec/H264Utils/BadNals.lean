import Nozomi.Base.Run
import Nozomi.Vdec.H264Utils.ReadBounds

/-!
# NAL units that cannot be extracted

`isNewFrame` on a NAL unit on which `extract_rbsp` fails, alone and between others. The header of the NAL unit
is a local variable, which such a call stores in `m_prv_nalu` although it may never have been set.
-/

namespace Nozomi

/-- A call of `isNewFrame`, with what the memory of its local variable `nal_unit` holds before. -/
structure NalCall where
  header : BufferHeader
  sizeOfNalLengthField : Nat
  nalUnit : Nalu

namespace NalCall

variable (call : NalCall)

def extraction : Extraction :=
  extractRbsp call.header.pBuffer call.header.nFilledLen call.sizeOfNalLengthField

def Bad : Prop := call.extraction.success = false

instance : DecidablePred Bad := fun call => inferInstanceAs (Decidable (call.extraction.success = false))

def nalu : Nalu := call.extraction.nalu.getD call.nalUnit

def IsSlice : Prop := call.nalu.naluType = naluTypeIdr ∨ call.nalu.naluType = naluTypeNonIdr

instance : DecidablePred IsSlice := fun call =>
  inferInstanceAs (Decidable (call.nalu.naluType = naluTypeIdr ∨ call.nalu.naluType = naluTypeNonIdr))

end NalCall

namespace H264Utils

def isNewFrameCall (utils : H264Utils) (call : NalCall) : Option (H264Utils × Bool × Bool) :=
  { utils with nalUnits := [call.nalUnit] }.isNewFrame call.header call.sizeOfNalLengthField

theorem isNewFrameCall_eq (utils : H264Utils) (call : NalCall) :
    utils.isNewFrameCall call =
      let utils : H264Utils :=
        { utils with nalUnits := [], mRbspBytes := memcpy utils.mRbspBytes 0 call.extraction.rbsp }
      if call.Bad then some ({ utils with mPrvNalu := call.nalu }, false, false)
      else (classify { utils with naluType := call.nalu.naluType } call.nalu).map fun (utils, isNewFrame) =>
        ({ utils with mPrvNalu := call.nalu }, true, isNewFrame) := by
  rw [isNewFrameCall, isNewFrame]
  simp only [NalCall.Bad, NalCall.extraction, NalCall.nalu, Bool.not_eq_true', Option.map_eq_bind]
  rfl

def nalStep (utils : H264Utils) (call : NalCall) : Option H264Utils :=
  (utils.isNewFrameCall call).map Prod.fst

def goodAnswers : H264Utils → List NalCall → Option (List Bool)
  | _, [] => some []
  | utils, call :: calls => do
    let (utils, _, isNewFrame) ← utils.isNewFrameCall call
    let answers ← goodAnswers utils calls
    some (if call.Bad then answers else isNewFrame :: answers)

/-- Both have the same previous header and flags. -/
structure SameChecks (utils other : H264Utils) : Prop where
  mPrvNalu : utils.mPrvNalu = other.mPrvNalu
  mForceToStichNextNAL : utils.mForceToStichNextNAL = other.mForceToStichNextNAL
  mAuData : utils.mAuData = other.mAuData

/-- The call reports no frame and leaves the previous header and the flags. -/
def FailsQuietly (utils : H264Utils) (call : NalCall) : Prop :=
  ∃ after, utils.isNewFrameCall call = some (after, false, false) ∧ after.SameChecks utils

/-- A bad NAL unit has the previous header, set by `extract_rbsp` or left in the local variable, and a slice
that is parsed has a whole `first_mb_in_slice`. -/
def KeepsAnswers (utils : H264Utils) (call : NalCall) : Prop :=
  (call.Bad → call.nalu = utils.mPrvNalu) ∧
    (¬call.Bad → call.IsSlice → utils.mForceToStichNextNAL = false →
      RbspParser.HoldsCode (bytesBits (unescapeFrom 0 call.extraction.rbsp)))

instance (utils : H264Utils) (call : NalCall) : Decidable (utils.KeepsAnswers call) :=
  inferInstanceAs (Decidable ((_ → _) ∧ (_ → _ → _ → _)))

variable {utils other : H264Utils} {call : NalCall}

theorem failsQuietly_iff (hbad : call.Bad) : utils.FailsQuietly call ↔ call.nalu = utils.mPrvNalu := by
  rw [FailsQuietly, isNewFrameCall_eq]
  dsimp only
  rw [if_pos hbad]
  constructor
  · rintro ⟨after, hcall, hsame⟩
    obtain ⟨rfl, -⟩ := Prod.mk.inj (Option.some.inj hcall)
    exact hsame.mPrvNalu
  · intro hheader
    exact ⟨_, rfl, hheader, rfl, rfl⟩

theorem classify_same (hsame : utils.SameChecks other) (hcode : call.IsSlice →
      utils.mForceToStichNextNAL = false → RbspParser.HoldsCode (bytesBits (unescapeFrom 0 call.extraction.rbsp)))
    (hutils : call.extraction.rbsp <+: utils.mRbspBytes) (hother : call.extraction.rbsp <+: other.mRbspBytes) :
    ∃ after after' isNewFrame, utils.classify call.nalu = some (after, isNewFrame) ∧
      other.classify call.nalu = some (after', isNewFrame) ∧ after.SameChecks after' := by
  obtain ⟨hprv, hforce, hau⟩ := hsame
  rw [classify, classify]
  by_cases hslice : call.nalu.naluType = naluTypeIdr ∨ call.nalu.naluType = naluTypeNonIdr
  · rw [if_pos hslice, if_pos hslice, ← hforce]
    cases hstitch : utils.mForceToStichNextNAL with
    | true => exact ⟨_, _, false, rfl, rfl, hprv, rfl, rfl⟩
    | false =>
      obtain ⟨value, hvalue⟩ := RbspParser.ue_value (hcode hslice hstitch)
      obtain ⟨parser, hue⟩ := hvalue _ hutils
      obtain ⟨parser', hue'⟩ := hvalue _ hother
      have hbegins : other.sliceBeginsFrame call.nalu (value % 2 ^ 16) =
          utils.sliceBeginsFrame call.nalu (value % 2 ^ 16) := by
        rw [sliceBeginsFrame, sliceBeginsFrame, hprv]
      simp only [Bool.false_eq_true, if_false, hue, hue', Option.bind_eq_bind, Option.bind_some, hbegins]
      exact ⟨_, _, _, rfl, rfl, hprv, rfl, rfl⟩
  · rw [if_neg hslice, if_neg hslice, hau]
    split
    · exact ⟨_, _, _, rfl, rfl, hprv, rfl, rfl⟩
    · exact ⟨_, _, _, rfl, rfl, hprv, hforce, hau⟩

theorem memcpy_begins (memory bytes : List UInt8) : bytes <+: memcpy memory 0 bytes := by
  rw [memcpy, List.take_zero, List.nil_append]
  exact List.prefix_append _ _

theorem isNewFrameCall_same (hsame : utils.SameChecks other) (hgood : ¬call.Bad)
    (hkeeps : utils.KeepsAnswers call) :
    ∃ after after' isNewFrame, utils.isNewFrameCall call = some (after, true, isNewFrame) ∧
      other.isNewFrameCall call = some (after', true, isNewFrame) ∧ after.SameChecks after' := by
  rw [isNewFrameCall_eq, isNewFrameCall_eq]
  dsimp only
  rw [if_neg hgood, if_neg hgood]
  obtain ⟨hprv, hforce, hau⟩ := hsame
  obtain ⟨after, after', isNewFrame, hclassify, hclassify', hafter⟩ :=
    @classify_same
      { utils with
        nalUnits := [], mRbspBytes := memcpy utils.mRbspBytes 0 call.extraction.rbsp, naluType := call.nalu.naluType }
      { other with
        nalUnits := [], mRbspBytes := memcpy other.mRbspBytes 0 call.extraction.rbsp, naluType := call.nalu.naluType }
      call ⟨hprv, hforce, hau⟩ (hkeeps.2 hgood) (memcpy_begins _ _) (memcpy_begins _ _)
  simp only [hclassify, hclassify', Option.map_some]
  exact ⟨_, _, isNewFrame, rfl, rfl, rfl, hafter.mForceToStichNextNAL, hafter.mAuData⟩

theorem SameChecks.trans {third : H264Utils} (hfirst : utils.SameChecks other)
    (hsecond : other.SameChecks third) : utils.SameChecks third where
  mPrvNalu := hfirst.mPrvNalu.trans hsecond.mPrvNalu
  mForceToStichNextNAL := hfirst.mForceToStichNextNAL.trans hsecond.mForceToStichNextNAL
  mAuData := hfirst.mAuData.trans hsecond.mAuData

theorem goodAnswers_filter (calls : List NalCall) (hsame : utils.SameChecks other)
    (hmeets : RunMeets nalStep KeepsAnswers utils calls) :
    ∃ answers, goodAnswers utils calls = some answers ∧
      goodAnswers other (calls.filter fun call => ¬call.Bad) = some answers := by
  induction calls generalizing utils other with
  | nil => exact ⟨[], rfl, rfl⟩
  | cons call calls ih =>
    obtain ⟨hkeeps, hrest⟩ := hmeets
    by_cases hbad : call.Bad
    · obtain ⟨after, hcall, hafter⟩ := (failsQuietly_iff hbad).mpr (hkeeps.1 hbad)
      obtain ⟨answers, hanswers, hfiltered⟩ :=
        ih (hafter.trans hsame) (hrest after (by rw [nalStep, hcall]; rfl))
      refine ⟨answers, ?_, ?_⟩
      · rw [goodAnswers, hcall]
        simp only [Option.bind_eq_bind, Option.bind_some, hanswers, if_pos hbad]
      · rwa [List.filter_cons_of_neg (by simpa using hbad)]
    · obtain ⟨after, after', isNewFrame, hcall, hcall', hafter⟩ := isNewFrameCall_same hsame hbad hkeeps
      obtain ⟨answers, hanswers, hfiltered⟩ := ih hafter (hrest after (by rw [nalStep, hcall]; rfl))
      refine ⟨isNewFrame :: answers, ?_, ?_⟩
      · rw [goodAnswers, hcall]
        simp only [Option.bind_eq_bind, Option.bind_some, hanswers, if_neg hbad]
      · rw [List.filter_cons_of_pos (by simpa using hbad), goodAnswers, hcall']
        simp only [Option.bind_eq_bind, Option.bind_some, hfiltered, if_neg hbad]

/-- In a run in which every bad NAL unit has the previous header, and in which the slices hold what is parsed
of them, the bad NAL units are passed over and the others are answered as without them. -/
theorem badNals_leftOut (utils : H264Utils) (calls : List NalCall)
    (hmeets : RunMeets nalStep KeepsAnswers utils calls) :
    RunMeets nalStep (fun utils call => call.Bad → utils.FailsQuietly call) utils calls ∧
      ∃ answers, goodAnswers utils calls = some answers ∧
        goodAnswers utils (calls.filter fun call => ¬call.Bad) = some answers := by
  refine ⟨?_, goodAnswers_filter calls ⟨rfl, rfl, rfl⟩ hmeets⟩
  apply RunMeets.imp_of_invariant (fun _ => True) (fun _ _ _ _ _ => trivial) _ utils trivial hmeets
  intro utils call _ hkeeps hbad
  exact (failsQuietly_iff hbad).mpr (hkeeps.1 hbad)

end H264Utils

def NalCall.ofBytes (bytes : List UInt8) (nalUnit : Nalu) : NalCall where
  header :=
    { pBuffer := 0 :: 0 :: 1 :: bytes
      nAllocLen := bytes.length + 3
      nOffset := 0
      nFilledLen := bytes.length + 3
      nTimeStamp := 0
      nFlags := 0 }
  sizeOfNalLengthField := 0
  nalUnit := nalUnit

def firstSlice : NalCall := .ofBytes [0x61, 0x80] ⟨0, 0, 0⟩
def secondSlice : NalCall := .ofBytes [0x61, 0x40] ⟨0, 0, 0⟩

def noStartCode : NalCall :=
  ⟨{ pBuffer := [9], nAllocLen := 1, nOffset := 0, nFilledLen := 1, nTimeStamp := 0, nFlags := 0 }, 0,
    ⟨3, 1, 0⟩⟩

def longEndOfSequence : NalCall := .ofBytes (0x0A :: List.replicate 252 0) ⟨0, 0, 0⟩

namespace H264Utils

/-- A byte without a start code between two slices, with the header of the first in the local variable. -/
theorem badNals_leftOut_noStartCode :
    RunMeets nalStep KeepsAnswers (.new 16) [firstSlice, noStartCode, secondSlice] ∧
      RunMeets nalStep (fun utils call => call.Bad → utils.FailsQuietly call) (.new 16)
        [firstSlice, noStartCode, secondSlice] ∧
      ∃ answers, goodAnswers (.new 16) [firstSlice, noStartCode, secondSlice] = some answers ∧
        goodAnswers (.new 16) ([firstSlice, noStartCode, secondSlice].filter fun call => ¬call.Bad) =
          some answers :=
  ⟨by decide +kernel, badNals_leftOut (.new 16) _ (by decide +kernel)⟩

/-- An end of sequence whose length is 0 as a `boolean` makes the second slice of a frame a new one. -/
theorem badNals_not_leftOut :
    ¬∀ (utils : H264Utils) (calls : List NalCall),
      goodAnswers utils calls = goodAnswers utils (calls.filter fun call => ¬call.Bad) := by
  intro hsame
  have hanswers := hsame (.new 16) [firstSlice, longEndOfSequence, secondSlice]
  revert hanswers
  decide +kernel

end H264Utils

end Nozomi
