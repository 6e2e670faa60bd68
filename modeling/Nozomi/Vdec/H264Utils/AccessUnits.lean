import Nozomi.Vdec.H264Utils.Extraction
import Nozomi.Vdec.H264Utils.Reading

/-!
# New frames are reported at the first NAL unit of an access unit

A stream of access units, each with parameter sets and SEI in front of its slices, is given to
`isNewFrame` NAL unit by NAL unit. Between access units the object knows whether it has seen a slice and
does not wait for one.
-/

namespace Nozomi

/-- A NAL unit with its start code, as it stands in a buffer in front of what was there before. -/
structure Nal where
  zeros : Nat
  twoZeros : 2 ≤ zeros
  nalRefIdc : Nat
  nalRefIdc_lt : nalRefIdc < 4
  nalUnitType : Nat
  nalUnitType_lt : nalUnitType < 32
  rbsp : List UInt8
  stale : List UInt8

namespace Nal

def headerByte (nal : Nal) : UInt8 := UInt8.ofNat (nal.nalRefIdc * 32 + nal.nalUnitType)

def payload (nal : Nal) : List UInt8 :=
  escape nal.rbsp ++ if nal.rbsp.getLast? = some 0 then [3] else []

def bytes (nal : Nal) : List UInt8 :=
  List.replicate nal.zeros 0 ++ 1 :: nal.headerByte :: nal.payload

def bufferHeader (nal : Nal) : BufferHeader where
  pBuffer := nal.bytes ++ nal.stale
  nAllocLen := nal.bytes.length + nal.stale.length
  nOffset := 0
  nFilledLen := nal.bytes.length
  nTimeStamp := 0
  nFlags := 0

def nalu (nal : Nal) : Nalu := ⟨nal.nalRefIdc, nal.nalUnitType, 0⟩

def IsPrefix (nal : Nal) : Prop :=
  nal.nalUnitType = naluTypeSps ∨ nal.nalUnitType = naluTypePps ∨ nal.nalUnitType = naluTypeSei

def IsSlice (nal : Nal) (firstMb : Nat) : Prop :=
  (nal.nalUnitType = naluTypeIdr ∨ nal.nalUnitType = naluTypeNonIdr) ∧
    ∃ rest, bytesBits nal.rbsp = expGolomb firstMb ++ rest

variable (nal : Nal)

theorem ofByte_headerByte : Nalu.ofByte nal.headerByte = nal.nalu :=
  Nalu.ofByte_ofNat nal.nalRefIdc_lt nal.nalUnitType_lt

/-! ### The payload that is extracted -/

theorem extractRbsp_bufferHeader (htype : nal.IsPrefix ∨ nal.nalUnitType = naluTypeIdr ∨
      nal.nalUnitType = naluTypeNonIdr) :
    ∃ more, (extractRbsp nal.bufferHeader.pBuffer nal.bufferHeader.nFilledLen 0).success = true ∧
      (extractRbsp nal.bufferHeader.pBuffer nal.bufferHeader.nFilledLen 0).nalu = some nal.nalu ∧
      (extractRbsp nal.bufferHeader.pBuffer nal.bufferHeader.nFilledLen 0).rbsp =
        nal.rbsp ++ more := by
  have hpayload : (Nalu.ofByte nal.headerByte).HasPayload := by
    rw [ofByte_headerByte]
    simp only [Nalu.HasPayload, nalu, IsPrefix, naluTypeSps, naluTypePps, naluTypeSei, naluTypeIdr,
      naluTypeNonIdr, naluTypeEoseq, naluTypeEostream] at htype ⊢
    omega
  have hlength : nal.bytes.length = nal.zeros + 2 + nal.payload.length := by
    rw [bytes, List.length_append, List.length_replicate, List.length_cons, List.length_cons]
    omega
  have hextract := extractRbsp_behindStartCode nal.twoZeros hpayload nal.payload nal.stale
  rw [← hlength, ofByte_headerByte] at hextract
  have hloop := extractLoop_escapeFrom true (Nat.zero_le 2) (nal.zeros + 2) [] nal.rbsp
    (if nal.rbsp.getLast? = some 0 then [3] else [])
  have hmore : ∃ more, extractLoop true 0 (nal.zeros + 2) [] nal.payload = (nal.rbsp ++ more, none) := by
    rw [payload, escape, hloop, List.nil_append]
    split
    · rw [extractLoop]
      by_cases htwo : zerosBehind 0 nal.rbsp = 2
      · exact ⟨[], by rw [if_pos ⟨htwo, rfl⟩, List.append_nil]; rfl⟩
      · exact ⟨[3], by rw [if_neg (by simp [htwo]), if_neg (by simp [htwo])]; rfl⟩
    · exact ⟨[], by rw [List.append_nil]; rfl⟩
  obtain ⟨more, hmore⟩ := hmore
  refine ⟨more, ?_⟩
  have hcall : extractRbsp nal.bufferHeader.pBuffer nal.bufferHeader.nFilledLen 0 =
      .ofPayload true (nal.zeros + 2) nal.nalu nal.payload := hextract
  rw [hcall, Extraction.ofPayload, hmore]
  exact ⟨rfl, rfl, rfl⟩

/-! ### `first_mb_in_slice` -/

private theorem clean_of_expGolomb {bytes : List UInt8} {firstMb : Nat} {rest : List Bool}
    (hbits : bytesBits bytes = expGolomb firstMb ++ rest) (hsmall : leadingZeros firstMb ≤ 16)
    {limit : Nat} (hlimit : limit ≤ bytes.length) (hshort : 8 * limit ≤ 2 * leadingZeros firstMb + 8) :
    RbspParser.Clean bytes limit := by
  rintro index hindex ⟨hfirst, hsecond, hthird⟩
  rw [expGolomb_eq, List.append_assoc, List.cons_append] at hbits
  generalize leadingZeros firstMb = zeros at *
  have hone : (bytesBits bytes)[zeros]? = some true := by
    rw [hbits, List.getElem?_append_right (by simp)]
    simp
  have hzero : ∀ bit < zeros, (bytesBits bytes)[bit]? = some false := by
    intro bit hbit
    rw [hbits, List.getElem?_append_left (by simpa using hbit)]
    simp [hbit]
  -- The one is in neither of the zero bytes.
  have houtside : ¬(8 * index ≤ zeros ∧ zeros < 8 * (index + 2)) := by
    rintro ⟨hle, hlt⟩
    by_cases hin : zeros < 8 * (index + 1)
    · have hinside : index < bytes.length := by omega
      have hbit := bytesBits_getElem? index (zeros - 8 * index) hinside (by omega)
      rw [hfirst, Nat.add_sub_cancel' hle, hone] at hbit
      simp at hbit
    · have hinside : index + 1 < bytes.length := by omega
      have hbit := bytesBits_getElem? (index + 1) (zeros - 8 * (index + 1)) hinside (by omega)
      rw [hsecond, Nat.add_sub_cancel' (by omega), hone] at hbit
      simp at hbit
  have hinside : index + 2 < bytes.length := by omega
  have hbit := bytesBits_getElem? (index + 2) 0 hinside (by decide)
  rw [hthird] at hbit
  by_cases hbefore : zeros < 8 * index
  · omega
  · obtain rfl : index = 0 := by omega
    obtain rfl : zeros = 16 := by omega
    rw [hone] at hbit
    exact absurd hbit (by decide)

private theorem ue_firstMb {bytes : List UInt8} {firstMb : Nat} {rest : List Bool}
    (hbits : bytesBits bytes = expGolomb firstMb ++ rest) (hfirstMb : firstMb ≤ 65535) :
    ∃ after, (RbspParser.new bytes).ue = some (after, firstMb) := by
  have hsmall : leadingZeros firstMb ≤ 16 := leadingZeros_le (by omega)
  have hlength := congrArg List.length hbits
  rw [bytesBits_length, List.length_append, expGolomb, natBits_length] at hlength
  have hlimit : (2 * leadingZeros firstMb + 8) / 8 ≤ bytes.length := by omega
  apply RbspParser.ue_expGolomb hlimit (clean_of_expGolomb hbits hsmall hlimit (by omega)) hbits
  · omega
  · omega

/-! ### One NAL unit -/

variable {nal} {utils : H264Utils}

theorem isNewFrame_prefix (utils : H264Utils) (hparameters : nal.IsPrefix) :
    ∃ after, utils.isNewFrame nal.bufferHeader 0 = some (after, true, utils.mAuData) ∧
      after.mAuData = false ∧ after.mForceToStichNextNAL = true := by
  obtain ⟨more, hsuccess, hnalu, hrbsp⟩ := nal.extractRbsp_bufferHeader (.inl hparameters)
  have hslice : ¬(nal.nalUnitType = naluTypeIdr ∨ nal.nalUnitType = naluTypeNonIdr) := by
    simp only [IsPrefix, naluTypeSps, naluTypePps, naluTypeSei, naluTypeIdr, naluTypeNonIdr]
      at hparameters ⊢
    omega
  simp only [H264Utils.isNewFrame, hsuccess, hnalu, Bool.not_true, Bool.false_eq_true, if_false,
    Option.getD_some, H264Utils.classify, nalu]
  have htype : nal.nalUnitType = naluTypeSps ∨ nal.nalUnitType = naluTypePps ∨
      nal.nalUnitType = naluTypeSei := hparameters
  rw [if_neg hslice, if_pos htype]
  exact ⟨_, rfl, rfl, rfl⟩

theorem isNewFrame_slice (utils : H264Utils) {firstMb : Nat} (hslice : nal.IsSlice firstMb)
    (hfirstMb : firstMb ≤ 65535) :
    ∃ after, utils.isNewFrame nal.bufferHeader 0 = some (after, true,
        !utils.mForceToStichNextNAL && utils.sliceBeginsFrame nal.nalu firstMb) ∧
      after.mAuData = true ∧ after.mForceToStichNextNAL = false ∧ after.mPrvNalu = nal.nalu := by
  obtain ⟨htype, rest, hbits⟩ := hslice
  obtain ⟨more, hsuccess, hnalu, hrbsp⟩ := nal.extractRbsp_bufferHeader (.inr htype)
  simp only [H264Utils.isNewFrame, hsuccess, hnalu, hrbsp, Bool.not_true, Bool.false_eq_true, if_false,
    Option.getD_some, H264Utils.classify, nalu]
  rw [if_pos htype]
  cases hforce : utils.mForceToStichNextNAL with
  | true => exact ⟨_, rfl, rfl, rfl, rfl⟩
  | false =>
    have hmemory : bytesBits (memcpy utils.mRbspBytes 0 (nal.rbsp ++ more)) = expGolomb firstMb ++
        (rest ++ bytesBits more ++ bytesBits (utils.mRbspBytes.drop (0 + (nal.rbsp ++ more).length))) := by
      rw [memcpy, bytesBits_append, bytesBits_append, bytesBits_append, hbits]
      simp
    obtain ⟨parser, hue⟩ := ue_firstMb hmemory hfirstMb
    simp only [Bool.false_eq_true, if_false, hue, Option.bind_eq_bind, Option.bind_some,
      Nat.mod_eq_of_lt (show firstMb < 2 ^ 16 by omega)]
    exact ⟨_, rfl, rfl, rfl, rfl⟩

end Nal

/-! ### Access units -/

/-- Parameter sets and SEI, a slice that begins at macroblock 0, further slices of the same kind. -/
structure AccessUnit where
  prefixes : List Nal
  isPrefix : ∀ nal ∈ prefixes, nal.IsPrefix
  firstSlice : Nal
  beginsAtZero : firstSlice.IsSlice 0
  slices : List Nal
  continues : ∀ nal ∈ slices, nal.nalRefIdc = firstSlice.nalRefIdc ∧
    nal.nalUnitType = firstSlice.nalUnitType ∧
    ∃ firstMb, 1 ≤ firstMb ∧ firstMb ≤ 65535 ∧ nal.IsSlice firstMb

def AccessUnit.nals (accessUnit : AccessUnit) : List Nal :=
  accessUnit.prefixes ++ accessUnit.firstSlice :: accessUnit.slices

def newFrames (utils : H264Utils) : List Nal → Option (H264Utils × List Bool)
  | [] => some (utils, [])
  | nal :: nals => do
    let (utils, success, isNewFrame) ← utils.isNewFrame nal.bufferHeader 0
    if success then
      let (utils, reports) ← newFrames utils nals
      some (utils, isNewFrame :: reports)
    else none

theorem newFrames_cons {utils after : H264Utils} {nal : Nal} {isNewFrame : Bool}
    (hcall : utils.isNewFrame nal.bufferHeader 0 = some (after, true, isNewFrame)) (nals : List Nal) :
    newFrames utils (nal :: nals) =
      (newFrames after nals).map fun (utils, reports) => (utils, isNewFrame :: reports) := by
  rw [newFrames, hcall]
  cases hrest : newFrames after nals <;> simp [hrest]

theorem newFrames_append {utils after : H264Utils} {first : List Nal} {reports : List Bool}
    (hfirst : newFrames utils first = some (after, reports)) (second : List Nal) :
    newFrames utils (first ++ second) =
      (newFrames after second).map fun (utils, rest) => (utils, reports ++ rest) := by
  induction first generalizing utils reports with
  | nil =>
    obtain ⟨rfl, rfl⟩ := Prod.mk.inj (Option.some.inj hfirst)
    simp
  | cons nal first ih =>
    rw [newFrames] at hfirst
    simp only [Option.bind_eq_bind, Option.bind_eq_some_iff, Prod.exists] at hfirst
    obtain ⟨next, success, isNewFrame, hcall, hrest⟩ := hfirst
    cases success with
    | false => simp at hrest
    | true =>
      simp only [if_true, Option.bind_eq_some_iff, Prod.exists, Option.some.injEq,
        Prod.mk.injEq] at hrest
      obtain ⟨last, rest, hrest, rfl, rfl⟩ := hrest
      rw [List.cons_append, newFrames_cons hcall, ih hrest]
      cases newFrames last second <;> rfl

def onlyFirst (isNewFrame : Bool) (nals : List Nal) : List Bool :=
  match nals with
  | [] => []
  | _ :: nals => isNewFrame :: List.replicate nals.length false

private theorem newFrames_slices {accessUnit : AccessUnit} {utils : H264Utils} {nals : List Nal}
    (hnals : ∀ nal ∈ nals, nal ∈ accessUnit.slices) (hauData : utils.mAuData = true)
    (hforce : utils.mForceToStichNextNAL = false)
    (hprevious : utils.mPrvNalu = accessUnit.firstSlice.nalu) :
    ∃ after, newFrames utils nals = some (after, List.replicate nals.length false) ∧
      after.mAuData = true ∧ after.mForceToStichNextNAL = false := by
  induction nals generalizing utils with
  | nil => exact ⟨utils, rfl, hauData, hforce⟩
  | cons nal nals ih =>
    obtain ⟨hrefIdc, hunitType, firstMb, hpos, hle, hslice⟩ :=
      accessUnit.continues nal (hnals nal List.mem_cons_self)
    have hnalu : nal.nalu = accessUnit.firstSlice.nalu := by
      simp only [Nal.nalu, hrefIdc, hunitType]
    obtain ⟨next, hcall, hauData', hforce', hprevious'⟩ := Nal.isNewFrame_slice utils hslice hle
    have hsame : utils.sliceBeginsFrame nal.nalu firstMb = false := by
      simp only [H264Utils.sliceBeginsFrame, hprevious, hnalu, decide_eq_false_iff_not]
      simp
      omega
    rw [hforce, hsame, Bool.not_false, Bool.true_and] at hcall
    obtain ⟨after, hrest, hafter⟩ := ih (fun nal hnal => hnals nal (List.mem_cons_of_mem _ hnal))
      hauData' hforce' (hprevious'.trans hnalu)
    refine ⟨after, ?_, hafter⟩
    rw [newFrames_cons hcall, hrest]
    rfl

private theorem newFrames_prefixes (utils : H264Utils) {nal : Nal} {nals : List Nal}
    (hparameters : ∀ other ∈ nal :: nals, other.IsPrefix) :
    ∃ after, newFrames utils (nal :: nals) =
        some (after, utils.mAuData :: List.replicate nals.length false) ∧
      after.mForceToStichNextNAL = true := by
  obtain ⟨next, hcall, hauData, hforce⟩ :=
    Nal.isNewFrame_prefix utils (hparameters nal List.mem_cons_self)
  induction nals generalizing utils nal next with
  | nil =>
    refine ⟨next, ?_, hforce⟩
    rw [newFrames_cons hcall]
    rfl
  | cons other nals ih =>
    have hrest := fun later hlater => hparameters later (List.mem_cons_of_mem _ hlater)
    obtain ⟨next', hcall', hauData', hforce'⟩ :=
      Nal.isNewFrame_prefix next (hrest other List.mem_cons_self)
    obtain ⟨after, hreports, hafter⟩ := ih next hrest next' hcall' hauData' hforce'
    refine ⟨after, ?_, hafter⟩
    rw [newFrames_cons hcall, hreports, hauData]
    rfl

theorem newFrames_accessUnit (accessUnit : AccessUnit) (utils : H264Utils)
    (hforce : utils.mForceToStichNextNAL = false) :
    ∃ after, newFrames utils accessUnit.nals = some (after,
        onlyFirst (utils.mAuData || accessUnit.prefixes.isEmpty) accessUnit.nals) ∧
      after.mAuData = true ∧ after.mForceToStichNextNAL = false := by
  have hnals := fun nal (hnal : nal ∈ accessUnit.slices) => hnal
  cases hprefixes : accessUnit.prefixes with
  | nil =>
    obtain ⟨next, hcall, hauData', hforce', hprevious⟩ :=
      Nal.isNewFrame_slice utils accessUnit.beginsAtZero (by decide)
    obtain ⟨after, hreports, hafter⟩ := newFrames_slices hnals hauData' hforce' hprevious
    refine ⟨after, ?_, hafter⟩
    rw [AccessUnit.nals, hprefixes, List.nil_append, newFrames_cons hcall, hreports, hforce]
    simp [onlyFirst, H264Utils.sliceBeginsFrame]
  | cons nal nals =>
    obtain ⟨forced, hbefore, hforced⟩ := newFrames_prefixes utils
      (hprefixes ▸ accessUnit.isPrefix)
    obtain ⟨next, hcall, hauData', hforce', hprevious⟩ :=
      Nal.isNewFrame_slice forced accessUnit.beginsAtZero (by decide)
    obtain ⟨after, hreports, hafter⟩ := newFrames_slices hnals hauData' hforce' hprevious
    refine ⟨after, ?_, hafter⟩
    rw [AccessUnit.nals, hprefixes, newFrames_append hbefore, newFrames_cons hcall, hreports, hforced]
    simp [onlyFirst, ← List.replicate_succ, List.replicate_append_replicate]

def reportsAt (accessUnits : List AccessUnit) : List Bool :=
  match accessUnits with
  | [] => []
  | first :: later =>
    onlyFirst first.prefixes.isEmpty first.nals ++
      later.flatMap fun accessUnit => onlyFirst true accessUnit.nals

private theorem newFrames_later {utils : H264Utils} (hauData : utils.mAuData = true)
    (hforce : utils.mForceToStichNextNAL = false) (accessUnits : List AccessUnit) :
    ∃ after, newFrames utils (accessUnits.flatMap AccessUnit.nals) =
      some (after, accessUnits.flatMap fun accessUnit => onlyFirst true accessUnit.nals) := by
  induction accessUnits generalizing utils with
  | nil => exact ⟨utils, rfl⟩
  | cons accessUnit accessUnits ih =>
    obtain ⟨next, hreports, hauData', hforce'⟩ := newFrames_accessUnit accessUnit utils hforce
    obtain ⟨after, hrest⟩ := ih hauData' hforce'
    refine ⟨after, ?_⟩
    rw [List.flatMap_cons, newFrames_append hreports, hrest, hauData]
    rfl

/-- From the initial state `isNewFrame` reports a new frame exactly at the first NAL unit of each access
unit, except for the first access unit when it starts with a parameter set or SEI. -/
theorem isNewFrame_accessUnits (inputBufferSize : Nat) (accessUnits : List AccessUnit) :
    (newFrames (.new inputBufferSize) (accessUnits.flatMap AccessUnit.nals)).map Prod.snd =
      some (reportsAt accessUnits) := by
  cases accessUnits with
  | nil => rfl
  | cons first later =>
    obtain ⟨next, hreports, hauData, hforce⟩ :=
      newFrames_accessUnit first (.new inputBufferSize) rfl
    obtain ⟨after, hrest⟩ := newFrames_later hauData hforce later
    rw [List.flatMap_cons, newFrames_append hreports, hrest]
    rfl

end Nozomi
