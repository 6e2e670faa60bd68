import Nozomi.Base.Align
import Nozomi.Base.Run
import Nozomi.Vdec.Component.Code

/-!
# Extra data in the output buffers

`enable_extradata`, `get_buffer_req` and `set_buffer_req` of `omx_vdec.cpp`: the client asks for extra data
behind each frame, some of which the driver writes and some the component. For the driver's the buffer size is
asked for again, for the component's own it is changed in place. The sizes of the structures of OMX are
parameters.
-/

namespace Nozomi

inductive ExtradataError where
  | none | incorrectStateOperation | unsupportedSetting | insufficientResources | hardware | badParameter
  deriving DecidableEq, Repr

/-- `sizeof` of `OMX_OTHER_EXTRADATATYPE`, `OMX_QCOM_EXTRADATA_FRAMEINFO`, `OMX_STREAMINTERLACEFORMAT` and
`OMX_PARAM_PORTDEFINITIONTYPE`. -/
structure ExtradataTypes where
  other : BitVec 32
  frameInfo : BitVec 32
  interlace : BitVec 32
  portDef : BitVec 32
  deriving DecidableEq, Repr

def frameInfoExtradata : BitVec 32 := 0x00010000#32
def interlaceExtradata : BitVec 32 := 0x00020000#32
def timeInfoExtradata : BitVec 32 := 0x00040000#32
def portDefExtradata : BitVec 32 := 0x00080000#32
def driverExtradataMask : BitVec 32 := 0x0000FFFF#32
def vdecExtradataMbErrorMap : BitVec 32 := 0x008#32
def vdecExtradataSei : BitVec 32 := 0x010#32
def vdecExtradataVui : BitVec 32 := 0x020#32

namespace ExtradataTypes

variable (types : ExtradataTypes)

def frameInfoExtradataSize : BitVec 32 := (types.other + types.frameInfo + 3#32) &&& ~~~3#32
def interlaceExtradataSize : BitVec 32 := (types.other + types.interlace + 3#32) &&& ~~~3#32
def portDefExtradataSize : BitVec 32 := (types.other + types.portDef + 3#32) &&& ~~~3#32

def extradataSize (kinds : BitVec 32) : BitVec 32 :=
  (if kinds &&& frameInfoExtradata ≠ 0 then types.frameInfoExtradataSize else 0) +
    (if kinds &&& interlaceExtradata ≠ 0 then types.interlaceExtradataSize else 0) +
    if kinds &&& portDefExtradata ≠ 0 then types.portDefExtradataSize else 0

end ExtradataTypes

/-- The answers of the driver to the calls of `ioctl`, and that of `client_buffers.update_buffer_req`. The
driver's buffer requirements are a size and an alignment. -/
structure ExtradataAnswers where
  setExtradata : Bool
  getBufferReq : Option (BitVec 32 × BitVec 32)
  getPicres : Bool
  setBufferReq : Bool
  updateBufferReq : Bool
  deriving DecidableEq, Repr

/-- The members of `omx_vdec` that the functions use; the last two are those of `drv_ctx.op_buf`. -/
structure ExtradataState where
  mState : StateType
  /-- `drv_ctx.decoder_format == VDEC_CODECTYPE_H264`. -/
  isH264 : Bool
  inReconfig : Bool
  clientExtradata : BitVec 32
  extradata : BitVec 32
  bufferSize : BitVec 32
  alignment : BitVec 32
  deriving DecidableEq, Repr

structure ExtradataCall where
  requestedExtradata : BitVec 32
  enable : Bool
  answers : ExtradataAnswers
  deriving DecidableEq, Repr

namespace ExtradataState

variable (types : ExtradataTypes) (state : ExtradataState)

def setBufferReq (answers : ExtradataAnswers) : ExtradataError :=
  if alignUp state.bufferSize state.alignment ≠ state.bufferSize then .badParameter
  else if !answers.setBufferReq then .insufficientResources
  else if !answers.updateBufferReq then .insufficientResources
  else .none

def getBufferReq (answers : ExtradataAnswers) : ExtradataError × ExtradataState :=
  match answers.getBufferReq with
  | none => (.insufficientResources, state)
  | some (bufferSize, alignment) =>
    let state := { state with bufferSize := bufferSize, alignment := alignment }
    if !answers.getPicres then (.hardware, state)
    else
      let extraDataSize := types.extradataSize state.clientExtradata
      let bufSize :=
        if extraDataSize ≠ 0 then ((bufferSize + 3#32) &&& ~~~3#32) + (extraDataSize + types.other)
        else bufferSize
      let bufSize := alignUp bufSize alignment
      if state.inReconfig then (.none, { state with bufferSize := bufSize })
      else if bufSize ≠ bufferSize then
        let state := { state with bufferSize := bufSize }
        (state.setBufferReq answers, state)
      else (.none, state)

def wanted (call : ExtradataCall) : BitVec 32 :=
  if call.enable then call.requestedExtradata ||| state.clientExtradata
  else state.clientExtradata &&& ~~~call.requestedExtradata

def driverExtradata (kinds : BitVec 32) : BitVec 32 :=
  let driver := kinds &&& driverExtradataMask
  let driver := if kinds &&& frameInfoExtradata ≠ 0 then driver ||| vdecExtradataMbErrorMap else driver
  if state.isH264 then
    let driver := driver ||| if kinds &&& frameInfoExtradata ≠ 0 then vdecExtradataSei else 0
    driver ||| if kinds &&& timeInfoExtradata ≠ 0 then vdecExtradataVui ||| vdecExtradataSei else 0
  else driver

def enableExtradata (call : ExtradataCall) : ExtradataError × ExtradataState :=
  if state.mState ≠ .loaded then (.incorrectStateOperation, state)
  else
    let extradataSize := types.extradataSize call.requestedExtradata
    let extradataSize := if call.enable then extradataSize else -extradataSize
    let requested := state.wanted call
    let driver := state.driverExtradata requested
    if driver ≠ state.extradata then
      let state := { state with clientExtradata := requested, extradata := driver }
      if !call.answers.setExtradata then (.unsupportedSetting, state)
      else state.getBufferReq types call.answers
    else if state.clientExtradata &&& ~~~driverExtradataMask ≠ requested &&& ~~~driverExtradataMask then
      let bufferSize := alignUp (state.bufferSize + extradataSize) state.alignment
      -- without extra data of the component's own there is no terminator
      let bufferSize :=
        if requested &&& ~~~driverExtradataMask = 0 then bufferSize - types.other else bufferSize
      let state := { state with clientExtradata := requested, bufferSize := bufferSize }
      (state.setBufferReq call.answers, state)
    else (.none, state)

end ExtradataState

/-! ### Sizes of kinds -/

namespace ExtradataTypes

variable {types : ExtradataTypes}

def Small (types : ExtradataTypes) : Prop :=
  types.frameInfoExtradataSize.toNat + types.interlaceExtradataSize.toNat +
    types.portDefExtradataSize.toNat < 2 ^ 32

theorem and_ne_zero_iff {kinds kind : BitVec 32} {bit : Nat} (hkind : kind = BitVec.twoPow 32 bit) (hbit : bit < 32) :
    kinds &&& kind ≠ 0 ↔ kinds.getLsbD bit = true := by
  rw [hkind, BitVec.and_twoPow]
  split
  next hset =>
    refine iff_of_true (fun hzero => ?_) hset
    have htoNat := congrArg BitVec.toNat hzero
    rw [BitVec.toNat_twoPow_of_lt hbit] at htoNat
    exact absurd htoNat (Nat.two_pow_pos bit).ne'
  next hclear => exact iff_of_false (fun hne => hne rfl) hclear

theorem toNat_extradataSize (hsmall : types.Small) (kinds : BitVec 32) :
    (types.extradataSize kinds).toNat =
      (if kinds.getLsbD 16 then types.frameInfoExtradataSize.toNat else 0) +
        (if kinds.getLsbD 17 then types.interlaceExtradataSize.toNat else 0) +
        if kinds.getLsbD 19 then types.portDefExtradataSize.toNat else 0 := by
  have hframe := @and_ne_zero_iff kinds frameInfoExtradata 16 (by decide) (by decide)
  have hinterlace := @and_ne_zero_iff kinds interlaceExtradata 17 (by decide) (by decide)
  have hport := @and_ne_zero_iff kinds portDefExtradata 19 (by decide) (by decide)
  unfold Small at hsmall
  unfold extradataSize
  simp only [hframe, hinterlace, hport]
  rw [BitVec.toNat_add, BitVec.toNat_add]
  cases kinds.getLsbD 16 <;> cases kinds.getLsbD 17 <;> cases kinds.getLsbD 19 <;> simp <;> omega

theorem toNat_extradataSize_diff (hsmall : types.Small) (first second : BitVec 32) :
    (types.extradataSize (first &&& ~~~second)).toNat + (types.extradataSize second).toNat =
      (types.extradataSize (first ||| second)).toNat := by
  simp only [toNat_extradataSize hsmall, BitVec.getLsbD_and, BitVec.getLsbD_not, BitVec.getLsbD_or]
  cases first.getLsbD 16 <;> cases first.getLsbD 17 <;> cases first.getLsbD 19 <;>
    cases second.getLsbD 16 <;> cases second.getLsbD 17 <;> cases second.getLsbD 19 <;> simp <;> omega

theorem toNat_extradataSize_and_le (hsmall : types.Small) (first second : BitVec 32) :
    (types.extradataSize (first &&& second)).toNat ≤ (types.extradataSize first).toNat := by
  simp only [toNat_extradataSize hsmall, BitVec.getLsbD_and]
  cases first.getLsbD 16 <;> cases first.getLsbD 17 <;> cases first.getLsbD 19 <;>
    cases second.getLsbD 16 <;> cases second.getLsbD 17 <;> cases second.getLsbD 19 <;> simp <;> omega

end ExtradataTypes

/-! ### Calls that the driver has no part in -/

namespace ExtradataState

variable (types : ExtradataTypes) (frameSize : Nat) (state : ExtradataState)

def OnlyLayer (call : ExtradataCall) : Prop := state.driverExtradata (state.wanted call) = state.extradata

instance (call : ExtradataCall) : Decidable (state.OnlyLayer call) := inferInstanceAs (Decidable (_ = _))

def layerStep (call : ExtradataCall) : Option ExtradataState :=
  if state.OnlyLayer call then some (state.enableExtradata types call).2 else none

def required (kinds : BitVec 32) : Nat :=
  if kinds = 0 then 0 else (types.extradataSize kinds).toNat + types.other.toNat

/-- The buffer size is aligned, and has room for a frame, the extra data that is enabled and its terminator. -/
structure Roomy : Prop where
  aligned : state.alignment.toNat ∣ state.bufferSize.toNat
  room : frameSize + required types state.clientExtradata ≤ state.bufferSize.toNat

def spare : Nat := state.bufferSize.toNat - (frameSize + required types state.clientExtradata)

def layerKinds (kinds : BitVec 32) : BitVec 32 := kinds &&& ~~~driverExtradataMask

def Changes (call : ExtradataCall) : Prop :=
  layerKinds state.clientExtradata ≠ layerKinds (state.wanted call)

/-- The kinds that a call enables find the terminator of others, or the bytes for one behind the buffer. -/
def EnableFits (call : ExtradataCall) : Prop :=
  let given := types.extradataSize call.requestedExtradata
  state.bufferSize.toNat + given.toNat + state.alignment.toNat ≤ 2 ^ 32 ∧
    (state.clientExtradata = 0 → types.other.toNat ≤ state.spare types frameSize +
      padding state.alignment.toNat (state.bufferSize.toNat + given.toNat))

/-- The kinds that a call disables were enabled, or the buffer can spare the bytes that are taken off it for them; and
the terminator, which is taken off last, is a multiple of the alignment and not needed any more, or can be spared. -/
def DisableFits (call : ExtradataCall) : Prop :=
  let given := types.extradataSize call.requestedExtradata
  given.toNat ≤ state.bufferSize.toNat ∧
    (layerKinds (state.wanted call) = 0 → state.alignment.toNat ∣ types.other.toNat) ∧
    (types.extradataSize (call.requestedExtradata &&& ~~~state.clientExtradata)).toNat +
        (if layerKinds (state.wanted call) = 0 then types.other.toNat else 0) ≤
      state.spare types frameSize + padding state.alignment.toNat (state.bufferSize.toNat - given.toNat) +
        if state.wanted call = 0 then types.other.toNat else 0

/-- The call leaves the component's own kinds as they are, or finds the bytes that it needs. -/
def Fits (call : ExtradataCall) : Prop :=
  state.Changes call →
    if call.enable then state.EnableFits types frameSize call else state.DisableFits types frameSize call

instance (call : ExtradataCall) : Decidable (state.Fits types frameSize call) := by
  unfold Fits Changes EnableFits DisableFits
  infer_instance

instance : Decidable types.Small := inferInstanceAs (Decidable (_ < _))

variable {types frameSize state}

theorem enableExtradata_of_changes {call : ExtradataCall} (hloaded : state.mState = .loaded)
    (hlayer : state.OnlyLayer call) (hchanges : state.Changes call) :
    let given := types.extradataSize call.requestedExtradata
    let rounded := alignUp (state.bufferSize + if call.enable then given else -given) state.alignment
    let next := { state with
      clientExtradata := state.wanted call
      bufferSize := if layerKinds (state.wanted call) = 0 then rounded - types.other else rounded }
    state.enableExtradata types call = (next.setBufferReq call.answers, next) := by
  intro given rounded next
  unfold enableExtradata
  rw [if_neg (by simp [hloaded])]
  dsimp only
  unfold Changes layerKinds at hchanges
  rw [if_neg (fun hne => hne hlayer), if_pos hchanges]
  rfl

theorem enableExtradata_of_same {call : ExtradataCall} (hloaded : state.mState = .loaded)
    (hlayer : state.OnlyLayer call) (hsame : ¬state.Changes call) :
    state.enableExtradata types call = (.none, state) := by
  unfold enableExtradata
  rw [if_neg (by simp [hloaded])]
  dsimp only
  unfold Changes layerKinds at hsame
  rw [if_neg (fun hne => hne hlayer), if_neg hsame]

theorem setBufferReq_ne_badParameter (halignment : IsPowerOfTwo state.alignment)
    (haligned : state.alignment.toNat ∣ state.bufferSize.toNat) (answers : ExtradataAnswers) :
    state.setBufferReq answers ≠ .badParameter := by
  unfold setBufferReq
  rw [halignment.alignUp_of_dvd haligned]
  simp only [ne_eq, not_true_eq_false, if_false]
  split_ifs <;> simp

theorem layerKinds_wanted_ne_zero {call : ExtradataCall} (henable : call.enable = true)
    (hchanges : state.Changes call) : layerKinds (state.wanted call) ≠ 0 := by
  intro hzero
  apply hchanges
  rw [hzero]
  unfold wanted layerKinds at hzero
  rw [if_pos henable] at hzero
  unfold layerKinds
  apply BitVec.eq_of_getLsbD_eq
  intro i hi
  have hbit := congrArg (BitVec.getLsbD · i) hzero
  have hnone : (0 : BitVec 32).getLsbD i = false := BitVec.getLsbD_zero
  simp only [BitVec.getLsbD_and, BitVec.getLsbD_or, hnone] at hbit ⊢
  cases hclient : state.clientExtradata.getLsbD i
  · rfl
  · simpa [hclient] using hbit

theorem toNat_extradataSize_of_layerKinds (hsmall : types.Small) {kinds : BitVec 32}
    (hnone : layerKinds kinds = 0) : (types.extradataSize kinds).toNat = 0 := by
  have hbits : ∀ i, 16 ≤ i → i < 32 → kinds.getLsbD i = false := by
    intro i hlow hhigh
    have hbit := congrArg (BitVec.getLsbD · i) hnone
    have hzero : (0 : BitVec 32).getLsbD i = false := BitVec.getLsbD_zero
    have hmask : driverExtradataMask.getLsbD i = false := by
      have hsize : driverExtradataMask.toNat < 2 ^ i :=
        Nat.lt_of_lt_of_le (show driverExtradataMask.toNat < 2 ^ 16 by decide)
          (Nat.pow_le_pow_right (by decide) hlow)
      exact Nat.testBit_lt_two_pow hsize
    simp only [layerKinds, BitVec.getLsbD_and, BitVec.getLsbD_not, hhigh, decide_true, hmask, hzero, Bool.not_false,
      Bool.and_true] at hbit
    exact hbit
  rw [types.toNat_extradataSize hsmall, hbits 16 (by decide) (by decide), hbits 17 (by decide) (by decide),
    hbits 19 (by decide) (by decide)]
  rfl

theorem Roomy.enable (hroomy : state.Roomy types frameSize) (hsmall : types.Small)
    (halignment : IsPowerOfTwo state.alignment) {call : ExtradataCall} (hloaded : state.mState = .loaded)
    (hlayer : state.OnlyLayer call) (hchanges : state.Changes call) (henable : call.enable = true)
    (hfits : state.EnableFits types frameSize call) :
    (state.enableExtradata types call).2.Roomy types frameSize := by
  rw [enableExtradata_of_changes hloaded hlayer hchanges]
  simp only [if_neg (layerKinds_wanted_ne_zero henable hchanges), if_pos henable]
  obtain ⟨hwrap, hterminator⟩ := hfits
  have hpos := halignment.pos
  have hsum : (state.bufferSize + types.extradataSize call.requestedExtradata).toNat =
      state.bufferSize.toNat + (types.extradataSize call.requestedExtradata).toNat :=
    BitVec.toNat_add_of_lt (by omega)
  have hrounded := halignment.toNat_alignUp_eq (x := state.bufferSize + types.extradataSize call.requestedExtradata)
    (by omega)
  refine ⟨halignment.dvd_alignUp _, ?_⟩
  have hwanted : state.wanted call = call.requestedExtradata ||| state.clientExtradata := if_pos henable
  have hswap := types.toNat_extradataSize_diff hsmall state.clientExtradata call.requestedExtradata
  have hleft := types.toNat_extradataSize_and_le hsmall state.clientExtradata (~~~call.requestedExtradata)
  have hroom := hroomy.room
  rw [BitVec.or_comm] at hswap
  dsimp only
  rw [hrounded, hsum, hwanted]
  have hsome : call.requestedExtradata ||| state.clientExtradata ≠ 0 := by
    intro hzero
    apply layerKinds_wanted_ne_zero henable hchanges
    rw [hwanted, hzero]
    rfl
  unfold required
  rw [if_neg hsome]
  by_cases hfirst : state.clientExtradata = 0
  · have hroomFirst := hterminator hfirst
    unfold spare required at hroomFirst
    unfold required at hroom
    rw [if_pos hfirst] at hroomFirst hroom
    have hnone : (types.extradataSize state.clientExtradata).toNat = 0 :=
      toNat_extradataSize_of_layerKinds hsmall (by rw [hfirst]; rfl)
    omega
  · unfold required at hroom
    rw [if_neg hfirst] at hroom
    omega

theorem Roomy.disable (hroomy : state.Roomy types frameSize) (hsmall : types.Small)
    (halignment : IsPowerOfTwo state.alignment) {call : ExtradataCall} (hloaded : state.mState = .loaded)
    (hlayer : state.OnlyLayer call) (hchanges : state.Changes call) (hdisable : call.enable = false)
    (hfits : state.DisableFits types frameSize call) :
    (state.enableExtradata types call).2.Roomy types frameSize := by
  rw [enableExtradata_of_changes hloaded hlayer hchanges]
  simp only [hdisable, Bool.false_eq_true, if_false]
  obtain ⟨hgiven, hmultiple, hspare⟩ := hfits
  have hpos := halignment.pos
  have hdifference : (state.bufferSize + -types.extradataSize call.requestedExtradata).toNat =
      state.bufferSize.toNat - (types.extradataSize call.requestedExtradata).toNat := by
    rw [← BitVec.sub_eq_add_neg, BitVec.toNat_sub_of_le (BitVec.le_def.mpr hgiven)]
  have hfits : state.bufferSize.toNat + state.alignment.toNat ≤ 2 ^ 32 :=
    halignment.add_le_of_dvd hroomy.aligned
  have hrounded := halignment.toNat_alignUp_eq
    (x := state.bufferSize + -types.extradataSize call.requestedExtradata) (by omega)
  rw [hdifference] at hrounded
  have hwanted : state.wanted call = state.clientExtradata &&& ~~~call.requestedExtradata := by
    unfold wanted
    rw [hdisable]
    rfl
  have hdiff := types.toNat_extradataSize_diff hsmall call.requestedExtradata state.clientExtradata
  have hswap := types.toNat_extradataSize_diff hsmall state.clientExtradata call.requestedExtradata
  rw [BitVec.or_comm] at hswap
  have hroom := hroomy.room
  have hbefore : state.clientExtradata ≠ 0 := by
    intro hnone
    apply hchanges
    rw [hwanted, hnone]
    exact congrArg layerKinds BitVec.zero_and.symm
  unfold spare required at hspare
  unfold required at hroom
  rw [if_neg hbefore] at hroom hspare
  by_cases hlast : layerKinds (state.wanted call) = 0
  · have hnone : (types.extradataSize (state.wanted call)).toNat = 0 :=
      toNat_extradataSize_of_layerKinds hsmall hlast
    rw [if_pos hlast] at hspare
    rw [hwanted] at hnone hspare
    have hterminator : types.other.toNat ≤
        (alignUp (state.bufferSize + -types.extradataSize call.requestedExtradata) state.alignment).toNat := by
      rw [hrounded]
      split_ifs at hspare <;> omega
    have hlower := BitVec.toNat_sub_of_le (BitVec.le_def.mpr hterminator)
    simp only [if_pos hlast]
    refine ⟨?_, ?_⟩
    · rw [hlower]
      exact Nat.dvd_sub (halignment.dvd_alignUp _) (hmultiple hlast)
    · dsimp only
      rw [hlower, hrounded, hwanted]
      unfold required
      split_ifs at hspare ⊢ <;> omega
  · simp only [if_neg hlast]
    refine ⟨halignment.dvd_alignUp _, ?_⟩
    dsimp only
    have hrest : state.wanted call ≠ 0 := by
      intro hzero
      apply hlast
      rw [hzero]
      rfl
    rw [if_neg hlast, if_neg hrest] at hspare
    rw [hrounded]
    unfold required
    rw [if_neg hrest, hwanted]
    omega

theorem Roomy.call (hroomy : state.Roomy types frameSize) (hsmall : types.Small)
    (halignment : IsPowerOfTwo state.alignment) {call : ExtradataCall} (hloaded : state.mState = .loaded)
    (hlayer : state.OnlyLayer call) (hfits : state.Fits types frameSize call) :
    (state.enableExtradata types call).1 ≠ .badParameter ∧
      (state.enableExtradata types call).2.Roomy types frameSize ∧
      (state.enableExtradata types call).2.mState = .loaded ∧
      (state.enableExtradata types call).2.alignment = state.alignment := by
  by_cases hchanges : state.Changes call
  · have hroom : (state.enableExtradata types call).2.Roomy types frameSize := by
      have hbytes := hfits hchanges
      cases henable : call.enable with
      | true =>
        rw [if_pos henable] at hbytes
        exact hroomy.enable hsmall halignment hloaded hlayer hchanges henable hbytes
      | false =>
        rw [if_neg (by simp [henable])] at hbytes
        exact hroomy.disable hsmall halignment hloaded hlayer hchanges henable hbytes
    rw [enableExtradata_of_changes hloaded hlayer hchanges] at hroom ⊢
    dsimp only at hroom ⊢
    refine ⟨setBufferReq_ne_badParameter ?_ hroom.aligned call.answers, hroom, hloaded, rfl⟩
    exact halignment
  · rw [enableExtradata_of_same hloaded hlayer hchanges]
    exact ⟨by simp, hroomy, hloaded, rfl⟩

def sampleTypes : ExtradataTypes := ⟨24, 60, 20, 96⟩

def loadedState : ExtradataState := ⟨.loaded, true, false, 0, 0, 8192, 4096⟩

def layerCall (kind : BitVec 32) (enable : Bool) : ExtradataCall :=
  ⟨kind, enable, true, some (8192, 4096), true, true, true⟩

def layerCalls : List ExtradataCall :=
  [layerCall interlaceExtradata true, layerCall portDefExtradata true, layerCall portDefExtradata false]

end ExtradataState

end Nozomi
