import Nozomi.Vdec.StreamParser.Ensures
import Nozomi.Vdec.StreamParser.Shifts

/-!
# The frame rate of a stream

`get_frame_rate` of `h264_utils.cpp`. Its guard is on a field of 32 bits, and its divisor is twice this field in
32 bits.
-/

namespace Nozomi

namespace VuiParam

def getFrameRate (vui : VuiParam) (frameRate : Nat) : Option Nat :=
  if vui.numUnitsInTick ≠ 0 then
    let divisor := 2 * vui.numUnitsInTick % 2 ^ 32
    if divisor = 0 then none else some (vui.timeScale / divisor)
  else some frameRate

def frameRateOf (vui : VuiParam) (frameRate : Nat) : Nat :=
  if vui.numUnitsInTick ≠ 0 then vui.timeScale / (2 * vui.numUnitsInTick) else frameRate

structure TimingFits (vui : VuiParam) : Prop where
  numUnitsInTick : vui.numUnitsInTick < 2 ^ 32
  timeScale : vui.timeScale < 2 ^ 32

def KeepsQuotient (vui : VuiParam) : Prop :=
  vui.numUnitsInTick < 2 ^ 31 ∨ 2 ^ 32 + vui.timeScale < 2 * vui.numUnitsInTick

variable {vui : VuiParam}

theorem getFrameRate_of_small (hsmall : vui.numUnitsInTick < 2 ^ 31) (frameRate : Nat) :
    vui.getFrameRate frameRate = some (vui.frameRateOf frameRate) := by
  unfold getFrameRate frameRateOf
  split
  · have hdivisor : 2 * vui.numUnitsInTick % 2 ^ 32 = 2 * vui.numUnitsInTick := Nat.mod_eq_of_lt (by omega)
    rw [hdivisor, if_neg (by omega)]
  · rfl

theorem getFrameRate_of_large (hfits : vui.TimingFits) (hlarge : 2 ^ 31 ≤ vui.numUnitsInTick) (frameRate : Nat) :
    vui.getFrameRate frameRate = some (vui.frameRateOf frameRate) ↔
      2 ^ 32 + vui.timeScale < 2 * vui.numUnitsInTick := by
  obtain ⟨hunits, hscale⟩ := hfits
  have hnonzero : vui.numUnitsInTick ≠ 0 := by omega
  have hdivisor : 2 * vui.numUnitsInTick % 2 ^ 32 = 2 * vui.numUnitsInTick - 2 ^ 32 := by omega
  have hquotient : vui.timeScale / (2 * vui.numUnitsInTick) = 0 := Nat.div_eq_of_lt (by omega)
  unfold getFrameRate frameRateOf
  rw [if_pos hnonzero, if_pos hnonzero, hdivisor, hquotient]
  dsimp only
  split
  · constructor
    · exact fun hnone => absurd hnone (by simp)
    · omega
  · rw [Option.some.injEq, Nat.div_eq_zero_iff]
    omega

theorem getFrameRate_iff (hfits : vui.TimingFits) (frameRate : Nat) :
    vui.getFrameRate frameRate = some (vui.frameRateOf frameRate) ↔ vui.KeepsQuotient := by
  unfold KeepsQuotient
  by_cases hsmall : vui.numUnitsInTick < 2 ^ 31
  · exact iff_of_true (getFrameRate_of_small hsmall frameRate) (Or.inl hsmall)
  · rw [getFrameRate_of_large hfits (not_lt.mp hsmall), or_iff_right hsmall]

end VuiParam

namespace Parser

/-! ### The fields that are parsed -/

theorem timingInfo_ensures {vui : VuiParam} (hfits : vui.TimingFits) :
    (timingInfo vui).Ensures VuiParam.TimingFits := by
  unfold timingInfo
  refine Calls.ensures_bind _ fun present => ?_
  dsimp only
  split
  · refine Calls.ensures_bind _ fun numUnitsInTick => Calls.ensures_bind _ fun timeScale => ?_
    exact Calls.ensures_bind _ fun fixedFrameRateFlag => Calls.ensures_pure ⟨numUnitsInTick.isLt, timeScale.isLt⟩
  · exact Calls.ensures_pure ⟨hfits.numUnitsInTick, hfits.timeScale⟩

theorem vuiHrdParameters_ensures {vui : VuiParam} (hfits : vui.TimingFits) :
    (vuiHrdParameters vui).Ensures VuiParam.TimingFits := by
  unfold vuiHrdParameters
  refine Calls.ensures_bind _ fun nalFlag => Calls.ensures_ite_bind _ _ fun nalHrd => ?_
  refine Calls.ensures_bind _ fun vclFlag => Calls.ensures_ite_bind _ _ fun vclHrd => ?_
  refine Calls.ensures_ite_bind _ _ fun lowDelayHrdFlag => ?_
  exact Calls.ensures_pure ⟨hfits.numUnitsInTick, hfits.timeScale⟩

theorem parseVui_ensures (vuiInExtradata : Bool) {vui : VuiParam} (hfits : vui.TimingFits) :
    (parseVui vuiInExtradata vui).Ensures VuiParam.TimingFits := by
  unfold parseVui
  refine Calls.ensures_when_bind _ ?_
  refine Calls.ensures_bind _ fun more => ?_
  split
  · refine Calls.ensures_bind _ fun aspectFlag => Calls.ensures_ite_bind _ _ fun aspectRatio => ?_
    refine Calls.ensures_bind _ fun _ => ?_
    refine Calls.Ensures.bind (timingInfo_ensures ⟨hfits.numUnitsInTick, hfits.timeScale⟩) fun timed htimed => ?_
    refine (vuiHrdParameters_ensures htimed).bind fun result hresult => ?_
    refine Calls.ensures_bind _ fun picStruct => Calls.ensures_bind _ fun _ => ?_
    exact Calls.ensures_pure ⟨hresult.numUnitsInTick, hresult.timeScale⟩
  · exact Calls.ensures_pure hfits

theorem seiPayload_keeps_vuiParam (payloadType : Nat) (params : StreamParams) :
    (seiPayload payloadType params).Ensures fun result => result.vuiParam = params.vuiParam := by
  unfold seiPayload
  split
  · exact Calls.ensures_bind _ fun period => Calls.ensures_pure rfl
  split
  · exact Calls.ensures_bind _ fun timing => Calls.ensures_pure rfl
  split
  · exact Calls.ensures_bind _ fun handler => Calls.ensures_pure rfl
  split
  · exact Calls.ensures_bind _ fun pack => Calls.ensures_pure rfl
  · exact Calls.ensures_pure rfl

theorem parseNal_timingFits (rounds : Nat) (input : NalInput) {params : StreamParams}
    (hfits : params.vuiParam.TimingFits) :
    (parseNal rounds input params).Ensures fun result => result.vuiParam.TimingFits := by
  refine parseNal_ensures (fun _ _ hparams => hparams) ?_ (fun _ _ hparams _ => hparams) ?_ rounds hfits
  · exact fun inExtradata params hparams => parseVui_ensures inExtradata hparams
  · intro payloadType params hparams
    exact (seiPayload_keeps_vuiParam payloadType params).mono fun result hresult => hresult ▸ hparams

end Parser

namespace H264StreamParser

theorem parseNals_timingFits (inputs : List (Nat × NalInput)) {parser : H264StreamParser}
    (hfits : parser.params.vuiParam.TimingFits) : (parser.parseNals inputs).params.vuiParam.TimingFits := by
  induction inputs generalizing parser with
  | nil => exact hfits
  | cons input inputs ih =>
    exact ih ((Parser.parseNal_timingFits input.1 input.2 hfits).run ReaderOp.step parser.reader)

def getFrameRate (parser : H264StreamParser) (frameRate : Nat) : Option Nat :=
  parser.params.vuiParam.getFrameRate frameRate

/-- Behind every sequence of NALs the frame rate is the quotient if and only if the divisor does not wrap, or is
above `time_scale` nevertheless. -/
theorem getFrameRate_parseNals_iff (panscanHdl : PanscanHandler) (inputs : List (Nat × NalInput)) (frameRate : Nat) :
    let after := (H264StreamParser.mk (.reset panscanHdl) .new).parseNals inputs
    after.getFrameRate frameRate = some (after.params.vuiParam.frameRateOf frameRate) ↔
      after.params.vuiParam.KeepsQuotient := by
  intro after
  have hstart : (StreamParams.reset panscanHdl).vuiParam.TimingFits :=
    ⟨Nat.two_pow_pos 32, Nat.two_pow_pos 32⟩
  exact VuiParam.getFrameRate_iff (parseNals_timingFits inputs hstart) frameRate

/-- A VUI with `num_units_in_tick` 2^31 makes the divisor 0. -/
theorem getFrameRate_divides_by_zero :
    ((H264StreamParser.mk (.reset ⟨[], []⟩) .new).parseNals
      [(0, ⟨fun address => [0x86].getD address 0, 0, 11, Parser.naluTypeVui, false, ⟨[], []⟩⟩)]).getFrameRate 30 =
        none := by
  decide +kernel

end H264StreamParser

end Nozomi
