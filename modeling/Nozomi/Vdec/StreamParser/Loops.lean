import Nozomi.Base.Marks
import Nozomi.Vdec.StreamParser.Code

/-!
# The loops of `parse_sps`

`parse_sps` with a mark at the start of each iteration of the loops under it. Without the marks it is `parse_sps`.
-/

namespace Nozomi

inductive SpsLoop
  | scalingMatrix
  | scalingList
  | offsetForRefFrame
  | hrdParameters
  deriving DecidableEq, Repr

namespace Parser

abbrev Looping := Marked ReaderOp.Result SpsLoop

open Marked (mark lift erase)

def scalingListLoop : (rounds : Nat) → (lastScale nextScale : Int) → Looping Unit
  | 0, _, _ => pure ()
  | rounds + 1, lastScale, nextScale => do
    mark .scalingList
    let nextScale ← if nextScale ≠ 0 then do
        let deltaScale ← lift sev
        pure (((lastScale + deltaScale + 256).bmod (2 ^ 32)).tmod 256)
      else pure nextScale
    scalingListLoop rounds (if nextScale = 0 then lastScale else nextScale) nextScale

def scalingMatrixLoop : (rounds i : Nat) → Looping Unit
  | 0, _ => pure ()
  | rounds + 1, i => do
    if ← lift moreBits then
      mark .scalingMatrix
      let seqScalingListPresentFlag ← lift (extractBits 1)
      if seqScalingListPresentFlag ≠ 0 then
        scalingListLoop (if i < 6 then 16 else 64) 8 8
      scalingMatrixLoop rounds (i + 1)

def highProfileLoops : Looping Unit := do
  let chromaFormatIdc ← lift uev
  if chromaFormatIdc = 3 then
    lift (discard (extractBits 1))
  lift (discard uev)
  lift (discard uev)
  lift (discard (extractBits 1))
  let seqScalingMatrixPresentFlag ← lift (extractBits 1)
  if seqScalingMatrixPresentFlag ≠ 0 then
    scalingMatrixLoop 12 0

def offsetsForRefFrameLoop : (rounds : Nat) → Looping Unit
  | 0 => pure ()
  | rounds + 1 => do
    mark .offsetForRefFrame
    lift (discard sev)
    offsetsForRefFrameLoop rounds

def picOrderCntLoops : Looping Unit := do
  let picOrderCntType ← lift uev
  if picOrderCntType = 0 then
    lift (discard uev)
  else if picOrderCntType = 1 then
    lift (discard (extractBits 1))
    lift (discard sev)
    lift (discard sev)
    let numRefFramesInPicOrderCntCycle ← lift uev
    offsetsForRefFrameLoop numRefFramesInPicOrderCntCycle

def hrdLoops : (rounds idx : Nat) → HrdParam → Looping HrdParam
  | 0, _, hrd => pure hrd
  | rounds + 1, idx, hrd => do
    if ← lift moreBits then
      mark .hrdParameters
      let bitRate ← lift uev
      let cpbSize ← lift uev
      let cbrFlag ← lift (extractBits 1)
      hrdLoops rounds (idx + 1) { hrd with
        bitRateValue := hrd.bitRateValue.set idx ((bitRate + 1) % 2 ^ 32)
        cpbSizeValue := hrd.cpbSizeValue.set idx ((cpbSize + 1) % 2 ^ 32)
        cbrFlag := hrd.cbrFlag.set idx cbrFlag }
    else pure hrd

def hrdParametersLoops (hrd : HrdParam) : Looping HrdParam := do
  let cpbCntMinus1 ← lift uev
  let cpbCnt := (cpbCntMinus1 + 1) % 2 ^ 32
  let bitRateScale ← lift (extractBits 4)
  let cpbSizeScale ← lift (extractBits 4)
  let hrd := { hrd with cpbCnt := cpbCnt, bitRateScale := bitRateScale, cpbSizeScale := cpbSizeScale }
  if cpbCnt > maxCpbCount then pure hrd
  else
    let hrd ← hrdLoops cpbCnt 0 hrd
    let initialCpbRemovalDelayLength ← lift (extractBits 5)
    let cpbRemovalDelayLength ← lift (extractBits 5)
    let dpbOutputDelayLength ← lift (extractBits 5)
    let timeOffsetLength ← lift (extractBits 5)
    pure { hrd with
      initialCpbRemovalDelayLength := initialCpbRemovalDelayLength + 1
      cpbRemovalDelayLength := cpbRemovalDelayLength + 1
      dpbOutputDelayLength := dpbOutputDelayLength + 1
      timeOffsetLength := timeOffsetLength }

def vuiHrdParametersLoops (vui : VuiParam) : Looping VuiParam := do
  let nalFlag ← lift (extractBits 1)
  let nalHrd ← if nalFlag ≠ 0 then hrdParametersLoops vui.nalHrdParameters else pure vui.nalHrdParameters
  let vclFlag ← lift (extractBits 1)
  let vclHrd ← if vclFlag ≠ 0 then hrdParametersLoops vui.vclHrdParameters else pure vui.vclHrdParameters
  let lowDelayHrdFlag ← if nalFlag ≠ 0 ∨ vclFlag ≠ 0 then lift (Fin.val <$> extractBits 1)
    else pure vui.lowDelayHrdFlag
  pure { vui with
    nalHrdParametersPresentFlag := nalFlag
    nalHrdParameters := nalHrd
    vclHrdParametersPresentFlag := vclFlag
    vclHrdParameters := vclHrd
    lowDelayHrdFlag := lowDelayHrdFlag }

def parseVuiLoops (vui : VuiParam) : Looping VuiParam := do
  if ← lift moreBits then
    let aspectRatioInfoPresentFlag ← lift (extractBits 1)
    let aspectRatio ← if aspectRatioInfoPresentFlag ≠ 0 then lift aspectRatioInfo else pure vui.aspectRatioInfo
    lift videoSignal
    let vui ← lift (timingInfo { vui with
      aspectRatioInfoPresentFlag := aspectRatioInfoPresentFlag
      aspectRatioInfo := aspectRatio })
    let vui ← vuiHrdParametersLoops vui
    let picStructPresentFlag ← lift (extractBits 1)
    lift bitstreamRestriction
    pure { vui with picStructPresentFlag := picStructPresentFlag }
  else pure vui

def parseSpsLoops (params : StreamParams) : Looping StreamParams := do
  let profileIdc ← lift (extractBits 8)
  lift (discard (extractBits 8))
  lift (discard (extractBits 8))
  lift (discard uev)
  if profileIdc.val ∈ highProfiles then
    highProfileLoops
  lift (discard uev)
  picOrderCntLoops
  lift (discard uev)
  lift (discard (extractBits 1))
  lift (discard uev)
  lift (discard uev)
  let frameMbsOnlyFlag ← lift (extractBits 1)
  let mbaffFlag ← if frameMbsOnlyFlag = 0 then lift (Fin.val <$> extractBits 1) else pure params.mbaffFlag
  lift (discard (extractBits 1))
  lift frameCropping
  let vuiParametersPresentFlag ← lift (extractBits 1)
  let vui ← if vuiParametersPresentFlag ≠ 0 then parseVuiLoops params.vuiParam else pure params.vuiParam
  pure { params with mbaffFlag := mbaffFlag, vuiParam := vui }

/-! ### Without the marks -/

@[simp] theorem erase_scalingListLoop (rounds : Nat) (lastScale nextScale : Int) :
    erase (scalingListLoop rounds lastScale nextScale) = scalingList rounds lastScale nextScale := by
  induction rounds generalizing lastScale nextScale with
  | zero => rfl
  | succ rounds ih =>
    simp only [scalingListLoop, scalingList, Marked.erase_bind, Marked.erase_ite, Marked.erase_lift,
      Marked.erase_pure, ih]
    rfl

@[simp] theorem erase_scalingMatrixLoop (rounds i : Nat) :
    erase (scalingMatrixLoop rounds i) = scalingMatrix rounds i := by
  induction rounds generalizing i with
  | zero => rfl
  | succ rounds ih =>
    simp only [scalingMatrixLoop, scalingMatrix, Marked.erase_bind, Marked.erase_ite, Marked.erase_lift,
      Marked.erase_pure, erase_scalingListLoop, ih]
    rfl

@[simp] theorem erase_highProfileLoops : erase highProfileLoops = highProfile := by
  simp only [highProfileLoops, highProfile, Marked.erase_bind, Marked.erase_ite, Marked.erase_lift,
    Marked.erase_pure, erase_scalingMatrixLoop]

@[simp] theorem erase_offsetsForRefFrameLoop (rounds : Nat) :
    erase (offsetsForRefFrameLoop rounds) = offsetsForRefFrame rounds := by
  induction rounds with
  | zero => rfl
  | succ rounds ih =>
    simp only [offsetsForRefFrameLoop, offsetsForRefFrame, Marked.erase_bind, Marked.erase_lift, ih]
    rfl

@[simp] theorem erase_picOrderCntLoops : erase picOrderCntLoops = picOrderCnt := by
  simp only [picOrderCntLoops, picOrderCnt, Marked.erase_bind, Marked.erase_ite, Marked.erase_lift,
    Marked.erase_pure, erase_offsetsForRefFrameLoop]

@[simp] theorem erase_hrdLoops (rounds idx : Nat) (hrd : HrdParam) :
    erase (hrdLoops rounds idx hrd) = hrdLoop rounds idx hrd := by
  induction rounds generalizing idx hrd with
  | zero => rfl
  | succ rounds ih =>
    simp only [hrdLoops, hrdLoop, Marked.erase_bind, Marked.erase_ite, Marked.erase_lift, Marked.erase_pure, ih]
    rfl

@[simp] theorem erase_hrdParametersLoops (hrd : HrdParam) : erase (hrdParametersLoops hrd) = hrdParameters hrd := by
  simp only [hrdParametersLoops, hrdParameters, Marked.erase_bind, Marked.erase_ite, Marked.erase_lift,
    Marked.erase_pure, erase_hrdLoops]

@[simp] theorem erase_vuiHrdParametersLoops (vui : VuiParam) :
    erase (vuiHrdParametersLoops vui) = vuiHrdParameters vui := by
  simp only [vuiHrdParametersLoops, vuiHrdParameters, Marked.erase_bind, Marked.erase_ite, Marked.erase_lift,
    Marked.erase_pure, erase_hrdParametersLoops]

@[simp] theorem erase_parseVuiLoops (vui : VuiParam) : erase (parseVuiLoops vui) = parseVui false vui := by
  simp only [parseVuiLoops, parseVui, Marked.erase_bind, Marked.erase_ite, Marked.erase_lift, Marked.erase_pure,
    erase_vuiHrdParametersLoops]
  rfl

@[simp] theorem erase_parseSpsLoops (params : StreamParams) : erase (parseSpsLoops params) = parseSps params := by
  simp only [parseSpsLoops, parseSps, Marked.erase_bind, Marked.erase_ite, Marked.erase_lift, Marked.erase_pure,
    erase_highProfileLoops, erase_picOrderCntLoops, erase_parseVuiLoops]

end Parser

end Nozomi
