import Nozomi.Base.Calls
import Nozomi.Vdec.H264Utils.Code
import Nozomi.Vdec.StreamParser.Reader

/-!
# `h264_stream_parser`

The parsers of sequence parameter sets, VUI and SEI of `h264_utils.cpp`, as computations over the bit reader,
with the records that they fill. The loops that the data end run for a number of rounds that is given, or that
the data cannot exceed.
-/

namespace Nozomi

/-! ### The bit reader as an interface -/

/-- The calls of the bit reader. A length of `iv` is a field of five bits, which is not 0. -/
inductive ReaderOp
  | extractBits (n : Nat)
  | moreBits
  | leadZeroBits
  | uev
  | iv (nBits : Nat) (positive : 0 < nBits) (small : nBits < 32)
  | initBitstream (bytes : List UInt8)
  | setEmulationScEnabled (enabled : Bool)
  | emulationCodeSkipCntr

namespace ReaderOp

abbrev Result : ReaderOp → Type
  | extractBits n => Fin (2 ^ n)
  | moreBits => Bool
  | leadZeroBits | uev | iv _ _ _ | emulationCodeSkipCntr => Nat
  | initBitstream _ | setEmulationScEnabled _ => Unit

def step : (op : ReaderOp) → StreamReader → op.Result × StreamReader
  | extractBits n, reader => (Fin.ofNat (2 ^ n) (reader.extractBits n).1, (reader.extractBits n).2)
  | moreBits, reader => (reader.moreBits, reader)
  | leadZeroBits, reader => reader.leadZeroBits
  | uev, reader => reader.uev
  | iv nBits _ _, reader => reader.iv nBits
  | initBitstream bytes, reader => ((), reader.initBitstream bytes)
  | setEmulationScEnabled enabled, reader => ((), { reader with emulationScEnabled := enabled })
  | emulationCodeSkipCntr, reader => (reader.emulationCodeSkipCntr, reader)

end ReaderOp

abbrev Parser := Calls ReaderOp.Result

/-! ### What is parsed -/

def maxCpbCount : Nat := 32

/-- `h264_hrd_param`; the last length is a field of five bits. -/
structure HrdParam where
  cpbCnt : Nat
  bitRateScale : Nat
  cpbSizeScale : Nat
  bitRateValue : List Nat
  cpbSizeValue : List Nat
  cbrFlag : List Nat
  initialCpbRemovalDelayLength : Nat
  cpbRemovalDelayLength : Nat
  dpbOutputDelayLength : Nat
  timeOffsetLength : Fin (2 ^ 5)
  deriving DecidableEq, Repr

structure AspectRatioInfo where
  aspectRatioIdc : Nat
  aspectRatioX : Nat
  aspectRatioY : Nat
  deriving DecidableEq, Repr

structure VuiParam where
  aspectRatioInfoPresentFlag : Nat
  aspectRatioInfo : AspectRatioInfo
  timingInfoPresentFlag : Nat
  numUnitsInTick : Nat
  timeScale : Nat
  fixedFrameRateFlag : Nat
  nalHrdParametersPresentFlag : Nat
  nalHrdParameters : HrdParam
  vclHrdParametersPresentFlag : Nat
  vclHrdParameters : HrdParam
  lowDelayHrdFlag : Nat
  picStructPresentFlag : Nat
  deriving DecidableEq, Repr

structure SeiBufPeriod where
  initialCpbRemovalDelay : List Nat
  initialCpbRemovalDelayOffset : List Nat
  auCntr : Nat
  isValid : Bool
  deriving DecidableEq, Repr

structure SeiPicTiming where
  cpbRemovalDelay : Nat
  dpbOutputDelay : Nat
  picStruct : Nat
  numClockTs : Nat
  clockTsFlag : Nat
  ctType : Nat
  nuitFieldBasedFlag : Nat
  countingType : Nat
  fullTimestampFlag : Nat
  discontinuityFlag : Nat
  cntDroppedFlag : Nat
  nFrames : Nat
  secondsValue : Nat
  minutesValue : Nat
  hoursValue : Nat
  timeOffset : Nat
  isValid : Bool
  deriving DecidableEq, Repr

def noPanScanBit : Nat := 0x100
def maxPanScanRect : Nat := 3

structure PanScan where
  rectId : Nat
  rectCancelFlag : Nat
  cnt : Nat
  rectLeftOffset : List Int
  rectRightOffset : List Int
  rectTopOffset : List Int
  rectBottomOffset : List Int
  rectRepetitionPeriod : Nat
  deriving DecidableEq, Repr

structure PanscanNode where
  panScanParam : PanScan
  startTs : Int
  endTs : Int
  active : Bool
  deriving DecidableEq, Repr

/-- `panscan_handler`, by the order of its two lists. -/
structure PanscanHandler where
  panscanUsed : List PanscanNode
  panscanFree : List PanscanNode
  deriving DecidableEq, Repr

structure FramePackArrangement where
  id : Nat
  cancelFlag : Nat
  type : Nat
  quincunxSamplingFlag : Nat
  contentInterpretationType : Nat
  spatialFlippingFlag : Nat
  frame0FlippedFlag : Nat
  fieldViewsFlag : Nat
  currentFrameIsFrame0Flag : Nat
  frame0SelfContainedFlag : Nat
  frame1SelfContainedFlag : Nat
  frame0GridPositionX : Nat
  frame0GridPositionY : Nat
  frame1GridPositionX : Nat
  frame1GridPositionY : Nat
  reservedByte : Nat
  repetitionPeriod : Nat
  extensionFlag : Nat
  deriving DecidableEq, Repr

/-- The other fields of `class h264_stream_parser`. -/
structure StreamParams where
  vuiParam : VuiParam
  seiBufPeriod : SeiBufPeriod
  seiPicTiming : SeiPicTiming
  panscanHdl : PanscanHandler
  framePackingArrangement : FramePackArrangement
  mbaffFlag : Nat
  deriving DecidableEq, Repr

def HrdParam.zero : HrdParam :=
  let zeros := List.replicate maxCpbCount 0
  ⟨0, 0, 0, zeros, zeros, zeros, 0, 0, 0, 0⟩

def StreamParams.reset (panscanHdl : PanscanHandler) : StreamParams :=
  let zeros := List.replicate maxCpbCount 0
  { vuiParam := ⟨0, ⟨0, 0, 0⟩, 0, 0, 0, 0, 0, .zero, 0, .zero, 0, 0⟩
    seiBufPeriod := ⟨zeros, zeros, 0, false⟩
    seiPicTiming := ⟨0, 0, 0, 0, 0, 0, 0, 0, 0, 0, 0, 0, 0, 0, 0, 0, false⟩
    panscanHdl := panscanHdl
    framePackingArrangement := ⟨0, 1, 0, 0, 0, 0, 0, 0, 0, 0, 0, 0, 0, 0, 0, 0, 0, 0⟩
    mbaffFlag := 0 }

namespace Parser

/-! ### The calls -/

def extractBits (n : Nat) : Parser (Fin (2 ^ n)) := .call (.extractBits n) .pure

instance neZero_flag : NeZero (2 ^ 1) := ⟨by decide⟩

def moreBits : Parser Bool := .call .moreBits .pure

def uev : Parser Nat := .call .uev .pure

def leadZeroBits : Parser Nat := .call .leadZeroBits .pure

def iv (nBits : Nat) (positive : 0 < nBits) (small : nBits < 32) : Parser Nat :=
  .call (.iv nBits positive small) .pure

def initBitstream (bytes : List UInt8) : Parser Unit := .call (.initBitstream bytes) .pure

def setEmulationScEnabled (enabled : Bool) : Parser Unit := .call (.setEmulationScEnabled enabled) .pure

def emulationCodeSkipCntr : Parser Nat := .call .emulationCodeSkipCntr .pure

def sev : Parser Int := do
  let codeNum ← uev
  pure (Nozomi.sev codeNum)

/-! ### VUI -/

def aspectRatios : List (Nat × Nat) :=
  [(1, 1), (12, 11), (10, 11), (16, 11), (40, 33), (24, 11), (20, 11), (32, 11), (80, 33), (18, 11), (15, 11),
    (64, 33), (160, 99), (4, 3), (3, 2), (2, 1)]

def aspectRatioInfo : Parser AspectRatioInfo := do
  let aspectRatioIdc ← extractBits 8
  if aspectRatioIdc.val = 255 then
    let aspectRatioX ← extractBits 16
    let aspectRatioY ← extractBits 16
    pure ⟨aspectRatioIdc, aspectRatioX, aspectRatioY⟩
  else
    -- 0 and the reserved values leave both at 0.
    let ratio := if aspectRatioIdc.val = 0 then (0, 0) else aspectRatios.getD (aspectRatioIdc - 1) (0, 0)
    pure ⟨aspectRatioIdc, ratio.1, ratio.2⟩

def hrdLoop : (rounds idx : Nat) → HrdParam → Parser HrdParam
  | 0, _, hrd => pure hrd
  | rounds + 1, idx, hrd => do
    if ← moreBits then
      let bitRate ← uev
      let cpbSize ← uev
      let cbrFlag ← extractBits 1
      hrdLoop rounds (idx + 1) { hrd with
        bitRateValue := hrd.bitRateValue.set idx ((bitRate + 1) % 2 ^ 32)
        cpbSizeValue := hrd.cpbSizeValue.set idx ((cpbSize + 1) % 2 ^ 32)
        cbrFlag := hrd.cbrFlag.set idx cbrFlag }
    else pure hrd

def hrdParameters (hrd : HrdParam) : Parser HrdParam := do
  let cpbCntMinus1 ← uev
  let cpbCnt := (cpbCntMinus1 + 1) % 2 ^ 32
  let bitRateScale ← extractBits 4
  let cpbSizeScale ← extractBits 4
  let hrd := { hrd with cpbCnt := cpbCnt, bitRateScale := bitRateScale, cpbSizeScale := cpbSizeScale }
  if cpbCnt > maxCpbCount then pure hrd
  else
    let hrd ← hrdLoop cpbCnt 0 hrd
    let initialCpbRemovalDelayLength ← extractBits 5
    let cpbRemovalDelayLength ← extractBits 5
    let dpbOutputDelayLength ← extractBits 5
    let timeOffsetLength ← extractBits 5
    pure { hrd with
      initialCpbRemovalDelayLength := initialCpbRemovalDelayLength + 1
      cpbRemovalDelayLength := cpbRemovalDelayLength + 1
      dpbOutputDelayLength := dpbOutputDelayLength + 1
      timeOffsetLength := timeOffsetLength }

def videoSignal : Parser Unit := do
  let overscanInfoPresentFlag ← extractBits 1
  if overscanInfoPresentFlag ≠ 0 then
    discard (extractBits 1)
  let videoSignalTypePresentFlag ← extractBits 1
  if videoSignalTypePresentFlag ≠ 0 then
    discard (extractBits 3)
    discard (extractBits 1)
    let colourDescriptionPresentFlag ← extractBits 1
    if colourDescriptionPresentFlag ≠ 0 then
      discard (extractBits 8)
      discard (extractBits 8)
      discard (extractBits 8)
  let chromaLocationInfoPresentFlag ← extractBits 1
  if chromaLocationInfoPresentFlag ≠ 0 then
    discard uev
    discard uev

def timingInfo (vui : VuiParam) : Parser VuiParam := do
  let timingInfoPresentFlag ← extractBits 1
  let vui := { vui with timingInfoPresentFlag := timingInfoPresentFlag }
  if timingInfoPresentFlag ≠ 0 then
    let numUnitsInTick ← extractBits 32
    let timeScale ← extractBits 32
    let fixedFrameRateFlag ← extractBits 1
    pure { vui with
      numUnitsInTick := numUnitsInTick
      timeScale := timeScale
      fixedFrameRateFlag := fixedFrameRateFlag }
  else pure vui

def vuiHrdParameters (vui : VuiParam) : Parser VuiParam := do
  let nalFlag ← extractBits 1
  let nalHrd ← if nalFlag ≠ 0 then hrdParameters vui.nalHrdParameters else pure vui.nalHrdParameters
  let vclFlag ← extractBits 1
  let vclHrd ← if vclFlag ≠ 0 then hrdParameters vui.vclHrdParameters else pure vui.vclHrdParameters
  let lowDelayHrdFlag ← if nalFlag ≠ 0 ∨ vclFlag ≠ 0 then Fin.val <$> extractBits 1
    else pure vui.lowDelayHrdFlag
  pure { vui with
    nalHrdParametersPresentFlag := nalFlag
    nalHrdParameters := nalHrd
    vclHrdParametersPresentFlag := vclFlag
    vclHrdParameters := vclHrd
    lowDelayHrdFlag := lowDelayHrdFlag }

def bitstreamRestriction : Parser Unit := do
  let bitstreamRestrictionFlag ← extractBits 1
  if bitstreamRestrictionFlag ≠ 0 then
    discard (extractBits 1)
    discard uev
    discard uev
    discard uev
    discard uev
    discard uev
    discard uev

def parseVui (vuiInExtradata : Bool) (vui : VuiParam) : Parser VuiParam := do
  if vuiInExtradata then
    discard leadZeroBits
  if ← moreBits then
    let aspectRatioInfoPresentFlag ← extractBits 1
    let aspectRatio ← if aspectRatioInfoPresentFlag ≠ 0 then aspectRatioInfo else pure vui.aspectRatioInfo
    videoSignal
    let vui ← timingInfo { vui with
      aspectRatioInfoPresentFlag := aspectRatioInfoPresentFlag
      aspectRatioInfo := aspectRatio }
    let vui ← vuiHrdParameters vui
    let picStructPresentFlag ← extractBits 1
    bitstreamRestriction
    pure { vui with picStructPresentFlag := picStructPresentFlag }
  else pure vui

/-! ### Sequence parameter sets -/

def scalingList : (rounds : Nat) → (lastScale nextScale : Int) → Parser Unit
  | 0, _, _ => pure ()
  | rounds + 1, lastScale, nextScale => do
    let nextScale ← if nextScale ≠ 0 then do
        let deltaScale ← sev
        pure (((lastScale + deltaScale + 256).bmod (2 ^ 32)).tmod 256)
      else pure nextScale
    scalingList rounds (if nextScale = 0 then lastScale else nextScale) nextScale

def scalingMatrix : (rounds i : Nat) → Parser Unit
  | 0, _ => pure ()
  | rounds + 1, i => do
    if ← moreBits then
      let seqScalingListPresentFlag ← extractBits 1
      if seqScalingListPresentFlag ≠ 0 then
        scalingList (if i < 6 then 16 else 64) 8 8
      scalingMatrix rounds (i + 1)

def offsetsForRefFrame : (rounds : Nat) → Parser Unit
  | 0 => pure ()
  | rounds + 1 => do
    discard sev
    offsetsForRefFrame rounds

def highProfiles : List Nat := [100, 110, 122, 244, 44, 83, 86, 118]

def highProfile : Parser Unit := do
  let chromaFormatIdc ← uev
  if chromaFormatIdc = 3 then
    discard (extractBits 1)
  discard uev
  discard uev
  discard (extractBits 1)
  let seqScalingMatrixPresentFlag ← extractBits 1
  if seqScalingMatrixPresentFlag ≠ 0 then
    scalingMatrix 12 0

def picOrderCnt : Parser Unit := do
  let picOrderCntType ← uev
  if picOrderCntType = 0 then
    discard uev
  else if picOrderCntType = 1 then
    discard (extractBits 1)
    discard sev
    discard sev
    let numRefFramesInPicOrderCntCycle ← uev
    offsetsForRefFrame numRefFramesInPicOrderCntCycle

def frameCropping : Parser Unit := do
  let frameCroppingFlag ← extractBits 1
  if frameCroppingFlag ≠ 0 then
    discard uev
    discard uev
    discard uev
    discard uev

def parseSps (params : StreamParams) : Parser StreamParams := do
  let profileIdc ← extractBits 8
  discard (extractBits 8)
  discard (extractBits 8)
  discard uev
  if profileIdc.val ∈ highProfiles then
    highProfile
  discard uev
  picOrderCnt
  discard uev
  discard (extractBits 1)
  discard uev
  discard uev
  let frameMbsOnlyFlag ← extractBits 1
  let mbaffFlag ← if frameMbsOnlyFlag = 0 then Fin.val <$> extractBits 1 else pure params.mbaffFlag
  discard (extractBits 1)
  frameCropping
  let vuiParametersPresentFlag ← extractBits 1
  let vui ← if vuiParametersPresentFlag ≠ 0 then parseVui false params.vuiParam else pure params.vuiParam
  pure { params with mbaffFlag := mbaffFlag, vuiParam := vui }

/-! ### SEI -/

def bufferingPeriodLoop (delayLength : Nat) : (rounds idx : Nat) → SeiBufPeriod → Parser SeiBufPeriod
  | 0, _, period => pure period
  | rounds + 1, idx, period => do
    let delay ← extractBits delayLength
    let delayOffset ← extractBits delayLength
    bufferingPeriodLoop delayLength rounds (idx + 1) { period with
      isValid := true
      initialCpbRemovalDelay := period.initialCpbRemovalDelay.set idx delay
      initialCpbRemovalDelayOffset := period.initialCpbRemovalDelayOffset.set idx delayOffset }

def seiBufferingPeriod (vui : VuiParam) (period : SeiBufPeriod) : Parser SeiBufPeriod := do
  let seqParameterSetId ← uev
  if seqParameterSetId > 31 then pure period
  else
    let period := { period with isValid := false }
    if vui.nalHrdParametersPresentFlag ≠ 0 ∧ vui.nalHrdParameters.cpbCnt > maxCpbCount then pure period
    else
      let period ← if vui.nalHrdParametersPresentFlag ≠ 0 then
          bufferingPeriodLoop vui.nalHrdParameters.initialCpbRemovalDelayLength vui.nalHrdParameters.cpbCnt 0
            period
        else pure period
      if vui.vclHrdParametersPresentFlag ≠ 0 ∧ vui.vclHrdParameters.cpbCnt > maxCpbCount then pure period
      else
        let period ← if vui.vclHrdParametersPresentFlag ≠ 0 then
            bufferingPeriodLoop vui.vclHrdParameters.initialCpbRemovalDelayLength
              vui.vclHrdParameters.cpbCnt 0 period
          else pure period
        pure { period with auCntr := 0 }

def clockTime (fullTimestampFlag : Nat) : Parser (Nat × Nat × Nat) := do
  if fullTimestampFlag ≠ 0 then
    let seconds ← extractBits 6
    let minutes ← extractBits 6
    let hours ← extractBits 5
    pure (seconds, minutes, hours)
  else
    let secondsFlag ← extractBits 1
    if secondsFlag = 0 then pure (0, 0, 0)
    else
      let seconds ← extractBits 6
      let minutesFlag ← extractBits 1
      if minutesFlag = 0 then pure (seconds, 0, 0)
      else
        let minutes ← extractBits 6
        let hoursFlag ← extractBits 1
        if hoursFlag = 0 then pure (seconds, minutes, 0)
        else
          let hours ← extractBits 5
          pure (seconds, minutes, hours)

def clockTimestamps (timeOffsetLen : Fin (2 ^ 5)) : (rounds : Nat) → SeiPicTiming → Parser SeiPicTiming
  | 0, timing => pure timing
  | rounds + 1, timing => do
    if ← moreBits then
      let clockTsFlag ← extractBits 1
      let timing := { timing with clockTsFlag := clockTsFlag }
      if clockTsFlag = 0 then clockTimestamps timeOffsetLen rounds timing
      else
        let ctType ← extractBits 2
        let nuitFieldBasedFlag ← extractBits 1
        let countingType ← extractBits 5
        let fullTimestampFlag ← extractBits 1
        let discontinuityFlag ← extractBits 1
        let cntDroppedFlag ← extractBits 1
        let nFrames ← extractBits 8
        let time ← clockTime fullTimestampFlag
        let timeOffset ← if hpositive : 0 < timeOffsetLen.val then iv timeOffsetLen hpositive timeOffsetLen.isLt
          else pure 0
        clockTimestamps timeOffsetLen rounds { timing with
          ctType := ctType
          nuitFieldBasedFlag := nuitFieldBasedFlag
          countingType := countingType
          fullTimestampFlag := fullTimestampFlag
          discontinuityFlag := discontinuityFlag
          cntDroppedFlag := cntDroppedFlag
          nFrames := nFrames
          secondsValue := time.1
          minutesValue := time.2.1
          hoursValue := time.2.2
          timeOffset := timeOffset }
    else pure timing

def numClockTs (picStruct : Nat) : Nat := [1, 1, 1, 2, 2, 3, 3, 2, 3].getD picStruct 0

def seiPictureTiming (vui : VuiParam) (timing : SeiPicTiming) : Parser SeiPicTiming := do
  let lengths : Nat × Nat × Fin (2 ^ 5) :=
    if vui.nalHrdParametersPresentFlag ≠ 0 then
      (vui.nalHrdParameters.cpbRemovalDelayLength, vui.nalHrdParameters.dpbOutputDelayLength,
        vui.nalHrdParameters.timeOffsetLength)
    else if vui.vclHrdParametersPresentFlag ≠ 0 then
      (vui.vclHrdParameters.cpbRemovalDelayLength, vui.vclHrdParameters.dpbOutputDelayLength,
        vui.vclHrdParameters.timeOffsetLength)
    else (24, 24, 0)
  let cpbRemovalDelay ← extractBits lengths.1
  let dpbOutputDelay ← extractBits lengths.2.1
  let timing := { timing with
    isValid := true
    cpbRemovalDelay := cpbRemovalDelay
    dpbOutputDelay := dpbOutputDelay }
  if vui.picStructPresentFlag ≠ 0 then
    let picStruct ← extractBits 4
    clockTimestamps lengths.2.2 (numClockTs picStruct)
      { timing with picStruct := picStruct, numClockTs := numClockTs picStruct }
  else pure timing

end Parser

namespace PanscanHandler

def llongMax : Int := 2 ^ 63 - 1

def cleared (node : PanscanNode) : PanscanNode :=
  { node with
    startTs := llongMax
    endTs := llongMax
    panScanParam := { node.panScanParam with rectId := noPanScanBit }
    active := false }

def getFree (handler : PanscanHandler) : Option PanscanHandler :=
  match handler.panscanUsed.getLast? with
  | some last =>
    if last.startTs < llongMax then
      match handler.panscanFree with
      | [] => none
      | node :: nodes => some ⟨handler.panscanUsed ++ [cleared node], nodes⟩
    else some { handler with panscanUsed := handler.panscanUsed.dropLast ++ [cleared last] }
  | none =>
    match handler.panscanFree with
    | [] => none
    | node :: nodes => some ⟨handler.panscanUsed ++ [cleared node], nodes⟩

def modifyLast (handler : PanscanHandler) (change : PanScan → PanScan) : PanscanHandler :=
  { handler with
    panscanUsed := handler.panscanUsed.modify (handler.panscanUsed.length - 1) fun node =>
      { node with panScanParam := change node.panScanParam } }

end PanscanHandler

namespace Parser

def panScanLoop : (rounds i : Nat) → PanScan → Parser PanScan
  | 0, _, panScan => pure panScan
  | rounds + 1, i, panScan => do
    let left ← sev
    let right ← sev
    let top ← sev
    let bottom ← sev
    panScanLoop rounds (i + 1) { panScan with
      rectLeftOffset := panScan.rectLeftOffset.set i left
      rectRightOffset := panScan.rectRightOffset.set i right
      rectTopOffset := panScan.rectTopOffset.set i top
      rectBottomOffset := panScan.rectBottomOffset.set i bottom }

def panScanParam (panScan : PanScan) : Parser PanScan := do
  let rectId ← uev
  if rectId > 0xFF then pure { panScan with rectId := noPanScanBit }
  else
    let rectCancelFlag ← extractBits 1
    let panScan := { panScan with rectId := rectId, rectCancelFlag := rectCancelFlag }
    if rectCancelFlag ≠ 0 then pure { panScan with rectId := noPanScanBit }
    else
      let cntMinus1 ← uev
      let panScan := { panScan with cnt := (cntMinus1 + 1) % 2 ^ 32 }
      if panScan.cnt > maxPanScanRect then pure { panScan with rectId := noPanScanBit }
      else
        let panScan ← panScanLoop panScan.cnt 0 panScan
        let repetition ← uev
        -- It is decreased by 2 each time the data are used.
        let repetition := if repetition > 1 then repetition * 2 % 2 ^ 32 else repetition
        pure { panScan with rectRepetitionPeriod := repetition }

def seiPanScan (handler : PanscanHandler) : Parser PanscanHandler := do
  match handler.getFree with
  | none => pure handler
  | some handler =>
    match handler.panscanUsed.getLast? with
    | none => pure handler
    | some node =>
      let panScan ← panScanParam node.panScanParam
      pure (handler.modifyLast fun _ => panScan)

def parseFramePack (pack : FramePackArrangement) : Parser FramePackArrangement := do
  let id ← uev
  let cancelFlag ← extractBits 1
  let pack := { pack with id := id, cancelFlag := cancelFlag }
  let pack ← if cancelFlag = 0 then do
      let type ← extractBits 7
      let quincunxSamplingFlag ← extractBits 1
      let contentInterpretationType ← extractBits 6
      let spatialFlippingFlag ← extractBits 1
      let frame0FlippedFlag ← extractBits 1
      let fieldViewsFlag ← extractBits 1
      let currentFrameIsFrame0Flag ← extractBits 1
      let frame0SelfContainedFlag ← extractBits 1
      let frame1SelfContainedFlag ← extractBits 1
      let pack := { pack with
        type := type
        quincunxSamplingFlag := quincunxSamplingFlag
        contentInterpretationType := contentInterpretationType
        spatialFlippingFlag := spatialFlippingFlag
        frame0FlippedFlag := frame0FlippedFlag
        fieldViewsFlag := fieldViewsFlag
        currentFrameIsFrame0Flag := currentFrameIsFrame0Flag
        frame0SelfContainedFlag := frame0SelfContainedFlag
        frame1SelfContainedFlag := frame1SelfContainedFlag }
      let pack ← if quincunxSamplingFlag = 0 ∧ type.val ≠ 5 then do
          let frame0GridPositionX ← extractBits 4
          let frame0GridPositionY ← extractBits 4
          let frame1GridPositionX ← extractBits 4
          let frame1GridPositionY ← extractBits 4
          pure { pack with
            frame0GridPositionX := frame0GridPositionX
            frame0GridPositionY := frame0GridPositionY
            frame1GridPositionX := frame1GridPositionX
            frame1GridPositionY := frame1GridPositionY }
        else pure pack
      let reservedByte ← extractBits 8
      let repetitionPeriod ← uev
      pure { pack with reservedByte := reservedByte, repetitionPeriod := repetitionPeriod }
    else pure pack
  let extensionFlag ← extractBits 1
  pure { pack with extensionFlag := extensionFlag }

def seiBufferingPeriodType : Nat := 0
def seiPicTimingType : Nat := 1
def seiPanScanRectType : Nat := 2
def seiFramePackingType : Nat := 0x2D

def seiPayload (payloadType : Nat) (params : StreamParams) : Parser StreamParams := do
  if payloadType = seiBufferingPeriodType then
    let period ← seiBufferingPeriod params.vuiParam params.seiBufPeriod
    pure { params with seiBufPeriod := period }
  else if payloadType = seiPicTimingType then
    let timing ← seiPictureTiming params.vuiParam params.seiPicTiming
    pure { params with seiPicTiming := timing }
  else if payloadType = seiPanScanRectType then
    let handler ← seiPanScan params.panscanHdl
    pure { params with panscanHdl := handler }
  else if payloadType = seiFramePackingType then
    let pack ← parseFramePack params.framePackingArrangement
    pure { params with framePackingArrangement := pack }
  else pure params

def seiValue : (rounds value count : Nat) → Parser (Nat × Nat)
  | 0, value, count => pure (value, count)
  | rounds + 1, value, count => do
    let byte ← extractBits 8
    let value := (value + byte) % 2 ^ 32
    if byte.val = 0xFF then seiValue rounds value (count + 1) else pure (value, count + 1)

def memoryBytes (memory : Nat → UInt8) (address count : Nat) : List UInt8 :=
  (List.range count).map fun index => memory ((address + index) % 2 ^ 32)

def parseSei (memory : Nat → UInt8) (seiMsgStart seiUnitSize : Nat) :
    (rounds processedBytes : Nat) → StreamParams → Parser StreamParams
  | 0, _, params => pure params
  | rounds + 1, processedBytes, params => do
    if (processedBytes + 2) % 2 ^ 32 < seiUnitSize then
      if ← moreBits then
        let left := sub32 seiUnitSize processedBytes
        initBitstream (memoryBytes memory (seiMsgStart + processedBytes) left)
        let payloadType ← seiValue (left + 1) 0 0
        let payloadSize ← seiValue (left + 1) 0 0
        let params ← if payloadSize.1 > 0 then seiPayload payloadType.1 params else pure params
        let skipped ← emulationCodeSkipCntr
        parseSei memory seiMsgStart seiUnitSize rounds
          ((processedBytes + payloadType.2 + payloadSize.2 + payloadSize.1 + skipped) % 2 ^ 32) params
      else pure params
    else pure params

/-! ### NAL units -/

def naluTypeVui : Nat := 14

def startCodeLoop : (rounds value consumedBytes : Nat) → Parser (Nat × Nat)
  | 0, value, consumedBytes => pure (value, consumedBytes)
  | rounds + 1, value, consumedBytes => do
    if value ≠ 1 then
      if ← moreBits then
        let byte ← extractBits 8
        startCodeLoop rounds ((value <<< 8) % 2 ^ 32 ||| byte) (consumedBytes + 1)
      else pure (value, consumedBytes)
    else pure (value, consumedBytes)

def getNalUnitType (dataLen : Nat) : Parser (Nat × Nat) := do
  let value ← extractBits 24
  let found ← startCodeLoop dataLen value 3
  if found.1 ≠ 1 then pure (naluTypeUnspecified, found.2)
  else
    discard (extractBits 1)
    discard (extractBits 2)
    let nalUnitType ← extractBits 5
    pure (nalUnitType, found.2 + 1)

end Parser

/-- The arguments of `parse_nal`, with the memory that `data_ptr` points into and the pan-scan lists as other
functions have left them. -/
structure NalInput where
  memory : Nat → UInt8
  dataPtr : Nat
  dataLen : Nat
  nalType : Nat
  enableEmuSc : Bool
  panscanHdl : PanscanHandler

namespace Parser

def parseNal (rounds : Nat) (input : NalInput) (params : StreamParams) : Parser StreamParams := do
  let params := { params with panscanHdl := input.panscanHdl }
  if input.dataLen = 0 then pure params
  else
    initBitstream (memoryBytes input.memory input.dataPtr input.dataLen)
    setEmulationScEnabled input.enableEmuSc
    let nalUnit ← if input.nalType ≠ naluTypeVui then getNalUnitType input.dataLen
      else pure (naluTypeUnspecified, 0)
    if input.nalType ≠ naluTypeVui ∧ input.nalType ≠ nalUnit.1 ∧ input.nalType ≠ naluTypeUnspecified then
      pure params
    else if input.nalType = naluTypeSps then
      let params ← if ← moreBits then parseSps params else pure params
      pure { params with panscanHdl := params.panscanHdl.getFree.getD params.panscanHdl }
    else if input.nalType = naluTypeSei then
      let left := sub32 input.dataLen nalUnit.2
      initBitstream (memoryBytes input.memory (input.dataPtr + nalUnit.2) left)
      parseSei input.memory (input.dataPtr + nalUnit.2) left rounds 0 params
    else if input.nalType = naluTypeVui then
      let vui ← parseVui true params.vuiParam
      pure { params with vuiParam := vui }
    else pure params

end Parser

structure H264StreamParser where
  params : StreamParams
  reader : StreamReader

namespace H264StreamParser

def parseNal (parser : H264StreamParser) (rounds : Nat) (input : NalInput) : H264StreamParser :=
  let result := (Parser.parseNal rounds input parser.params).run ReaderOp.step parser.reader
  ⟨result.1, result.2⟩

end H264StreamParser

end Nozomi
