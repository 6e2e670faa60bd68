import Mathlib.Data.List.DropRight
import Nozomi.Base.Strtol

/-!
# The mode of an HDMI display

`external.cpp`, from the string of modes that the driver has read from the sink to the mode that is
programmed and the attributes that follow from it. The files, the properties and the driver answer with
what a `Sink` says. The underscan information, which no mode depends on, is left out.
-/

namespace Nozomi

/-! ### Modes -/

abbrev m640x480p60_4_3 : Int := 1
abbrev m720x480p60_4_3 : Int := 2
abbrev m720x480p60_16_9 : Int := 3
abbrev m1280x720p60_16_9 : Int := 4
abbrev m1920x1080i60_16_9 : Int := 5
abbrev m1440x480i60_4_3 : Int := 6
abbrev m1440x480i60_16_9 : Int := 7
abbrev m1920x1080p60_16_9 : Int := 16
abbrev m720x576p50_4_3 : Int := 17
abbrev m720x576p50_16_9 : Int := 18
abbrev m1280x720p50_16_9 : Int := 19
abbrev m1440x576i50_4_3 : Int := 21
abbrev m1440x576i50_16_9 : Int := 22
abbrev m1920x1080p50_16_9 : Int := 31
abbrev m1920x1080p24_16_9 : Int := 32
abbrev m1920x1080p25_16_9 : Int := 33
abbrev m1920x1080p30_16_9 : Int := 34

structure DispModeTimingType where
  videoFormat : Int
  activeH : Nat
  activeV : Nat
  frontPorchH : Nat
  pulseWidthH : Nat
  backPorchH : Nat
  frontPorchV : Nat
  pulseWidthV : Nat
  backPorchV : Nat
  pixelFreq : Nat
  interlaced : Bool
  deriving DecidableEq, Repr

def supportedVideoModeLut : List DispModeTimingType :=
  [⟨m640x480p60_4_3, 640, 480, 16, 96, 48, 10, 2, 33, 25200, false⟩,
    ⟨m720x480p60_4_3, 720, 480, 16, 62, 60, 9, 6, 30, 27030, false⟩,
    ⟨m720x480p60_16_9, 720, 480, 16, 62, 60, 9, 6, 30, 27030, false⟩,
    ⟨m1280x720p60_16_9, 1280, 720, 110, 40, 220, 5, 5, 20, 74250, false⟩,
    ⟨m1920x1080i60_16_9, 1920, 540, 88, 44, 148, 2, 5, 5, 74250, false⟩,
    ⟨m1440x480i60_4_3, 1440, 240, 38, 124, 114, 4, 3, 15, 27000, true⟩,
    ⟨m1440x480i60_16_9, 1440, 240, 38, 124, 114, 4, 3, 15, 27000, true⟩,
    ⟨m1920x1080p60_16_9, 1920, 1080, 88, 44, 148, 4, 5, 36, 148500, false⟩,
    ⟨m720x576p50_4_3, 720, 576, 12, 64, 68, 5, 5, 39, 27000, false⟩,
    ⟨m720x576p50_16_9, 720, 576, 12, 64, 68, 5, 5, 39, 27000, false⟩,
    ⟨m1280x720p50_16_9, 1280, 720, 440, 40, 220, 5, 5, 20, 74250, false⟩,
    ⟨m1440x576i50_4_3, 1440, 288, 24, 126, 138, 2, 3, 19, 27000, true⟩,
    ⟨m1440x576i50_16_9, 1440, 288, 24, 126, 138, 2, 3, 19, 27000, true⟩,
    ⟨m1920x1080p50_16_9, 1920, 1080, 528, 44, 148, 4, 5, 36, 148500, false⟩,
    ⟨m1920x1080p24_16_9, 1920, 1080, 638, 44, 148, 4, 5, 36, 74250, false⟩,
    ⟨m1920x1080p25_16_9, 1920, 1080, 528, 44, 148, 4, 5, 36, 74250, false⟩,
    ⟨m1920x1080p30_16_9, 1920, 1080, 88, 44, 148, 4, 5, 36, 74250, false⟩]

/-- The fields of `fb_var_screeninfo` that `set_info` and `setResolution` write; the upper half of
`reserved[3]` is the video format. -/
structure VarScreenInfo where
  reserved : Nat × Nat × Nat
  videoFormat : Int
  xoffset : Nat
  yoffset : Nat
  xres : Nat
  yres : Nat
  pixclock : Nat
  interlaced : Bool
  rightMargin : Nat
  hsyncLen : Nat
  leftMargin : Nat
  lowerMargin : Nat
  vsyncLen : Nat
  upperMargin : Nat
  activate : Bool
  deriving DecidableEq, Repr

def VarScreenInfo.zero : VarScreenInfo :=
  ⟨(0, 0, 0), 0, 0, 0, 0, 0, 0, false, 0, 0, 0, 0, 0, 0, false⟩

def DispModeTimingType.setInfo (mode : DispModeTimingType) (info : VarScreenInfo) : VarScreenInfo :=
  { info with
    reserved := (0, 0, 0)
    videoFormat := mode.videoFormat
    xoffset := 0
    yoffset := 0
    xres := mode.activeH
    yres := mode.activeV
    pixclock := mode.pixelFreq * 1000
    interlaced := mode.interlaced
    rightMargin := mode.frontPorchH
    hsyncLen := mode.pulseWidthH
    leftMargin := mode.backPorchH
    lowerMargin := mode.frontPorchV
    vsyncLen := mode.pulseWidthV
    upperMargin := mode.backPorchV }

/-! ### What is read -/

/-- What the display is configured from: the descriptor of the framebuffer device, the file
`edid_modes`, the properties `hw.hdmi.resolution` and `hw.hdmi.limit_to_720p`, and what the driver has as the
screen information. -/
structure Sink where
  frameBuffer : Option Nat
  edidModes : Option (List Char)
  resolution : List Char
  limitTo720p : List Char
  vScreenInfo : Option VarScreenInfo

def propertyGet (value default : List Char) : List Char := if value = [] then default else value

def edidsSize : Nat := 128

def edidModesSize : Nat := 64

def parseModes : Nat → List Char → List Int
  | 0, _ => []
  | fuel + 1, start =>
    let (mode, rest) := strtol start
    match rest with
    | ',' :: start => mode :: parseModes fuel start
    | _ => [mode]

def parseResolution (edidStr : List Char) : List Int := parseModes (edidStr.length + 1) edidStr

def edidString : List Char → List Char
  | [] => []
  | first :: rest => cString (first :: rest.rdropWhile isSpace)

def Sink.listedModes (sink : Sink) : List Int :=
  match sink.edidModes with
  | none => []
  | some content =>
    let buffer := content.take (edidsSize - 1)
    if buffer = [] then [] else parseResolution (edidString buffer)

/-! ### The choice of a mode -/

def Sink.limit (sink : Sink) : Bool := atoi (propertyGet sink.limitTo720p ['0']) ≠ 0

def getModeOrder (limitTo720p : Bool) (mode : Int) : Int :=
  if mode = m1440x480i60_16_9 then 2
  else if mode = m1440x576i50_4_3 then 3
  else if mode = m1440x576i50_16_9 then 4
  else if mode = m640x480p60_4_3 then 5
  else if mode = m720x480p60_4_3 then 6
  else if mode = m720x480p60_16_9 then 7
  else if mode = m720x576p50_4_3 then 8
  else if mode = m720x576p50_16_9 then 9
  else if mode = m1920x1080i60_16_9 then if limitTo720p then -1 else 10
  else if mode = m1280x720p50_16_9 then 11
  else if mode = m1280x720p60_16_9 then 12
  else if mode = m1920x1080p24_16_9 then if limitTo720p then -1 else 13
  else if mode = m1920x1080p25_16_9 then if limitTo720p then -1 else 14
  else if mode = m1920x1080p30_16_9 then if limitTo720p then -1 else 15
  else if mode = m1920x1080p50_16_9 then if limitTo720p then -1 else 16
  else if mode = m1920x1080p60_16_9 then if limitTo720p then -1 else 17
  -- `default:` stands above the case of `m1440x480i60_4_3`
  else 1

def interlacedModes : List Int :=
  [m1440x480i60_4_3, m1440x480i60_16_9, m1440x576i50_4_3, m1440x576i50_16_9, m1920x1080i60_16_9]

def isInterlacedMode (mode : Int) : Bool :=
  let interlaced := decide (mode ∈ interlacedModes)
  -- without a `break` every case goes on with `default:`
  let interlaced := interlaced && false
  interlaced

/-- `class ExternalDisplay`; the framebuffer device has a descriptor while it is open, and `mModeCount` is
the length of `mEDIDModes`. The arguments of `FBIOPUT_VSCREENINFO` are kept in order. -/
structure ExternalDisplay where
  mFd : Option Nat
  mCurrentMode : Int
  mEDIDModes : List Int
  mVInfo : VarScreenInfo
  mHdmiFbNum : Int
  mConnected : Bool
  mConnectedFbNum : Int
  puts : List VarScreenInfo

namespace ExternalDisplay

variable (display : ExternalDisplay)

def resetInfo : ExternalDisplay :=
  { display with mVInfo := .zero, mEDIDModes := [], mCurrentMode := -1, puts := [] }

def openFrameBuffer (sink : Sink) : ExternalDisplay :=
  if display.mFd.isNone then { display with mFd := sink.frameBuffer } else display

def readResolution (sink : Sink) : ExternalDisplay :=
  if sink.edidModes.all (·.isEmpty) then display
  else { display with mEDIDModes := sink.listedModes }

def isValidMode (mode : Int) : Bool := display.mEDIDModes.any (mode = ·)

def getUserMode (sink : Sink) : Int :=
  let mode := atoi (propertyGet sink.resolution ['-', '1'])
  if display.isValidMode mode && !isInterlacedMode mode then mode else -1

def betterMode (limitTo720p : Bool) (best : Int × Int) (mode : Int) : Int × Int :=
  let order := getModeOrder limitTo720p mode
  if best.1 < order then (order, mode) else best

def getBestMode (sink : Sink) : Int :=
  (display.mEDIDModes.foldl (betterMode sink.limit) (0, m640x480p60_4_3)).2

def timingFor (mode : Int) : DispModeTimingType :=
  supportedVideoModeLut.foldl (fun timing cur => if cur.videoFormat = mode then cur else timing)
    (supportedVideoModeLut.head (by decide))

def setResolution (sink : Sink) (mode : Int) : ExternalDisplay :=
  let display := { display with mVInfo := sink.vScreenInfo.getD display.mVInfo }
  if display.isValidMode mode ∧ display.mCurrentMode ≠ mode then
    let info := { (timingFor mode).setInfo display.mVInfo with activate := true }
    { display with mVInfo := info, puts := display.puts ++ [info], mCurrentMode := mode }
  else display

def getAttrForMode : Nat × Nat × Nat :=
  let mode := display.mCurrentMode
  if mode = m640x480p60_4_3 then (640, 480, 60)
  else if mode = m720x480p60_4_3 ∨ mode = m720x480p60_16_9 then (720, 480, 60)
  else if mode = m720x576p50_4_3 ∨ mode = m720x576p50_16_9 then (720, 576, 50)
  else if mode = m1280x720p50_16_9 then (1280, 720, 50)
  else if mode = m1280x720p60_16_9 then (1280, 720, 60)
  else if mode = m1920x1080p24_16_9 then (1920, 1080, 24)
  else if mode = m1920x1080p25_16_9 then (1920, 1080, 25)
  else if mode = m1920x1080p30_16_9 then (1920, 1080, 30)
  else if mode = m1920x1080p50_16_9 then (1920, 1080, 50)
  else if mode = m1920x1080p60_16_9 then (1920, 1080, 60)
  else (0, 0, 0)

def setExternalDisplay (connected : Bool) (extFbNum : Int) : ExternalDisplay :=
  { display with mConnected := connected, mConnectedFbNum := extFbNum }

end ExternalDisplay

/-- The attributes of the external display that `setDpyHdmiAttr` sets. -/
structure DpyAttr where
  xres : Nat
  yres : Nat
  vsyncPeriod : Nat
  deriving DecidableEq, Repr

/-- How `configureHDMIDisplay` ends: it returns -1, it writes behind `mEDIDModes`, it divides by zero, or it
returns 0. -/
inductive Configured where
  | failed
  | overruns
  | dividesByZero (display : ExternalDisplay)
  | configured (display : ExternalDisplay) (attr : DpyAttr)

def ExternalDisplay.setDpyHdmiAttr (display : ExternalDisplay) : Configured :=
  let (width, height, fps) := display.getAttrForMode
  if fps = 0 then .dividesByZero display
  else .configured (display.setExternalDisplay true display.mHdmiFbNum) ⟨width, height, 1000000000 / fps⟩

def ExternalDisplay.configureHDMIDisplay (display : ExternalDisplay) (sink : Sink) : Configured :=
  let display := display.openFrameBuffer sink
  if display.mFd.isNone then .failed
  else if edidModesSize < sink.listedModes.length then .overruns
  else
    let display := display.readResolution sink
    let mode := display.getUserMode sink
    let mode := if mode = -1 then display.getBestMode sink else mode
    (display.setResolution sink mode).setDpyHdmiAttr

end Nozomi
