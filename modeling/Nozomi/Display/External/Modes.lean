import Nozomi.Display.External.Code

/-!
# Which mode is programmed

`getBestMode` takes the first mode of the highest order, and every mode has an order, also one that is
unknown or interlaced. What is programmed is a mode that the display hardware supports exactly when such
a mode is asked for or wins.
-/

namespace Nozomi

theorem parseModes_fuel {fuel : Nat} :
    ∀ {start : List Char}, start.length < fuel → ∀ more, parseModes (fuel + more) start = parseModes fuel start := by
  induction fuel with
  | zero => exact fun hfuel => absurd hfuel (Nat.not_lt_zero _)
  | succ fuel ih =>
    intro start hfuel more
    rw [Nat.succ_add, parseModes, parseModes]
    have hrest := strtol_length_le start
    generalize strtol start = parsed at hrest ⊢
    obtain ⟨mode, rest⟩ := parsed
    dsimp only at hrest ⊢
    split
    next next _ =>
      rw [List.length_cons] at hrest
      rw [ih (by omega) more]
    next => rfl

@[simp] theorem isInterlacedMode_eq_false (mode : Int) : isInterlacedMode mode = false := by
  rw [isInterlacedMode, Bool.and_false]

def progressiveModes : List Int :=
  (supportedVideoModeLut.map (·.videoFormat)).filter fun mode => mode ∉ interlacedModes

theorem mem_progressiveModes (mode : Int) :
    mode ∈ progressiveModes ↔ mode = m640x480p60_4_3 ∨ mode = m720x480p60_4_3 ∨
      mode = m720x480p60_16_9 ∨ mode = m1280x720p60_16_9 ∨ mode = m1920x1080p60_16_9 ∨
      mode = m720x576p50_4_3 ∨ mode = m720x576p50_16_9 ∨ mode = m1280x720p50_16_9 ∨
      mode = m1920x1080p50_16_9 ∨ mode = m1920x1080p24_16_9 ∨ mode = m1920x1080p25_16_9 ∨
      mode = m1920x1080p30_16_9 := by
  have hlist : progressiveModes = [1, 2, 3, 4, 16, 17, 18, 19, 31, 32, 33, 34] := by decide
  simp only [hlist, List.mem_cons, List.not_mem_nil, or_false]

/-! ### The tables -/

theorem timingFor_progressive {mode : Int} (hmode : mode ∈ progressiveModes) :
    ExternalDisplay.timingFor mode ∈ supportedVideoModeLut ∧
      (ExternalDisplay.timingFor mode).videoFormat = mode ∧
      (ExternalDisplay.timingFor mode).interlaced = false := by
  revert mode
  decide

theorem ExternalDisplay.getAttrForMode_fps_iff (display : ExternalDisplay) :
    display.getAttrForMode.2.2 ≠ 0 ↔ display.mCurrentMode ∈ progressiveModes := by
  rw [mem_progressiveModes, getAttrForMode]
  generalize display.mCurrentMode = mode
  constructor
  · intro hfps
    by_contra hnone
    simp only [not_or] at hnone
    simp [hnone] at hfps
  · rintro (rfl | rfl | rfl | rfl | rfl | rfl | rfl | rfl | rfl | rfl | rfl | rfl) <;> decide

theorem getModeOrder_progressive {limitTo720p : Bool} {mode : Int} (hmode : mode ∈ progressiveModes)
    (hpos : 0 < getModeOrder limitTo720p mode) :
    4 < getModeOrder limitTo720p mode ∧ getModeOrder limitTo720p mode ≠ 10 := by
  revert mode limitTo720p
  decide

theorem getModeOrder_other {limitTo720p : Bool} {mode : Int} (hmode : mode ∉ progressiveModes) :
    getModeOrder limitTo720p mode ≤ 4 ∨ getModeOrder limitTo720p mode = 10 := by
  rw [mem_progressiveModes] at hmode
  simp only [not_or] at hmode
  simp only [getModeOrder, hmode, if_false]
  repeat' split
  all_goals omega

/-! ### The best mode -/

namespace ExternalDisplay

variable {display : ExternalDisplay} {sink : Sink}

theorem betterMode_foldl (limitTo720p : Bool) (modes : List Int) :
    ∀ best : Int × Int, ∃ last, modes.foldl (betterMode limitTo720p) best = last ∧
      best.1 ≤ last.1 ∧ (∀ mode ∈ modes, getModeOrder limitTo720p mode ≤ last.1) ∧
      (last = best ∨ best.1 < last.1 ∧ last.2 ∈ modes ∧ last.1 = getModeOrder limitTo720p last.2) := by
  induction modes with
  | nil => exact fun best => ⟨best, rfl, Int.le_refl _, by simp, .inl rfl⟩
  | cons mode modes ih =>
    intro best
    obtain ⟨last, hlast, hle, hall, horigin⟩ := ih (betterMode limitTo720p best mode)
    refine ⟨last, hlast, ?_⟩
    rw [betterMode] at hle horigin
    split at hle
    next hbetter =>
      rw [if_pos hbetter] at horigin
      refine ⟨by omega, List.forall_mem_cons.mpr ⟨hle, hall⟩, .inr ?_⟩
      rcases horigin with rfl | ⟨hless, hmem, horder⟩
      · exact ⟨hbetter, List.mem_cons_self, rfl⟩
      · exact ⟨by omega, List.mem_cons_of_mem mode hmem, horder⟩
    next hworse =>
      rw [if_neg hworse] at horigin
      refine ⟨hle, List.forall_mem_cons.mpr ⟨by omega, hall⟩, ?_⟩
      rcases horigin with heq | ⟨hless, hmem, horder⟩
      · exact .inl heq
      · exact .inr ⟨hless, List.mem_cons_of_mem mode hmem, horder⟩

theorem getBestMode_iff (display : ExternalDisplay) (sink : Sink) :
    display.getBestMode sink ∈ display.mEDIDModes ∧ display.getBestMode sink ∈ progressiveModes ↔
      ∃ mode ∈ display.mEDIDModes, mode ∈ progressiveModes ∧ 0 < getModeOrder sink.limit mode ∧
        ∀ other ∈ display.mEDIDModes, other ∉ progressiveModes →
          getModeOrder sink.limit other < getModeOrder sink.limit mode := by
  obtain ⟨last, hlast, hle, hall, horigin⟩ :=
    betterMode_foldl sink.limit display.mEDIDModes (0, m640x480p60_4_3)
  rw [getBestMode, hlast]
  dsimp only at hle horigin
  constructor
  · rintro ⟨hmem, hprogressive⟩
    have hdefault : ∀ limitTo720p, 0 < getModeOrder limitTo720p m640x480p60_4_3 := by decide
    have hpos : 0 < getModeOrder sink.limit last.2 := by
      rcases horigin with rfl | ⟨hless, -, horder⟩
      · exact hdefault sink.limit
      · rwa [horder] at hless
    have horder : getModeOrder sink.limit last.2 ≤ last.1 := hall _ hmem
    rcases horigin with rfl | ⟨-, -, horder'⟩
    · simp only at hpos horder
      omega
    · refine ⟨last.2, hmem, hprogressive, hpos, fun other hother hnot => ?_⟩
      have hle' := hall other hother
      have hknown := getModeOrder_progressive hprogressive hpos
      have hunknown := @getModeOrder_other sink.limit other hnot
      omega
  · rintro ⟨mode, hmem, hprogressive, hpos, habove⟩
    have hle' := hall mode hmem
    rcases horigin with rfl | ⟨-, hlastMem, horder⟩
    · simp only at hle'
      omega
    · refine ⟨hlastMem, ?_⟩
      by_contra hnot
      have hless := habove last.2 hlastMem hnot
      omega

end ExternalDisplay

/-! ### The display that is configured -/

/-- What is asked of a display that has been configured: it has one mode, a progressive one of the table,
which the sink has listed unless it is the default, and the refresh rate is not 0. -/
def Configured.Proper (sink : Sink) : Configured → Prop
  | .failed => True
  | .overruns => False
  | .dividesByZero _ => False
  | .configured display _ =>
    (∃ timing ∈ supportedVideoModeLut, ∃ info, timing.videoFormat = display.mCurrentMode ∧
      timing.interlaced = false ∧ display.puts = [{ timing.setInfo info with activate := true }]) ∧
    display.mCurrentMode ∉ interlacedModes ∧
    (display.mCurrentMode ∈ sink.listedModes ∨ display.mCurrentMode = m640x480p60_4_3)

namespace Sink

variable (sink : Sink)

def userMode : Int := atoi (propertyGet sink.resolution ['-', '1'])

def Suitable : Prop :=
  sink.listedModes.length ≤ edidModesSize ∧
    if sink.userMode ∈ sink.listedModes ∧ sink.userMode ≠ -1 then sink.userMode ∈ progressiveModes
    else ∃ mode ∈ sink.listedModes, mode ∈ progressiveModes ∧ 0 < getModeOrder sink.limit mode ∧
      ∀ other ∈ sink.listedModes, other ∉ progressiveModes →
        getModeOrder sink.limit other < getModeOrder sink.limit mode

end Sink

namespace ExternalDisplay

variable {display : ExternalDisplay} {sink : Sink}

theorem isValidMode_iff (mode : Int) : display.isValidMode mode = true ↔ mode ∈ display.mEDIDModes := by
  rw [isValidMode, List.any_eq_true]
  simp

theorem getUserMode_eq (display : ExternalDisplay) (sink : Sink) :
    display.getUserMode sink = if sink.userMode ∈ display.mEDIDModes then sink.userMode else -1 := by
  have hvalid := @isValidMode_iff display sink.userMode
  rw [getUserMode, isInterlacedMode_eq_false, Bool.not_false, Bool.and_true]
  split
  next hlisted => exact (if_pos (hvalid.mp hlisted)).symm
  next hmissing => exact (if_neg fun hmem => hmissing (hvalid.mpr hmem)).symm

theorem setDpyHdmiAttr_cases (display : ExternalDisplay) :
    (display.mCurrentMode ∈ progressiveModes ∧ ∃ attr, display.setDpyHdmiAttr =
      .configured (display.setExternalDisplay true display.mHdmiFbNum) attr) ∨
    (display.mCurrentMode ∉ progressiveModes ∧ display.setDpyHdmiAttr = .dividesByZero display) := by
  have hfps := display.getAttrForMode_fps_iff
  rw [setDpyHdmiAttr]
  generalize display.getAttrForMode = found at hfps ⊢
  obtain ⟨width, height, fps⟩ := found
  dsimp only at hfps ⊢
  by_cases hzero : fps = 0
  · exact .inr ⟨fun hmode => hfps.mpr hmode hzero, if_pos hzero⟩
  · exact .inl ⟨hfps.mp hzero, _, if_neg hzero⟩

theorem setResolution_cases (display : ExternalDisplay) (sink : Sink) (mode : Int) :
    ∃ info, (mode ∈ display.mEDIDModes ∧ display.mCurrentMode ≠ mode ∧
        display.setResolution sink mode =
          { display with
            mVInfo := { (timingFor mode).setInfo info with activate := true }
            puts := display.puts ++ [{ (timingFor mode).setInfo info with activate := true }]
            mCurrentMode := mode }) ∨
      (¬(mode ∈ display.mEDIDModes ∧ display.mCurrentMode ≠ mode) ∧
        display.setResolution sink mode = { display with mVInfo := info }) := by
  have hvalid := @isValidMode_iff { display with mVInfo := sink.vScreenInfo.getD display.mVInfo } mode
  refine ⟨sink.vScreenInfo.getD display.mVInfo, ?_⟩
  rw [setResolution]
  dsimp only at hvalid ⊢
  split
  next hset => exact .inl ⟨hvalid.mp hset.1, hset.2, rfl⟩
  next hkeep => exact .inr ⟨fun hset => hkeep ⟨hvalid.mpr hset.1, hset.2⟩, rfl⟩

theorem setResolution_proper_iff (mode : Int) (hmodes : display.mEDIDModes = sink.listedModes)
    (hnone : display.mCurrentMode = -1) (hputs : display.puts = []) :
    ((display.setResolution sink mode).setDpyHdmiAttr).Proper sink ↔
      mode ∈ display.mEDIDModes ∧ mode ∈ progressiveModes := by
  have hminus : (-1 : Int) ∉ progressiveModes := by decide
  obtain ⟨info, ⟨hmem, -, hset⟩ | ⟨hkeep, hset⟩⟩ := display.setResolution_cases sink mode
  · obtain ⟨hprogressive, attr, heq⟩ | ⟨hother, heq⟩ := (display.setResolution sink mode).setDpyHdmiAttr_cases
    · rw [heq, Configured.Proper]
      rw [hset] at hprogressive ⊢
      obtain ⟨htiming, hformat, hplain⟩ := timingFor_progressive hprogressive
      refine ⟨fun _ => ⟨hmem, hprogressive⟩, fun _ => ⟨⟨timingFor mode, htiming, info, hformat, hplain, ?_⟩,
        ?_, .inl (hmodes ▸ hmem)⟩⟩
      · simp only [setExternalDisplay, hputs, List.nil_append]
      · exact of_decide_eq_true (List.mem_filter.mp hprogressive).2
    · rw [heq, Configured.Proper, false_iff]
      rw [hset] at hother
      exact fun hmode => hother hmode.2
  · obtain ⟨hprogressive, -⟩ | ⟨-, heq⟩ := (display.setResolution sink mode).setDpyHdmiAttr_cases
    · rw [hset] at hprogressive
      exact absurd (hnone ▸ hprogressive) hminus
    · rw [heq, Configured.Proper, false_iff]
      rintro ⟨hmem, hprogressive⟩
      refine hkeep ⟨hmem, fun heq => hminus ?_⟩
      rwa [← hnone, heq]

theorem readResolution_cases (display : ExternalDisplay) (sink : Sink) (hlisted : display.mEDIDModes = []) :
    display.readResolution sink = { display with mEDIDModes := sink.listedModes } := by
  have hnone : sink.listedModes = [] → display = { display with mEDIDModes := sink.listedModes } := by
    intro hempty
    rw [hempty, ← hlisted]
  rw [readResolution]
  split
  next hempty =>
    apply hnone
    rw [Sink.listedModes]
    cases hcontent : sink.edidModes with
    | none => rfl
    | some content =>
      rw [hcontent, Option.all_some, List.isEmpty_iff] at hempty
      simp [hempty]
  next => rfl

/-- A display that has been reset is configured as it should be exactly when its sink is suitable. -/
theorem configureHDMIDisplay_proper_iff (display : ExternalDisplay) (sink : Sink) :
    (display.resetInfo.configureHDMIDisplay sink).Proper sink ↔
      (display.mFd.isSome = true ∨ sink.frameBuffer.isSome = true → sink.Suitable) := by
  have hopen : ∃ fd : Option Nat, display.resetInfo.openFrameBuffer sink = { display.resetInfo with mFd := fd } ∧
      (fd.isSome = true ↔ display.mFd.isSome = true ∨ sink.frameBuffer.isSome = true) := by
    rw [openFrameBuffer]
    cases hfd : display.mFd with
    | none => exact ⟨sink.frameBuffer, by simp [resetInfo, hfd], by simp⟩
    | some fd => exact ⟨some fd, by simp [resetInfo, hfd], by simp⟩
  obtain ⟨fd, heq, hsome⟩ := hopen
  rw [← hsome, configureHDMIDisplay, heq]
  cases fd with
  | none => simp [Configured.Proper]
  | some fd =>
    simp only [Option.isNone_some, Option.isSome_some, Bool.false_eq_true, if_false, true_implies,
      Sink.Suitable]
    split
    next hmany =>
      rw [Configured.Proper, false_iff]
      exact fun hsuitable => absurd hsuitable.1 (Nat.not_le.mpr hmany)
    next hfew =>
      rw [and_iff_right (Nat.not_lt.mp hfew), readResolution_cases _ sink rfl,
        setResolution_proper_iff _ rfl rfl rfl]
      dsimp only
      rw [getUserMode_eq]
      dsimp only
      by_cases huser : sink.userMode ∈ sink.listedModes ∧ sink.userMode ≠ -1
      · rw [if_pos huser.1, if_neg huser.2, if_pos huser]
        exact and_iff_right huser.1
      · have hnone : (if sink.userMode ∈ sink.listedModes then sink.userMode else -1) = -1 := by
          split
          next hmem => exact not_not.mp fun hne => huser ⟨hmem, hne⟩
          next => rfl
        rw [hnone, if_pos rfl, if_neg huser]
        exact getBestMode_iff _ sink

end ExternalDisplay

def sampleSink (edidModes limitTo720p : List Char) : Sink where
  frameBuffer := some 5
  edidModes := some edidModes
  resolution := []
  limitTo720p := limitTo720p
  vScreenInfo := none

def sampleExternal : ExternalDisplay := ⟨none, -1, [], .zero, 1, false, 0, []⟩

/-- With 1080i alone the display is programmed to it and there is no refresh rate; with 1080p60 alone and the
limit to 720p nothing is programmed. -/
theorem ExternalDisplay.configureHDMIDisplay_dividesByZero :
    ¬(sampleExternal.resetInfo.configureHDMIDisplay (sampleSink ['5'] [])).Proper (sampleSink ['5'] []) ∧
      ¬(sampleExternal.resetInfo.configureHDMIDisplay (sampleSink ['1', '6'] ['1'])).Proper
        (sampleSink ['1', '6'] ['1']) :=
  ⟨fun hproper => hproper, fun hproper => hproper⟩

end Nozomi
