import Nozomi.Audio.Visualizer.Effect
import Nozomi.Base.Recorder
import Nozomi.Base.Run

/-!
# Captures of the visualizer

The ring holds the bytes captured since the last reset, with silence before them. A capture returns the last
ones, unless so much time has passed since the last buffer that the difference of the latency and this time
wraps. Captures of every size are in the ring and in the reply where these have room.
-/

namespace Nozomi

namespace VisualizerContext

/-! ### The history -/

def historyAfter (context : VisualizerContext) (history : List (BitVec 8)) : VisualizerCall → List (BitVec 8)
  | .process (some frames) (some outFrames) _ =>
    if frames.length ≠ outFrames.length then history
    else history ++ ((scalingShift context.scalingMode frames).map fun shift => frames.map (captureByte shift)).getD []
  | .process _ _ _ => history
  | .command command replySize hasReply =>
    match command with
    | .init => if !hasReply || replySize ≠ 4 then history else []
    | .setConfig config =>
      if !hasReply || replySize ≠ 4 then history
      else if (context.setConfig config).1 ≠ 0 then history
      else []
    | .reset => []
    | .enable | .disable | .setParam .. | .offload _ | .capture _ => history

def recordedCall (state : VisualizerContext × List (BitVec 8)) (call : VisualizerCall) :
    Option (VisualizerContext × List (BitVec 8)) :=
  (state.1.call call).map fun result => (result.2.2, state.1.historyAfter state.2 call)

def recorder (context : VisualizerContext) : Recorder (BitVec 8) := ⟨context.captureBuf, context.captureIdx⟩

/-- The ring holds the history, and the latency is none. -/
structure Recorded (context : VisualizerContext) (history : List (BitVec 8)) : Prop where
  keeps : context.recorder.Keeps captureBufSize 0x80 history
  latency_eq : context.latency = 0

variable {context next : VisualizerContext} {history : List (BitVec 8)} {now : Option Timespec}

theorem captureFrames_eq (context : VisualizerContext) (shift : Nat) (frames : List StereoFrame) :
    context.captureFrames shift frames =
      (((frames.map (captureByte shift)).foldl (Recorder.record captureBufSize) context.recorder).next,
        ((frames.map (captureByte shift)).foldl (Recorder.record captureBufSize) context.recorder).cells) := by
  unfold captureFrames recorder
  generalize context.captureIdx = captIdx
  generalize context.captureBuf = buf
  induction frames generalizing captIdx buf with
  | nil => rfl
  | cons frame frames ih =>
    rw [List.foldl_cons, List.map_cons, List.foldl_cons]
    exact ih _ _

theorem Recorded.visualizerProcess (hrecorded : context.Recorded history)
    {inBuffer outBuffer : Option (List StereoFrame)} {status : Int}
    (hcall : context.visualizerProcess inBuffer outBuffer now = some (status, next)) :
    next.Recorded (context.historyAfter history (.process inBuffer outBuffer now)) := by
  cases inBuffer with
  | none =>
    obtain ⟨-, rfl⟩ := Prod.mk.inj (Option.some.inj hcall)
    exact hrecorded
  | some frames =>
  cases outBuffer with
  | none =>
    obtain ⟨-, rfl⟩ := Prod.mk.inj (Option.some.inj hcall)
    exact hrecorded
  | some outFrames =>
    unfold VisualizerContext.visualizerProcess at hcall
    unfold historyAfter
    dsimp only at hcall ⊢
    split at hcall
    next hrefused =>
      obtain ⟨-, rfl⟩ := Prod.mk.inj (Option.some.inj hcall)
      split
      · exact hrecorded
      next hsame =>
        have hempty : frames = [] := by simpa [← not_not.mp hsame] using hrefused
        rw [hempty]
        cases scalingShift context.scalingMode [] <;> simpa using hrecorded
    next haccepted =>
      obtain ⟨shift, hshift, hnext⟩ := Option.map_eq_some_iff.mp hcall
      obtain ⟨-, rfl⟩ := Prod.mk.inj hnext
      have hsame : ¬ frames.length ≠ outFrames.length := fun hne => haccepted (by simp [hne])
      rw [if_neg hsame, hshift]
      refine ⟨?_, hrecorded.latency_eq⟩
      have hkeeps := hrecorded.keeps.recordAll (by decide : 0 < captureBufSize) (frames.map (captureByte shift))
      rw [recorder, captureFrames_eq]
      exact hkeeps

theorem Recorded.reset (context : VisualizerContext) : context.visualizerReset.Recorded [] :=
  ⟨Recorder.Keeps.empty captureBufSize 0x80, rfl⟩

theorem Recorded.setConfig (hrecorded : context.Recorded history) (config : EffectConfig) :
    (context.setConfig config).2.Recorded (if (context.setConfig config).1 ≠ 0 then history else []) := by
  unfold VisualizerContext.setConfig
  split_ifs
  all_goals first | exact hrecorded | exact Recorded.reset _ | simp_all [einval]

theorem Recorded.created : VisualizerContext.created.Recorded [] :=
  ⟨Recorder.Keeps.empty captureBufSize 0x80, rfl⟩

theorem Recorded.effectCommand (hrecorded : context.Recorded history) {command : VisualizerCommand}
    {replySize : BitVec 32} {hasReply : Bool} {status : Int} {reply : List (BitVec 8)}
    (hcall : context.effectCommand command replySize hasReply = some (status, reply, next)) :
    next.Recorded (context.historyAfter history (.command command replySize hasReply)) := by
  have hkept : ∀ {result : Int × List (BitVec 8) × VisualizerContext} {kept : List (BitVec 8)},
      some result = some (status, reply, next) → result.2.2.Recorded kept → next.Recorded kept := by
    rintro result kept hresult hsame
    rw [Option.some.inj hresult] at hsame
    exact hsame
  unfold historyAfter
  cases command <;> dsimp only [VisualizerContext.effectCommand] at hcall ⊢
  case init =>
    split at hcall
    next hbad => rw [if_pos hbad]; exact hkept hcall hrecorded
    next hgood => rw [if_neg hgood]; exact hkept hcall ⟨Recorder.Keeps.empty captureBufSize 0x80, rfl⟩
  case setConfig config =>
    split at hcall
    next hbad => rw [if_pos hbad]; exact hkept hcall hrecorded
    next hgood => rw [if_neg hgood]; exact hkept hcall (hrecorded.setConfig config)
  case reset => exact hkept hcall (Recorded.reset context)
  case enable =>
    split at hcall
    · exact hkept hcall hrecorded
    split at hcall
    · exact hkept hcall hrecorded
    · exact hkept hcall ⟨hrecorded.keeps, hrecorded.latency_eq⟩
  case disable =>
    split at hcall
    · exact hkept hcall hrecorded
    split at hcall
    · exact hkept hcall hrecorded
    · exact hkept hcall ⟨hrecorded.keeps, hrecorded.latency_eq⟩
  case setParam psize vsize param value =>
    split at hcall
    · exact hkept hcall hrecorded
    · refine hkept hcall ?_
      dsimp only [visualizerSetParameter]
      split
      · exact hrecorded
      · cases param <;> exact ⟨hrecorded.keeps, hrecorded.latency_eq⟩
  case offload isOffload =>
    split at hcall
    · exact hkept hcall hrecorded
    · exact hkept hcall ⟨hrecorded.keeps, hrecorded.latency_eq⟩
  case capture now =>
    unfold visualizerCapture at hcall
    split at hcall
    · exact hkept hcall hrecorded
    split at hcall
    · exact hkept hcall hrecorded
    split at hcall
    · obtain ⟨parts, -, hresult⟩ := Option.map_eq_some_iff.mp hcall
      refine hkept (congrArg some hresult) ?_
      dsimp only
      split <;> exact ⟨hrecorded.keeps, hrecorded.latency_eq⟩
    · exact hkept hcall hrecorded

theorem Recorded.call (hrecorded : context.Recorded history) {call : VisualizerCall} {status : Int}
    {reply : List (BitVec 8)} (hcall : context.call call = some (status, reply, next)) :
    next.Recorded (context.historyAfter history call) := by
  cases call with
  | process inBuffer outBuffer now =>
    obtain ⟨⟨processed, _⟩, hprocess, hresult⟩ := Option.map_eq_some_iff.mp hcall
    obtain ⟨-, -, rfl⟩ := by simpa using hresult
    exact hrecorded.visualizerProcess hprocess
  | command command replySize hasReply => exact hrecorded.effectCommand hcall

theorem recorded_of_run {calls : List VisualizerCall}
    (hrun : runSteps recordedCall (created, []) calls = some (context, history)) : context.Recorded history := by
  refine runSteps_state_of_meets (fun state => state.1.Recorded state.2) ?_ (runMeets_true calls _)
    Recorded.created hrun
  rintro ⟨before, bytes⟩ call ⟨after, _⟩ - hbefore hstep
  obtain ⟨⟨status, reply, _⟩, hcall, hresult⟩ := Option.map_eq_some_iff.mp hstep
  obtain ⟨rfl, rfl⟩ := Prod.mk.inj hresult
  exact hbefore.call hcall

/-! ### What a capture returns -/

def window (history : List (BitVec 8)) (count back : Nat) : List (BitVec 8) :=
  (List.range count).map fun i => Recorder.recent 0x80 history ((count - 1 - i + back) % captureBufSize)

theorem deltaSmp_le (context : VisualizerContext) (now : Option Timespec) :
    (context.deltaSmp now).toNat ≤ 4294967 := by
  have hbound : ∀ word : BitVec 32, (word / 1000).toNat ≤ 4294967 := by
    intro word
    have hword := word.isLt
    rw [BitVec.toNat_udiv]
    show word.toNat / 1000 ≤ 4294967
    omega
  exact hbound _

theorem capturePoint_toInt {captureIdx : Nat} {captureSize delta : BitVec 32} (hidx : captureIdx ≤ 65536)
    (hsize : captureSize.toNat ≤ 65536) (hdelta : delta.toNat ≤ 4294967) :
    (BitVec.ofNat 32 captureIdx - captureSize - delta).toInt =
      (captureIdx : Int) - captureSize.toNat - delta.toNat := by
  rw [BitVec.toInt_eq_toNat_cond, BitVec.toNat_sub, BitVec.toNat_sub, BitVec.toNat_ofNat]
  split <;> omega

theorem Recorded.readCaptureBuf (hrecorded : context.Recorded history) {start : Nat} {size : BitVec 32}
    (hinside : start + size.toNat ≤ captureBufSize) :
    context.readCaptureBuf start size = some ((List.range size.toNat).map fun i =>
      Recorder.recent 0x80 history (Recorder.age captureBufSize context.captureIdx (start + i))) := by
  unfold VisualizerContext.readCaptureBuf
  split
  next hzero => rw [hzero]; rfl
  rw [if_pos (by omega)]
  refine congrArg some (List.map_congr_left fun i hi => ?_)
  exact hrecorded.keeps.cells_eq (start + i) (by have := List.mem_range.mp hi; omega)

theorem age_window {captureIdx captureSize delta i cell : Nat} (hidx : captureIdx ≤ captureBufSize)
    (hi : i < captureSize) (hcell : cell < captureBufSize)
    (hplace : (cell : Int) = captureIdx - captureSize - delta + i ∨
      (cell : Int) = captureBufSize + captureIdx - captureSize - delta + i) :
    Recorder.age captureBufSize captureIdx cell = (captureSize - 1 - i + delta) % captureBufSize := by
  have hbuf : captureBufSize = 65536 := rfl
  unfold Recorder.age
  rw [hbuf] at hidx hcell hplace ⊢
  split <;> omega

theorem neg_capturePoint {capturePoint captureSize : BitVec 32} {captureIdx delta : Nat}
    (hpoint : capturePoint.toInt = captureIdx - captureSize.toNat - delta)
    (hwrapped : captureIdx < captureSize.toNat + delta) (hle : captureSize.toNat ≤ captureBufSize)
    (hdelta : delta ≤ 4294967) :
    (-capturePoint).toNat = captureSize.toNat + delta - captureIdx ∧
      (captureSize.slt (-capturePoint) ↔ captureIdx < delta) := by
  have hbuf : captureBufSize = 65536 := rfl
  have hneg : (-capturePoint).toNat = captureSize.toNat + delta - captureIdx := by
    rw [BitVec.toNat_neg]
    rw [BitVec.toInt_eq_toNat_cond] at hpoint
    split at hpoint <;> omega
  refine ⟨hneg, ?_⟩
  rw [BitVec.slt_iff_toInt_lt, BitVec.toInt_eq_toNat_cond, BitVec.toInt_eq_toNat_cond]
  split <;> split <;> omega

theorem Recorded.capturedBytes (hrecorded : context.Recorded history) (hpos : 1 ≤ context.captureSize.toNat)
    (hle : context.captureSize.toNat ≤ captureBufSize) :
    (context.capturedBytes now).map (fun parts => parts.1 ++ parts.2) =
      if context.captureSize.toNat + (context.deltaSmp now).toNat ≤ captureBufSize + context.captureIdx then
        some (window history context.captureSize.toNat (context.deltaSmp now).toNat)
      else none := by
  have hbuf : captureBufSize = 65536 := rfl
  have hidx : context.captureIdx ≤ 65536 := hrecorded.keeps.next_le
  have hdelta := context.deltaSmp_le now
  unfold VisualizerContext.capturedBytes
  dsimp only
  generalize context.deltaSmp now = delta at hdelta ⊢
  have hpoint := capturePoint_toInt hidx hle hdelta
  generalize BitVec.ofNat 32 context.captureIdx - context.captureSize - delta = capturePoint at hpoint ⊢
  by_cases hwrapped : context.captureIdx < context.captureSize.toNat + delta.toNat
  · have hnegative : capturePoint.slt 0 = true := BitVec.slt_iff_toInt_lt.mpr (by rw [hpoint]; simp; omega)
    obtain ⟨hneg, hslt⟩ := neg_capturePoint hpoint hwrapped hle hdelta
    rw [if_pos hnegative]
    by_cases hall : context.captureIdx < delta.toNat
    · -- nothing is copied from the start of the ring
      rw [if_pos (hslt.mpr hall), BitVec.sub_self]
      by_cases hinside : context.captureSize.toNat + delta.toNat ≤ captureBufSize + context.captureIdx
      · have hstart : (captureBufSize : Int) + capturePoint.toInt =
            (captureBufSize + context.captureIdx - context.captureSize.toNat - delta.toNat : Nat) := by omega
        rw [if_pos hinside, hstart, hrecorded.readCaptureBuf (by omega)]
        refine congrArg some ((List.append_nil _).trans (List.map_congr_left fun i hi => ?_))
        have hcount := List.mem_range.mp hi
        rw [@age_window _ _ delta.toNat _ _ hidx hcount (by omega) (.inr (by omega))]
      have hsome : context.captureSize ≠ 0 := by
        intro hzero
        rw [hzero] at hpos
        exact absurd hpos (by decide)
      rw [if_neg hinside]
      unfold VisualizerContext.readCaptureBuf
      rw [if_neg hsome, if_neg (by omega)]
      rfl
    · have hrest : (context.captureSize - -capturePoint).toNat = context.captureIdx - delta.toNat := by
        rw [BitVec.toNat_sub, hneg]
        omega
      have hstart : (captureBufSize : Int) + capturePoint.toInt =
          (captureBufSize + context.captureIdx - context.captureSize.toNat - delta.toNat : Nat) := by
        omega
      have hparts : context.captureSize.toNat =
          (context.captureSize.toNat + delta.toNat - context.captureIdx) + (context.captureIdx - delta.toNat) := by
        omega
      have hzero : (0 : Int) = (0 : Nat) := rfl
      rw [if_neg (mt hslt.mp hall), if_pos (by omega), hstart, hrecorded.readCaptureBuf (by omega), hzero,
        hrecorded.readCaptureBuf (by omega), hneg, hrest]
      have hrange : List.range context.captureSize.toNat =
          List.range (context.captureSize.toNat + delta.toNat - context.captureIdx) ++
            (List.range (context.captureIdx - delta.toNat)).map
              (context.captureSize.toNat + delta.toNat - context.captureIdx + ·) := by
        rw [← List.range_add, ← hparts]
      refine congrArg some ?_
      unfold window
      rw [hrange, List.map_append, List.map_map]
      refine congrArg₂ (· ++ ·) (List.map_congr_left fun i hi => ?_) (List.map_congr_left fun i hi => ?_)
      · have hcount := List.mem_range.mp hi
        rw [@age_window _ context.captureSize.toNat delta.toNat i _ hidx (by omega) (by omega) (.inr (by omega))]
      · have hcount := List.mem_range.mp hi
        rw [Function.comp_apply, @age_window _ context.captureSize.toNat delta.toNat
          (context.captureSize.toNat + delta.toNat - context.captureIdx + i) _ hidx (by omega) (by omega)
          (.inl (by omega))]
  · have hpositive : ¬ capturePoint.slt 0 = true := by
      rw [BitVec.slt_iff_toInt_lt, hpoint]
      simp
      omega
    have hstart : capturePoint.toInt =
        (context.captureIdx - context.captureSize.toNat - delta.toNat : Nat) := by omega
    rw [if_neg hpositive, if_pos (by omega), hstart, hrecorded.readCaptureBuf (by omega), Option.map_some,
      Option.map_some, List.nil_append]
    refine congrArg some (List.map_congr_left fun i hi => ?_)
    have hcount := List.mem_range.mp hi
    rw [@age_window _ _ delta.toNat _ _ hidx hcount (by omega) (.inl (by omega))]

theorem Recorded.deltaSmp_eq_zero (hrecorded : context.Recorded history)
    (htime : (getDeltaTimeMs context.bufferUpdateTime now).toNat ≤ 2 ^ 31) : context.deltaSmp now = 0 := by
  have hlatency : ∀ elapsed : BitVec 32, elapsed.toNat ≤ 2 ^ 31 →
      (if ((0 : BitVec 32) - elapsed).slt 0 then 0 else (0 : BitVec 32) - elapsed) = 0 := by
    intro elapsed helapsed
    split
    · rfl
    next hpositive =>
      rw [BitVec.slt_iff_toInt_lt, BitVec.toInt_eq_toNat_cond, BitVec.toNat_sub] at hpositive
      apply BitVec.eq_of_toNat_eq
      rw [BitVec.toNat_sub]
      simp at hpositive ⊢
      omega
  unfold deltaSmp
  rw [hrecorded.latency_eq]
  dsimp only
  rw [hlatency _ htime]
  simp

theorem window_zero {count : Nat} (hcount : count ≤ captureBufSize) :
    window history count 0 = Recorder.lastElements 0x80 count history := by
  rw [Recorder.lastElements_eq]
  refine List.map_congr_left fun i hi => ?_
  have hlt := List.mem_range.mp hi
  rw [Nat.add_zero, Nat.mod_eq_of_lt (by omega)]

/-- The time since the last buffer is at most half a turn of its milliseconds, or the ring read further back
by the delay that comes out of it is inside the buffer and holds the same bytes. -/
def InTime (context : VisualizerContext) (history : List (BitVec 8)) (now : Option Timespec) : Prop :=
  (getDeltaTimeMs context.bufferUpdateTime now).toNat ≤ 2 ^ 31 ∨
    context.captureSize.toNat + (context.deltaSmp now).toNat ≤ captureBufSize + context.captureIdx ∧
      window history context.captureSize.toNat (context.deltaSmp now).toNat =
        window history context.captureSize.toNat 0

/-- A capture returns the last bytes exactly when it comes in time. -/
theorem visualizerCapture_iff_inTime (calls : List VisualizerCall) (context : VisualizerContext)
    (history : List (BitVec 8)) (now : Option Timespec)
    (hrun : runSteps recordedCall (created, []) calls = some (context, history))
    (hactive : context.state = .active) (hoffload : context.offloadEnabled = true)
    (hpos : 1 ≤ context.captureSize.toNat) (hle : context.captureSize.toNat ≤ captureBufSize)
    (hstall : context.stalled now = false) :
    (context.visualizerCapture context.captureSize true now).map (fun result => (result.1, result.2.1)) =
        some (0, Recorder.lastElements 0x80 context.captureSize.toNat history) ↔
      context.InTime history now := by
  have hrecorded := recorded_of_run hrun
  have hcapture : (context.visualizerCapture context.captureSize true now).map
      (fun result => (result.1, result.2.1)) =
      ((context.capturedBytes now).map fun parts => parts.1 ++ parts.2).map fun reply => ((0 : Int), reply) := by
    unfold visualizerCapture
    simp [hoffload, hactive, hstall, Option.map_map, Function.comp_def]
  rw [hcapture, hrecorded.capturedBytes hpos hle, ← window_zero hle]
  unfold InTime
  constructor
  · intro hlast
    right
    split at hlast
    next hinside => exact ⟨hinside, (Prod.mk.inj (Option.some.inj hlast)).2⟩
    next => cases hlast
  · rintro (htime | ⟨hinside, hsame⟩)
    · have hidx := hrecorded.keeps.next_le
      rw [hrecorded.deltaSmp_eq_zero htime, if_pos (by simp; omega)]
      rfl
    · rw [if_pos hinside, hsame]
      rfl

def threeFrames : List VisualizerCall :=
  let frames : List StereoFrame := [⟨0x4000, 0x4000⟩, ⟨0x2000, 0x2000⟩, ⟨0xe000, 0xe000⟩]
  [.command (.offload true) 4 true, .command .enable 4 true, .command (.setParam 4 4 .captureSize 4) 4 true,
    .process (some frames) (some frames) (some ⟨10, 0⟩)]

theorem threeFrames_isSome : (runSteps recordedCall (created, []) threeFrames).isSome := by decide +kernel

theorem threeFrames_inTime :
    ∃ context history, runSteps recordedCall (created, []) threeFrames = some (context, history) ∧
      (context.visualizerCapture 4 true (some ⟨11, 0⟩)).map (fun result => (result.1, result.2.1)) =
        some (0, Recorder.lastElements 0x80 4 history) ∧ history.length = 3 := by
  refine ⟨((runSteps recordedCall (created, []) threeFrames).get threeFrames_isSome).1,
    ((runSteps recordedCall (created, []) threeFrames).get threeFrames_isSome).2,
    (Option.some_get threeFrames_isSome).symm, ?_, by decide +kernel⟩
  exact (visualizerCapture_iff_inTime threeFrames _ _ (some ⟨11, 0⟩) (Option.some_get threeFrames_isSome).symm
    (by decide +kernel) (by decide +kernel) (by decide +kernel) (by decide +kernel) (by decide +kernel)).mpr
    (.inl (by decide +kernel))

/-- A capture more than 24 days later returns bytes from before the last ones. -/
theorem threeFrames_late :
    ∃ context history, runSteps recordedCall (created, []) threeFrames = some (context, history) ∧
      context.stalled (some ⟨2150318, 0⟩) = false ∧
      (context.visualizerCapture 4 true (some ⟨2150318, 0⟩)).map (fun result => (result.1, result.2.1)) ≠
        some (0, Recorder.lastElements 0x80 4 history) := by
  exact ⟨((runSteps recordedCall (created, []) threeFrames).get threeFrames_isSome).1,
    ((runSteps recordedCall (created, []) threeFrames).get threeFrames_isSome).2,
    (Option.some_get threeFrames_isSome).symm, by decide +kernel, by decide +kernel⟩

/-! ### Bounds of captures and measurements -/

def Inside (start : Int) (size : Nat) : Prop := size = 0 ∨ 0 ≤ start ∧ start + size ≤ captureBufSize

theorem readCaptureBuf_of_inside {start : Int} {size : BitVec 32} (hinside : Inside start size.toNat) :
    ∃ bytes, context.readCaptureBuf start size = some bytes ∧ bytes.length = size.toNat := by
  unfold readCaptureBuf
  by_cases hzero : size = 0
  · exact ⟨[], by rw [if_pos hzero], by rw [hzero]; rfl⟩
  · have hpositive : size.toNat ≠ 0 := fun heq => hzero (BitVec.eq_of_toNat_eq heq)
    rw [if_neg hzero, if_pos (hinside.resolve_left hpositive)]
    exact ⟨_, rfl, by rw [List.length_map, List.length_range]⟩

theorem readCaptureBuf_of_outside {start : Int} {size : BitVec 32} (houtside : ¬Inside start size.toNat) :
    context.readCaptureBuf start size = none := by
  unfold readCaptureBuf
  have hzero : size ≠ 0 := fun hzero => houtside (Or.inl (by rw [hzero]; rfl))
  rw [if_neg hzero, if_neg fun hboth => houtside (Or.inr hboth)]

theorem toInt_cases (word : BitVec 32) :
    word.toNat < 2 ^ 31 ∧ word.toInt = word.toNat ∨ 2 ^ 31 ≤ word.toNat ∧ word.toInt = word.toNat - 2 ^ 32 := by
  rw [BitVec.toInt_eq_toNat_cond]
  split <;> omega

/-- How many bytes come from the end of the ring and how many from its start, for every size. -/
theorem capturedBytes_lengths (context : VisualizerContext) (now : Option Timespec)
    (hidx : context.captureIdx ≤ captureBufSize) :
    (context.capturedBytes now).map (fun parts => (parts.1.length, parts.2.length)) =
      let size := context.captureSize.toNat
      let wrapped := min size (size + (context.deltaSmp now).toNat - context.captureIdx)
      if size = 0 ∨ size + (context.deltaSmp now).toNat ≤ captureBufSize + context.captureIdx then
        some (wrapped, size - wrapped)
      else none := by
  have hdelta := context.deltaSmp_le now
  have hbuf : captureBufSize = 65536 := rfl
  unfold capturedBytes
  dsimp only
  generalize context.deltaSmp now = delta at hdelta ⊢
  have hbound := context.captureSize.isLt
  have hpoint : (BitVec.ofNat 32 context.captureIdx - context.captureSize - delta).toNat =
      (2 * 2 ^ 32 + context.captureIdx - context.captureSize.toNat - delta.toNat) % 2 ^ 32 := by
    rw [BitVec.toNat_sub, BitVec.toNat_sub, BitVec.toNat_ofNat]
    omega
  generalize BitVec.ofNat 32 context.captureIdx - context.captureSize - delta = capturePoint at hpoint ⊢
  have hint := toInt_cases capturePoint
  by_cases hnegative : capturePoint.slt 0 = true
  · rw [if_pos hnegative]
    have hnegative : capturePoint.toInt < 0 := BitVec.slt_iff_toInt_lt.mp hnegative
    have hneg : (-capturePoint).toNat = 2 ^ 32 - capturePoint.toNat := by
      rw [BitVec.toNat_neg, Nat.mod_eq_of_lt (by omega)]
    have hsizeInt := toInt_cases context.captureSize
    have hnegInt := toInt_cases (-capturePoint)
    obtain ⟨size, hsize, hsizeNat⟩ : ∃ size, (if context.captureSize.slt (-capturePoint) then context.captureSize
        else -capturePoint) = size ∧ (context.captureSize.toInt < (-capturePoint).toInt ∧
          size.toNat = context.captureSize.toNat ∨ (-capturePoint).toInt ≤ context.captureSize.toInt ∧
          size.toNat = (-capturePoint).toNat) := by
      by_cases hless : context.captureSize.slt (-capturePoint) = true
      · exact ⟨_, if_pos hless, .inl ⟨BitVec.slt_iff_toInt_lt.mp hless, rfl⟩⟩
      · exact ⟨_, if_neg hless, .inr ⟨Int.not_lt.mp (mt BitVec.slt_iff_toInt_lt.mpr hless), rfl⟩⟩
    rw [hsize]
    by_cases hinside : context.captureSize.toNat = 0 ∨
        context.captureSize.toNat + delta.toNat ≤ captureBufSize + context.captureIdx
    · have hmin : size.toNat = min context.captureSize.toNat
          (context.captureSize.toNat + delta.toNat - context.captureIdx) := by omega
      have hrest : (context.captureSize - size).toNat = context.captureSize.toNat - size.toNat := by
        rw [BitVec.toNat_sub]
        omega
      obtain ⟨first, hfirst, hfirstLength⟩ := @readCaptureBuf_of_inside context
        (captureBufSize + capturePoint.toInt) size (by unfold Inside; omega)
      obtain ⟨second, hsecond, hsecondLength⟩ := @readCaptureBuf_of_inside context 0 (context.captureSize - size)
        (by unfold Inside; omega)
      rw [if_pos hinside, hfirst]
      dsimp only
      rw [hsecond, ← hmin, ← hrest, ← hfirstLength, ← hsecondLength]
      rfl
    · rw [if_neg hinside, readCaptureBuf_of_outside (by unfold Inside; omega)]
      rfl
  · rw [if_neg hnegative]
    have hpositive : 0 ≤ capturePoint.toInt := Int.not_lt.mp fun hless => hnegative (BitVec.slt_iff_toInt_lt.mpr hless)
    by_cases hinside : Inside capturePoint.toInt context.captureSize.toNat
    · obtain ⟨bytes, hread, hlength⟩ := @readCaptureBuf_of_inside context _ _ hinside
      unfold Inside at hinside
      rw [hread, if_pos (by omega)]
      simp [hlength]
      omega
    · rw [readCaptureBuf_of_outside hinside, if_neg (by unfold Inside at hinside; omega)]
      rfl

/-! ### Replies -/

/-- A call, or a measurement with what it computes from the sums of squares in floating point. -/
inductive Request where
  | call (call : VisualizerCall)
  | measure (peak rms : Int) (replySize : BitVec 32) (hasReply : Bool)
  deriving DecidableEq

def visualizerMeasure (peak rms : Int) : List (BitVec 8) := intReply peak ++ intReply rms

def requestStep (context : VisualizerContext) : Request → Option VisualizerContext
  | .call call => (context.call call).map fun result => result.2.2
  | .measure .. => some context

def room (replySize : BitVec 32) (hasReply : Bool) : Nat := if hasReply then replySize.toNat else 0

/-- A command reads the ring only inside and writes the reply only inside. -/
def InBounds (context : VisualizerContext) : Request → Prop
  | .call (.process ..) => True
  | .call (.command command replySize hasReply) =>
    ∃ result ∈ context.effectCommand command replySize hasReply, result.2.1.length ≤ room replySize hasReply
  | .measure peak rms replySize hasReply => (visualizerMeasure peak rms).length ≤ room replySize hasReply

instance (context : VisualizerContext) : DecidablePred context.InBounds
  | .call (.process ..) => isTrue trivial
  | .call (.command command replySize hasReply) =>
    inferInstanceAs (Decidable (∃ result ∈ context.effectCommand command replySize hasReply,
      result.2.1.length ≤ room replySize hasReply))
  | .measure .. => inferInstanceAs (Decidable (_ ≤ _))

/-- A capture of the ring starts at most one turn back, and where it is stalled nothing is taken from the end of the
ring; a measurement has room for two words. -/
def Roomy (context : VisualizerContext) : Request → Prop
  | .call (.command (.capture now) replySize hasReply) =>
    hasReply = true → replySize = context.captureSize → context.offloadEnabled = true → context.state = .active →
      context.captureSize.toNat = 0 ∨
        context.captureSize.toNat + (context.deltaSmp now).toNat ≤ captureBufSize + context.captureIdx ∧
          (context.stalled now = true →
            context.captureSize.toNat + (context.deltaSmp now).toNat ≤ context.captureIdx)
  | .call _ => True
  | .measure _ _ replySize hasReply => hasReply = true ∧ 8 ≤ replySize.toNat

theorem visualizerCapture_inBounds_iff (hidx : context.captureIdx ≤ captureBufSize) (now : Option Timespec)
    (replySize : BitVec 32) (hasReply : Bool) :
    context.InBounds (.call (.command (.capture now) replySize hasReply)) ↔
      context.Roomy (.call (.command (.capture now) replySize hasReply)) := by
  have hlengths := context.capturedBytes_lengths now hidx
  unfold InBounds Roomy room effectCommand visualizerCapture
  dsimp only at hlengths ⊢
  by_cases hmatches : hasReply = true ∧ replySize = context.captureSize
  swap
  · refine iff_of_true ⟨_, if_pos ?_, Nat.zero_le _⟩ (by tauto)
    cases hasReply <;> simp_all
  obtain ⟨rfl, rfl⟩ := hmatches
  rw [if_neg (by simp)]
  by_cases hoffload : context.offloadEnabled = true
  swap
  · exact iff_of_true ⟨_, if_pos (by simpa using hoffload), Nat.zero_le _⟩ (by tauto)
  rw [if_neg (by simp [hoffload])]
  by_cases hactive : context.state = .active
  swap
  · exact iff_of_true ⟨_, if_neg hactive, by simp⟩ (by tauto)
  rw [if_pos hactive]
  simp only [hoffload, hactive, forall_const]
  cases hbytes : context.capturedBytes now with
  | none =>
    rw [hbytes, Option.map_none] at hlengths
    split at hlengths
    · cases hlengths
    next hout => exact iff_of_false (by simp) (by tauto)
  | some parts =>
    obtain ⟨first, second⟩ := parts
    rw [hbytes, Option.map_some] at hlengths
    split at hlengths
    · obtain ⟨hfirst, hsecond⟩ := Prod.mk.inj (Option.some.inj hlengths)
      cases hstalled : context.stalled now
      · simp [hfirst, hsecond]
        omega
      · simp [hfirst]
        omega
    · cases hlengths

theorem effectCommand_inBounds {command : VisualizerCommand} (hother : ∀ now, command ≠ .capture now)
    (replySize : BitVec 32) (hasReply : Bool) : context.InBounds (.call (.command command replySize hasReply)) := by
  unfold InBounds effectCommand
  by_cases hbad : (!hasReply || replySize ≠ 4) = true
  · cases command with
    | capture now => exact absurd rfl (hother now)
    | reset => exact ⟨_, rfl, Nat.zero_le _⟩
    | _ => exact ⟨_, if_pos hbad, Nat.zero_le _⟩
  have hroom : room replySize hasReply = 4 := by
    cases hasReply <;> simp_all [room]
  simp only [hbad, hroom]
  cases command with
  | capture now => exact absurd rfl (hother now)
  | enable => by_cases hstate : context.state = .initialized <;> simp [hstate, intReply]
  | disable => by_cases hstate : context.state = .active <;> simp [hstate, intReply]
  | _ => simp [intReply]

theorem inBounds_iff_roomy (hidx : context.captureIdx ≤ captureBufSize) (request : Request) :
    context.InBounds request ↔ context.Roomy request := by
  cases request with
  | measure peak rms replySize hasReply =>
    change (visualizerMeasure peak rms).length ≤ room replySize hasReply ↔ hasReply = true ∧ 8 ≤ replySize.toNat
    cases hasReply <;> simp [visualizerMeasure, intReply, room]
  | call call =>
    cases call with
    | process inBuffer outBuffer now => exact iff_of_true trivial trivial
    | command command replySize hasReply =>
      cases command with
      | capture now => exact visualizerCapture_inBounds_iff hidx now replySize hasReply
      | _ => exact iff_of_true (effectCommand_inBounds (by simp) replySize hasReply) trivial

theorem requestStep_recorded {request : Request} (hrecorded : ∃ history, context.Recorded history)
    (hstep : context.requestStep request = some next) : ∃ history, next.Recorded history := by
  obtain ⟨history, hrecorded⟩ := hrecorded
  cases request with
  | call call =>
    obtain ⟨⟨status, reply, _⟩, hcall, rfl⟩ := Option.map_eq_some_iff.mp hstep
    exact ⟨_, hrecorded.call hcall⟩
  | measure peak rms replySize hasReply =>
    obtain rfl := Option.some.inj hstep
    exact ⟨history, hrecorded⟩

theorem roomy_of_inBounds {requests : List Request} (hbounds : RunMeets requestStep InBounds created requests) :
    RunMeets requestStep Roomy created requests :=
  RunMeets.imp_of_invariant (fun context => ∃ history, context.Recorded history)
    (fun _ _ _ => requestStep_recorded)
    (fun _ request hrecorded => (inBounds_iff_roomy hrecorded.choose_spec.keeps.next_le request).mp) created
    ⟨[], Recorded.created⟩ hbounds

/-- The commands stay in the ring and in the reply exactly where captures and measurements have room. -/
theorem visualizer_inBounds_iff (requests : List Request) :
    RunMeets requestStep InBounds created requests ↔ RunMeets requestStep Roomy created requests :=
  ⟨roomy_of_inBounds, RunMeets.imp_of_invariant (fun context => ∃ history, context.Recorded history)
    (fun _ _ _ => requestStep_recorded)
    (fun _ request hrecorded => (inBounds_iff_roomy hrecorded.choose_spec.keeps.next_le request).mpr) created
    ⟨[], Recorded.created⟩⟩

/-- Four bytes of three frames, and two seconds later four more. -/
theorem stalledCapture_not_inBounds : ¬RunMeets requestStep InBounds created
    (threeFrames.map .call ++
      [.call (.command (.capture (some ⟨11, 0⟩)) 4 true), .call (.command (.capture (some ⟨13, 0⟩)) 4 true)]) := by
  decide +kernel

end VisualizerContext

end Nozomi
