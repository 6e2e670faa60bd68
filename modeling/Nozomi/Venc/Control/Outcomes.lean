import Nozomi.Venc.Control.Events
import Nozomi.Vdec.Component.PortCommand

/-!
# What a command of the encoder does

A StateSet command is completed at the shared end of `send_command_proxy`, or waits for a bit, or is refused.
A port command is, for each port it addresses, completed by an event of its own or waits for a bit of that
port. The theorems of this module say so once for all branches, and leave the state and the queue alone.
-/

namespace Nozomi.VencControl

def Flag.completion : Flag → Option (Nat × Nat)
  | .idlePending => some (commandStateSet, stateIdle)
  | .loadingPending => some (commandStateSet, stateLoaded)
  | .executePending => some (commandStateSet, stateExecuting)
  | .pausePending => some (commandStateSet, statePause)
  | .inputEnablePending => some (commandPortEnable, inputPortIndex)
  | .outputEnablePending => some (commandPortEnable, outputPortIndex)
  | .inputDisablePending => some (commandPortDisable, inputPortIndex)
  | .outputDisablePending => some (commandPortDisable, outputPortIndex)
  | .inputFlushPending => some (commandFlush, inputPortIndex)
  | .outputFlushPending => some (commandFlush, outputPortIndex)
  | .loadedStartPending | .loadedStopPending => none

def paramOf : StateType → Nat
  | .invalid => stateInvalid
  | .loaded => stateLoaded
  | .idle => stateIdle
  | .executing => stateExecuting
  | .pause => statePause
  | .waitForResources => 5
  | .other code => code

theorem paramOf_ofParam : Function.LeftInverse paramOf StateType.ofParam
  | 0 | 1 | 2 | 3 | 4 | 5 => rfl
  | _ + 6 => rfl

/-! ### What a step leaves alone -/

def OmxVideo.completions (video : OmxVideo) : List Notice :=
  video.notified.filter (·.event = .cmdComplete)

/-- All that the commands of the client have a part in is the same. -/
structure Untouched (video next : OmxVideo) : Prop where
  state : next.mState = video.mState
  queue : next.mCmdQ = video.mCmdQ
  owners : next.owners = video.owners
  completions : next.completions = video.completions
  sent : next.sent = video.sent

namespace Untouched

variable {video middle next : OmxVideo}

theorem refl (video : OmxVideo) : Untouched video video := ⟨rfl, rfl, rfl, rfl, rfl⟩

theorem trans (hfirst : Untouched video middle) (hsecond : Untouched middle next) :
    Untouched video next where
  state := hsecond.state.trans hfirst.state
  queue := hsecond.queue.trans hfirst.queue
  owners := hsecond.owners.trans hfirst.owners
  completions := hsecond.completions.trans hfirst.completions
  sent := hsecond.sent.trans hfirst.sent

end Untouched

namespace OmxVideo

variable (video : OmxVideo) (device : DeviceCall → Bool) (param1 : Nat) (causes : Finset Nat)

theorem error_untouched (data1 data2 : Nat) :
    Untouched video (video.eventHandler .error data1 data2 causes) := by
  refine ⟨rfl, rfl, rfl, ?_, rfl⟩
  rw [completions, completions, eventHandler, List.filter_append]
  exact List.append_nil _

theorem omxReportError_untouched : Untouched video video.omxReportError := by
  rw [omxReportError]
  split
  · exact .refl video
  · have hmarked : Untouched video { video with mErrorPropogated := true } := ⟨rfl, rfl, rfl, rfl, rfl⟩
    exact hmarked.trans (error_untouched _ _ _ _)

theorem reportUnless_untouched (success : Bool) : Untouched video (video.reportUnless success) := by
  rw [reportUnless]
  split
  · exact .refl video
  · exact video.omxReportError_untouched

/-! ### StateSet commands -/

/-- The three ways in which a branch for a StateSet command can end. -/
inductive StateSetOutcome : Outcome → Prop
  | completes {next : OmxVideo} (hnext : Untouched video next)
      (hvalid : StateType.ofParam param1 ≠ .invalid) : StateSetOutcome ⟨next, [], .none, true⟩
  | waits {next : OmxVideo} (flag : Flag) (posted : List OmxEvent)
      (hnext : Untouched (video.setFlag flag causes) next)
      (hflag : flag.completion = some (commandStateSet, param1))
      (hposted : ∀ event ∈ posted, event.id = .resumeDone) : StateSetOutcome ⟨next, posted, .none, false⟩
  | refuses {next : OmxVideo} {error : ErrorType} (posted : List OmxEvent) (hnext : Untouched video next)
      (hposted : ∀ event ∈ posted, event.id = .event ∧ event.param1 = eventError)
      (herror : error ≠ .none) : StateSetOutcome ⟨next, posted, error, true⟩

namespace StateSetOutcome

variable {video} {param1} {causes} {error : ErrorType}

theorem refuse (herror : error ≠ .none) :
    StateSetOutcome video param1 causes (video.refuse causes error) :=
  .refuses _ (.refl video) (fun _ hevent => List.mem_singleton.mp hevent ▸ ⟨rfl, rfl⟩) herror

theorem reject (herror : error ≠ .none) : StateSetOutcome video param1 causes (video.reject error) :=
  .refuses [] (.refl video) nofun herror

theorem toInvalid : StateSetOutcome video param1 causes (video.toInvalid param1 causes) :=
  .refuses _ (.refl video) (fun _ hevent => List.mem_singleton.mp hevent ▸ ⟨rfl, rfl⟩) (by decide)

theorem pend {state : StateType} {next : OmxVideo} {flag : Flag}
    (hparam : StateType.ofParam param1 = state) (hflag : flag.completion = some (commandStateSet, paramOf state))
    (hnext : Untouched (video.setFlag flag causes) next) :
    StateSetOutcome video param1 causes next.pend :=
  .waits flag [] hnext (hflag.trans (by rw [← hparam, paramOf_ofParam])) nofun

end StateSetOutcome

theorem fromLoaded_outcome : StateSetOutcome video param1 causes (video.fromLoaded param1 causes) := by
  rw [fromLoaded]
  cases hparam : StateType.ofParam param1 with
  | idle =>
    dsimp only
    split
    · exact .completes ⟨rfl, rfl, rfl, rfl, rfl⟩ (by rw [hparam]; decide)
    · exact .pend hparam rfl ⟨rfl, rfl, rfl, rfl, rfl⟩
  | waitForResources => exact .completes (.refl video) (by rw [hparam]; decide)
  | loaded | executing | pause => exact .refuse (by decide)
  | invalid => exact .toInvalid
  | other code => exact .reject (by decide)

theorem fromIdle_outcome : StateSetOutcome video param1 causes (video.fromIdle device param1 causes) := by
  rw [fromIdle]
  cases hparam : StateType.ofParam param1 with
  | loaded =>
    dsimp only
    split
    · split
      · exact .completes (.refl video) (by rw [hparam]; decide)
      · exact .reject (by decide)
    · exact .pend hparam rfl (.refl _)
  | executing | pause =>
    dsimp only
    split
    · exact .pend hparam rfl (.refl _)
    · exact .refuses [] video.omxReportError_untouched nofun (by decide)
  | idle | waitForResources => exact .refuse (by decide)
  | invalid => exact .toInvalid
  | other code => exact .reject (by decide)

theorem fromExecuting_outcome :
    StateSetOutcome video param1 causes (video.fromExecuting device param1 causes) := by
  rw [fromExecuting]
  cases hparam : StateType.ofParam param1 with
  | idle => exact .pend hparam rfl ⟨rfl, rfl, rfl, rfl, rfl⟩
  | pause =>
    dsimp only
    split
    · exact .pend hparam rfl (.refl _)
    · exact .refuse (by decide)
  | loaded | waitForResources | executing => exact .refuse (by decide)
  | invalid => exact .toInvalid
  | other code => exact .reject (by decide)

theorem fromPause_outcome : StateSetOutcome video param1 causes (video.fromPause device param1 causes) := by
  rw [fromPause]
  cases hparam : StateType.ofParam param1 with
  | executing =>
    dsimp only
    split
    · exact .waits .executePending _ (.refl _) (by rw [← paramOf_ofParam param1, hparam]; rfl)
        fun _ hevent => List.mem_singleton.mp hevent ▸ rfl
    · exact .refuse (by decide)
  | idle => exact .pend hparam rfl ⟨rfl, rfl, rfl, rfl, rfl⟩
  | loaded | waitForResources | pause => exact .refuse (by decide)
  | invalid => exact .toInvalid
  | other code => exact .reject (by decide)

theorem fromWaitForResources_outcome :
    StateSetOutcome video param1 causes (video.fromWaitForResources param1 causes) := by
  rw [fromWaitForResources]
  cases hparam : StateType.ofParam param1 with
  | loaded | idle => exact .completes (.refl video) (by rw [hparam]; decide)
  | other code => exact .completes (.refl video) (by rw [hparam]; exact nofun)
  | waitForResources | executing | pause => exact .refuse (by decide)
  | invalid => exact .toInvalid

theorem stateSet_outcome : StateSetOutcome video param1 causes (video.stateSet device param1 causes) := by
  rw [stateSet]
  cases video.mState with
  | loaded => exact video.fromLoaded_outcome param1 causes
  | idle => exact video.fromIdle_outcome device param1 causes
  | executing => exact video.fromExecuting_outcome device param1 causes
  | pause => exact video.fromPause_outcome device param1 causes
  | waitForResources => exact video.fromWaitForResources_outcome param1 causes
  | invalid | other _ => exact .reject (by decide)

/-! ### Port commands -/

def MustWait (cmd port : Nat) : Prop :=
  let buffers := if port = inputPortIndex then video.input else video.output
  if cmd = commandPortEnable then
    ¬((video.mState = .loaded ∧ .idlePending ∉ video.mFlags) ∨ buffers.allocated)
  else ¬((video.mState = .loaded ∨ video.mState = .idle) ∧ buffers.released)

instance (cmd port : Nat) : Decidable (video.MustWait cmd port) := by
  unfold MustWait
  dsimp only
  infer_instance

/-- The two ways in which the part of a port command for one port can end. -/
inductive PartOutcome (cmd port : Nat) : Outcome → Prop
  | completes {next : OmxVideo} (hnext : Untouched video next) (hnow : ¬video.MustWait cmd port) :
      PartOutcome cmd port ⟨next, [⟨cmd, port, .event, causes⟩], .none, true⟩
  | waits {next : OmxVideo} (flag : Flag) (hnext : Untouched (video.setFlag flag causes) next)
      (hflag : flag.completion = some (cmd, port)) : PartOutcome cmd port ⟨next, [], .none, false⟩

theorem enableInput_outcome :
    PartOutcome video causes commandPortEnable inputPortIndex (video.enableInput causes) := by
  rw [enableInput]
  dsimp only
  split
  next hloaded => exact .completes ⟨rfl, rfl, rfl, rfl, rfl⟩ (not_not_intro (.inl hloaded))
  next =>
    split
    next hdone => exact .completes ⟨rfl, rfl, rfl, rfl, rfl⟩ (not_not_intro (.inr hdone))
    next => exact .waits .inputEnablePending ⟨rfl, rfl, rfl, rfl, rfl⟩ rfl

theorem enableOutput_outcome :
    PartOutcome video causes commandPortEnable outputPortIndex (video.enableOutput causes) := by
  rw [enableOutput]
  dsimp only
  split
  next hloaded => exact .completes ⟨rfl, rfl, rfl, rfl, rfl⟩ (not_not_intro (.inl hloaded))
  next =>
    split
    next hdone => exact .completes ⟨rfl, rfl, rfl, rfl, rfl⟩ (not_not_intro (.inr hdone))
    next => exact .waits .outputEnablePending ⟨rfl, rfl, rfl, rfl, rfl⟩ rfl

theorem disableInput_outcome :
    PartOutcome video causes commandPortDisable inputPortIndex (video.disableInput causes) := by
  rw [disableInput]
  dsimp only
  split
  next hreleased => exact .completes ⟨rfl, rfl, rfl, rfl, rfl⟩ (not_not_intro hreleased)
  next =>
    split
    · exact .waits .inputDisablePending ⟨rfl, rfl, rfl, rfl, rfl⟩ rfl
    · exact .waits .inputDisablePending ⟨rfl, rfl, rfl, rfl, rfl⟩ rfl

theorem disableOutput_outcome :
    PartOutcome video causes commandPortDisable outputPortIndex (video.disableOutput causes) := by
  rw [disableOutput]
  dsimp only
  split
  next hreleased => exact .completes ⟨rfl, rfl, rfl, rfl, rfl⟩ (not_not_intro hreleased)
  next =>
    split
    · exact .waits .outputDisablePending ⟨rfl, rfl, rfl, rfl, rfl⟩ rfl
    · exact .waits .outputDisablePending ⟨rfl, rfl, rfl, rfl, rfl⟩ rfl

theorem PartOutcome.bFlag {video : OmxVideo} {causes : Finset Nat} {cmd port : Nat} {outcome : Outcome}
    (houtcome : PartOutcome video causes cmd port outcome) (hflag : outcome.bFlag = true) :
    ¬video.MustWait cmd port := by
  cases houtcome with
  | completes _ hnow => exact hnow
  | waits => cases hflag

theorem mustWait_output_congr {video next : OmxVideo} {cmd : Nat} (hstate : next.mState = video.mState)
    (houtput : next.output = video.output)
    (hidle : Flag.idlePending ∈ next.mFlags ↔ Flag.idlePending ∈ video.mFlags) :
    next.MustWait cmd outputPortIndex ↔ video.MustWait cmd outputPortIndex := by
  rw [MustWait, MustWait, hstate, houtput, hidle]
  rfl

theorem enableInput_mustWait (cmd : Nat) :
    (video.enableInput causes).video.MustWait cmd outputPortIndex ↔ video.MustWait cmd outputPortIndex := by
  rw [enableInput]
  dsimp only
  split
  · exact mustWait_output_congr rfl rfl .rfl
  · split
    · exact mustWait_output_congr rfl rfl .rfl
    · exact mustWait_output_congr rfl rfl (by simp [pend, setFlag, allocateInputDone])

theorem disableInput_mustWait (cmd : Nat) :
    (video.disableInput causes).video.MustWait cmd outputPortIndex ↔ video.MustWait cmd outputPortIndex := by
  rw [disableInput]
  dsimp only
  split
  · exact mustWait_output_congr rfl rfl .rfl
  · split
    · have hflush : inputPortIndex ≠ outputPortIndex ∧ inputPortIndex ≠ allPorts := by decide
      refine mustWait_output_congr rfl ?_ (by simp [pend, setFlag, executeOmxFlush])
      simp [pend, setFlag, executeOmxFlush, hflush]
    · exact mustWait_output_congr rfl rfl (by simp [pend, setFlag])

end OmxVideo

end Nozomi.VencControl
