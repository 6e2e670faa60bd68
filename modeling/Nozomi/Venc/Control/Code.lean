import Mathlib.Data.Fintype.Basic
import Nozomi.Vdec.Component.Code

/-!
# Commands of the encoder component

The command side of `omx_video_base.cpp`: `send_command_proxy`, the events of `m_cmd_q` and the calls of the
client that end a command. Each command that the client sends has a number. An event, a pending bit and a call
of `EventHandler` carry the numbers of the commands that caused them; the code never looks at these.
-/

namespace Nozomi.VencControl

def stateInvalid : Nat := 0

def commandMarkBuffer : Nat := 4

/-- The events of `m_cmd_q`, `OMX_COMPONENT_GENERATE_*`. -/
inductive GenerateId
  | event | command | eventInputFlush | eventOutputFlush | startDone | pauseDone | resumeDone | stopDone
  | hardwareError | fbd
  deriving DecidableEq, Repr

/-- `struct omx_event`, with the commands that caused it. -/
structure OmxEvent where
  param1 : Nat
  param2 : Nat
  id : GenerateId
  causes : Finset Nat
  deriving DecidableEq

/-- `enum flags_bit_positions`, the bits that are used. -/
inductive Flag
  | idlePending | loadingPending | inputEnablePending | outputEnablePending | inputDisablePending
  | outputDisablePending | outputFlushPending | inputFlushPending | pausePending | executePending
  | loadedStartPending | loadedStopPending
  deriving DecidableEq, Repr

instance : Fintype Flag where
  elems := {.idlePending, .loadingPending, .inputEnablePending, .outputEnablePending, .inputDisablePending,
    .outputDisablePending, .outputFlushPending, .inputFlushPending, .pausePending, .executePending,
    .loadedStartPending, .loadedStopPending}
  complete flag := by cases flag <;> decide

/-- One call of `EventHandler`, with the commands that caused it. -/
structure Notice where
  event : EventType
  data1 : Nat
  data2 : Nat
  causes : Finset Nat
  deriving DecidableEq

/-- The calls of the device that the command side makes. -/
inductive DeviceCall
  | start | stop | pause | resume | loadedStart | loadedStop | loadedStartDone | loadedStopDone
  deriving DecidableEq, Repr

/-- What the world outside the command side does during one step: which calls of the device succeed, and does
the buffer side report no error from `complete_pending_buffer_done_cbs` and from a buffer of its queues. -/
structure Environment where
  device : DeviceCall → Bool
  bufferDones : Bool
  bufferRound : Bool

/-- `class omx_video`, its command side, with the calls of `EventHandler` so far. Not of the source are the
commands that were sent, by number, and for each pending bit those that wait for it. -/
structure OmxVideo where
  mState : StateType
  mFlags : Finset Flag
  input : PortState
  output : PortState
  metaModeEnable : Bool
  mErrorPropogated : Bool
  mCmdQ : List OmxEvent
  notified : List Notice
  sent : List (Nat × Nat)
  owners : Flag → Finset Nat

namespace OmxVideo

variable (video : OmxVideo)

def setFlag (flag : Flag) (causes : Finset Nat) : OmxVideo :=
  { video with
    mFlags := insert flag video.mFlags
    owners := Function.update video.owners flag (video.owners flag ∪ causes) }

def clearFlag (flag : Flag) : OmxVideo :=
  { video with mFlags := video.mFlags.erase flag, owners := Function.update video.owners flag ∅ }

def eventHandler (event : EventType) (data1 data2 : Nat) (causes : Finset Nat) : OmxVideo :=
  { video with notified := video.notified ++ [⟨event, data1, data2, causes⟩] }

def omxReportError : OmxVideo :=
  if video.mErrorPropogated then video
  else { video with mErrorPropogated := true }.eventHandler .error ErrorType.hardware.toParam 0 ∅

def reportUnless (success : Bool) : OmxVideo := if success then video else video.omxReportError

def postEvent (event : OmxEvent) : OmxVideo :=
  if video.mCmdQ.length < cmdqSize then { video with mCmdQ := video.mCmdQ ++ [event] } else video

def allocateInputDone : OmxVideo × Bool :=
  ({ video with input := video.input.populate }, video.input.allocated)

def allocateOutputDone : OmxVideo × Bool :=
  ({ video with output := video.output.populate }, video.output.allocated)

def allocateDone : OmxVideo × Bool :=
  ({ video with input := video.input.populate, output := video.output.populate },
    video.input.allocated && video.output.allocated)

def releaseDone : Bool := video.input.released && video.output.released

def executeOmxFlush (flushType : Nat) : OmxVideo :=
  { video with
    input := { video.input with flushProgress :=
      video.input.flushProgress || decide (flushType = inputPortIndex ∨ flushType = allPorts) }
    output := { video.output with flushProgress :=
      video.output.flushProgress || decide (flushType = outputPortIndex ∨ flushType = allPorts) } }

/-! ### The branches of `send_command_proxy` -/

/-- Where a branch of `send_command_proxy` leaves the component, what it has posted, `eRet`, `bFlag`. -/
structure Outcome where
  video : OmxVideo
  posted : List OmxEvent
  eRet : ErrorType
  bFlag : Bool

def proceed : Outcome := ⟨video, [], .none, true⟩

def pend : Outcome := ⟨video, [], .none, false⟩

def reject (error : ErrorType) : Outcome := ⟨video, [], error, true⟩

variable (device : DeviceCall → Bool) (param1 : Nat) (causes : Finset Nat)

def refuse (error : ErrorType) : Outcome :=
  ⟨video, [⟨eventError, error.toParam, .event, causes⟩], error, true⟩

def toInvalid : Outcome := ⟨video, [⟨eventError, param1, .event, causes⟩], .invalidState, true⟩

def fromLoaded : Outcome :=
  match StateType.ofParam param1 with
  | .idle =>
    let (video, done) := video.allocateDone
    if done || (!video.input.bEnabled && !video.output.bEnabled) then video.proceed
    else (video.setFlag .idlePending causes).pend
  | .loaded => video.refuse causes .sameState
  | .waitForResources => video.proceed
  | .executing => video.refuse causes .incorrectStateTransition
  | .pause => video.refuse causes .incorrectStateTransition
  | .invalid => video.toInvalid param1 causes
  | .other _ => video.reject .badParameter

def fromIdle : Outcome :=
  match StateType.ofParam param1 with
  | .loaded =>
    if video.releaseDone then
      if device .stop then video.proceed else video.reject .hardware
    else (video.setFlag .loadingPending causes).pend
  | .executing =>
    if device .start then (video.setFlag .executePending causes).pend
    else video.omxReportError.reject .hardware
  | .idle => video.refuse causes .sameState
  | .waitForResources => video.refuse causes .incorrectStateTransition
  | .pause =>
    if device .start then (video.setFlag .pausePending causes).pend
    else video.omxReportError.reject .hardware
  | .invalid => video.toInvalid param1 causes
  | .other _ => video.reject .badParameter

def fromExecuting : Outcome :=
  match StateType.ofParam param1 with
  | .idle => ((video.setFlag .idlePending causes).executeOmxFlush allPorts).pend
  | .pause =>
    if device .pause then (video.setFlag .pausePending causes).pend else video.refuse causes .hardware
  | .loaded => video.refuse causes .incorrectStateTransition
  | .waitForResources => video.refuse causes .incorrectStateTransition
  | .executing => video.refuse causes .sameState
  | .invalid => video.toInvalid param1 causes
  | .other _ => video.reject .badParameter

def fromPause : Outcome :=
  match StateType.ofParam param1 with
  | .executing =>
    if device .resume then
      ⟨video.setFlag .executePending causes, [⟨0, 0, .resumeDone, causes⟩], .none, false⟩
    else video.refuse causes .hardware
  | .idle => ((video.setFlag .idlePending causes).executeOmxFlush allPorts).pend
  | .loaded => video.refuse causes .incorrectStateTransition
  | .waitForResources => video.refuse causes .incorrectStateTransition
  | .pause => video.refuse causes .sameState
  | .invalid => video.toInvalid param1 causes
  | .other _ => video.reject .badParameter

def fromWaitForResources : Outcome :=
  match StateType.ofParam param1 with
  | .loaded => video.proceed
  | .waitForResources => video.refuse causes .sameState
  | .executing => video.refuse causes .incorrectStateTransition
  | .pause => video.refuse causes .incorrectStateTransition
  | .invalid => video.toInvalid param1 causes
  | .idle | .other _ => video.proceed

def stateSet : Outcome :=
  match video.mState with
  | .loaded => video.fromLoaded param1 causes
  | .idle => video.fromIdle device param1 causes
  | .executing => video.fromExecuting device param1 causes
  | .pause => video.fromPause device param1 causes
  | .waitForResources => video.fromWaitForResources param1 causes
  | .invalid | .other _ => video.reject .badParameter

def otherInInvalid : Outcome :=
  if StateType.ofParam param1 = .loaded then video.refuse causes .invalidState else video.proceed

def flush : Outcome :=
  let video := if param1 = inputPortIndex ∨ param1 = allPorts then
    video.setFlag .inputFlushPending causes else video
  let video := if param1 = outputPortIndex ∨ param1 = allPorts then
    video.setFlag .outputFlushPending causes else video
  (video.executeOmxFlush param1).pend

def enableInput : Outcome :=
  let video := { video with input := { video.input with bEnabled := true } }
  if video.mState = .loaded ∧ .idlePending ∉ video.mFlags then
    ⟨video, [⟨commandPortEnable, inputPortIndex, .event, causes⟩], .none, true⟩
  else
    let (video, done) := video.allocateInputDone
    if done then ⟨video, [⟨commandPortEnable, inputPortIndex, .event, causes⟩], .none, true⟩
    else (video.setFlag .inputEnablePending causes).pend

def enableOutput : Outcome :=
  let video := { video with output := { video.output with bEnabled := true } }
  if video.mState = .loaded ∧ .idlePending ∉ video.mFlags then
    ⟨video, [⟨commandPortEnable, outputPortIndex, .event, causes⟩], .none, true⟩
  else
    let (video, done) := video.allocateOutputDone
    if done then ⟨video, [⟨commandPortEnable, outputPortIndex, .event, causes⟩], .none, true⟩
    else (video.setFlag .outputEnablePending causes).pend

def disableInput : Outcome :=
  let video := { video with input := { video.input with bEnabled := false } }
  if (video.mState = .loaded ∨ video.mState = .idle) ∧ video.input.released then
    ⟨video, [⟨commandPortDisable, inputPortIndex, .event, causes⟩], .none, true⟩
  else
    let video := video.setFlag .inputDisablePending causes
    if video.mState = .pause ∨ video.mState = .executing then (video.executeOmxFlush inputPortIndex).pend
    else video.pend

def disableOutput : Outcome :=
  let video := { video with output := { video.output with bEnabled := false } }
  if (video.mState = .loaded ∨ video.mState = .idle) ∧ video.output.released then
    ⟨video, [⟨commandPortDisable, outputPortIndex, .event, causes⟩], .none, true⟩
  else
    let video := video.setFlag .outputDisablePending causes
    if video.mState = .pause ∨ video.mState = .executing then (video.executeOmxFlush outputPortIndex).pend
    else video.pend

def bothParts (first second : OmxVideo → Finset Nat → Outcome) : Outcome :=
  let inputPart := if param1 = inputPortIndex ∨ param1 = allPorts then first video causes
    else video.proceed
  let outputPart := if param1 = outputPortIndex ∨ param1 = allPorts then second inputPart.video causes
    else inputPart.video.proceed
  ⟨outputPart.video, inputPart.posted ++ outputPart.posted, .none, inputPart.bFlag && outputPart.bFlag⟩

def command (cmd : Nat) : Outcome :=
  match CommandType.ofParam cmd with
  | .stateSet => video.stateSet device param1 causes
  | cmd =>
    if video.mState = .invalid then video.otherInInvalid param1 causes
    else match cmd with
    | .flush => video.flush param1 causes
    | .portEnable => video.bothParts param1 causes enableInput enableOutput
    | .portDisable => video.bothParts param1 causes disableInput disableOutput
    | .stateSet | .other _ => video.reject .notImplemented

def Outcome.posts (outcome : Outcome) (cmd param1 : Nat) (causes : Finset Nat) : List OmxEvent :=
  if outcome.eRet = .none ∧ outcome.bFlag then outcome.posted ++ [⟨cmd, param1, .event, causes⟩]
  else outcome.posted

def sendCommandProxy (cmd : Nat) : OmxVideo :=
  ((video.command device param1 causes cmd).posts cmd param1 causes).foldl postEvent
    (video.command device param1 causes cmd).video

end OmxVideo

end Nozomi.VencControl
