import Mathlib.Data.Finset.Basic
import Mathlib.Tactic.Ring

/-!
# Commands of the decoder component

The command side of `omx_vdec.cpp`: the state, flags and ports that `send_command_proxy` reads, and the
events it posts. Client parameters are plain numbers, which the code casts to its enumerations, so each
enumeration has a case for the numbers without a name. The driver is an oracle: it says for each call
what an `ioctl` returns.
-/

namespace Nozomi

inductive StateType where
  | invalid | loaded | idle | executing | pause | waitForResources
  | other (code : Nat)
  deriving DecidableEq, Repr

def StateType.ofParam : Nat → StateType
  | 0 => .invalid
  | 1 => .loaded
  | 2 => .idle
  | 3 => .executing
  | 4 => .pause
  | 5 => .waitForResources
  | code + 6 => .other (code + 6)

inductive CommandType where
  | stateSet | flush | portDisable | portEnable
  | other (code : Nat)
  deriving DecidableEq, Repr

def CommandType.ofParam : Nat → CommandType
  | 0 => .stateSet
  | 1 => .flush
  | 2 => .portDisable
  | 3 => .portEnable
  | code + 4 => .other (code + 4)

def commandStateSet : Nat := 0
def commandFlush : Nat := 1
def eventError : Nat := 1
def commandPortDisable : Nat := 2
def commandPortEnable : Nat := 3

def stateLoaded : Nat := 1
def stateIdle : Nat := 2
def stateExecuting : Nat := 3
def statePause : Nat := 4

def vdecSuccess : Nat := 0x40000000

def inputPortIndex : Nat := 0
def outputPortIndex : Nat := 1
def allPorts : Nat := 2 ^ 32 - 1

def indexParamPortDefinition : Nat := 0x2000001
def indexConfigCommonOutputCrop : Nat := 0x700000F

/-- The values of `OMX_ERRORTYPE` that the command side uses. -/
inductive ErrorType where
  | none | badParameter | notImplemented | hardware | invalidState | sameState
  | incorrectStateTransition | incorrectStateOperation | badPortIndex | portUnpopulated
  deriving DecidableEq, Repr

def ErrorType.toParam : ErrorType → Nat
  | .none => 0
  | .badParameter => 0x80001005
  | .notImplemented => 0x80001006
  | .hardware => 0x80001009
  | .invalidState => 0x8000100A
  | .sameState => 0x80001012
  | .incorrectStateTransition => 0x80001017
  | .incorrectStateOperation => 0x80001018
  | .badPortIndex => 0x8000101B
  | .portUnpopulated => 0x8000101C

/-- The events that go to `m_cmd_q`, `OMX_COMPONENT_GENERATE_*`. -/
inductive GenerateId where
  | event | command | eventInputFlush | eventOutputFlush | startDone | pauseDone | resumeDone
  | stopDone | hardwareError | portReconfig | eosDone | infoFieldDropped
  deriving DecidableEq, Repr

structure OmxEvent where
  param1 : Nat
  param2 : Nat
  id : GenerateId
  deriving DecidableEq, Repr

/-- `enum flags_bit_positions`, the bits that are used. -/
inductive Flag where
  | idlePending | loadingPending | inputEnablePending | outputEnablePending
  | inputDisablePending | outputDisablePending | outputFlushPending | inputFlushPending
  | pausePending | executePending | outputFlushInDisablePending | disableOutputDeferred
  deriving DecidableEq, Repr

inductive Ioctl where
  | start | pause | resume | stop
  deriving DecidableEq, Repr

/-- What the client is told through `EventHandler`. -/
inductive EventType where
  | cmdComplete | error | portSettingsChanged | indexSettingChanged | bufferFlag
  deriving DecidableEq, Repr

structure Notification where
  event : EventType
  data1 : Nat
  data2 : Nat
  deriving DecidableEq, Repr

/-- The members of `omx_vdec` that come once for each port: `m_inp_bEnabled`, `m_inp_bPopulated`,
`m_inp_mem_ptr` (is it set), `m_inp_bm_count`, `drv_ctx.ip_buf.actualcount`, `input_flush_progress`. -/
structure PortState where
  bEnabled : Bool
  bPopulated : Bool
  memPtr : Bool
  bmCount : Finset Nat
  actualcount : Nat
  flushProgress : Bool
  deriving DecidableEq

namespace PortState

def allocated (port : PortState) : Bool :=
  port.memPtr && (List.range port.actualcount).all (· ∈ port.bmCount)

def released (port : PortState) : Bool :=
  !port.memPtr || (List.range port.actualcount).all (· ∉ port.bmCount)

def populate (port : PortState) : PortState :=
  if port.allocated && port.bEnabled then { port with bPopulated := true } else port

@[simp] theorem populate_bEnabled (port : PortState) : port.populate.bEnabled = port.bEnabled := by
  rw [populate]
  split <;> rfl

end PortState

/-- `class omx_vdec`, its command side, with the calls of `EventHandler` so far. -/
structure OmxVdec where
  mState : StateType
  mFlags : Finset Flag
  input : PortState
  output : PortState
  inReconfig : Bool
  mErrorPropogated : Bool
  mCmdQ : List OmxEvent
  notified : List Notification
  deriving DecidableEq

def cmdqSize : Nat := 100

namespace OmxVdec

def setFlag (component : OmxVdec) (flag : Flag) : OmxVdec :=
  { component with mFlags := insert flag component.mFlags }

def clearFlag (component : OmxVdec) (flag : Flag) : OmxVdec :=
  { component with mFlags := component.mFlags.erase flag }

def eventHandler (component : OmxVdec) (event : EventType) (data1 data2 : Nat) : OmxVdec :=
  { component with notified := component.notified ++ [⟨event, data1, data2⟩] }

def omxReportError (component : OmxVdec) : OmxVdec :=
  if component.mErrorPropogated then component
  else { component with mErrorPropogated := true }.eventHandler .error ErrorType.hardware.toParam 0

def reportUnless (component : OmxVdec) (success : Bool) : OmxVdec :=
  if success then component else component.omxReportError

def postEvent (component : OmxVdec) (event : OmxEvent) : OmxVdec :=
  if component.mCmdQ.length < cmdqSize then
    { component with mCmdQ := component.mCmdQ ++ [event] }
  else component

def allocateInputDone (component : OmxVdec) : OmxVdec × Bool :=
  ({ component with input := component.input.populate }, component.input.allocated)

def allocateOutputDone (component : OmxVdec) : OmxVdec × Bool :=
  ({ component with output := component.output.populate }, component.output.allocated)

def allocateDone (component : OmxVdec) : OmxVdec × Bool :=
  let (component, bRetIn) := component.allocateInputDone
  let (component, bRetOut) := component.allocateOutputDone
  (component, bRetIn && bRetOut)

def releaseInputDone (component : OmxVdec) : Bool := component.input.released

def releaseOutputDone (component : OmxVdec) : OmxVdec × Bool :=
  if component.output.released then
    ({ component with output := { component.output with bmCount := ∅ } }, true)
  else (component, false)

def releaseDone (component : OmxVdec) : OmxVdec × Bool :=
  if component.releaseInputDone then component.releaseOutputDone else (component, false)

def executeOmxFlush (component : OmxVdec) (flushType : Nat) : OmxVdec :=
  if flushType = inputPortIndex then
    { component with input := { component.input with flushProgress := true } }
  else if flushType = outputPortIndex then
    { component with output := { component.output with flushProgress := true } }
  else
    { component with
      input := { component.input with flushProgress := true }
      output := { component.output with flushProgress := true } }

/-! ### The branches of `send_command_proxy` -/

/-- Where a branch of `send_command_proxy` leaves the component, what it has posted, `eRet`, `bFlag`. -/
structure Outcome where
  component : OmxVdec
  posted : List OmxEvent
  eRet : ErrorType
  bFlag : Bool

def proceed (component : OmxVdec) : Outcome := ⟨component, [], .none, true⟩

def pend (component : OmxVdec) : Outcome := ⟨component, [], .none, false⟩

def refuse (component : OmxVdec) (error : ErrorType) : Outcome :=
  ⟨component, [⟨eventError, error.toParam, .event⟩], error, true⟩

def toInvalid (component : OmxVdec) (param1 : Nat) : Outcome :=
  ⟨component, [⟨eventError, param1, .event⟩], .invalidState, true⟩

def reject (component : OmxVdec) (error : ErrorType) : Outcome := ⟨component, [], error, true⟩

variable (component : OmxVdec) (ioctl : Ioctl → Bool) (param1 : Nat)

def fromLoaded : Outcome :=
  match StateType.ofParam param1 with
  | .idle =>
    let (component, done) := component.allocateDone
    if done || (!component.input.bEnabled && !component.output.bEnabled) then component.proceed
    else (component.setFlag .idlePending).pend
  | .loaded => component.refuse .sameState
  | .waitForResources => component.proceed
  | .executing => component.refuse .incorrectStateTransition
  | .pause => component.refuse .incorrectStateTransition
  | .invalid => component.toInvalid param1
  | .other _ => component.reject .badParameter

def fromIdle : Outcome :=
  match StateType.ofParam param1 with
  | .loaded =>
    let (component, done) := component.releaseDone
    if done then component.proceed else (component.setFlag .loadingPending).pend
  | .executing =>
    let component := component.setFlag .executePending
    if ioctl .start then component.pend else ⟨component.omxReportError, [], .hardware, false⟩
  | .idle => component.refuse .sameState
  | .waitForResources => component.refuse .incorrectStateTransition
  | .pause =>
    if ioctl .start then (component.setFlag .pausePending).pend
    else component.omxReportError.reject .hardware
  | .invalid => component.toInvalid param1
  | .other _ => component.reject .badParameter

def fromExecuting : Outcome :=
  match StateType.ofParam param1 with
  | .idle => ((component.setFlag .idlePending).executeOmxFlush allPorts).pend
  | .pause =>
    if ioctl .pause then (component.setFlag .pausePending).pend else component.refuse .hardware
  | .loaded => component.refuse .incorrectStateTransition
  | .waitForResources => component.refuse .incorrectStateTransition
  | .executing => component.refuse .sameState
  | .invalid => component.toInvalid param1
  | .other _ => component.reject .badParameter

def fromPause : Outcome :=
  match StateType.ofParam param1 with
  | .executing =>
    if ioctl .resume then ⟨component.setFlag .executePending, [⟨0, vdecSuccess, .resumeDone⟩], .none, false⟩
    else component.refuse .hardware
  | .idle => ((component.setFlag .idlePending).executeOmxFlush allPorts).pend
  | .loaded => component.refuse .incorrectStateTransition
  | .waitForResources => component.refuse .incorrectStateTransition
  | .pause => component.refuse .sameState
  | .invalid => component.toInvalid param1
  | .other _ => component.reject .badParameter

def fromWaitForResources : Outcome :=
  match StateType.ofParam param1 with
  | .loaded => component.proceed
  | .waitForResources => component.refuse .sameState
  | .executing => component.refuse .incorrectStateTransition
  | .pause => component.refuse .incorrectStateTransition
  | .invalid => component.toInvalid param1
  | .idle | .other _ => component.proceed

def stateSet : Outcome :=
  match component.mState with
  | .loaded => component.fromLoaded param1
  | .idle => component.fromIdle ioctl param1
  | .executing => component.fromExecuting ioctl param1
  | .pause => component.fromPause ioctl param1
  | .waitForResources => component.fromWaitForResources param1
  | .invalid | .other _ => component.reject .badParameter

def otherInInvalid : Outcome :=
  if StateType.ofParam param1 = .loaded then component.refuse .invalidState else component.proceed

def flush : Outcome :=
  let component := if param1 = inputPortIndex ∨ param1 = allPorts then
    component.setFlag .inputFlushPending else component
  let component := if param1 = outputPortIndex ∨ param1 = allPorts then
    component.setFlag .outputFlushPending else component
  (component.executeOmxFlush param1).pend

def enableInput : Outcome :=
  let component := { component with input := { component.input with bEnabled := true } }
  if component.mState = .loaded ∧ .idlePending ∉ component.mFlags then
    ⟨component, [⟨commandPortEnable, inputPortIndex, .event⟩], .none, true⟩
  else
    let (component, done) := component.allocateInputDone
    if done then ⟨component, [⟨commandPortEnable, inputPortIndex, .event⟩], .none, true⟩
    else (component.setFlag .inputEnablePending).pend

def enableOutput : Outcome :=
  let component := { component with output := { component.output with bEnabled := true } }
  if component.mState = .loaded ∧ .idlePending ∉ component.mFlags then
    ⟨component, [⟨commandPortEnable, outputPortIndex, .event⟩], .none, true⟩
  else
    let (component, done) := component.allocateOutputDone
    if done then ⟨component, [⟨commandPortEnable, outputPortIndex, .event⟩], .none, true⟩
    else (component.setFlag .outputEnablePending).pend

def disableInput : Outcome :=
  let component := { component with input := { component.input with bEnabled := false } }
  if (component.mState = .loaded ∨ component.mState = .idle) ∧ component.releaseInputDone then
    ⟨component, [⟨commandPortDisable, inputPortIndex, .event⟩], .none, true⟩
  else
    let component := component.setFlag .inputDisablePending
    if component.mState = .pause ∨ component.mState = .executing then
      (component.executeOmxFlush inputPortIndex).pend
    else component.pend

def disableOutput : Outcome :=
  let component := { component with output := { component.output with bEnabled := false } }
  let (component, done) := if component.mState = .loaded ∨ component.mState = .idle then
    component.releaseOutputDone else (component, false)
  if done then ⟨component, [⟨commandPortDisable, outputPortIndex, .event⟩], .none, true⟩
  else
    let component := component.setFlag .outputDisablePending
    if component.mState = .pause ∨ component.mState = .executing then
      ((component.setFlag .outputFlushInDisablePending).executeOmxFlush outputPortIndex).pend
    else component.pend

def bothParts (first second : OmxVdec → Outcome) : Outcome :=
  let inputPart := if param1 = inputPortIndex ∨ param1 = allPorts then
    first component else component.proceed
  let outputPart := if param1 = outputPortIndex ∨ param1 = allPorts then
    second inputPart.component else inputPart.component.proceed
  ⟨outputPart.component, inputPart.posted ++ outputPart.posted, .none,
    inputPart.bFlag && outputPart.bFlag⟩

def command (cmd : Nat) : Outcome :=
  match CommandType.ofParam cmd with
  | .stateSet => component.stateSet ioctl param1
  | cmd =>
    if component.mState = .invalid then component.otherInInvalid param1
    else match cmd with
    | .flush => component.flush param1
    | .portEnable => component.bothParts param1 enableInput enableOutput
    | .portDisable => component.bothParts param1 disableInput disableOutput
    | .stateSet | .other _ => component.reject .notImplemented

def commandPosts (cmd : Nat) : List OmxEvent :=
  let outcome := component.command ioctl param1 cmd
  if outcome.eRet = .none ∧ outcome.bFlag then outcome.posted ++ [⟨cmd, param1, .event⟩]
  else outcome.posted

def sendCommandProxy (cmd : Nat) : OmxVdec :=
  (component.commandPosts ioctl param1 cmd).foldl postEvent
    (component.command ioctl param1 cmd).component

end OmxVdec

end Nozomi
