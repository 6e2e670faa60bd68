import Nozomi.Vdec.Buffer
import Nozomi.Vdec.Component.Code

/-!
# Events of the decoder component

One step of the component is a call of the client, a message of the driver or one round of
`process_event_cb`. Only `m_cmd_q` is modelled; the rounds for `m_ftb_q` and `m_etb_q` move buffers and may
report an error. What the driver and the buffer allocators do is left open.
-/

namespace Nozomi

/-- `drv_ctx.interlace`: the formats for which OMX has a value come with that. -/
inductive Interlace where
  | progressive | supported (format : Nat) | unsupported

/-- What the world outside the command side does during one step. -/
structure Environment where
  ioctl : Ioctl → Bool
  /-- Does `set_buffer_req` succeed in a port reconfiguration. -/
  setBufferReq : Bool
  /-- The buffer count of `op_buf_rcnfg`. -/
  opBufRcnfg : Nat
  /-- Does `start_port_reconfig` succeed. -/
  startPortReconfig : Bool
  /-- `in_reconfig` after `start_port_reconfig`. -/
  inReconfig : Bool
  interlace : Interlace
  /-- Does the buffer side report no error from `complete_pending_buffer_done_cbs`. -/
  bufferDones : Bool
  /-- The same of a buffer of its queues. -/
  bufferRound : Bool

/-- The messages that `async_message_process` posts to `m_cmd_q`. -/
inductive DriverMessage where
  | hwError | startDone | stopDone | resumeDone | pauseDone | flushInputDone | flushOutputDone
  | fieldDropped | outputEos | configChanged | cropChanged
  deriving DecidableEq, Repr

def DriverMessage.toEvent (message : DriverMessage) (status : Nat) : OmxEvent :=
  match message with
  | .hwError => ⟨0, status, .hardwareError⟩
  | .startDone => ⟨0, status, .startDone⟩
  | .stopDone => ⟨0, status, .stopDone⟩
  | .resumeDone => ⟨0, status, .resumeDone⟩
  | .pauseDone => ⟨0, status, .pauseDone⟩
  | .flushInputDone => ⟨0, status, .eventInputFlush⟩
  | .flushOutputDone => ⟨0, status, .eventOutputFlush⟩
  | .fieldDropped => ⟨0, status, .infoFieldDropped⟩
  | .outputEos => ⟨0, status, .eosDone⟩
  | .configChanged => ⟨outputPortIndex, indexParamPortDefinition, .portReconfig⟩
  | .cropChanged => ⟨outputPortIndex, indexConfigCommonOutputCrop, .portReconfig⟩

namespace OmxVdec

variable (component : OmxVdec) (environment : Environment)

def portDisableComplete (param1 param2 : Nat) : OmxVdec :=
  if .outputFlushInDisablePending ∈ component.mFlags then component.setFlag .disableOutputDeferred
  else if param2 = outputPortIndex ∧ component.inReconfig then
    let component := { component with
      inReconfig := false
      output := { component.output with actualcount := environment.opBufRcnfg } }
    if environment.setBufferReq then component.eventHandler .cmdComplete param1 param2
    else component.omxReportError
  else component.eventHandler .cmdComplete param1 param2

def generateEvent (param1 param2 : Nat) : OmxVdec :=
  if param1 = commandStateSet then
    { component with mState := StateType.ofParam param2 }.eventHandler .cmdComplete param1 param2
  else if param1 = eventError then
    if StateType.ofParam param2 = .invalid then
      { component with mState := .invalid }.eventHandler .error ErrorType.invalidState.toParam param2
    else if param2 = ErrorType.hardware.toParam then component.omxReportError
    else component.eventHandler .error param2 0
  else if param1 = commandPortDisable then component.portDisableComplete environment param1 param2
  else component.eventHandler .cmdComplete param1 param2

def moveTo (flag : Flag) (state : StateType) (param : Nat) : OmxVdec :=
  { component.clearFlag flag with mState := state }.eventHandler .cmdComplete commandStateSet param

def inputFlushDone (status : Nat) : OmxVdec :=
  if !component.input.flushProgress then component
  else
    let component := { component with input := { component.input with flushProgress := false } }
    if status ≠ vdecSuccess then component.omxReportError
    else
      let component := if .inputFlushPending ∈ component.mFlags then
        (component.clearFlag .inputFlushPending).eventHandler .cmdComplete commandFlush inputPortIndex
        else component
      if .idlePending ∈ component.mFlags ∧ !component.output.flushProgress then
        component.reportUnless (environment.ioctl .stop)
      else component

def flushInDisableDone : OmxVdec :=
  if .outputFlushInDisablePending ∈ component.mFlags then
    let component := component.clearFlag .outputFlushInDisablePending
    if .disableOutputDeferred ∈ component.mFlags then
      (component.postEvent ⟨commandPortDisable, outputPortIndex, .event⟩).clearFlag
        .disableOutputDeferred
    else component
  else component

def outputFlushDone (status : Nat) : OmxVdec :=
  if !component.output.flushProgress then component
  else
    let component := { component with output := { component.output with flushProgress := false } }
    if status ≠ vdecSuccess then component.omxReportError
    else
      let component := if .outputFlushPending ∈ component.mFlags then
        (component.clearFlag .outputFlushPending).eventHandler .cmdComplete commandFlush outputPortIndex
        else component
      let component := component.flushInDisableDone
      if .idlePending ∈ component.mFlags ∧ !component.input.flushProgress then
        component.reportUnless (environment.ioctl .stop)
      else component

def startDone (status : Nat) : OmxVdec :=
  if status ≠ vdecSuccess then component.omxReportError
  else if .executePending ∈ component.mFlags then component.moveTo .executePending .executing stateExecuting
  else if .pausePending ∈ component.mFlags then component.reportUnless (environment.ioctl .pause)
  else component

def pendingDone (bufferDones : Bool) (status : Nat) (flag : Flag) (state : StateType) (param : Nat) : OmxVdec :=
  if status ≠ vdecSuccess then component.omxReportError
  else
    let component := component.reportUnless bufferDones
    if flag ∈ component.mFlags then component.moveTo flag state param else component

def portReconfig (param1 param2 : Nat) : OmxVdec :=
  let component := if param2 = indexParamPortDefinition then
    { component with inReconfig := environment.inReconfig } else component
  if param2 = indexParamPortDefinition ∧ !environment.startPortReconfig then
    component.omxReportError
  else
    let component := component.eventHandler .portSettingsChanged param1 param2
    match environment.interlace with
    | .progressive => component
    | .supported format => component.eventHandler .indexSettingChanged format 0
    | .unsupported => component.eventHandler .error (2 ^ 32 - 1) 0

def handleEvent (event : OmxEvent) : OmxVdec :=
  match event.id with
  | .event => component.generateEvent environment event.param1 event.param2
  | .command => component.sendCommandProxy environment.ioctl event.param2 event.param1
  | .eventInputFlush => component.inputFlushDone environment event.param2
  | .eventOutputFlush => component.outputFlushDone environment event.param2
  | .startDone => component.startDone environment event.param2
  | .pauseDone => component.pendingDone environment.bufferDones event.param2 .pausePending .pause statePause
  | .resumeDone => component.pendingDone true event.param2 .executePending .executing stateExecuting
  | .stopDone => component.pendingDone environment.bufferDones event.param2 .idlePending .idle stateIdle
  | .hardwareError => component.omxReportError
  | .portReconfig => component.portReconfig environment event.param1 event.param2
  | .eosDone => component.eventHandler .bufferFlag outputPortIndex bufferFlagEos.toNat
  | .infoFieldDropped => component

def bufferRound : OmxVdec :=
  if component.mState = .pause then component else component.reportUnless environment.bufferRound

def processEvent : OmxVdec :=
  match component.mCmdQ with
  | [] => component.bufferRound environment
  | event :: rest => { component with mCmdQ := rest }.handleEvent environment event

/-! ### Calls of the client -/

def sendCommand (cmd param1 : Nat) : OmxVdec :=
  if component.mState = .invalid then component
  else if CommandType.ofParam cmd = .flush ∧ param1 ≠ inputPortIndex ∧ param1 ≠ outputPortIndex ∧
      param1 ≠ allPorts then component
  else component.postEvent ⟨cmd, param1, .command⟩

def bufferAdded (port : Nat) : OmxVdec :=
  let (component, done) := component.allocateDone
  let component := if done ∧ .idlePending ∈ component.mFlags then
    (component.clearFlag .idlePending).postEvent ⟨commandStateSet, stateIdle, .event⟩
    else component
  if port = inputPortIndex ∧ component.input.bPopulated ∧ .inputEnablePending ∈ component.mFlags then
    (component.clearFlag .inputEnablePending).postEvent ⟨commandPortEnable, inputPortIndex, .event⟩
  else if port = outputPortIndex ∧ component.output.bPopulated ∧
      .outputEnablePending ∈ component.mFlags then
    (component.clearFlag .outputEnablePending).postEvent ⟨commandPortEnable, outputPortIndex, .event⟩
  else component

def allocateBuffer (port index : Nat) : OmxVdec :=
  if component.mState = .invalid then component
  else if port = inputPortIndex then
    { component with input := { component.input with
        memPtr := true, bmCount := insert index component.input.bmCount } }.bufferAdded port
  else if port = outputPortIndex then
    { component with output := { component.output with
        memPtr := true, bmCount := insert index component.output.bmCount } }.bufferAdded port
  else component

def freeInput (index : Nat) : OmxVdec :=
  let component := if index < component.input.actualcount then
      let input := { component.input with
        bmCount := component.input.bmCount.erase index, bPopulated := false }
      { component with input := { input with memPtr := input.memPtr && !input.released } }
    else component
  if .inputDisablePending ∈ component.mFlags ∧ component.releaseInputDone then
    (component.clearFlag .inputDisablePending).postEvent ⟨commandPortDisable, inputPortIndex, .event⟩
  else component

def freeOutput (index : Nat) : OmxVdec :=
  let component := if index < component.output.actualcount then
      let output := { component.output with
        bmCount := component.output.bmCount.erase index, bPopulated := false }
      let (component, done) := { component with output := output }.releaseOutputDone
      { component with output := { component.output with memPtr := output.memPtr && !done } }
    else component
  if .outputDisablePending ∈ component.mFlags then
    let (component, done) := component.releaseOutputDone
    if done then
      (component.clearFlag .outputDisablePending).postEvent
        ⟨commandPortDisable, outputPortIndex, .event⟩
    else component
  else component

def freeBuffer (port index : Nat) : OmxVdec :=
  let allowed := (component.mState = .idle ∧ .loadingPending ∈ component.mFlags) ∨
    (!component.input.bEnabled ∧ port = inputPortIndex) ∨
    (!component.output.bEnabled ∧ port = outputPortIndex)
  let unpopulated := component.postEvent ⟨eventError, ErrorType.portUnpopulated.toParam, .event⟩
  if ¬allowed ∧ (component.mState = .executing ∨ component.mState = .pause) then unpopulated
  else
    let component := if allowed ∨ component.mState = .invalid then component else unpopulated
    let inRange := (port = inputPortIndex ∧ index < component.input.actualcount) ∨
      (port = outputPortIndex ∧ index < component.output.actualcount)
    let component := if port = inputPortIndex then component.freeInput index
      else if port = outputPortIndex then component.freeOutput index else component
    if inRange ∧ .loadingPending ∈ component.mFlags then
      let (component, done) := component.releaseDone
      if done then
        (component.clearFlag .loadingPending).postEvent ⟨commandStateSet, stateLoaded, .event⟩
      else component
    else component

end OmxVdec

/-! ### Runs -/

inductive Action where
  | sendCommand (cmd param1 : Nat)
  | processEvent (environment : Environment)
  | driverMessage (message : DriverMessage) (status : Nat)
  | allocateBuffer (port index : Nat)
  | freeBuffer (port index : Nat)
  /-- `set_parameter` sets the buffer counts. -/
  | setActualcount (input output : Nat)

def OmxVdec.step (component : OmxVdec) : Action → OmxVdec
  | .sendCommand cmd param1 => component.sendCommand cmd param1
  | .processEvent environment => component.processEvent environment
  | .driverMessage message status => component.postEvent (message.toEvent status)
  | .allocateBuffer port index => component.allocateBuffer port index
  | .freeBuffer port index => component.freeBuffer port index
  | .setActualcount input output =>
    { component with
      input := { component.input with actualcount := input }
      output := { component.output with actualcount := output } }

def OmxVdec.init (inputCount outputCount : Nat) : OmxVdec where
  mState := .loaded
  mFlags := ∅
  input := ⟨true, false, false, ∅, inputCount, false⟩
  output := ⟨true, false, false, ∅, outputCount, false⟩
  inReconfig := false
  mErrorPropogated := false
  mCmdQ := []
  notified := []

structure CommandCall where
  component : OmxVdec
  ioctl : Ioctl → Bool
  cmd : Nat
  param1 : Nat

def CommandCall.posts (call : CommandCall) : List OmxEvent :=
  call.component.commandPosts call.ioctl call.param1 call.cmd

def OmxVdec.commandCall (component : OmxVdec) : Action → Option CommandCall
  | .processEvent environment =>
    match component.mCmdQ with
    | ⟨cmd, param1, .command⟩ :: rest =>
      some ⟨{ component with mCmdQ := rest }, environment.ioctl, cmd, param1⟩
    | _ => none
  | _ => none

def OmxVdec.commandCalls (component : OmxVdec) : List Action → List CommandCall
  | [] => []
  | action :: actions =>
    (component.commandCall action).toList ++ (component.step action).commandCalls actions

end Nozomi
