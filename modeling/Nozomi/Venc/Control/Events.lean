import Nozomi.Venc.Control.Code

/-!
# Events of the encoder component

One step of the component is a call of the client, a message of the driver or one round of `process_event_cb`.
Only `m_cmd_q` is modelled; a round for one of the buffer queues, or for a buffer that is done, may report an
error and touches nothing else here.
-/

namespace Nozomi.VencControl

/-- The messages of the driver, `VEN_MSG_*`. -/
inductive DriverMessage
  | start | stop | resume | pause | flushInputDone | flushOutputDone | inputBufferDone | outputBufferDone
  | needOutputBuffer
  deriving DecidableEq, Repr

def DriverMessage.generated : DriverMessage → Option GenerateId
  | start => some .startDone
  | stop => some .stopDone
  | resume => some .resumeDone
  | pause => some .pauseDone
  | flushInputDone => some .eventInputFlush
  | flushOutputDone => some .eventOutputFlush
  | outputBufferDone => some .fbd
  | inputBufferDone | needOutputBuffer => none

namespace OmxVideo

variable (video : OmxVideo) (environment : Environment)

def generateEvent (event : OmxEvent) : OmxVideo :=
  if event.param1 = commandStateSet then
    { video with mState := StateType.ofParam event.param2 }.eventHandler .cmdComplete event.param1 event.param2
      event.causes
  else if event.param1 = eventError then video.eventHandler .error event.param2 0 event.causes
  else video.eventHandler .cmdComplete event.param1 event.param2 event.causes

def moveTo (flag : Flag) (state : StateType) (param : Nat) : OmxVideo :=
  { video.clearFlag flag with mState := state }.eventHandler .cmdComplete commandStateSet param
    (video.owners flag)

def flushDone (flag : Flag) (port : Nat) (otherInProgress : Bool) : OmxVideo :=
  if flag ∈ video.mFlags then
    (video.clearFlag flag).eventHandler .cmdComplete commandFlush port (video.owners flag)
  else if .idlePending ∈ video.mFlags ∧ !otherInProgress then video.reportUnless (environment.device .stop)
  else video

def inputFlushDone : OmxVideo :=
  { video with input := { video.input with flushProgress := false } }.flushDone environment .inputFlushPending
    inputPortIndex video.output.flushProgress

def outputFlushDone : OmxVideo :=
  { video with output := { video.output with flushProgress := false } }.flushDone environment
    .outputFlushPending outputPortIndex video.input.flushProgress

def startDone : OmxVideo :=
  if .executePending ∈ video.mFlags then video.moveTo .executePending .executing stateExecuting
  else if .pausePending ∈ video.mFlags then video.reportUnless (environment.device .pause)
  else if .loadedStartPending ∈ video.mFlags then
    (video.reportUnless (environment.device .loadedStartDone)).clearFlag .loadedStartPending
  else video

def pauseDone : OmxVideo :=
  if .pausePending ∈ video.mFlags then
    (video.reportUnless environment.bufferDones).moveTo .pausePending .pause statePause
  else video

def resumeDone : OmxVideo :=
  if .executePending ∈ video.mFlags then video.moveTo .executePending .executing stateExecuting else video

def stopDone : OmxVideo :=
  let video := video.reportUnless environment.bufferDones
  if .idlePending ∈ video.mFlags then video.moveTo .idlePending .idle stateIdle
  else if .loadedStopPending ∈ video.mFlags then
    (video.reportUnless (environment.device .loadedStopDone)).clearFlag .loadedStopPending
  else video

def handleEvent (event : OmxEvent) : OmxVideo :=
  match event.id with
  | .event => video.generateEvent event
  | .command => video.sendCommandProxy environment.device event.param2 event.causes event.param1
  | .eventInputFlush => video.inputFlushDone environment
  | .eventOutputFlush => video.outputFlushDone environment
  | .startDone => video.startDone environment
  | .pauseDone => video.pauseDone environment
  | .resumeDone => video.resumeDone
  | .stopDone => video.stopDone environment
  | .hardwareError => video.omxReportError
  | .fbd => video.reportUnless environment.bufferRound

def processEvent : OmxVideo :=
  match video.mCmdQ with
  | [] => video.reportUnless environment.bufferRound
  | event :: rest => { video with mCmdQ := rest }.handleEvent environment event

/-! ### Calls of the client -/

def acceptsCommand (cmd param1 : Nat) (cmdData : Bool) : Bool :=
  if cmd = commandFlush ∨ cmd = commandPortDisable ∨ cmd = commandPortEnable then
    param1 = inputPortIndex ∨ param1 = outputPortIndex ∨ param1 = allPorts
  else if cmd = commandMarkBuffer then param1 = inputPortIndex ∧ cmdData
  else true

def sendCommand (cmd param1 : Nat) (cmdData : Bool) : OmxVideo :=
  if video.mState = .invalid then video
  else if acceptsCommand cmd param1 cmdData then
    { video with sent := video.sent ++ [(cmd, param1)] }.postEvent ⟨cmd, param1, .command, {video.sent.length}⟩
  else video

def completeFlag (flag : Flag) (param1 param2 : Nat) : OmxVideo :=
  if flag ∈ video.mFlags then (video.clearFlag flag).postEvent ⟨param1, param2, .event, video.owners flag⟩
  else video

def bufferAdded (port : Nat) : OmxVideo :=
  let (video, done) := video.allocateDone
  let video := if done then video.completeFlag .idlePending commandStateSet stateIdle else video
  if port = inputPortIndex ∧ video.input.bPopulated then
    video.completeFlag .inputEnablePending commandPortEnable inputPortIndex
  else if port = outputPortIndex ∧ video.output.bPopulated then
    video.completeFlag .outputEnablePending commandPortEnable outputPortIndex
  else video

def useBuffer (port index : Nat) : OmxVideo :=
  if video.mState = .invalid then video
  else if port = inputPortIndex then
    { video with input := { video.input with
        memPtr := true, bmCount := insert index video.input.bmCount } }.bufferAdded port
  else if port = outputPortIndex then
    { video with output := { video.output with
        memPtr := true, bmCount := insert index video.output.bmCount } }.bufferAdded port
  else video

def freeInput (index : Nat) : OmxVideo :=
  let video := if index < video.input.actualcount then
      let input := { video.input with bmCount := video.input.bmCount.erase index, bPopulated := false }
      { video with input :=
          { input with memPtr := input.memPtr && !(input.released && !video.metaModeEnable) } }
    else video
  if video.input.released then
    video.completeFlag .inputDisablePending commandPortDisable inputPortIndex
  else video

def freeOutput (index : Nat) : OmxVideo :=
  let video := if index < video.output.actualcount then
      let output := { video.output with bmCount := video.output.bmCount.erase index, bPopulated := false }
      { video with output := { output with memPtr := output.memPtr && !output.released } }
    else video
  if video.output.released then
    video.completeFlag .outputDisablePending commandPortDisable outputPortIndex
  else video

def bufferFreed : OmxVideo :=
  if .loadingPending ∈ video.mFlags ∧ video.releaseDone then
    video.completeFlag .loadingPending commandStateSet stateLoaded
  else video

def releaseBuffer (port index : Nat) : OmxVideo :=
  let inRange := (port = inputPortIndex ∧ index < video.input.actualcount) ∨
    (port = outputPortIndex ∧ index < video.output.actualcount)
  let freed := if port = inputPortIndex then video.freeInput index
    else if port = outputPortIndex then video.freeOutput index else video
  if inRange then freed.bufferFreed else freed

def freeBuffer (port index : Nat) : OmxVideo :=
  let unpopulated := video.postEvent ⟨eventError, ErrorType.portUnpopulated.toParam, .event, ∅⟩
  if (video.mState = .idle ∧ .loadingPending ∈ video.mFlags) ∨
      (!video.input.bEnabled ∧ port = inputPortIndex) ∨ (!video.output.bEnabled ∧ port = outputPortIndex) then
    video.releaseBuffer port index
  else if video.mState = .executing ∨ video.mState = .pause then unpopulated
  else unpopulated.releaseBuffer port index

def getSyntaxHdr : OmxVideo :=
  if video.mState = .invalid then video
  else
    let video := video.setFlag .loadedStartPending ∅
    if environment.device .loadedStart then
      let video := video.setFlag .loadedStopPending ∅
      if environment.device .loadedStop then video else video.clearFlag .loadedStopPending
    else video.clearFlag .loadedStartPending

def asyncMessageProcess (message : DriverMessage) (status : Nat) (success : Bool) : OmxVideo :=
  let video := video.reportUnless success
  match message.generated with
  | some id => video.postEvent ⟨0, status, id, ∅⟩
  | none => video

end OmxVideo

/-! ### Runs -/

inductive Action
  | sendCommand (cmd param1 : Nat) (cmdData : Bool)
  | processEvent (environment : Environment)
  | driverMessage (message : DriverMessage) (status : Nat) (success : Bool)
  | useBuffer (port index : Nat)
  | freeBuffer (port index : Nat)
  | getSyntaxHdr (environment : Environment)
  /-- What else changes the buffers of a port: `set_parameter` for its count, an allocation that fails. -/
  | setBuffers (input output : PortState)

namespace OmxVideo

def step (video : OmxVideo) : Action → OmxVideo
  | .sendCommand cmd param1 cmdData => video.sendCommand cmd param1 cmdData
  | .processEvent environment => video.processEvent environment
  | .driverMessage message status success => video.asyncMessageProcess message status success
  | .useBuffer port index => video.useBuffer port index
  | .freeBuffer port index => video.freeBuffer port index
  | .getSyntaxHdr environment => video.getSyntaxHdr environment
  | .setBuffers input output => { video with input := input, output := output }

def init (inputCount outputCount : Nat) : OmxVideo where
  mState := .loaded
  mFlags := ∅
  input := ⟨true, false, false, ∅, inputCount, false⟩
  output := ⟨true, false, false, ∅, outputCount, false⟩
  metaModeEnable := false
  mErrorPropogated := false
  mCmdQ := []
  notified := []
  sent := []
  owners := fun _ => ∅

def run (video : OmxVideo) (actions : List Action) : OmxVideo := actions.foldl step video

end OmxVideo

end Nozomi.VencControl
