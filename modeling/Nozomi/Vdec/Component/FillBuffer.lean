import Mathlib.Data.Multiset.AddSub
import Nozomi.Vdec.Component.Queues

/-!
# Output buffers of the decoder component

The way of an output buffer: the client posts it, `fill_this_buffer_proxy` passes it to the driver, the
driver gives it back by a message, and `fill_buffer_done` returns it to the client. The header of a buffer
is meant by its place in `m_out_mem_ptr` or `m_out_mem_ptr_client`, counted from 1; 0 is the null pointer.
Time stamps and extra data are left out, and so is what the input side does with the messages of
`m_etb_q`.
-/

namespace Nozomi

structure OutputFlags where
  eos : Bool
  extradata : Bool
  eosSeq : Bool
  dataCorrupt : Bool
  deriving DecidableEq, Repr

/-- `struct vdec_output_frameinfo` behind `pOutputPortPrivate`: its place in `ptr_respbuffer`, and is its
`client_data` set. -/
structure RespBuffer where
  index : Nat
  clientData : Bool
  deriving DecidableEq, Repr

/-- `OMX_BUFFERHEADERTYPE`, for the headers of `m_out_mem_ptr`. -/
structure OutputHeader where
  nAllocLen : Nat
  nFilledLen : Nat
  nFlags : OutputFlags
  pOutputPortPrivate : Option RespBuffer
  deriving DecidableEq, Repr

structure FrameSize where
  left : Nat
  top : Nat
  right : Nat
  bottom : Nat
  deriving DecidableEq, Repr

/-- `msgdata.output_frame` of a message of the driver. -/
structure OutputFrame where
  clientData : Nat
  len : Nat
  flags : OutputFlags
  framesize : FrameSize
  deriving DecidableEq, Repr

/-- The members of `omx_vdec` that the output buffers are about, with the buffers that were passed to the
driver, those that `fill_buffer_done` has processed and those that went back to the client. -/
structure OutputSide where
  queues : MessageQueues
  output : PortState
  /-- `enabled` of `client_buffers`: frames are converted before the client gets them. -/
  colorConvert : Bool
  /-- Is `m_cb.FillBufferDone` set. -/
  hasFillBufferDone : Bool
  headers : Nat → OutputHeader
  rectangle : FrameSize
  pendingOutputBuffers : Int
  passed : Multiset Nat
  processed : Multiset Nat
  returned : List Nat

namespace OutputSide

variable (component : OutputSide)

def setHeader (header : Nat) (change : OutputHeader → OutputHeader) : OutputSide :=
  { component with
    headers := Function.update component.headers (header - 1) (change (component.headers (header - 1))) }

def postEvent (message : Message) : OutputSide :=
  { component with queues := (component.queues.postEvent message).1 }

def returnBuffer (header : Nat) : OutputSide :=
  { component with returned := component.returned ++ [header] }

def fillThisBuffer (hComp header nOutputPortIndex : Nat) : OutputSide × ErrorType :=
  if component.queues.mState = .invalid then (component, .invalidState)
  else if !component.output.bEnabled then (component, .incorrectStateOperation)
  else if header = 0 ∨ component.output.actualcount ≤ header - 1 then (component, .badParameter)
  else if nOutputPortIndex ≠ outputPortIndex then (component, .badPortIndex)
  else (component.postEvent ⟨hComp, header, .ftb⟩, .none)

def bufHdr (header : Nat) : Nat :=
  if !component.colorConvert then header
  else if header - 1 < component.output.actualcount then header else 0

def fillThisBufferProxy (header : Nat) (ioctl : Bool) : Option (OutputSide × ErrorType) :=
  if header = 0 ∨ component.output.actualcount < header - 1 then some (component, .badParameter)
  else if !component.output.bEnabled ∨ component.output.flushProgress then
    -- With color conversion this is a header of the client, which is not modelled.
    let component := if component.colorConvert then component
      else component.setHeader header fun header => { header with nFilledLen := 0 }
    some (component.returnBuffer header, .none)
  else
    let component := { component with pendingOutputBuffers := component.pendingOutputBuffers + 1 }
    let buffer := component.bufHdr header
    if buffer = 0 then none
    else
      match (component.headers (buffer - 1)).pOutputPortPrivate with
      | some ⟨_, true⟩ =>
        if ioctl then some ({ component with passed := buffer ::ₘ component.passed }, .none)
        else
          let component := component.returnBuffer buffer
          some ({ component with pendingOutputBuffers := component.pendingOutputBuffers - 1 },
            .badParameter)
      | _ =>
        let component := (component.setHeader buffer fun header =>
          { header with nFilledLen := 0 }).returnBuffer buffer
        some ({ component with pendingOutputBuffers := component.pendingOutputBuffers - 1 },
          .badParameter)

def clearFlushed (header : Nat) : OutputSide :=
  if component.output.flushProgress then
    component.setHeader header fun header => { header with
      nFilledLen := 0
      nFlags := { header.nFlags with extradata := false, eosSeq := false, dataCorrupt := false } }
  else component

def countDone (header : Nat) : OutputSide :=
  { component with
    pendingOutputBuffers := component.pendingOutputBuffers - 1
    processed := header ::ₘ component.processed }

def outputEos (header : Nat) : OutputSide :=
  if (component.headers (header - 1)).nFlags.eos ∧ !component.output.flushProgress then
    component.postEvent ⟨0, 0, .control .eosDone⟩
  else component

def fillBufferDone (header : Nat) : OutputSide × ErrorType :=
  if header = 0 ∨ component.output.actualcount ≤ header - 1 then (component, .badParameter)
  else
    let component := ((component.clearFlushed header).countDone header).outputEos header
    if !component.hasFillBufferDone then (component, .badParameter)
    else if component.bufHdr header = 0 then (component, .badParameter)
    else (component.returnBuffer (component.bufHdr header), .none)

def flushMessage (message : Message) : OutputSide :=
  match message.id with
  | .ftb => { component with
      pendingOutputBuffers := component.pendingOutputBuffers + 1 }.returnBuffer message.param2
  | .fbd => (component.fillBufferDone message.param1).1
  | _ => component

def executeOutputFlush : OutputSide :=
  let (queues, messages) := component.queues.executeOutputFlush
  let component := messages.foldl flushMessage { component with queues := queues }
  { component with output := { component.output with flushProgress := false } }

def completeMessage (message : Message) : OutputSide :=
  match message.id with
  | .fbd => (component.fillBufferDone message.param1).1
  | _ => component

def completePendingBufferDoneCbs : OutputSide :=
  let (queues, messages) := component.queues.completePending
  messages.foldl completeMessage { component with queues := queues }

def copyFrame (frame : OutputFrame) : OutputSide :=
  if frame.len ≤ (component.headers (frame.clientData - 1)).nAllocLen then
    let component := component.setHeader frame.clientData fun header =>
      { header with nFilledLen := frame.len, nFlags := frame.flags }
    if frame.len ≠ 0 ∧ component.rectangle ≠ frame.framesize then
      { component with rectangle := frame.framesize }.postEvent
        ⟨outputPortIndex, indexConfigCommonOutputCrop, .control .portReconfig⟩
    else component
  else component.setHeader frame.clientData fun header => { header with nFilledLen := 0 }

def outputBufferDone (frame : OutputFrame) (status : Nat) : OutputSide :=
  if frame.clientData ≠ 0 ∧ (frame.clientData - 1 < component.output.actualcount) ∧
      (component.headers (frame.clientData - 1)).pOutputPortPrivate.any
        (fun resp => resp.index < component.output.actualcount) then
    (component.copyFrame frame).postEvent ⟨frame.clientData, status, .fbd⟩
  else if frame.flags.eos then component.postEvent ⟨0, status, .control .eosDone⟩
  else component.postEvent ⟨0, status, .control .hardwareError⟩

def handleMessage (message : Message) (ioctl : Bool) : Option OutputSide :=
  match message.id with
  | .ftb => (component.fillThisBufferProxy message.param2 ioctl).map Prod.fst
  | .fbd =>
    if message.param2 ≠ vdecSuccess then some component
    else some (component.fillBufferDone message.param1).1
  | .control .eventOutputFlush =>
    if !component.output.flushProgress then some component else some component.executeOutputFlush
  | .control .pauseDone | .control .stopDone =>
    if message.param2 ≠ vdecSuccess then some component
    else some component.completePendingBufferDoneCbs
  | _ => some component

def processEvent (ioctl : Bool) : Option OutputSide :=
  match component.queues.nextMessage with
  | (_, none) => some component
  | (queues, some message) => { component with queues := queues }.handleMessage message ioctl

end OutputSide

/-- The component and the buffers that the driver has given back. -/
structure OutputSystem where
  component : OutputSide
  givenBack : Multiset Nat

/-- A call of the client, a message of the driver, a round of `process_event_cb`, or what the other
functions of the component do to the members that are read here. -/
inductive OutputAction where
  | fillThisBuffer (hComp header nOutputPortIndex : Nat)
  | outputBufferDone (frame : OutputFrame) (status : Nat)
  | processEvent (ioctl : Bool)
  | postEvent (message : Message)
  | executeOmxFlush
  | setState (state : StateType)
  | setMembers (output : PortState) (colorConvert hasFillBufferDone : Bool)
      (headers : Nat → OutputHeader)

namespace OutputSystem

def init (output : PortState) (headers : Nat → OutputHeader) : OutputSystem where
  component :=
    { queues := ⟨.loaded, .init, .init, .init⟩
      output := output
      colorConvert := false
      hasFillBufferDone := true
      headers := headers
      rectangle := ⟨0, 0, 0, 0⟩
      pendingOutputBuffers := 0
      passed := 0
      processed := 0
      returned := [] }
  givenBack := 0

variable (system : OutputSystem)

def outstanding : Multiset Nat := system.component.passed - system.component.processed

def step : OutputAction → Option OutputSystem
  | .fillThisBuffer hComp header nOutputPortIndex =>
    some { system with component := (system.component.fillThisBuffer hComp header nOutputPortIndex).1 }
  | .outputBufferDone frame status =>
    if frame.clientData ∈ system.component.passed - system.givenBack then
      some ⟨system.component.outputBufferDone frame status, frame.clientData ::ₘ system.givenBack⟩
    else none
  | .processEvent ioctl =>
    (system.component.processEvent ioctl).map fun component => { system with component := component }
  | .postEvent message =>
    if message.id.queueName = .ftb then none
    else some { system with component := system.component.postEvent message }
  | .executeOmxFlush =>
    some { system with component := { system.component with
      output := { system.component.output with flushProgress := true } } }
  | .setState state =>
    some { system with component := { system.component with
      queues := { system.component.queues with mState := state } } }
  | .setMembers output colorConvert hasFillBufferDone headers =>
    some { system with component := { system.component with
      output := { output with flushProgress := system.component.output.flushProgress }
      colorConvert := colorConvert
      hasFillBufferDone := hasFillBufferDone
      headers := headers } }

end OutputSystem

end Nozomi
