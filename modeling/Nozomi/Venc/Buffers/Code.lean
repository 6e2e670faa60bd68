import Nozomi.Base.EarlyExit
import Nozomi.Vdec.Component.Code

/-!
# Buffers of the encoder component

The buffer side of `omx_video_base.cpp`: the headers on their way from the client through the queues, the two
frames of the opaque input path and the driver, and back. A call that needs `m_lock` while the message thread
holds it does not come back. What the driver, the colour converter and the command side do is an input of
each step.
-/

namespace Nozomi.Venc

/-! ### Headers -/

/-- `encoder_media_buffer_type::buffer_type`. -/
inductive MetadataBufferType
  | cameraSource | grallocSource | other (code : Nat)
  deriving DecidableEq, Repr

inductive PixelFormat
  | rgba8888 | nv12Encodeable | other (code : Nat)
  deriving DecidableEq, Repr

/-- `meta_handle`, as a `native_handle_t` and as a `private_handle_t`. -/
structure MetaHandle where
  numFds : Int
  numInts : Int
  format : PixelFormat
  deriving DecidableEq, Repr

structure MediaBuffer where
  bufferType : MetadataBufferType
  metaHandle : Option MetaHandle
  deriving DecidableEq, Repr

/-- `OMX_BUFFERHEADERTYPE`: whether `nSize` is its size, the port index of its port, and `pBuffer` as the media
buffer of a meta buffer. -/
structure BufferHeader where
  sizeMatches : Bool
  nVersion : Nat
  nPortIndex : Nat
  nFilledLen : Nat
  nOffset : Nat
  nTimeStamp : Int
  nFlags : BitVec 32
  pBuffer : Option MediaBuffer
  deriving DecidableEq, Repr

/-- A pointer to a header of an input buffer: into the array `m_inp_mem_ptr` or into `meta_buffer_hdr`. -/
inductive InputHeader
  | inpMem (index : Nat)
  | metaBuffer (index : Nat)
  deriving DecidableEq, Repr

def omxSpecVersion : Nat := 0x101
def bufferflagEos : BitVec 32 := 1
def maxNumInputBuffers : Nat := 32

/-- The values of `OMX_ERRORTYPE` that the encoder uses. -/
inductive ErrorType
  | none | badParameter | hardware | invalidState | versionMismatch | badPortIndex
  | incorrectStateOperation
  deriving DecidableEq, Repr

/-! ### Queues -/

inductive EtbEntry
  | etb (buffer : InputHeader)
  | etbOpq (buffer : InputHeader)
  | ebd (buffer : InputHeader)
  deriving DecidableEq, Repr

namespace EtbEntry

def header : EtbEntry → InputHeader
  | etb buffer | etbOpq buffer | ebd buffer => buffer

def ebdHeader : EtbEntry → Option InputHeader
  | ebd buffer => some buffer
  | etb _ | etbOpq _ => none

end EtbEntry

inductive InputMsgId
  | generateEtb | generateEtbOpq
  deriving DecidableEq, Repr

def InputMsgId.entry : InputMsgId → InputHeader → EtbEntry
  | generateEtb => .etb
  | generateEtbOpq => .etbOpq

inductive FlushType
  | input | output | all
  deriving DecidableEq, Repr

/-- An event of `m_cmd_q` that comes from outside of the buffer side: a command or another event, with the
state, the ports and the flush that it leads to, a flush done message, or a message behind which
`complete_pending_buffer_done_cbs` runs. -/
inductive CmdEvent
  | command (state : StateType) (inputEnabled outputEnabled : Bool) (flush : Option FlushType)
  | eventInputFlush
  | eventOutputFlush
  | buffersDone
  deriving DecidableEq, Repr

/-- An entry of `m_cmd_q`. `post_event` has no case for a fill buffer done, so it comes to this queue. -/
inductive CmdEntry
  | event (event : CmdEvent)
  | fbd (buffer : Nat)
  deriving DecidableEq, Repr

def CmdEntry.fbdBuffer : CmdEntry → Option Nat
  | fbd buffer => some buffer
  | event _ => none

def insertEntry {α : Type} (queue : List α) (entry : α) : List α :=
  if queue.length < cmdqSize then queue ++ [entry] else queue

/-! ### What the driver and the converter do -/

/-- What `dev_use_buf` and `dev_empty_buf` return for one call of `empty_this_buffer_proxy`. -/
structure EmptyOutcome where
  useBuf : Bool
  emptyBuf : Bool
  deriving DecidableEq, Repr

/-- The same behind the `dev_use_buf` of `queue_meta_buffer`. -/
structure QueueOutcome where
  useBuf : Bool
  empty : EmptyOutcome
  deriving DecidableEq, Repr

/-- What `mmap`, `c2d_conv.convert`, `c2d_conv.get_buffer_size` and `dev_use_buf` return for one call of
`convert_queue_buffer`. -/
structure ConversionOutcome where
  mmap : Bool
  convert : Bool
  bufferSize : Option Nat
  useBuf : Bool
  empty : EmptyOutcome
  deriving DecidableEq, Repr

/-- What the calls of one step return, in order. A call that is not listed succeeds. -/
structure DeviceScript where
  etb : EmptyOutcome
  queued : List QueueOutcome
  conversions : List ConversionOutcome
  fillBuf : Bool
  c2dOpen : Bool
  deriving DecidableEq, Repr

def DeviceScript.succeeding : DeviceScript := ⟨⟨true, true⟩, [], [], true, true⟩

/-! ### The component -/

/-- `class omx_video`, its buffer side. The last fields are not of the source: the headers that the driver
holds, the input buffers that were accepted from the client, those it got back, and the buffers that passed
the index check of a proxy and were not processed by `empty_buffer_done` or `fill_buffer_done` since. -/
structure OmxVideo where
  mState : StateType
  /-- `m_sInPortDef.nBufferCountActual` and `nBufferSize` -/
  nBufferCountActual : Nat
  nBufferSize : Nat
  /-- `m_sOutPortDef.nBufferCountActual` -/
  outBufferCountActual : Nat
  inputEnabled : Bool
  outputEnabled : Bool
  metaModeEnable : Bool
  mUseProxyColorFormat : Bool
  mInputMsgId : InputMsgId
  mEtbQ : List EtbEntry
  mFtbQ : List Nat
  mCmdQ : List CmdEntry
  header : InputHeader → BufferHeader
  psourceFrame : Option InputHeader
  pdestFrame : Option InputHeader
  mOpqMetaQ : List InputHeader
  mOpqPmemQ : List InputHeader
  c2dOpened : Bool
  c2dSrcFormat : PixelFormat
  inputFlushProgress : Bool
  outputFlushProgress : Bool
  pendingInputBuffers : Int
  pendingOutputBuffers : Int
  mLock : Bool
  mErrorPropogated : Bool
  device : DeviceScript
  driverInput : List InputHeader
  driverOutput : List Nat
  submitted : List InputHeader
  emptied : List InputHeader
  filled : List Nat
  countedInput : List InputHeader
  countedOutput : List Nat

/-- Why a step does not come back: it waits for `m_lock`, it reads through a null pointer, or a loop goes on
beyond its bound, which does not happen. -/
inductive VencExit
  | blocked
  | nullHandle
  | unfinished
  deriving DecidableEq, Repr

abbrev VencM := EStateM VencExit OmxVideo

def notBelow (count : Nat) (index : Option Nat) : Bool := index.all (count ≤ ·)

def above (count : Nat) (index : Option Nat) : Bool := index.all (count < ·)

namespace OmxVideo

variable (video : OmxVideo)

def bufIndex : InputHeader → Option Nat
  | .inpMem index => some index
  | .metaBuffer _ => none

def bufIndexMeta : InputHeader → Option Nat
  | .inpMem index => if video.metaModeEnable && !video.mUseProxyColorFormat then some index else none
  | .metaBuffer index => some index

def passesProxy (buffer : InputHeader) : Bool :=
  !(notBelow video.nBufferCountActual (bufIndex buffer) &&
    notBelow video.nBufferCountActual (video.bufIndexMeta buffer))

def passesDone (buffer : InputHeader) : Bool :=
  !(above video.nBufferCountActual (bufIndex buffer) &&
    above video.nBufferCountActual (video.bufIndexMeta buffer))

def popSource : OmxVideo :=
  match video.psourceFrame, video.mOpqMetaQ with
  | none, buffer :: rest => { video with psourceFrame := some buffer, mOpqMetaQ := rest }
  | _, _ => video

def popDest : OmxVideo :=
  match video.pdestFrame, video.mOpqPmemQ with
  | none, buffer :: rest => { video with pdestFrame := some buffer, mOpqPmemQ := rest }
  | _, _ => video

/-- The component before the first buffer: nothing is queued, counted or with the driver. -/
structure Fresh : Prop where
  mEtbQ : video.mEtbQ = []
  mFtbQ : video.mFtbQ = []
  mCmdQ : video.mCmdQ = []
  psourceFrame : video.psourceFrame = none
  pdestFrame : video.pdestFrame = none
  mOpqMetaQ : video.mOpqMetaQ = []
  pendingInputBuffers : video.pendingInputBuffers = 0
  pendingOutputBuffers : video.pendingOutputBuffers = 0
  mLock : video.mLock = false
  device : video.device = .succeeding
  driverInput : video.driverInput = []
  driverOutput : video.driverOutput = []
  submitted : video.submitted = []
  emptied : video.emptied = []
  countedInput : video.countedInput = []
  countedOutput : video.countedOutput = []

def start (count nBufferSize outCount : Nat) (useProxyColorFormat : Bool) : OmxVideo where
  mState := .executing
  nBufferCountActual := count
  nBufferSize := nBufferSize
  outBufferCountActual := outCount
  inputEnabled := true
  outputEnabled := true
  metaModeEnable := useProxyColorFormat
  mUseProxyColorFormat := useProxyColorFormat
  mInputMsgId := if useProxyColorFormat then .generateEtbOpq else .generateEtb
  mEtbQ := []
  mFtbQ := []
  mCmdQ := []
  header := fun _ => ⟨true, omxSpecVersion, inputPortIndex, 0, 0, 0, 0, none⟩
  psourceFrame := none
  pdestFrame := none
  mOpqMetaQ := []
  mOpqPmemQ := if useProxyColorFormat then (List.range count).map .inpMem else []
  c2dOpened := false
  c2dSrcFormat := .nv12Encodeable
  inputFlushProgress := false
  outputFlushProgress := false
  pendingInputBuffers := 0
  pendingOutputBuffers := 0
  mLock := false
  mErrorPropogated := false
  device := .succeeding
  driverInput := []
  driverOutput := []
  submitted := []
  emptied := []
  filled := []
  countedInput := []
  countedOutput := []

theorem start_fresh (count nBufferSize outCount : Nat) (useProxyColorFormat : Bool) :
    (start count nBufferSize outCount useProxyColorFormat).Fresh := by
  constructor <;> rfl

end OmxVideo

open OmxVideo

/-! ### Calls of others -/

def callEmptyBufferDone (buffer : InputHeader) : VencM Unit :=
  modify fun video => { video with emptied := video.emptied ++ [buffer] }

def callFillBufferDone (buffer : Nat) : VencM Unit :=
  modify fun video => { video with filled := video.filled ++ [buffer] }

def report (ret : ErrorType) : VencM Unit :=
  modify fun video => { video with mErrorPropogated := video.mErrorPropogated || ret != .none }

def postEtb (entry : EtbEntry) : VencM Unit := do
  let video ← get
  if video.mLock then throw .blocked
  else set { video with mEtbQ := insertEntry video.mEtbQ entry }

def postFtb (buffer : Nat) : VencM Unit := do
  let video ← get
  if video.mLock then throw .blocked
  else set { video with mFtbQ := insertEntry video.mFtbQ buffer }

def postCmd (entry : CmdEntry) : VencM Unit := do
  let video ← get
  if video.mLock then throw .blocked
  else set { video with mCmdQ := insertEntry video.mCmdQ entry }

/-! ### The input port -/

def emptyThisBuffer (buffer : InputHeader) (header : BufferHeader) : VencM ErrorType := do
  modify fun video => { video with header := Function.update video.header buffer header }
  let video ← get
  if video.mState = .invalid then return .invalidState
  else if !header.sizeMatches then return .badParameter
  else if header.nVersion ≠ omxSpecVersion then return .versionMismatch
  else if header.nPortIndex ≠ inputPortIndex then return .badPortIndex
  else if !video.inputEnabled then return .incorrectStateOperation
  else if above video.nBufferCountActual
      (if video.mUseProxyColorFormat then video.bufIndexMeta buffer else bufIndex buffer) then
    return .badParameter
  else do
    postEtb (video.mInputMsgId.entry buffer)
    modify fun video => { video with submitted := video.submitted ++ [buffer] }
    return .none

def checkMedia (buffer : InputHeader) : VencM Bool := do
  let video ← get
  match (video.header buffer).pBuffer with
  | none => return false
  | some media =>
    match media.bufferType, media.metaHandle with
    | .cameraSource, none => return false
    | .cameraSource, some handle => return !(handle.numFds != 1 && handle.numInts != 2)
    | .grallocSource, none => throw .nullHandle
    | .grallocSource, some handle => return handle.format == .nv12Encodeable
    | .other _, _ => return false

def useMedia (buffer : InputHeader) (useBuf : Bool) : VencM Bool := do
  let video ← get
  if video.metaModeEnable && !video.mUseProxyColorFormat then do
    let valid ← checkMedia buffer
    return valid && useBuf
  else return true

def emptyThisBufferProxy (buffer : InputHeader) (outcome : EmptyOutcome) : VencM ErrorType := do
  let video ← get
  if !video.passesProxy buffer then return .badParameter
  else do
    modify fun video => { video with
      pendingInputBuffers := video.pendingInputBuffers + 1
      countedInput := buffer :: video.countedInput }
    if video.inputFlushProgress then do
      postEtb (.ebd buffer)
      return .none
    else do
      let used ← useMedia buffer outcome.useBuf
      if !used then do
        postEtb (.ebd buffer)
        return .badParameter
      else if outcome.emptyBuf then do
        modify fun video => { video with driverInput := video.driverInput ++ [buffer] }
        return .none
      else do
        postEtb (.ebd buffer)
        modify fun video => { video with pendingInputBuffers := video.pendingInputBuffers - 1 }
        return .badParameter

/-! ### The opaque path -/

def nextQueued : VencM QueueOutcome := modifyGet fun video =>
  match video.device.queued with
  | outcome :: rest => (outcome, { video with device := { video.device with queued := rest } })
  | [] => (⟨true, true, true⟩, video)

def nextConversion : VencM ConversionOutcome := modifyGet fun video =>
  match video.device.conversions with
  | outcome :: rest => (outcome, { video with device := { video.device with conversions := rest } })
  | [] => (⟨true, true, some video.nBufferSize, true, true, true⟩, video)

def queueSource (source : InputHeader) : VencM ErrorType := do
  let outcome ← nextQueued
  let video ← get
  if 0 < (video.header source).nFilledLen && !outcome.useBuf then do
    postEtb (.ebd source)
    return .badParameter
  else emptyThisBufferProxy source outcome.empty

def queueMetaBuffer (source : InputHeader) : VencM ErrorType := do
  let ret ← queueSource source
  if ret = .none then do
    modify fun video => { video with psourceFrame := none }.popSource
    return ret
  else do
    modify fun video => { video with psourceFrame := none }
    return ret

def copyHeader (source dest : InputHeader) (length : Nat) (keepOffset : Bool) : VencM Unit :=
  modify fun video => { video with
    header := Function.update video.header dest { video.header dest with
      nFilledLen := length
      nOffset := if keepOffset then (video.header dest).nOffset else 0
      nTimeStamp := (video.header source).nTimeStamp
      nFlags := (video.header source).nFlags } }

def sizeFits (nBufferSize size : Nat) : Bool := 0 < size && size ≤ nBufferSize

def convertFrame (source dest : InputHeader) (outcome : ConversionOutcome) : VencM ErrorType := do
  let video ← get
  if (video.header source).nFilledLen = 0 then do
    copyHeader source dest 0 ((video.header source).nFlags &&& bufferflagEos != 0)
    return .none
  else if !outcome.mmap then return .badParameter
  else if !outcome.convert then return .badParameter
  else
    match outcome.bufferSize with
    | none => return .badParameter
    | some size =>
      if sizeFits video.nBufferSize size then do
        copyHeader source dest size false
        return .none
      else do
        copyHeader source dest 0 false
        return .badParameter

def queueConverted (source dest : InputHeader) : VencM ErrorType := do
  let outcome ← nextConversion
  let ret ← convertFrame source dest outcome
  if ret ≠ .none then return ret
  else if !outcome.useBuf then do
    postEtb (.ebd dest)
    return .badParameter
  else emptyThisBufferProxy dest outcome.empty

def convertQueueBuffer (source dest : InputHeader) : VencM ErrorType := do
  let ret ← queueConverted source dest
  if ret = .none then do
    callEmptyBufferDone source
    modify fun video => { video with psourceFrame := none, pdestFrame := none }.popSource.popDest
    return ret
  else do
    modify fun video => { video with psourceFrame := none }
    return ret

/-- How `push_input_buffer` passes a frame on: as it is, converted or not at all. -/
inductive Route
  | queue | convert | reject
  deriving DecidableEq, Repr

def routeOf (useProxyColorFormat : Bool) (header : BufferHeader) : Option Route :=
  match header.pBuffer with
  | none => none
  | some media =>
    if media.bufferType = .cameraSource then media.metaHandle.map fun _ => .queue
    else if header.nFlags &&& bufferflagEos != 0 && useProxyColorFormat then some .convert
    else media.metaHandle.map fun handle =>
      match handle.format with
      | .rgba8888 => .convert
      | .nv12Encodeable => .queue
      | .other _ => .reject

def pushFrame (source dest : InputHeader) : VencM ErrorType := do
  let video ← get
  if notBelow video.nBufferCountActual (bufIndex dest) then return .badParameter
  else
    match routeOf video.mUseProxyColorFormat (video.header source) with
    | none => throw .nullHandle
    | some .queue => queueMetaBuffer source
    | some .convert => convertQueueBuffer source dest
    | some .reject => return .badParameter

def pushFrames : Nat → VencM ErrorType
  | 0 => throw .unfinished
  | fuel + 1 => do
    let video ← get
    match video.psourceFrame, video.pdestFrame with
    | some source, some dest => do
      let ret ← pushFrame source dest
      if ret = .none then pushFrames fuel else return ret
    | _, _ => return .none

def pushInputBuffer : VencM ErrorType := do
  modify fun video => video.popSource.popDest
  let video ← get
  pushFrames (video.mOpqMetaQ.length + 2)

def openConverter (format : PixelFormat) : VencM Bool := do
  modify fun video =>
    if video.c2dOpened && format ≠ video.c2dSrcFormat then { video with c2dOpened := false } else video
  let video ← get
  if video.c2dOpened then return false
  else
    match format with
    | .rgba8888 =>
      if video.device.c2dOpen then do
        modify fun video => { video with c2dOpened := true, c2dSrcFormat := .rgba8888 }
        return false
      else return true
    | .nv12Encodeable => return false
    | .other _ => return true

def mediaFormat (header : BufferHeader) : Option PixelFormat :=
  header.pBuffer.bind fun media => media.metaHandle.map MetaHandle.format

def queueOpaque (buffer : InputHeader) : VencM ErrorType := do
  let video ← get
  if video.inputFlushProgress then do
    callEmptyBufferDone buffer
    return .none
  else if video.psourceFrame.isNone then do
    modify fun video => { video with psourceFrame := some buffer }
    pushInputBuffer
  else if video.mOpqMetaQ.length < cmdqSize then do
    modify fun video => { video with mOpqMetaQ := video.mOpqMetaQ ++ [buffer] }
    return .none
  else do
    callEmptyBufferDone buffer
    return .badParameter

def emptyThisBufferOpaque (buffer : InputHeader) : VencM ErrorType := do
  let video ← get
  if notBelow video.nBufferCountActual (video.bufIndexMeta buffer) then return .badParameter
  else if (video.header buffer).nFilledLen = 0 then queueOpaque buffer
  else
    match mediaFormat (video.header buffer) with
    | none => throw .nullHandle
    | some format => do
      let failed ← openConverter format
      if failed then do
        callEmptyBufferDone buffer
        return .badParameter
      else queueOpaque buffer

def returnInput (buffer : InputHeader) : VencM ErrorType := do
  let video ← get
  if video.mUseProxyColorFormat && !notBelow video.nBufferCountActual (bufIndex buffer) then
    if video.pdestFrame.isNone then do
      modify fun video => { video with pdestFrame := some buffer }
      pushInputBuffer
    else if video.mOpqPmemQ.length < cmdqSize then do
      modify fun video => { video with mOpqPmemQ := video.mOpqPmemQ ++ [buffer] }
      return .none
    else do
      callEmptyBufferDone buffer
      return .badParameter
  else do
    callEmptyBufferDone buffer
    return .none

def emptyBufferDone (buffer : InputHeader) : VencM ErrorType := do
  let video ← get
  if !video.passesDone buffer then return .badParameter
  else do
    modify fun video => { video with pendingInputBuffers := video.pendingInputBuffers - 1 }
    returnInput buffer

def processEbd (buffer : InputHeader) : VencM ErrorType := do
  modify fun video =>
    if video.passesDone buffer then { video with countedInput := video.countedInput.erase buffer } else video
  emptyBufferDone buffer

/-! ### The output port -/

def fillThisBuffer (buffer : Nat) (header : BufferHeader) : VencM ErrorType := do
  let video ← get
  if video.mState = .invalid then return .invalidState
  else if !header.sizeMatches then return .badParameter
  else if header.nVersion ≠ omxSpecVersion then return .versionMismatch
  else if header.nPortIndex ≠ outputPortIndex then return .badPortIndex
  else if !video.outputEnabled then return .incorrectStateOperation
  else do
    postFtb buffer
    return .none

def fillThisBufferProxy (buffer : Nat) : VencM ErrorType := do
  let video ← get
  if video.outBufferCountActual ≤ buffer then return .badParameter
  else do
    modify fun video => { video with
      pendingOutputBuffers := video.pendingOutputBuffers + 1
      countedOutput := buffer :: video.countedOutput }
    if !video.outputEnabled || video.outputFlushProgress then do
      postCmd (.fbd buffer)
      return .none
    else if video.device.fillBuf then do
      modify fun video => { video with driverOutput := video.driverOutput ++ [buffer] }
      return .none
    else do
      postCmd (.fbd buffer)
      modify fun video => { video with pendingOutputBuffers := video.pendingOutputBuffers - 1 }
      return .badParameter

def fillBufferDone (buffer : Nat) : VencM ErrorType := do
  let video ← get
  if video.outBufferCountActual < buffer then return .badParameter
  else do
    modify fun video => { video with pendingOutputBuffers := video.pendingOutputBuffers - 1 }
    callFillBufferDone buffer
    return .none

def processFbd (buffer : Nat) : VencM ErrorType := do
  modify fun video =>
    if video.outBufferCountActual < buffer then video
    else { video with countedOutput := video.countedOutput.erase buffer }
  fillBufferDone buffer

/-! ### Flushes -/

def flushEtb : EtbEntry → VencM Unit
  | .etb buffer => do
    modify fun video => { video with pendingInputBuffers := video.pendingInputBuffers + 1 }
    let _ ← emptyBufferDone buffer
  | .ebd buffer => do
    let _ ← processEbd buffer
  | .etbOpq buffer => callEmptyBufferDone buffer

def takeEtb : VencM (List EtbEntry) := modifyGet fun video => (video.mEtbQ, { video with mEtbQ := [] })

def drainEtb : List EtbEntry → VencM Unit
  | [] => pure ()
  | entry :: rest => do
    flushEtb entry
    drainEtb rest

def returnOpaque : VencM Unit := modify fun video =>
  if video.mUseProxyColorFormat then
    { video with
      emptied := video.emptied ++ video.psourceFrame.toList ++ video.mOpqMetaQ
      psourceFrame := none
      mOpqMetaQ := []
      mOpqPmemQ := video.pdestFrame.elim video.mOpqPmemQ (insertEntry video.mOpqPmemQ)
      pdestFrame := none }
  else video

def executeInputFlush : VencM Unit := do
  modify fun video => { video with mLock := true }
  let entries ← takeEtb
  drainEtb entries
  returnOpaque
  modify fun video => { video with mLock := false }

def takeFtb : VencM (List Nat) := modifyGet fun video => (video.mFtbQ, { video with mFtbQ := [] })

def drainFtb : List Nat → VencM Unit
  | [] => pure ()
  | buffer :: rest => do
    modify fun video => { video with pendingOutputBuffers := video.pendingOutputBuffers + 1 }
    let _ ← fillBufferDone buffer
    drainFtb rest

def executeOutputFlush : VencM Unit := do
  modify fun video => { video with mLock := true }
  let buffers ← takeFtb
  drainFtb buffers
  modify fun video => { video with mLock := false }

def flushInput : VencM Unit := do
  modify fun video => { video with inputFlushProgress := true }
  executeInputFlush

def flushOutput : VencM Unit := do
  modify fun video => { video with outputFlushProgress := true }
  executeOutputFlush

def executeOmxFlush : FlushType → VencM Unit
  | .input => flushInput
  | .output => flushOutput
  | .all => do
    flushInput
    flushOutput

def completeBufferDones : List InputHeader → VencM Unit
  | [] => pure ()
  | buffer :: rest => do
    let ret ← processEbd buffer
    report ret
    completeBufferDones rest

def takeEbds : VencM (List InputHeader) := modifyGet fun video =>
  (video.mEtbQ.filterMap EtbEntry.ebdHeader,
    { video with mEtbQ := video.mEtbQ.filter fun entry => entry.ebdHeader.isNone })

def completePendingBufferDoneCbs : VencM Unit := do
  let buffers ← takeEbds
  completeBufferDones buffers

/-! ### The message thread -/

def processCmdEvent : CmdEvent → VencM Unit
  | .command state inputEnabled outputEnabled flush => do
    modify fun video => { video with
      mState := state
      inputEnabled := inputEnabled
      outputEnabled := outputEnabled }
    match flush with
    | none => pure ()
    | some flushType => executeOmxFlush flushType
  | .eventInputFlush => modify fun video => { video with inputFlushProgress := false }
  | .eventOutputFlush => modify fun video => { video with outputFlushProgress := false }
  | .buffersDone => completePendingBufferDoneCbs

def processCmd : CmdEntry → VencM Unit
  | .event event => processCmdEvent event
  | .fbd buffer => do
    let ret ← processFbd buffer
    report ret

def processEtb : EtbEntry → VencM Unit
  | .etb buffer => do
    let video ← get
    let ret ← emptyThisBufferProxy buffer video.device.etb
    report ret
  | .etbOpq buffer => do
    let ret ← emptyThisBufferOpaque buffer
    report ret
  | .ebd buffer => do
    let ret ← processEbd buffer
    report ret

def processEventCb : VencM Unit := do
  let video ← get
  match video.mCmdQ, video.mFtbQ, video.mEtbQ with
  | entry :: rest, _, _ => do
    set { video with mCmdQ := rest }
    processCmd entry
  | [], buffer :: rest, _ => do
    set { video with mFtbQ := rest }
    let ret ← fillThisBufferProxy buffer
    report ret
  | [], [], entry :: rest => do
    set { video with mEtbQ := rest }
    processEtb entry
  | [], [], [] => pure ()

/-! ### Steps -/

/-- A step of the client, of the command side, of the message thread or of the driver. -/
inductive VencAction
  | etb (buffer : InputHeader) (header : BufferHeader)
  | ftb (buffer : Nat) (header : BufferHeader)
  | post (event : CmdEvent)
  | process (device : DeviceScript)
  | inputDone (buffer : InputHeader)
  | outputDone (buffer : Nat)
  deriving DecidableEq, Repr

def VencAction.code : VencAction → VencM Unit
  | .etb buffer header => do
    let _ ← emptyThisBuffer buffer header
  | .ftb buffer header => do
    let _ ← fillThisBuffer buffer header
  | .post event => postCmd (.event event)
  | .process device => do
    modify fun video => { video with device := device }
    processEventCb
  | .inputDone buffer => do
    modify fun video => { video with driverInput := video.driverInput.erase buffer }
    postEtb (.ebd buffer)
  | .outputDone buffer => do
    modify fun video => { video with driverOutput := video.driverOutput.erase buffer }
    postCmd (.fbd buffer)

def VencAction.possible (video : OmxVideo) : VencAction → Bool
  | .inputDone buffer => decide (buffer ∈ video.driverInput)
  | .outputDone buffer => decide (buffer ∈ video.driverOutput)
  | .etb .. | .ftb .. | .post _ | .process _ => true

def vencStep (video : OmxVideo) (action : VencAction) : Option OmxVideo :=
  if action.possible video then
    match action.code video with
    | .ok _ next => some next
    | .error _ _ => none
  else none

theorem of_vencStep {video next : OmxVideo} {action : VencAction} {after : OmxVideo → Prop}
    (hstep : vencStep video action = some next)
    (hends : action.possible video = true →
      Ends action.code (fun _ => after) (fun _ _ => True) video) : after next := by
  unfold vencStep at hstep
  split at hstep
  case isTrue hpossible =>
    have hends := hends hpossible
    unfold Ends at hends
    cases hcode : action.code video with
    | ok value last =>
      simp only [hcode, Option.some.injEq] at hstep hends
      exact hstep ▸ hends
    | error reason last => simp [hcode] at hstep
  case isFalse => cases hstep

end Nozomi.Venc
