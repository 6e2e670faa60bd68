import Nozomi.Base.Run
import Nozomi.Vdec.Component.Code
import Nozomi.Vdec.FrameParser.Code

/-!
# Demux descriptors

`extract_demux_addr_offsets`, `handle_demux_data` and `empty_this_buffer_proxy` of `omx_vdec.cpp`, for a
component that gets one frame in a buffer (`arbitrary_bytes` is off). With the demultiplexer of the driver
disabled, the component lists the start codes of each frame and hands the driver a table of descriptors.
Every function also returns the indices of the bytes behind `pBuffer` that it has read. The fields of
`frameinfo` that only copy fields of the header are left out.
-/

namespace Nozomi

abbrev Word := BitVec 32

def compareBytes (byteAt : Nat → UInt8) : Nat → List UInt8 → Bool × List Nat
  | _, [] => (true, [])
  | index, value :: values =>
    if byteAt index = value then
      let later := compareBytes byteAt (index + 1) values
      (later.1, index :: later.2)
    else (false, [index])

def insertDemuxAddrOffset (mDemuxOffsets : List Nat) (addressOffset : Nat) : List Nat :=
  if mDemuxOffsets.length < 8192 then mDemuxOffsets ++ [addressOffset] else mDemuxOffsets

/-- The loop of `extract_demux_addr_offsets`: its index, the offsets and the indices read. -/
structure OffsetScan where
  index : Nat
  mDemuxOffsets : List Nat
  reads : List Nat
  deriving DecidableEq, Repr

def OffsetScan.next (byteAt : Nat → UInt8) (loop : OffsetScan) : OffsetScan :=
  let four := compareBytes byteAt loop.index [0x00, 0x00, 0x00, 0x01]
  -- the second operand of the `||` is only evaluated when the first one is false
  let three := if four.1 then (true, []) else compareBytes byteAt loop.index [0x00, 0x00, 0x01]
  if three.1 then
    { index := loop.index + if byteAt (loop.index + 2) = 0x01 then 3 else 4
      mDemuxOffsets := insertDemuxAddrOffset loop.mDemuxOffsets loop.index
      reads := loop.reads ++ four.2 ++ three.2 ++ [loop.index + 2] }
  else
    { loop with index := loop.index + 1, reads := loop.reads ++ four.2 ++ three.2 }

def BufferHeader.extraction (header : BufferHeader) : OffsetScan :=
  whileLoop (fun loop => decide (loop.index < header.nFilledLen)) (OffsetScan.next header.byteAt)
    (header.nFilledLen + 1) ⟨0, [], []⟩

def extractDemuxAddrOffsets (header : BufferHeader) : List Nat × List Nat :=
  (header.extraction.mDemuxOffsets, header.extraction.reads.map (header.nOffset + ·))

def BufferHeader.bufferAt (header : BufferHeader) (index : Nat) : UInt8 :=
  header.pBuffer.getD index 0

def BufferHeader.suffixIndex (header : BufferHeader) (offset : Nat) : Nat :=
  if header.bufferAt (offset + 2) = 0x01 then offset + 3 else offset + 4

def descData (startAddr suffixByte : Word) : Word :=
  startAddr >>> 3 <<< 1 ||| (startAddr &&& 7#32) <<< 21 ||| suffixByte <<< 24

def BufferHeader.demuxWords (header : BufferHeader) : List Nat → List Word
  | [] => []
  | offset :: offsets =>
    let suffixByte := header.bufferAt (header.suffixIndex offset)
    let nalEnd := offsets.head?.getD header.nFilledLen
    let nalSize := BitVec.ofNat 32 nalEnd - BitVec.ofNat 32 offset - 2#32
    descData (BitVec.ofNat 32 offset) (BitVec.ofNat 32 suffixByte.toNat) :: nalSize :: 0#32 :: 0#32 ::
      header.demuxWords offsets

def BufferHeader.demuxReads (header : BufferHeader) (offsets : List Nat) : List Nat :=
  offsets.flatMap fun offset => [offset + 2, header.suffixIndex offset]

def descBufferSize : Nat := 8192 * 16

def terminatorWords : CodecType → List Word
  | .vc1 => [0x82#32 <<< 24, 0#32, 0#32, 0#32]
  | _ => []

/-- `struct desc_buffer_hdr`. `buf_addr` is the words written there so far, or `none` for `NULL`. -/
structure DescBuffer where
  bufAddr : Option (List Word)
  descDataSize : Nat
  deriving DecidableEq, Repr

/-- What the driver gets with `VDEC_IOCTL_DECODE_FRAME`: the header of the frame, the memory at
`desc_addr` with `desc_size` (`none` is a `NULL` address), and the indices behind `pBuffer` that were read
for it. -/
structure DecodeFrame where
  header : BufferHeader
  desc : Option (List Word × Nat)
  reads : List Nat
  deriving DecidableEq, Repr

/-- The members of `omx_vdec` that the descriptors depend on. The last two fields list the buffers posted
with `OMX_COMPONENT_GENERATE_EBD` and the frames that went to the driver. -/
structure DemuxState where
  codecType : CodecType
  disableDmx : Bool
  inputUseBuffer : Bool
  inputFlushProgress : Bool
  actualcount : Nat
  pendingInputBuffers : Nat
  mDemuxOffsets : List Nat
  mDescBufferPtr : Option (List DescBuffer)
  emptied : List Nat
  frames : List DecodeFrame
  deriving DecidableEq, Repr

/-- A call of `empty_this_buffer_proxy`: the index of the header in `m_inp_mem_ptr`, the header, the
header of the client's buffer (`m_inp_heap_ptr`, used with `input_use_buffer`), the index of
`pInputPortPrivate` in `ptr_inputbuffer` (`none` is `NULL`), the answer of `is_notcodec_vop` and whether
the driver takes the frame. -/
structure InputCall where
  nPortIndex : Nat
  buffer : BufferHeader
  heapBuffer : BufferHeader
  inputPortPrivate : Option Nat
  isNotcodecVop : Bool
  ioctl : Bool
  deriving DecidableEq, Repr

namespace DemuxState

def init (codecType : CodecType) (disableDmx inputUseBuffer : Bool) (actualcount : Nat) :
    DemuxState where
  codecType := codecType
  disableDmx := disableDmx
  inputUseBuffer := inputUseBuffer
  inputFlushProgress := false
  actualcount := actualcount
  pendingInputBuffers := 0
  mDemuxOffsets := []
  mDescBufferPtr := none
  emptied := []
  frames := []

def descBuffer (state : DemuxState) (index : Nat) : Option DescBuffer :=
  state.mDescBufferPtr.bind fun buffers => buffers[index]?

def setDescBuffer (state : DemuxState) (index : Nat) (buffer : DescBuffer) : DemuxState :=
  { state with mDescBufferPtr := state.mDescBufferPtr.map fun buffers => buffers.set index buffer }

def allocateDescBuffer (state : DemuxState) (index : Nat) : DemuxState :=
  if state.actualcount ≤ index then state
  else
    let buffers := state.mDescBufferPtr.getD (List.replicate state.actualcount ⟨none, 0⟩)
    let size := (buffers[index]?.map DescBuffer.descDataSize).getD 0
    { state with mDescBufferPtr := some (buffers.set index ⟨some [], size⟩) }

def freeInputBuffer (state : DemuxState) (index : Nat) : DemuxState :=
  if state.actualcount ≤ index then state
  else if (state.descBuffer index).any (·.bufAddr.isSome) then state.setDescBuffer index ⟨none, 0⟩
  else state

def handleDemuxData (state : DemuxState) (bufferIndex : Nat) (header : BufferHeader) :
    ErrorType × DemuxState × List Nat :=
  if state.mDescBufferPtr.isNone then (.badParameter, state, [])
  else if state.actualcount < bufferIndex then (.badParameter, state, [])
  else
    match (state.descBuffer bufferIndex).bind DescBuffer.bufAddr with
    | none => (.badParameter, state, [])
    | some memory =>
      if descBufferSize < state.mDemuxOffsets.length * 16 + 1 then (.badParameter, state, [])
      else
        let words := header.demuxWords state.mDemuxOffsets ++ terminatorWords state.codecType ++ [0#32]
        -- with the VC-1 terminator one entry more is counted
        let entries := state.mDemuxOffsets.length + if state.codecType = .vc1 then 1 else 0
        let written := state.setDescBuffer bufferIndex
          ⟨some (words ++ memory.drop words.length), entries * 16 + 4⟩
        (.none, { written with mDemuxOffsets := [] }, header.demuxReads state.mDemuxOffsets)

def dmxEnabled (state : DemuxState) (index : Nat) : Bool :=
  state.disableDmx && (state.descBuffer index).any (·.bufAddr.isSome)

def extractOffsets (state : DemuxState) (header : BufferHeader) : DemuxState × List Nat :=
  if state.mDemuxOffsets = [] then
    let extracted := extractDemuxAddrOffsets header
    ({ state with mDemuxOffsets := extracted.1 }, extracted.2)
  else (state, [])

def demuxFrame (state : DemuxState) (index : Nat) (header : BufferHeader) :
    DemuxState × DecodeFrame :=
  if state.dmxEnabled index then
    let extracted := state.extractOffsets header
    let handled := extracted.1.handleDemuxData index header
    let desc := (handled.2.1.descBuffer index).bind fun buffer =>
      buffer.bufAddr.map fun memory => (memory, buffer.descDataSize)
    (handled.2.1, ⟨header, desc, extracted.2 ++ handled.2.2⟩)
  else (state, ⟨header, none, []⟩)

def postEbd (state : DemuxState) (index : Nat) : DemuxState :=
  { state with emptied := state.emptied ++ [index] }

def checkBuffer (state : DemuxState) (call : InputCall) :
    Except (ErrorType × DemuxState) BufferHeader :=
  match call.inputPortPrivate with
  | none => .error (.badParameter, state)
  | some payload =>
    if state.actualcount < call.nPortIndex then .error (.badParameter, state)
    else
      let counted := { state with pendingInputBuffers := state.pendingInputBuffers + 1 }
      if call.buffer.nFilledLen = 0 && !call.buffer.hasEos then
        .error (.none, counted.postEbd call.nPortIndex)
      else
        let notCodedVop := state.codecType == .mpeg4 && call.isNotcodecVop
        -- the last frame is sent on without its bytes
        let buffer :=
          if notCodedVop && call.buffer.hasEos then { call.buffer with nFilledLen := 0 }
          else call.buffer
        if state.inputFlushProgress || (notCodedVop && !call.buffer.hasEos) then
          .error (.none, counted.postEbd call.nPortIndex)
        else if state.actualcount < payload then .error (.badParameter, counted)
        else if state.inputUseBuffer then
          .ok { buffer with
            pBuffer := memcpy buffer.pBuffer 0 (call.heapBuffer.read buffer.nFilledLen) }
        else .ok buffer

def emptyThisBufferProxy (state : DemuxState) (call : InputCall) : ErrorType × DemuxState :=
  match state.checkBuffer call with
  | .error returned => returned
  | .ok buffer =>
    let counted := { state with pendingInputBuffers := state.pendingInputBuffers + 1 }
    let framed := counted.demuxFrame call.nPortIndex buffer
    let reset :=
      if buffer.nFilledLen = 0 || buffer.hasEos then { framed.1 with mDemuxOffsets := [] }
      else framed.1
    let sent := { reset with frames := reset.frames ++ [framed.2] }
    if call.ioctl then (.none, sent) else (.badParameter, sent.postEbd call.nPortIndex)

end DemuxState

/-- What happens between the frames of a component. -/
inductive DemuxAction where
  | emptyThisBufferProxy (call : InputCall)
  | allocateDescBuffer (index : Nat)
  | freeInputBuffer (index : Nat)
  | setActualcount (actualcount : Nat)
  | inputFlush (inProgress : Bool)
  deriving DecidableEq, Repr

def DemuxState.step (state : DemuxState) : DemuxAction → Option DemuxState
  | .emptyThisBufferProxy call => some (state.emptyThisBufferProxy call).2
  | .allocateDescBuffer index => some (state.allocateDescBuffer index)
  | .freeInputBuffer index => some (state.freeInputBuffer index)
  | .setActualcount actualcount => some { state with actualcount := actualcount }
  | .inputFlush inProgress => some { state with inputFlushProgress := inProgress }

end Nozomi
