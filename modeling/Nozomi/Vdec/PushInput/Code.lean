import Nozomi.Base.Run
import Nozomi.Vdec.FrameParser.Code
import Nozomi.Vdec.H264Utils.Code

/-!
# Input in arbitrary bytes

In arbitrary-bytes mode `omx_vdec.cpp` copies what the client sends from `psource_frame` into
`pdest_frame` and hands the latter to the driver with `empty_this_buffer_proxy`, frame by frame. The
source buffers that wait are in `m_input_pending_q`, the destinations that wait in `m_input_free_q`.

`push_input_buffer` calls `push_input_sc_codec` or `push_input_h264` while there is a source and a
destination. A step of the model is one of the two events that start this loop, or one half of a round:
the part that parses, or the part from the test for a drained source on. No flush is in progress, and
the driver accepts every frame. What the log messages count is left out, as in a build without them, and
so is `push_input_vc1`.
-/

namespace Nozomi

def llongMax : Int := 2 ^ 63 - 1

def validTs (ts : Int) : Bool := ts < llongMax

def bufferFlagEoseq : BitVec 32 := 0x00200000#32

def inputQueueSize : Nat := 100

/-- The members of `omx_vdec` that the input path uses, with what has gone out: the frames handed to
`empty_this_buffer_proxy`, the buffers the driver has, the source buffers returned to the client. In the
middle of a round `parsed` is set. -/
structure PushInput where
  mFrameParser : FrameParse
  mutils : H264Utils
  nalLength : Nat
  h264Scratch : BufferHeader
  nalCount : Nat
  frameCount : Nat
  lookAheadNal : Bool
  h264LastAuTs : Int
  h264LastAuFlags : BitVec 32
  psourceFrame : Option BufferHeader
  pdestFrame : Option BufferHeader
  mInputFreeQ : List BufferHeader
  mInputPendingQ : List BufferHeader
  parsed : Bool
  handed : List BufferHeader
  driver : List BufferHeader
  emptied : List BufferHeader
  deriving DecidableEq

namespace PushInput

def init (parser : FrameParse) (utils : H264Utils) (scratch : BufferHeader)
    (pool : List BufferHeader) : PushInput where
  mFrameParser := parser
  mutils := utils
  nalLength := 0
  h264Scratch := scratch
  nalCount := 0
  frameCount := 0
  lookAheadNal := false
  h264LastAuTs := llongMax
  h264LastAuFlags := 0
  psourceFrame := none
  pdestFrame := none
  mInputFreeQ := pool
  mInputPendingQ := []
  parsed := false
  handed := []
  driver := []
  emptied := []

/-! ### The queues and the driver -/

def popFreeQ (state : PushInput) (prepare : BufferHeader → BufferHeader) : PushInput :=
  match state.mInputFreeQ with
  | [] => { state with pdestFrame := none }
  | dest :: rest => { state with pdestFrame := some (prepare dest), mInputFreeQ := rest }

def insertFreeQ (state : PushInput) (dest : BufferHeader) : PushInput :=
  if state.mInputFreeQ.length < inputQueueSize then
    { state with mInputFreeQ := state.mInputFreeQ ++ [dest] }
  else state

def popPendingQ (state : PushInput) : PushInput :=
  { state with
    psourceFrame := state.mInputPendingQ.head?
    mInputPendingQ := state.mInputPendingQ.tail }

def returnSource (state : PushInput) (source : BufferHeader) : PushInput :=
  { state with emptied := state.emptied ++ [source] }.popPendingQ

def resetAtEos (state : PushInput) : PushInput :=
  { state with
    h264Scratch := { state.h264Scratch with nFilledLen := 0 }
    nalCount := 0
    lookAheadNal := false
    frameCount := 0
    mutils := state.mutils.initializeFrameCheckingEnvironment
    mFrameParser := state.mFrameParser.flush
    h264LastAuTs := llongMax
    h264LastAuFlags := 0 }

def emptyThisBufferProxy (state : PushInput) (buffer : BufferHeader) : PushInput :=
  let state := if buffer.nFilledLen = 0 ∨ buffer.hasEos then state.resetAtEos else state
  { state with
    handed := state.handed ++ [buffer]
    driver := state.driver ++ [{ buffer with nFlags := buffer.nFlags &&& ~~~bufferFlagEoseq }] }

def countFrame (state : PushInput) : PushInput :=
  { state with frameCount := (state.frameCount + 1) % 2 ^ 32 }

/-! ### `push_input_sc_codec` -/

def completeScFrame (state : PushInput) (source dest : BufferHeader) : PushInput :=
  if state.frameCount = 0 then { state with frameCount := 1 }
  else
    let dest := { dest with nFlags := dest.nFlags &&& ~~~bufferFlagEos }
    if dest.nFilledLen ≠ 0 then
      let state := state.emptyThisBufferProxy dest
      state.countFrame.popFreeQ fun dest => { dest with nFilledLen := 0 }
    else if !source.hasEos then { state.insertFreeQ dest with pdestFrame := none }
    else { state with pdestFrame := some dest }

def parseScCodec (state : PushInput) (source dest : BufferHeader) : Option PushInput :=
  let result := parseScFrame state.mFrameParser source dest 1
  let state := { state with
    mFrameParser := result.parser
    psourceFrame := some result.source
    pdestFrame := some result.dest }
  if result.status = -1 then none
  else if result.partialframe = 0 then some (state.completeScFrame result.source result.dest)
  else if result.dest.nAllocLen = (result.dest.nFilledLen + result.dest.nOffset) % 2 ^ 32 then none
  else some state

def drainScCodec (state : PushInput) (source : BufferHeader) : PushInput :=
  if source.nFilledLen ≠ 0 then state
  else if source.hasEos then
    match state.pdestFrame with
    | some dest =>
      let state := state.emptyThisBufferProxy { dest with nFlags := dest.nFlags ||| source.nFlags }
      ({ state with pdestFrame := none }.countFrame).returnSource source
    | none => state
  else state.returnSource source

/-! ### `push_input_h264` -/

def copyScratch (state : PushInput) (dest : BufferHeader) : Option (PushInput × BufferHeader) :=
  if sub32 dest.nAllocLen dest.nFilledLen ≥ state.h264Scratch.nFilledLen then
    some ({ state with h264Scratch := { state.h264Scratch with nFilledLen := 0 } },
      { dest with
        pBuffer := memcpy dest.pBuffer dest.nFilledLen
          (state.h264Scratch.pBuffer.take state.h264Scratch.nFilledLen)
        nFilledLen := dest.nFilledLen + state.h264Scratch.nFilledLen })
  else none

def copyLookAhead (state : PushInput) (dest : BufferHeader) : Option (PushInput × BufferHeader) :=
  if state.h264Scratch.nFilledLen ≠ 0 ∧ state.lookAheadNal then
    { state with lookAheadNal := false }.copyScratch dest
  else some (state, dest)

def stampNal (state : PushInput) (dest : BufferHeader) : PushInput × BufferHeader :=
  let dest := if validTs state.h264LastAuTs ∧ ¬validTs dest.nTimeStamp then
    { dest with nTimeStamp := state.h264LastAuTs, nFlags := state.h264LastAuFlags } else dest
  if state.mutils.naluType = naluTypeNonIdr ∨ state.mutils.naluType = naluTypeIdr then
    ({ state with
      h264LastAuTs := state.h264Scratch.nTimeStamp
      h264LastAuFlags := state.h264Scratch.nFlags }, dest)
  else ({ state with h264LastAuTs := llongMax }, dest)

def checkNal (state : PushInput) (dest : BufferHeader) :
    Option (PushInput × BufferHeader × Bool) :=
  if state.h264Scratch.nFilledLen ≠ 0 then do
    let (utils, _, isNewFrame) ← state.mutils.isNewFrame state.h264Scratch 0
    let (state, dest) :=
      { state with mutils := utils, nalCount := (state.nalCount + 1) % 2 ^ 32 }.stampNal dest
    some (state, dest, isNewFrame)
  else some (state, dest, false)

def continueFrame (state : PushInput) (dest : BufferHeader) : Option PushInput := do
  let (state, dest) ← state.copyScratch dest
  some { state with
    pdestFrame := some (if state.mutils.naluType = naluTypeEoseq then
      { dest with nFlags := dest.nFlags ||| bufferFlagEoseq } else dest) }

def beginFrame (state : PushInput) (dest : BufferHeader) : Option PushInput :=
  if dest.nFilledLen = 0 then do
    let (state, dest) ← { state with lookAheadNal := false }.copyScratch dest
    some { state with pdestFrame := some dest }
  else
    -- `h264_scratch` is not empty here
    let state := { state with lookAheadNal := true }.emptyThisBufferProxy
      { dest with nFlags := dest.nFlags &&& ~~~bufferFlagEos }
    some (state.popFreeQ fun dest => { dest with nFilledLen := 0, nFlags := 0, nTimeStamp := llongMax })

def completeNal (state : PushInput) (source dest : BufferHeader) : Option PushInput :=
  if state.nalCount = 0 ∧ state.h264Scratch.nFilledLen = 0 then
    some { state with
      nalCount := 1
      h264Scratch := state.h264Scratch.stamp source
      pdestFrame := some dest }
  else do
    let (state, dest, isNewFrame) ← state.checkNal dest
    if isNewFrame then state.beginFrame dest else state.continueFrame dest

def parseH264 (state : PushInput) (source dest : BufferHeader) : Option PushInput := do
  let (state, dest) ← state.copyLookAhead dest
  let parse := if state.nalLength = 0 then parseScFrame else parseH264Nallength
  let result := parse state.mFrameParser source state.h264Scratch 1
  let state := { state with
    mFrameParser := result.parser
    psourceFrame := some result.source
    h264Scratch := result.dest
    pdestFrame := some dest }
  if result.status = -1 then none
  else if result.partialframe = 0 then state.completeNal result.source dest
  else if result.dest.nAllocLen = (result.dest.nFilledLen + result.dest.nOffset) % 2 ^ 32 then none
  else some state

def pushLast (state : PushInput) (source dest : BufferHeader) (ts : Int) : Option PushInput := do
  let flags := state.h264Scratch.nFlags ||| source.nFlags
  let (state, dest) ← state.copyScratch dest
  let state := state.emptyThisBufferProxy { dest with nTimeStamp := ts, nFlags := flags }
  some ({ state with pdestFrame := none }.countFrame.returnSource source)

def drainEos (state : PushInput) (source dest : BufferHeader) : Option PushInput :=
  if sub32 dest.nAllocLen dest.nFilledLen < state.h264Scratch.nFilledLen then none
  else if dest.nFilledLen = 0 then state.pushLast source dest state.h264Scratch.nTimeStamp
  else do
    let (utils, _, isNewFrame) ← state.mutils.isNewFrame state.h264Scratch 0
    let state := { state with mutils := utils }
    if isNewFrame then
      let last := { dest with nTimeStamp := state.h264LastAuTs }
      let state := { state with h264LastAuTs := state.h264Scratch.nTimeStamp }
      some { state.emptyThisBufferProxy last with pdestFrame := none }.countFrame
    else state.pushLast source dest state.h264LastAuTs

def drainH264 (state : PushInput) (source : BufferHeader) : Option PushInput :=
  if source.nFilledLen ≠ 0 then some state
  else if source.hasEos then
    match state.pdestFrame with
    | some dest => state.drainEos source dest
    | none => some state
  else some (state.returnSource source)

/-! ### Events and rounds -/

def pushInputBuffer (state : PushInput) : PushInput :=
  let state := if state.pdestFrame.isNone then
    state.popFreeQ fun dest => { dest with nFilledLen := 0, nTimeStamp := llongMax } else state
  if state.psourceFrame.isNone then state.popPendingQ else state

def emptyThisBufferProxyArbitrary (state : PushInput) (buffer : BufferHeader) : Option PushInput :=
  if buffer.nFilledLen = 0 ∧ ¬buffer.hasEos then
    some { state with emptied := state.emptied ++ [buffer] }
  else if state.psourceFrame.isNone then
    some { state with psourceFrame := some buffer }.pushInputBuffer
  else if state.mInputPendingQ.length < inputQueueSize then
    some { state with mInputPendingQ := state.mInputPendingQ ++ [buffer] }
  else none

def emptyBufferDone (state : PushInput) (buffer : BufferHeader) : PushInput :=
  if state.pdestFrame.isNone then
    { state with
      pdestFrame := some { buffer with nFilledLen := 0, nTimeStamp := llongMax } }.pushInputBuffer
  else state.insertFreeQ { buffer with nFilledLen := 0 }

/-- The events, by what causes them, and the halves of a round of the loop. -/
inductive Action where
  /-- The client sends a source buffer. -/
  | emptyThisBuffer (buffer : BufferHeader)
  /-- The driver returns the buffer at an index of those it has. -/
  | emptyBufferDone (index : Nat)
  | parse
  | drain
  deriving DecidableEq

def looping (state : PushInput) : Bool :=
  state.parsed || (state.pdestFrame.isSome && state.psourceFrame.isSome)

def parseRound (state : PushInput) (source dest : BufferHeader) : Option PushInput :=
  match state.mFrameParser.codec with
  | .mpeg4 | .h263 | .mpeg2 => state.parseScCodec source dest
  | .h264 => state.parseH264 source dest
  | .vc1 => none -- `push_input_vc1`

def drainRound (state : PushInput) (source : BufferHeader) : Option PushInput :=
  match state.mFrameParser.codec with
  | .mpeg4 | .h263 | .mpeg2 => some (state.drainScCodec source)
  | .h264 => state.drainH264 source
  | .vc1 => none

def step (state : PushInput) : Action → Option PushInput
  | .emptyThisBuffer buffer =>
    if state.looping then none else state.emptyThisBufferProxyArbitrary buffer
  | .emptyBufferDone index =>
    if state.looping then none
    else
      match state.driver[index]? with
      | some buffer =>
        some ({ state with driver := state.driver.eraseIdx index }.emptyBufferDone buffer)
      | none => none
  | .parse =>
    match state.parsed, state.psourceFrame, state.pdestFrame with
    | false, some source, some dest =>
      (state.parseRound source dest).map fun state => { state with parsed := true }
    | _, _, _ => none
  | .drain =>
    match state.parsed, state.psourceFrame with
    | true, some source => { state with parsed := false }.drainRound source
    | _, _ => none

def Action.source? : Action → Option BufferHeader
  | .emptyThisBuffer buffer => some buffer
  | _ => none

def sources (actions : List Action) : List BufferHeader := actions.filterMap Action.source?

def AllReturned (state : PushInput) : Prop :=
  state.psourceFrame = none ∧ state.mInputPendingQ = []

instance (state : PushInput) : Decidable state.AllReturned := by
  unfold AllReturned
  infer_instance

end PushInput

end Nozomi
