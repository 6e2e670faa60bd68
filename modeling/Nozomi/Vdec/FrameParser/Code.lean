import Nozomi.Base.Loop
import Nozomi.Vdec.Buffer

/-!
# The frame parser

`frame_parse` of `frameparser.cpp`: the start-code parser `parse_sc_frame`, which cuts an elementary
stream into frames at a codec's start code, and the length-prefix parser `parse_h264_nallength`. Both
keep what they have seen so far in the object, since a start code or a length field may be cut by the
end of a source buffer.
-/

namespace Nozomi

/-- `enum codec_type`; `CODEC_TYPE_DIVX` has the value of `CODEC_TYPE_MPEG4`. -/
inductive CodecType where
  | mpeg4
  | h263
  | h264
  | vc1
  | mpeg2
  deriving DecidableEq, Repr

namespace CodecType

def startCode (codec : CodecType) (index : Nat) : UInt8 :=
  match codec with
  | .h264 => [0x00, 0x00, 0x00, 0x01].getD index 0
  | .mpeg4 => [0x00, 0x00, 0x01, 0xB6].getD index 0
  | .h263 => [0x00, 0x00, 0x80, 0x00].getD index 0
  | .vc1 => [0x00, 0x00, 0x01, 0x0C].getD index 0
  | .mpeg2 => [0x00, 0x00, 0x01, 0x00].getD index 0

def maskCode (codec : CodecType) (index : Nat) : UInt8 :=
  match codec with
  | .h264 => [0xFF, 0xFF, 0xFF, 0xFF].getD index 0
  | .mpeg4 => [0xFF, 0xFF, 0xFF, 0xFF].getD index 0
  | .h263 => [0xFF, 0xFF, 0xFC, 0x00].getD index 0
  | .vc1 => [0xFF, 0xFF, 0xFF, 0xFC].getD index 0
  | .mpeg2 => [0xFF, 0xFF, 0xFF, 0xFF].getD index 0

def matchesAt (codec : CodecType) (index : Nat) (byte : UInt8) : Bool :=
  byte &&& codec.maskCode index == codec.startCode index

def startCodePrefix (codec : CodecType) (count : Nat) : List UInt8 :=
  (List.range count).map codec.startCode

def isHeaderByte (codec : CodecType) (byte : UInt8) : Bool :=
  match codec with
  | .mpeg4 => byte &&& 0xF0 == 0x20
  | .mpeg2 => byte == 0xB3
  | _ => false

end CodecType

inductive StartCodeState where
  | A0
  | A1
  | A2
  | A3
  | A4
  | A5
  deriving DecidableEq, Repr

inductive NalState where
  | lengthAcc
  | parsing
  deriving DecidableEq, Repr

/-- `class frame_parse`. The two table pointers are one field, the codec whose tables they are. -/
structure FrameParse where
  codec : CodecType
  parseState : StartCodeState
  lastByteH263 : UInt8
  lastByte : UInt8
  headerFound : Bool
  skipFrameBoundary : Bool
  stateNal : NalState
  nalLength : Nat
  accumLength : Nat
  bytesTobeparsed : Nat
  deriving DecidableEq, Repr

namespace FrameParse

def initStartCodes (codec : CodecType) (lastByte : UInt8) : FrameParse where
  codec := codec
  parseState := .A0
  lastByteH263 := 0
  lastByte := lastByte
  headerFound := false
  skipFrameBoundary := false
  stateNal := .lengthAcc
  nalLength := 0
  accumLength := 0
  bytesTobeparsed := 0

def initNalLength (parser : FrameParse) (nalLen : Nat) : Option FrameParse :=
  if nalLen = 0 ∨ nalLen > 4 ∨ parser.stateNal ≠ .lengthAcc then none
  else some { parser with nalLength := nalLen }

def flush (parser : FrameParse) : FrameParse :=
  { parser with
    parseState := .A0
    stateNal := .lengthAcc
    accumLength := 0
    bytesTobeparsed := 0
    headerFound := false
    skipFrameBoundary := false }

def atStartCode (parser : FrameParse) : Bool :=
  parser.parseState == .A4 || parser.parseState == .A5

def parseAdditionalStartCode (parser : FrameParse) (byte : UInt8) : FrameParse :=
  if parser.codec = .mpeg4 ∨ parser.codec = .mpeg2 then
    if parser.codec.isHeaderByte byte then
      if parser.headerFound then { parser with lastByte := byte, parseState := .A4 }
      else { parser with headerFound := true }
    else parser
  else parser

def checkSkipFrameBoundary (parser : FrameParse) : FrameParse × Nat :=
  if parser.codec = .mpeg4 ∨ parser.codec = .mpeg2 then
    ({ parser with skipFrameBoundary := false }, if parser.skipFrameBoundary then 1 else 0)
  else (parser, 0)

def updateSkipFrame (parser : FrameParse) : FrameParse :=
  if parser.codec.isHeaderByte parser.lastByte then { parser with skipFrameBoundary := true }
  else parser

end FrameParse

/-! ### `parse_sc_frame` -/

/-- What `parse_sc_frame` and `parse_h264_nallength` return and write. -/
structure ParseResult where
  status : Int
  parser : FrameParse
  source : BufferHeader
  dest : BufferHeader
  partialframe : Nat
  deriving DecidableEq, Repr

/-- The variables of the entry state machine. -/
structure EntryState where
  parser : FrameParse
  source : BufferHeader
  dest : BufferHeader
  deriving DecidableEq, Repr

def emitStartCode (parser : FrameParse) (source dest : BufferHeader) : FrameParse × BufferHeader :=
  if parser.atStartCode then
    let dest := dest.stamp source
    if parser.codec = .h263 then
      ({ parser with parseState := .A0 },
        dest.append (parser.codec.startCodePrefix 2 ++ [parser.lastByteH263]))
    else if parser.codec = .vc1 ∨ parser.codec = .mpeg4 ∨ parser.codec = .mpeg2 then
      ({ parser.updateSkipFrame with parseState := .A0 },
        dest.append (parser.codec.startCodePrefix 3 ++ [parser.lastByte]))
    else
      ({ parser with parseState := .A0 }, dest.append (parser.codec.startCodePrefix 4))
  else (parser, dest)

def advanceA2 (parser : FrameParse) (byte : UInt8) : Option FrameParse :=
  if parser.codec = .h263 then
    if parser.codec.matchesAt 2 byte then
      some { parser with lastByteH263 := byte, parseState := .A5 }
    else none
  else if parser.codec = .h264 ∧ parser.codec.matchesAt 3 byte then
    some { parser with parseState := .A5 }
  else if parser.codec.matchesAt 2 byte then some { parser with parseState := .A3 }
  else none

def entryStep (state : EntryState) : EntryState :=
  let parser := state.parser
  let codec := parser.codec
  let byte := state.source.byteAt 0
  match parser.parseState with
  | .A3 =>
    let parser := parser.parseAdditionalStartCode byte
    if parser.parseState = .A4 then { state with parser, source := state.source.consume 1 }
    else if codec.matchesAt 3 byte then
      { state with
        parser := { parser with parseState := .A4, lastByte := byte }
        source := state.source.consume 1 }
    else if codec.startCode 1 = codec.startCode 0 ∧ codec.startCode 2 = codec.startCode 1 then
      { state with
        parser := { parser with parseState := .A2 }
        dest := state.dest.append (codec.startCodePrefix 1) }
    else if codec.startCode 2 = codec.startCode 0 then
      { state with
        parser := { parser with parseState := .A1 }
        dest := state.dest.append (codec.startCodePrefix 2) }
    else
      { state with
        parser := { parser with parseState := .A0 }
        dest := state.dest.append (codec.startCodePrefix 3) }
  | .A2 =>
    match advanceA2 parser byte with
    | some parser => { state with parser, source := state.source.consume 1 }
    | none =>
      if codec.startCode 1 = codec.startCode 0 then
        { state with
          parser := { parser with parseState := .A1 }
          dest := state.dest.append (codec.startCodePrefix 1) }
      else
        { state with
          parser := { parser with parseState := .A0 }
          dest := state.dest.append (codec.startCodePrefix 2) }
  | .A1 =>
    if codec.matchesAt 1 byte then
      { state with
        parser := { parser with parseState := .A2 }
        source := state.source.consume 1 }
    else
      { state with
        parser := { parser with parseState := .A0 }
        dest := state.dest.append (codec.startCodePrefix 1) }
  | _ => state

def EntryState.running (state : EntryState) : Bool :=
  decide (0 < state.source.nFilledLen) && state.parser.parseState != .A0 &&
    !state.parser.atStartCode && decide (0 < state.dest.room)

def entryLoop (fuel : Nat) (state : EntryState) : EntryState :=
  whileLoop EntryState.running entryStep fuel state

/-- The variables of the parsing state machine. -/
structure ScanState where
  parser : FrameParse
  parsedLength : Nat
  deriving DecidableEq, Repr

def scanStep (source : BufferHeader) (state : ScanState) : ScanState :=
  let parser := state.parser
  let codec := parser.codec
  let byte := source.byteAt state.parsedLength
  match parser.parseState with
  | .A0 =>
    if codec.matchesAt 0 byte then ⟨{ parser with parseState := .A1 }, state.parsedLength + 1⟩
    else ⟨parser, state.parsedLength + 1⟩
  | .A1 =>
    if codec.matchesAt 1 byte then ⟨{ parser with parseState := .A2 }, state.parsedLength + 1⟩
    else ⟨{ parser with parseState := .A0 }, state.parsedLength⟩
  | .A2 =>
    match advanceA2 parser byte with
    | some parser => ⟨parser, state.parsedLength + 1⟩
    | none =>
      if codec.startCode 1 = codec.startCode 0 then
        ⟨{ parser with parseState := .A1 }, state.parsedLength⟩
      else ⟨{ parser with parseState := .A0 }, state.parsedLength⟩
  | .A3 =>
    let parser := parser.parseAdditionalStartCode byte
    if parser.parseState = .A4 then ⟨parser, state.parsedLength + 1⟩
    else if codec.matchesAt 3 byte then
      ⟨{ parser with lastByte := byte, parseState := .A4 }, state.parsedLength + 1⟩
    else if codec.startCode 1 = codec.startCode 0 ∧ codec.startCode 2 = codec.startCode 1 then
      ⟨{ parser with parseState := .A2 }, state.parsedLength⟩
    else if codec.startCode 2 = codec.startCode 0 then
      ⟨{ parser with parseState := .A1 }, state.parsedLength⟩
    else ⟨{ parser with parseState := .A0 }, state.parsedLength⟩
  | _ => state

def ScanState.running (tempLen : Nat) (state : ScanState) : Bool :=
  decide (state.parsedLength < tempLen) && !state.parser.atStartCode

def scanLoop (source : BufferHeader) (tempLen fuel : Nat) (state : ScanState) : ScanState :=
  whileLoop (ScanState.running tempLen) (scanStep source) fuel state

def StartCodeState.withheld : StartCodeState → Nat
  | .A0 => 0
  | .A1 => 1
  | .A2 => 2
  | .A3 => 3
  | .A4 => 4
  | .A5 => 3

def exitMachine (source dest : BufferHeader) (parser : FrameParse) (parsedLength : Nat) :
    ParseResult :=
  let held := parser.parseState.withheld
  let dest := if parsedLength > held then dest.append (source.read (parsedLength - held)) else dest
  let (parser, partialframe) :=
    if parser.atStartCode then parser.checkSkipFrameBoundary else (parser, 1)
  if source.nFilledLen < parsedLength then ⟨-1, parser, source, dest, partialframe⟩
  else ⟨1, parser, source.consume parsedLength, dest, partialframe⟩

def machineFuel (bytes : Nat) : Nat := 4 * bytes + 4

def scanSource (state : EntryState) : ParseResult :=
  let state := entryLoop (machineFuel state.source.nFilledLen) state
  if state.parser.atStartCode then
    let (parser, partialframe) := state.parser.checkSkipFrameBoundary
    ⟨1, parser, state.source, state.dest, partialframe⟩
  else
    let tempLen := min state.source.nFilledLen state.dest.room
    if tempLen = 0 then ⟨1, state.parser, state.source, state.dest, 1⟩
    else
      let scan := scanLoop state.source tempLen (machineFuel tempLen) ⟨state.parser, 0⟩
      exitMachine state.source state.dest scan.parser scan.parsedLength

def parseScFrame (parser : FrameParse) (source dest : BufferHeader) (partialframe : Nat) :
    ParseResult :=
  if (parser.codec = .h263 ∧ dest.room < 3) ∨ (parser.codec ≠ .h263 ∧ dest.room < 4) ∨
      source.nFilledLen = 0 then
    if source.nFilledLen = 0 ∧ source.hasEos then ⟨1, parser, source, dest, 0⟩
    else ⟨-1, parser, source, dest, partialframe⟩
  else
    let (parser, dest) := emitStartCode parser source dest
    scanSource ⟨parser, source, dest⟩

/-! ### `parse_h264_nallength` -/

def accumulateLength (tempLen : Nat) : Nat → EntryState → Nat → EntryState
  | 0, state, _ => state
  | fuel + 1, state, parsedLength =>
    if parsedLength < tempLen then
      let parser := state.parser
      let bits := (state.source.byteAt 0).toNat <<< ((parser.nalLength - parser.accumLength - 1) <<< 3)
      let parser :=
        { parser with
          bytesTobeparsed := (parser.bytesTobeparsed ||| bits) % 2 ^ 32
          accumLength := parser.accumLength + 1 }
      let source := state.source.consume 1
      if parser.accumLength = parser.nalLength then
        { parser := { parser with accumLength := 0, stateNal := .parsing }
          source
          dest := state.dest.append (CodecType.h264.startCodePrefix 4) }
      else accumulateLength tempLen fuel { state with parser, source } (parsedLength + 1)
    else state

def copyNal (state : EntryState) : EntryState :=
  let parser := state.parser
  let tempLen := min state.source.nFilledLen state.dest.room
  if parser.stateNal = .parsing ∧ tempLen > 0 then
    if tempLen < parser.bytesTobeparsed then
      { parser := { parser with bytesTobeparsed := parser.bytesTobeparsed - tempLen }
        source := state.source.consume tempLen
        dest := state.dest.append (state.source.read tempLen) }
    else
      { parser := { parser with bytesTobeparsed := 0 }
        source := state.source.consume parser.bytesTobeparsed
        dest := state.dest.append (state.source.read parser.bytesTobeparsed) }
  else state

def finishNal (state : EntryState) : ParseResult :=
  let state := copyNal { state with dest := state.dest.stamp state.source }
  if state.parser.bytesTobeparsed = 0 ∧ state.parser.stateNal = .parsing then
    ⟨1, { state.parser with stateNal := .lengthAcc }, state.source, state.dest, 0⟩
  else ⟨1, state.parser, state.source, state.dest, 1⟩

def parseH264Nallength (parser : FrameParse) (source dest : BufferHeader) (partialframe : Nat) :
    ParseResult :=
  if dest.room < 4 ∨ source.nFilledLen = 0 ∨ parser.nalLength = 0 then
    ⟨-1, parser, source, dest, partialframe⟩
  else if parser.stateNal = .lengthAcc then
    let tempLen := min source.nFilledLen dest.room
    finishNal (accumulateLength tempLen tempLen ⟨parser, source, dest⟩ 0)
  else finishNal ⟨parser, source, dest⟩

end Nozomi
