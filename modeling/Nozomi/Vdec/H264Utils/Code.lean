import Nozomi.Vdec.Buffer

/-!
# Access-unit detection

`H264_Utils::isNewFrame` of `h264_utils.cpp`, with `extract_rbsp`, which copies the payload of a NAL unit
without its emulation-prevention bytes, and `RbspParser`, which reads the first syntax element of a slice
from the copy and looks for emulation-prevention bytes once more.
-/

namespace Nozomi

/-! ### `RbspParser` -/

/-- `class RbspParser`. The position is that of the next byte to read, `pos + 1`. -/
structure RbspParser where
  bytes : List UInt8
  nextPos : Nat
  bit : Nat
  cursor : Nat
  advanceNeeded : Bool
  deriving DecidableEq, Repr

namespace RbspParser

def new (bytes : List UInt8) : RbspParser := ⟨bytes, 0, 0, 0xFFFFFF, true⟩

def shift (parser : RbspParser) : RbspParser :=
  { parser with
    nextPos := parser.nextPos + 1
    cursor := (parser.cursor <<< 8) % 2 ^ 32 ||| (parser.bytes.getD parser.nextPos 0).toNat }

def advance (parser : RbspParser) : RbspParser :=
  let parser := parser.shift
  let parser := if parser.cursor % 2 ^ 24 = 3 then parser.shift else parser
  { parser with advanceNeeded := false }

def next (parser : RbspParser) : RbspParser × Nat :=
  let parser := if parser.advanceNeeded then parser.advance else parser
  (parser, (parser.bytes.getD (parser.nextPos - 1) 0).toNat)

def uLoop : (rounds remaining : Nat) → RbspParser → (value : Nat) → RbspParser × Nat
  | 0, _, parser, value => (parser, value)
  | rounds + 1, remaining, parser, value =>
    if remaining = 0 then (parser, value)
    else
      let size := min (8 - parser.bit) remaining
      let (parser, byte) := parser.next
      let value := (value <<< size) % 2 ^ 32 ||| (byte >>> (8 - parser.bit - size)) % 2 ^ size
      let bit := (parser.bit + size) % 8
      let advanceNeeded := if bit = 0 then true else parser.advanceNeeded
      uLoop rounds (remaining - size) { parser with bit := bit, advanceNeeded := advanceNeeded } value

def u (parser : RbspParser) (n : Nat) : RbspParser × Nat := uLoop n n parser 0

def ueZeros : (bits : Nat) → RbspParser → (leadingZeroBits : Nat) → Option (RbspParser × Nat)
  | 0, _, _ => none
  | bits + 1, parser, leadingZeroBits =>
    let (parser, b) := parser.u 1
    if b = 0 then ueZeros bits parser (leadingZeroBits + 1) else some (parser, leadingZeroBits)

def ue (parser : RbspParser) : Option (RbspParser × Nat) := do
  let (parser, leadingZeroBits) ← ueZeros (8 * parser.bytes.length) parser 0
  let (parser, suffix) := parser.u leadingZeroBits
  some (parser, (sub32 (2 ^ leadingZeroBits % 2 ^ 32) 1 + suffix) % 2 ^ 32)

def se (parser : RbspParser) : Option (RbspParser × Int) := do
  let (parser, x) ← parser.ue
  if x = 0 then some (parser, 0)
  else if x % 2 = 1 then some (parser, ((x / 2 + 1 : Nat) : Int).bmod (2 ^ 32))
  else some (parser, -((x / 2 : Nat) : Int))

end RbspParser

/-! ### `extract_rbsp` -/

def naluTypeUnspecified : Nat := 0
def naluTypeNonIdr : Nat := 1
def naluTypeIdr : Nat := 5
def naluTypeSei : Nat := 6
def naluTypeSps : Nat := 7
def naluTypePps : Nat := 8
def naluTypeEoseq : Nat := 10
def naluTypeEostream : Nat := 11

structure Nalu where
  nalRefIdc : Nat
  naluType : Nat
  forbiddenZeroBit : Nat
  deriving DecidableEq, Repr

namespace Nalu

def ofByte (byte : UInt8) : Nalu :=
  ⟨(byte.toNat &&& 0x60) >>> 5, byte.toNat &&& 0x1f, byte.toNat &&& 0x80⟩

end Nalu

def findStartCode : (coef2 coef3 : UInt8) → (pos : Nat) → List UInt8 → Option Nat
  | _, _, _, [] => none
  | coef2, coef3, pos, byte :: bytes =>
    if coef2 = 0 ∧ coef3 = 0 ∧ byte = 1 then some (pos + 1)
    else findStartCode coef3 byte (pos + 1) bytes

def nalLengthField (buffer : List UInt8) (size : Nat) : Nat :=
  (List.range size).foldl
    (fun length pos => length ||| ((buffer.getD pos 0).toNat <<< (8 * (size - 1 - pos))) % 2 ^ 32) 0

def extractLoop (startCode : Bool) :
    (zeroCount pos : Nat) → (rbsp : List UInt8) → List UInt8 → List UInt8 × Option Nat
  | _, _, rbsp, [] => (rbsp, none)
  | zeroCount, pos, rbsp, byte :: bytes =>
    if zeroCount = 2 ∧ byte = 3 then extractLoop startCode 0 (pos + 1) rbsp bytes
    else if zeroCount = 2 ∧ byte ≤ 1 ∧ startCode then (rbsp, some (pos - 2))
    else
      let zeroCount := if zeroCount = 2 then 0 else zeroCount
      extractLoop startCode (if byte = 0 then zeroCount + 1 else 0) (pos + 1) (rbsp ++ [byte]) bytes

/-- What `extract_rbsp` returns and writes: the `boolean` result, an unsigned char; the NAL header, if
it was read; the payload that is copied; `*rbsp_length`, without the zeros of the next start code. -/
structure Extraction where
  success : Bool
  nalu : Option Nalu
  rbsp : List UInt8
  rbspLength : Nat

def extractRbsp (buffer : List UInt8) (bufferLength sizeOfNalLengthField : Nat) : Extraction :=
  let startCode : Bool := sizeOfNalLengthField = 0
  let nalLen := if startCode then bufferLength else nalLengthField buffer sizeOfNalLengthField
  let start := if startCode then
      findStartCode (buffer.getD 0 0) (buffer.getD 1 0) 2 ((buffer.take bufferLength).drop 2)
    else if nalLen ≥ bufferLength then none else some sizeOfNalLengthField
  match start with
  | none => ⟨false, none, [], 0⟩
  | some pos =>
    if pos + 1 > nalLen + sizeOfNalLengthField then ⟨false, none, [], 0⟩
    else
      let nalu := Nalu.ofByte (buffer.getD pos 0)
      if nalu.naluType = naluTypeEoseq ∨ nalu.naluType = naluTypeEostream then
        ⟨(nalLen + sizeOfNalLengthField) % 256 ≠ 0, some nalu, [], 0⟩
      else
        let (rbsp, leftAt) := extractLoop startCode 0 (pos + 1) []
          ((buffer.take (nalLen + sizeOfNalLengthField)).drop (pos + 1))
        ⟨leftAt.all (· % 256 ≠ 0), some nalu, rbsp,
          if leftAt.isSome then rbsp.length - 2 else rbsp.length⟩

/-! ### `isNewFrame` -/

/-- The object, with what the memory of the local variable `nal_unit` of `isNewFrame` holds in its calls. -/
structure H264Utils where
  nalUnits : List Nalu
  naluType : Nat
  mRbspBytes : List UInt8
  mPrvNalu : Nalu
  mForceToStichNextNAL : Bool
  mAuData : Bool
  deriving DecidableEq, Repr

namespace H264Utils

def new (inputBufferSize : Nat) : H264Utils :=
  ⟨[], 0, List.replicate inputBufferSize 0, ⟨0, naluTypeUnspecified, 0⟩, false, false⟩

def initializeFrameCheckingEnvironment (utils : H264Utils) : H264Utils :=
  { utils with
    mForceToStichNextNAL := false
    mAuData := false
    mPrvNalu := { utils.mPrvNalu with nalRefIdc := 0, naluType := naluTypeUnspecified } }

def sliceBeginsFrame (utils : H264Utils) (nalu : Nalu) (firstMbInSlice : Nat) : Bool :=
  firstMbInSlice = 0 ∨
    (utils.mPrvNalu.nalRefIdc ≠ nalu.nalRefIdc ∧ nalu.nalRefIdc * utils.mPrvNalu.nalRefIdc = 0) ∨
    (utils.mPrvNalu.naluType ≠ nalu.naluType ∧
      (utils.mPrvNalu.naluType = naluTypeIdr ∨ nalu.naluType = naluTypeIdr))

def classify (utils : H264Utils) (nalu : Nalu) : Option (H264Utils × Bool) :=
  if nalu.naluType = naluTypeIdr ∨ nalu.naluType = naluTypeNonIdr then do
    let isNewFrame ← if utils.mForceToStichNextNAL then some false
      else do
        let (_, firstMb) ← (RbspParser.new utils.mRbspBytes).ue
        some (utils.sliceBeginsFrame nalu (firstMb % 2 ^ 16))
    some ({ utils with mAuData := true, mForceToStichNextNAL := false }, isNewFrame)
  else if nalu.naluType = naluTypeSps ∨ nalu.naluType = naluTypePps ∨ nalu.naluType = naluTypeSei then
    some ({ utils with mAuData := false, mForceToStichNextNAL := true }, utils.mAuData)
  else some (utils, false)

def isNewFrame (utils : H264Utils) (header : BufferHeader) (sizeOfNalLengthField : Nat) :
    Option (H264Utils × Bool × Bool) :=
  let extraction := extractRbsp header.pBuffer header.nFilledLen sizeOfNalLengthField
  let nalu := extraction.nalu.getD (utils.nalUnits.headD utils.mPrvNalu)
  let utils := { utils with
    nalUnits := utils.nalUnits.tail, mRbspBytes := memcpy utils.mRbspBytes 0 extraction.rbsp }
  if !extraction.success then some ({ utils with mPrvNalu := nalu }, false, false)
  else do
    let (utils, isNewFrame) ← { utils with naluType := nalu.naluType }.classify nalu
    some ({ utils with mPrvNalu := nalu }, true, isNewFrame)

end H264Utils

end Nozomi
