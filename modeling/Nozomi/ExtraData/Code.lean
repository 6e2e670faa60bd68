import Nozomi.Vdec.StreamParser.Code
import Mathlib.Logic.Function.Basic

/-!
# `extra_data_handler`

The encoder of frame packing messages of `extra_data_handler.cpp`: `e_u` and `e_ue` put bits into `rbsp_buf`,
`create_frame_pack` the fields of the message, `create_sei` the trailing bits, and `create_rbsp` copies the bytes
behind a start code, with the emulation-prevention bytes. A shift by 32 or more, which C leaves undefined,
gives 0 here.
-/

namespace Nozomi

def shiftLeft32 (word count : Nat) : Nat := if count < 32 then (word <<< count) % 2 ^ 32 else 0

def shiftRight32 (word count : Nat) : Nat := if count < 32 then word >>> count else 0

/-- `class extra_data_handler`; the bytes of `rbsp_buf` by their index. -/
structure ExtraDataHandler where
  framePackingArrangement : FramePackArrangement
  rbspBuf : Nat → UInt8
  bitPtr : Nat
  bytePtr : Nat
  packSei : Bool
  seiPayloadType : Nat

def writeBytes (memory : Nat → UInt8) (address : Nat) (bytes : List UInt8) : Nat → UInt8 := fun other =>
  bytes.getD (sub32 other address) (memory other)

namespace ExtraDataHandler

def new : ExtraDataHandler :=
  { framePackingArrangement := ⟨0, 1, 0, 0, 0, 0, 0, 0, 0, 0, 0, 0, 0, 0, 0, 0, 0, 0⟩
    rbspBuf := fun _ => 0
    bitPtr := 8
    bytePtr := 0
    packSei := false
    seiPayloadType := 2 ^ 32 - 1 }

variable (handler : ExtraDataHandler)

def setFramePackData (framePack : FramePackArrangement) : ExtraDataHandler :=
  { handler with
    framePackingArrangement := framePack
    packSei := true
    seiPayloadType := Parser.seiFramePackingType }

/-! ### Bits -/

def orByte (value : Nat) : ExtraDataHandler :=
  { handler with
    rbspBuf := Function.update handler.rbspBuf handler.bytePtr
      (handler.rbspBuf handler.bytePtr ||| UInt8.ofNat value) }

def eULoop : (rounds symbol remBits : Nat) → ExtraDataHandler → Nat × Nat × ExtraDataHandler
  | 0, symbol, remBits, handler => (symbol, remBits, handler)
  | rounds + 1, symbol, remBits, handler =>
    if handler.bitPtr ≤ remBits then
      let shift := remBits - handler.bitPtr
      eULoop rounds (shiftRight32 (shiftLeft32 symbol (sub32 32 shift)) (sub32 32 shift)) shift
        { handler.orByte (shiftRight32 symbol shift) with
          bytePtr := handler.bytePtr + 1
          bitPtr := 8 }
    else (symbol, remBits, handler)

def eURest (symbol remBits : Nat) : ExtraDataHandler :=
  if remBits = 0 then handler
  else
    let shift := handler.bitPtr - remBits
    let handler : ExtraDataHandler :=
      { handler.orByte (shiftLeft32 symbol shift) with bitPtr := handler.bitPtr - remBits }
    if handler.bitPtr = 0 then { handler with bitPtr := 8, bytePtr := handler.bytePtr + 1 } else handler

def eU (symbol numBits : Nat) : ExtraDataHandler :=
  let (symbol, remBits, handler) := eULoop numBits symbol numBits handler
  handler.eURest symbol remBits

def ueLength : (rounds nn : Nat) → Nat
  | 0, _ => 0
  | rounds + 1, nn => if nn ≠ 0 then ueLength rounds (nn >>> 1) + 1 else 0

def eUe (symbol : Nat) : ExtraDataHandler :=
  let i := ueLength 33 (((symbol + 1) % 2 ^ 32) >>> 1)
  let symLen := (i <<< 1) + 1
  let info := sub32 ((symbol + 1) % 2 ^ 32) (shiftLeft32 1 i)
  let sufixLen := shiftLeft32 1 (symLen >>> 1)
  handler.eU (sufixLen ||| (info &&& sub32 sufixLen 1)) symLen

/-! ### Messages -/

def createArrangement : ExtraDataHandler :=
  let pack := handler.framePackingArrangement
  let handler := handler.eU pack.type 7
  let handler := handler.eU pack.quincunxSamplingFlag 1
  let handler := handler.eU pack.contentInterpretationType 6
  let handler := handler.eU pack.spatialFlippingFlag 1
  let handler := handler.eU pack.frame0FlippedFlag 1
  let handler := handler.eU pack.fieldViewsFlag 1
  let handler := handler.eU pack.currentFrameIsFrame0Flag 1
  let handler := handler.eU pack.frame0SelfContainedFlag 1
  let handler := handler.eU pack.frame1SelfContainedFlag 1
  let handler :=
    if pack.quincunxSamplingFlag = 0 ∧ pack.type ≠ 5 then
      let handler := handler.eU pack.frame0GridPositionX 4
      let handler := handler.eU pack.frame0GridPositionY 4
      let handler := handler.eU pack.frame1GridPositionX 4
      handler.eU pack.frame1GridPositionY 4
    else handler
  let handler := handler.eU pack.reservedByte 8
  handler.eUe pack.repetitionPeriod

def createFramePack : ExtraDataHandler :=
  let pack := handler.framePackingArrangement
  let handler := handler.eUe pack.id
  let handler := handler.eU pack.cancelFlag 1
  let handler := if pack.cancelFlag = 0 then handler.createArrangement else handler
  handler.eU pack.extensionFlag 1

def escapePairs : List UInt8 → List UInt8
  | [] => []
  | [byte] => [byte]
  | first :: second :: bytes =>
    if first.toNat + second.toNat = 0 then first :: second :: 3 :: escapePairs bytes
    else first :: second :: escapePairs bytes

def rbsp : List UInt8 := (List.range handler.bytePtr).map handler.rbspBuf

def createRbsp (naluType : Nat) : List UInt8 :=
  [0, 0, 0, 1, UInt8.ofNat naluType, UInt8.ofNat (handler.seiPayloadType &&& 0xFF),
    UInt8.ofNat (sub32 handler.bytePtr 1)] ++ escapePairs handler.rbsp

def nalTypeSei : Nat := 6

def createTrailingBits : ExtraDataHandler :=
  let handler :=
    if handler.bitPtr ≠ 8 then
      let handler := handler.eU 1 1
      if handler.bitPtr ≠ 8 then handler.eU 0 handler.bitPtr else handler
    else handler
  (handler.eU 1 1).eU 0 7

def createSei : List UInt8 × ExtraDataHandler :=
  let handler : ExtraDataHandler := { handler with bytePtr := 0, bitPtr := 8 }
  let (bytes, handler) :=
    if handler.seiPayloadType = Parser.seiFramePackingType then
      let handler := handler.createFramePack.createTrailingBits
      (handler.createRbsp nalTypeSei, handler)
    else ([], handler)
  (bytes, { handler with packSei := false, seiPayloadType := 2 ^ 32 - 1 })

def createExtraData (memory : Nat → UInt8) (address : Nat) (codecConfig : Bool) :
    (Nat → UInt8) × Nat × ExtraDataHandler :=
  if codecConfig ∧ handler.packSei then
    let (bytes, handler) := handler.createSei
    (writeBytes memory address bytes, bytes.length, handler)
  else (memory, 0, handler)

end ExtraDataHandler

end Nozomi
