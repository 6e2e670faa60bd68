import Nozomi.Base.Bits
import Nozomi.Base.EmulationPrevention
import Nozomi.Vdec.Buffer

/-!
# The bit reader of `h264_stream_parser`

`init_bitstream`, `read_word`, `extract_bits`, `more_bits`, `uev`, `sev` and `iv` of `h264_utils.cpp`: a window
of at most 32 bits, left-justified in a word, that is refilled from the bytes without their emulation-prevention
bytes. The reader carries a record of the shifts it has executed and of the calls that led to them. A shift
by 32 or more, which C leaves undefined, gives 0 here.
-/

namespace Nozomi

/-- A call that shifts by counts from the stream: `extract_bits(n)`, with `bits_read` and the number of bytes
that are left without their emulation-prevention bytes, and `uev` with the zeros in front of it. -/
inductive ReadCall
  | extractBits (bitsRead left n : Nat)
  | uev (zeros : Nat)
  deriving DecidableEq, Repr

namespace ReadCall

/-- No shift of the call is by 32 or more: bits are asked for that the window has, or while bytes are left,
and not all 32 of a window that is filled anew; fewer than 32 zeros are in front of a code. -/
def Fits : ReadCall → Prop
  | extractBits bitsRead left n =>
    32 < n ∨ 1 ≤ n ∧ (n ≤ bitsRead ∨ 0 < left ∧ ¬(n = 32 ∧ bitsRead = 0 ∧ 4 ≤ left))
  | uev zeros => zeros < 32

instance : DecidablePred Fits
  | extractBits _ _ _ => inferInstanceAs (Decidable (_ ∨ _))
  | uev _ => inferInstanceAs (Decidable (_ < _))

end ReadCall

/-- The fields of `class h264_stream_parser` for the bit stream. -/
structure StreamReader where
  curr32Bit : Nat
  bitsRead : Nat
  zeroCntr : Nat
  emulationCodeSkipCntr : Nat
  bitstream : List UInt8
  emulationScEnabled : Bool
  shifts : List Nat
  calls : List ReadCall
  deriving DecidableEq, Repr

namespace StreamReader

def new : StreamReader := ⟨0, 0, 0, 0, [], true, [], []⟩

variable (reader : StreamReader)

def shift (count : Nat) : StreamReader := { reader with shifts := reader.shifts ++ [count] }

def payload : List UInt8 :=
  if reader.emulationScEnabled then unescapeFrom reader.zeroCntr reader.bitstream else reader.bitstream

def bits : List Bool :=
  natBits reader.bitsRead (reader.curr32Bit >>> (32 - reader.bitsRead)) ++ bytesBits reader.payload

def initBitstream (bytes : List UInt8) : StreamReader :=
  { reader with
    curr32Bit := 0
    bitsRead := 0
    zeroCntr := 0
    emulationCodeSkipCntr := 0
    bitstream := bytes }

def readByte (byte : UInt8) (bytes : List UInt8) : StreamReader :=
  let reader :=
    if byte = 3 ∧ 2 ≤ reader.zeroCntr ∧ reader.emulationScEnabled then
      { reader with emulationCodeSkipCntr := reader.emulationCodeSkipCntr + 1 }
    else
      { reader.shift 8 with
        curr32Bit := (reader.curr32Bit <<< 8) % 2 ^ 32 ||| byte.toNat
        bitsRead := reader.bitsRead + 8 }
  { reader with
    zeroCntr := zerosAfter reader.zeroCntr byte
    bitstream := bytes }

def readBytes (reader : StreamReader) : List UInt8 → StreamReader
  | [] => reader
  | byte :: bytes => if reader.bitsRead < 32 then (reader.readByte byte bytes).readBytes bytes else reader

def readWord : StreamReader :=
  let reader := { reader with curr32Bit := 0, bitsRead := 0 }.readBytes reader.bitstream
  { reader.shift (32 - reader.bitsRead) with
    curr32Bit := (reader.curr32Bit <<< (32 - reader.bitsRead)) % 2 ^ 32 }

def consume (n : Nat) : StreamReader :=
  { reader.shift n with
    bitsRead := reader.bitsRead - n
    curr32Bit := (reader.curr32Bit <<< n) % 2 ^ 32 }

def extractFilled (value n : Nat) : Nat × StreamReader :=
  if reader.bitsRead < n then
    (value >>> (n - reader.bitsRead), (reader.shift (n - reader.bitsRead)).consume reader.bitsRead)
  else (value, reader.consume n)

def extractFrom (value n : Nat) : Nat × StreamReader :=
  if reader.bitsRead < n then
    let rest := n - reader.bitsRead
    let reader := reader.readWord
    (reader.shift (32 - rest)).extractFilled (value ||| reader.curr32Bit >>> (32 - rest)) rest
  else (value, reader.consume n)

def extractBits (n : Nat) : Nat × StreamReader :=
  let reader := { reader with
    calls := reader.calls ++ [.extractBits reader.bitsRead reader.payload.length n] }
  if n > 32 then (0, reader)
  else (reader.shift (32 - n)).extractFrom (reader.curr32Bit >>> (32 - n)) n

def moreBits : Bool := reader.bitstream ≠ [] ∨ reader.bitsRead > 0

def leadZeroBitsLoop : (rounds leadZeroBits : Nat) → StreamReader → Nat × StreamReader
  | 0, leadZeroBits, reader => (leadZeroBits, reader)
  | rounds + 1, leadZeroBits, reader =>
    let (bit, reader) := reader.extractBits 1
    if bit = 0 ∧ reader.moreBits then leadZeroBitsLoop rounds (leadZeroBits + 1) reader
    else (leadZeroBits, reader)

def size : Nat := 8 * reader.bitstream.length + reader.bitsRead

def leadZeroBits : Nat × StreamReader := leadZeroBitsLoop (reader.size + 1) 0 reader

def uev : Nat × StreamReader :=
  let zeros := (reader.bits.takeWhile (!·)).length
  let (leadZeroBits, reader) := { reader with calls := reader.calls ++ [ReadCall.uev zeros] }.leadZeroBits
  if leadZeroBits = 0 then (0, reader)
  else
    let (suffix, reader) := (reader.shift leadZeroBits).extractBits leadZeroBits
    ((sub32 (2 ^ leadZeroBits % 2 ^ 32) 1 + suffix) % 2 ^ 32, reader)

def iv (nBits : Nat) : Nat × StreamReader :=
  let (codeNum, reader) := reader.extractBits nBits
  let reader := reader.shift (nBits - 1)
  if codeNum >>> (nBits - 1) = 0 then (codeNum, reader)
  else (codeNum &&& (2 ^ 32 - 1 - 2 ^ (nBits - 1)), reader.shift (nBits - 1))

end StreamReader

def sev (codeNum : Nat) : Int :=
  let ret : Int := ((codeNum + 1) % 2 ^ 32 / 2 : Nat)
  if codeNum % 2 = 1 then ret else -ret

end Nozomi
