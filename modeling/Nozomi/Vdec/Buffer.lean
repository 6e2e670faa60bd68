import Mathlib.Data.List.GetD
import Mathlib.Tactic.Ring

/-!
# Buffer headers

The parsers of the decoder component work on `OMX_BUFFERHEADERTYPE`: a pointer to an allocation of
`nAllocLen` bytes, of which the `nFilledLen` bytes from `nOffset` on are in use. A source is consumed
from the front, a destination is filled at its end. The model keeps the memory behind `pBuffer` as a
list that may become longer than the allocation, so a copy past its end is visible and not excluded.
-/

namespace Nozomi

def sub32 (a b : Nat) : Nat := (a + (2 ^ 32 - b % 2 ^ 32)) % 2 ^ 32

theorem sub32_of_le {a b : Nat} (hle : b ≤ a) (hlt : a < 2 ^ 32) : sub32 a b = a - b := by
  unfold sub32
  omega

def memcpy (memory : List UInt8) (start : Nat) (bytes : List UInt8) : List UInt8 :=
  memory.take start ++ bytes ++ memory.drop (start + bytes.length)

theorem memcpy_length {memory bytes : List UInt8} {start : Nat}
    (hfit : start + bytes.length ≤ memory.length) :
    (memcpy memory start bytes).length = memory.length := by
  simp only [memcpy, List.length_append, List.length_take, List.length_drop]
  omega

theorem memcpy_memcpy {memory : List UInt8} (first second : List UInt8) {start : Nat}
    (hstart : start ≤ memory.length) :
    memcpy (memcpy memory start first) (start + first.length) second =
      memcpy memory start (first ++ second) := by
  have hhead : (memory.take start ++ first).length = start + first.length := by
    rw [List.length_append, List.length_take, Nat.min_eq_left hstart]
  simp only [memcpy]
  rw [List.take_left' hhead, ← List.drop_drop, List.drop_left' hhead, List.drop_drop,
    List.length_append, Nat.add_assoc, List.append_assoc _ first second]

def bufferFlagEos : BitVec 32 := 0x00000001#32

def bufferFlagCodecConfig : BitVec 32 := 0x00000080#32

/-- The `OMX_BUFFERHEADERTYPE` fields the parsers use. -/
structure BufferHeader where
  pBuffer : List UInt8
  nAllocLen : Nat
  nOffset : Nat
  nFilledLen : Nat
  nTimeStamp : Int
  nFlags : BitVec 32
  deriving DecidableEq, Repr

namespace BufferHeader

def hasEos (header : BufferHeader) : Bool := header.nFlags &&& bufferFlagEos != 0#32

def hasCodecConfig (header : BufferHeader) : Bool :=
  header.nFlags &&& bufferFlagCodecConfig != 0#32

def read (header : BufferHeader) (count : Nat) : List UInt8 :=
  (header.pBuffer.drop header.nOffset).take count

def contents (header : BufferHeader) : List UInt8 := header.read header.nFilledLen

def byteAt (header : BufferHeader) (index : Nat) : UInt8 :=
  header.pBuffer.getD (header.nOffset + index) 0

def room (header : BufferHeader) : Nat :=
  sub32 header.nAllocLen (header.nFilledLen + header.nOffset)

def consume (header : BufferHeader) (count : Nat) : BufferHeader :=
  { header with nFilledLen := header.nFilledLen - count, nOffset := header.nOffset + count }

def append (header : BufferHeader) (bytes : List UInt8) : BufferHeader :=
  { header with
    pBuffer := memcpy header.pBuffer (header.nFilledLen + header.nOffset) bytes
    nFilledLen := header.nFilledLen + bytes.length }

def stamp (header source : BufferHeader) : BufferHeader :=
  { header with nFlags := source.nFlags, nTimeStamp := source.nTimeStamp }

def Inside (header : BufferHeader) : Prop := header.nOffset + header.nFilledLen ≤ header.nAllocLen

instance (header : BufferHeader) : Decidable header.Inside := by
  unfold Inside
  infer_instance

/-- A header whose used part lies inside an allocation of the stated size. -/
structure Valid (header : BufferHeader) : Prop where
  alloc : header.pBuffer.length = header.nAllocLen
  fits : header.nOffset + header.nFilledLen ≤ header.nAllocLen
  bounded : header.nAllocLen < 2 ^ 32

def ofBytes (bytes : List UInt8) : BufferHeader := ⟨bytes, bytes.length, 0, bytes.length, 0, 0⟩

def blank (length : Nat) : BufferHeader := ⟨List.replicate length 0, length, 0, 0, 0, 0⟩

theorem ofBytes_valid {bytes : List UInt8} (hbounded : bytes.length < 2 ^ 32) :
    (ofBytes bytes).Valid :=
  ⟨rfl, by simp [ofBytes], hbounded⟩

theorem blank_valid {length : Nat} (hbounded : length < 2 ^ 32) : (blank length).Valid :=
  ⟨by simp [blank], by simp [blank], hbounded⟩

variable {header : BufferHeader}

theorem Valid.room_eq (hvalid : header.Valid) :
    header.room = header.nAllocLen - (header.nFilledLen + header.nOffset) :=
  sub32_of_le (by have := hvalid.fits; omega) hvalid.bounded

theorem read_length (hvalid : header.Valid) {count : Nat} (hcount : count ≤ header.nFilledLen) :
    (header.read count).length = count := by
  have := hvalid.alloc
  have := hvalid.fits
  simp only [read, List.length_take, List.length_drop]
  omega

theorem contents_length (hvalid : header.Valid) : header.contents.length = header.nFilledLen :=
  read_length hvalid (Nat.le_refl _)

theorem contents_take {count : Nat} (hcount : count ≤ header.nFilledLen) :
    header.contents.take count = header.read count := by
  simp only [contents, read, List.take_take, Nat.min_eq_left hcount]

theorem consume_valid (hvalid : header.Valid) {count : Nat} (hcount : count ≤ header.nFilledLen) :
    (header.consume count).Valid :=
  ⟨hvalid.alloc, by have := hvalid.fits; simp only [consume]; omega, hvalid.bounded⟩

@[simp] theorem consume_contents (header : BufferHeader) (count : Nat) :
    (header.consume count).contents = header.contents.drop count := by
  simp only [contents, read, consume, List.drop_take, List.drop_drop]

@[simp] theorem consume_zero (header : BufferHeader) : header.consume 0 = header := rfl

@[simp] theorem consume_consume (header : BufferHeader) (first second : Nat) :
    (header.consume first).consume second = header.consume (first + second) := by
  simp only [consume, Nat.sub_sub, Nat.add_assoc]

@[simp] theorem consume_nFilledLen (header : BufferHeader) (count : Nat) :
    (header.consume count).nFilledLen = header.nFilledLen - count := rfl

@[simp] theorem consume_nOffset (header : BufferHeader) (count : Nat) :
    (header.consume count).nOffset = header.nOffset + count := rfl

@[simp] theorem consume_nFlags (header : BufferHeader) (count : Nat) :
    (header.consume count).nFlags = header.nFlags := rfl

@[simp] theorem consume_nTimeStamp (header : BufferHeader) (count : Nat) :
    (header.consume count).nTimeStamp = header.nTimeStamp := rfl

@[simp] theorem append_nFilledLen (header : BufferHeader) (bytes : List UInt8) :
    (header.append bytes).nFilledLen = header.nFilledLen + bytes.length := rfl

@[simp] theorem append_nOffset (header : BufferHeader) (bytes : List UInt8) :
    (header.append bytes).nOffset = header.nOffset := rfl

@[simp] theorem append_nAllocLen (header : BufferHeader) (bytes : List UInt8) :
    (header.append bytes).nAllocLen = header.nAllocLen := rfl

@[simp] theorem append_nFlags (header : BufferHeader) (bytes : List UInt8) :
    (header.append bytes).nFlags = header.nFlags := rfl

@[simp] theorem append_nTimeStamp (header : BufferHeader) (bytes : List UInt8) :
    (header.append bytes).nTimeStamp = header.nTimeStamp := rfl

@[simp] theorem stamp_nFilledLen (header source : BufferHeader) :
    (header.stamp source).nFilledLen = header.nFilledLen := rfl

@[simp] theorem stamp_nOffset (header source : BufferHeader) :
    (header.stamp source).nOffset = header.nOffset := rfl

@[simp] theorem stamp_nAllocLen (header source : BufferHeader) :
    (header.stamp source).nAllocLen = header.nAllocLen := rfl

@[simp] theorem stamp_room (header source : BufferHeader) :
    (header.stamp source).room = header.room := rfl

@[simp] theorem stamp_contents (header source : BufferHeader) :
    (header.stamp source).contents = header.contents := rfl

theorem stamp_valid (hvalid : header.Valid) (source : BufferHeader) :
    (header.stamp source).Valid :=
  ⟨hvalid.alloc, hvalid.fits, hvalid.bounded⟩

theorem append_append (hused : header.nFilledLen + header.nOffset ≤ header.pBuffer.length)
    (first second : List UInt8) :
    (header.append first).append second = header.append (first ++ second) := by
  have hmemory := memcpy_memcpy first second hused
  simp only [append, List.length_append, BufferHeader.mk.injEq, and_true, Nat.add_assoc]
  rw [← hmemory]
  congr 1
  omega

theorem append_valid (hvalid : header.Valid) {bytes : List UInt8}
    (hroom : header.nOffset + header.nFilledLen + bytes.length ≤ header.nAllocLen) :
    (header.append bytes).Valid := by
  refine ⟨?_, ?_, hvalid.bounded⟩
  · have hfit : header.nFilledLen + header.nOffset + bytes.length ≤ header.pBuffer.length := by
      rw [hvalid.alloc]
      omega
    exact (memcpy_length hfit).trans hvalid.alloc
  · simp only [append]
    omega

theorem append_contents (hvalid : header.Valid) {bytes : List UInt8}
    (hroom : header.nOffset + header.nFilledLen + bytes.length ≤ header.nAllocLen) :
    (header.append bytes).contents = header.contents ++ bytes := by
  have halloc := hvalid.alloc
  have hused : (header.pBuffer.take (header.nFilledLen + header.nOffset)).length
      = header.nFilledLen + header.nOffset := by
    rw [List.length_take]
    omega
  simp only [contents, read, append, memcpy]
  rw [List.append_assoc, List.drop_append_of_le_length (by omega), List.drop_take,
    Nat.add_sub_cancel, ← List.append_assoc, List.take_append_of_le_length]
  · rw [List.take_of_length_le]
    simp only [List.length_append, List.length_take, List.length_drop]
    omega
  · simp only [List.length_append, List.length_take, List.length_drop]
    omega

theorem contents_eq_cons (hvalid : header.Valid) (hfilled : 0 < header.nFilledLen) :
    header.contents = header.byteAt 0 :: (header.consume 1).contents := by
  have halloc := hvalid.alloc
  have hfits := hvalid.fits
  have hlt : header.nOffset < header.pBuffer.length := by omega
  obtain ⟨count, hcount⟩ : ∃ count, header.nFilledLen = count + 1 :=
    ⟨header.nFilledLen - 1, by omega⟩
  simp only [contents, read, consume, byteAt, Nat.add_zero, hcount, Nat.add_sub_cancel]
  rw [List.drop_eq_getElem_cons hlt, List.take_succ_cons, List.getD_eq_getElem _ _ hlt]

theorem byteAt_consume (header : BufferHeader) (count index : Nat) :
    (header.consume count).byteAt index = header.byteAt (count + index) := by
  simp only [byteAt, consume, Nat.add_assoc]

end BufferHeader

end Nozomi
