import Nozomi.Base.Loop
import Nozomi.Vdec.Component.Extradata
import Mathlib.Data.BitVec

/-!
# The walk over the driver's extra data

The loop of `handle_extradata` of `omx_vdec.cpp`, with `count_MB_in_extradata` and what
`print_debug_extradata` reads, in a memory of 32-bit addresses. The walk goes from element to element by their
`nSize`. Each iteration has a list of the ranges of memory that it reads or writes: the header of an element, its
payload, and the structures that are printed. A payload is read byte by byte for the macroblocks, and given to
`parse_nal` otherwise.
-/

namespace Nozomi

abbrev ExtradataMemory := BitVec 32 → BitVec 8

namespace ExtradataMemory

variable (memory : ExtradataMemory) (address : BitVec 32)

def word : BitVec 32 := memory (address + 3) ++ memory (address + 2) ++ memory (address + 1) ++ memory address

def setWord (value : BitVec 32) : ExtradataMemory := fun other =>
  if (other - address).toNat < 4 then value.extractLsb' (8 * (other - address).toNat) 8 else memory other

/-! ### `OMX_OTHER_EXTRADATATYPE` -/

def nSize : BitVec 32 := memory.word address
def eType : BitVec 32 := memory.word (address + 12)
def nDataSize : BitVec 32 := memory.word (address + 16)

def next : BitVec 32 := address + memory.nSize address

def payloadBits : BitVec 32 :=
  (List.range (memory.nDataSize address).toNat).foldl (fun count index =>
    count + ((List.range 8).filter (memory (address + 20 + BitVec.ofNat 32 index)).getLsbD).length) 0

end ExtradataMemory

/-- An address and the number of bytes from there on. -/
structure ByteRange where
  address : BitVec 32
  length : Nat
  deriving DecidableEq, Repr

/-- The fields of the buffer header, and the address of the buffer. -/
structure ExtradataBuffer where
  pBuffer : BitVec 32
  nOffset : BitVec 32
  nFilledLen : BitVec 32
  nAllocLen : BitVec 32
  nFlags : BitVec 32
  deriving DecidableEq, Repr

namespace ExtradataBuffer

variable (buffer : ExtradataBuffer)

def bound : BitVec 32 := buffer.pBuffer + buffer.nAllocLen

def first : BitVec 32 := (buffer.pBuffer + buffer.nOffset + buffer.nFilledLen + 3#32) &&& ~~~3#32

def Inside (range : ByteRange) : Prop :=
  buffer.pBuffer.toNat ≤ range.address.toNat ∧
    range.address.toNat + range.length ≤ buffer.pBuffer.toNat + buffer.nAllocLen.toNat

instance : DecidablePred buffer.Inside := fun _ => inferInstanceAs (Decidable (_ ∧ _))

end ExtradataBuffer

def vdecExtradataNone : BitVec 32 := 0x001#32

/-- Of the headers of OMX: `OMX_BUFFERFLAG_EXTRADATA`, `OMX_ExtraDataConcealMB`, `OMX_ExtraDataMax`,
`OMX_ExtraDataInterlaceFormat` and `OMX_ExtraDataFrameInfo`, the sizes of the two structures that are printed,
and where the second one has its number of windows and the windows. -/
structure ExtradataFormat where
  bufferFlagExtradata : BitVec 32
  concealMB : BitVec 32
  max : BitVec 32
  interlaceFormat : BitVec 32
  frameInfo : BitVec 32
  interlaceSize : Nat
  frameInfoSize : Nat
  numWindowsOffset : BitVec 32
  windowOffset : BitVec 32
  windowSize : Nat
  deriving DecidableEq, Repr

/-- The fields of the component for the extra data. `MAX_RES_1080P` builds give the payloads to `parse_nal`. -/
structure ExtradataHandler where
  format : ExtradataFormat
  extradata : BitVec 32
  clientExtradata : BitVec 32
  frameWidth : BitVec 32
  frameHeight : BitVec 32
  debugExtradata : Bool
  maxRes1080P : Bool
  deriving DecidableEq, Repr

/-- The variables of `handle_extradata`, with the memory. -/
structure ExtradataWalk where
  memory : ExtradataMemory
  pExtra : Option (BitVec 32)
  numConcealMB : BitVec 32
  pSei : Option (BitVec 32)
  pVui : Option (BitVec 32)

namespace ExtradataHandler

variable (handler : ExtradataHandler) (buffer : ExtradataBuffer) (memory : ExtradataMemory) (address : BitVec 32)

def countMBInExtradata : BitVec 32 :=
  let numMBInFrame := ((handler.frameWidth + 15) * (handler.frameHeight + 15)) >>> 8
  if numMBInFrame > 0 then memory.payloadBits address * 100 / numMBInFrame else 0

def exposedType (eType : BitVec 32) : BitVec 32 :=
  if eType = vdecExtradataMbErrorMap then
    if handler.clientExtradata &&& vdecExtradataMbErrorMap ≠ 0 then handler.format.concealMB
    else handler.format.max
  else if eType = vdecExtradataSei ∨ eType = vdecExtradataVui then handler.format.max
  else eType

local instance lawfulBEq_eType : LawfulBEq (BitVec 32) := inferInstance

def expose : ExtradataMemory :=
  if memory.eType address ∈ [vdecExtradataMbErrorMap, vdecExtradataSei, vdecExtradataVui] then
    memory.setWord (address + 12) (handler.exposedType (memory.eType address))
  else memory

def advance : Option (BitVec 32) :=
  if memory.next address > buffer.bound then none
  else if memory.nDataSize (memory.next address) = 0 ∨ memory.nSize (memory.next address) = 0 then none
  else some (memory.next address)

def test (walk : ExtradataWalk) : Bool :=
  match walk.pExtra with
  | none => false
  | some address => walk.memory.eType address ≠ vdecExtradataNone

def body (walk : ExtradataWalk) : ExtradataWalk :=
  match walk.pExtra with
  | none => walk
  | some address =>
    if walk.memory.nSize address < walk.memory.nDataSize address then
      -- Corrupt metadata
      { walk with pExtra := advance buffer walk.memory address }
    else
      let eType := walk.memory.eType address
      let memory := handler.expose walk.memory address
      { memory := memory
        pExtra := advance buffer memory address
        numConcealMB :=
          if eType = vdecExtradataMbErrorMap ∧ handler.clientExtradata &&& frameInfoExtradata ≠ 0 then
            handler.countMBInExtradata walk.memory address
          else walk.numConcealMB
        pSei := if eType = vdecExtradataSei then some address else walk.pSei
        pVui := if eType = vdecExtradataVui then some address else walk.pVui }

def start : ExtradataWalk :=
  { memory := memory
    pExtra := if buffer.first > buffer.bound then none else some buffer.first
    numConcealMB := 0
    pSei := none
    pVui := none }

def Processes : Prop :=
  handler.extradata ≠ 0 ∧ buffer.nFlags &&& handler.format.bufferFlagExtradata ≠ 0

instance : Decidable (handler.Processes buffer) := inferInstanceAs (Decidable (_ ∧ _))

def walks (fuel : Nat) : List ExtradataWalk :=
  whileStates test (handler.body buffer) fuel (start buffer memory)

def Ends : Prop := ∃ fuel, test (whileLoop test (handler.body buffer) fuel (start buffer memory)) = false

/-! ### What an iteration reads and writes -/

def header : ByteRange := ⟨address, 20⟩

def payload : ByteRange := ⟨address + 20, (memory.nDataSize address).toNat⟩

def ReadsPayload (eType : BitVec 32) : Prop :=
  eType = vdecExtradataMbErrorMap ∧ handler.clientExtradata &&& frameInfoExtradata ≠ 0 ∨
    (eType = vdecExtradataSei ∨ eType = vdecExtradataVui) ∧ handler.maxRes1080P

instance : DecidablePred handler.ReadsPayload := fun _ => inferInstanceAs (Decidable (_ ∨ _))

def printed : List ByteRange :=
  if handler.debugExtradata then
    if memory.eType address = handler.format.interlaceFormat then [⟨address + 20, handler.format.interlaceSize⟩]
    else if memory.eType address = handler.format.frameInfo then
      [⟨address + 20, handler.format.frameInfoSize⟩,
        ⟨address + 20 + handler.format.windowOffset,
          (memory.word (address + 20 + handler.format.numWindowsOffset)).toNat * handler.format.windowSize⟩]
    else []
  else []

def nextHeader : List ByteRange :=
  if memory.next address > buffer.bound then [] else [header (memory.next address)]

def accesses (walk : ExtradataWalk) : List ByteRange :=
  match walk.pExtra with
  | none => []
  | some address =>
    header address ::
      if walk.memory.eType address = vdecExtradataNone then []
      else if walk.memory.nSize address < walk.memory.nDataSize address then
        nextHeader buffer walk.memory address
      else
        (if handler.ReadsPayload (walk.memory.eType address) then [payload walk.memory address] else []) ++
          handler.printed (handler.expose walk.memory address) address ++
          nextHeader buffer (handler.expose walk.memory address) address

def Contained : Prop :=
  handler.Processes buffer → handler.Ends buffer memory ∧
    ∀ fuel, ∀ walk ∈ handler.walks buffer memory fuel, ∀ range ∈ handler.accesses buffer walk,
      buffer.Inside range

/-! ### The area that the driver may write -/

/-- What is used of an element lies inside: its header, and if it is not corrupt the payload, where that is read,
and what is printed. -/
def ElementInside : Prop :=
  buffer.Inside (header address) ∧
    (memory.nDataSize address ≤ memory.nSize address →
      (handler.ReadsPayload (memory.eType address) → buffer.Inside (payload memory address)) ∧
        ∀ range ∈ handler.printed (handler.expose memory address) address, buffer.Inside range)

/-- The memory for the element that follows: the type of this one is replaced, unless it is corrupt. -/
def behind : ExtradataMemory :=
  if memory.nSize address < memory.nDataSize address then memory else handler.expose memory address

end ExtradataHandler

/-! ### The memory behind an element -/

namespace ExtradataMemory

variable {memory : ExtradataMemory} {address other : BitVec 32}

theorem setWord_of_apart (value : BitVec 32) (hapart : 4 ≤ (other - address).toNat) :
    memory.setWord address value other = memory other :=
  if_neg (Nat.not_lt.mpr hapart)

theorem nSize_setWord (memory : ExtradataMemory) (address value : BitVec 32) :
    (memory.setWord (address + 12) value).nSize address = memory.nSize address := by
  have hzero : 4 ≤ (address - (address + 12)).toNat := by bv_omega
  have hone : 4 ≤ (address + 1 - (address + 12)).toNat := by bv_omega
  have htwo : 4 ≤ (address + 2 - (address + 12)).toNat := by bv_omega
  have hthree : 4 ≤ (address + 3 - (address + 12)).toNat := by bv_omega
  rw [nSize, word, setWord_of_apart value hzero, setWord_of_apart value hone, setWord_of_apart value htwo,
    setWord_of_apart value hthree]
  rfl

end ExtradataMemory

namespace ExtradataHandler

/-- An area of extra data at an address. A terminator ends it, or an element with nothing behind it in the buffer or
with a header behind it that has no data or no size. -/
inductive Area (handler : ExtradataHandler) (buffer : ExtradataBuffer) : ExtradataMemory → BitVec 32 → Prop
  | terminator {memory : ExtradataMemory} {address : BitVec 32} (hheader : buffer.Inside (header address))
      (hnone : memory.eType address = vdecExtradataNone) : Area handler buffer memory address
  | last {memory : ExtradataMemory} {address : BitVec 32} (hother : memory.eType address ≠ vdecExtradataNone)
      (helement : handler.ElementInside buffer memory address)
      (hend : buffer.bound < memory.next address ∨ buffer.Inside (header (memory.next address)) ∧
        ((handler.behind memory address).nDataSize (memory.next address) = 0 ∨
          (handler.behind memory address).nSize (memory.next address) = 0)) : Area handler buffer memory address
  | element {memory : ExtradataMemory} {address : BitVec 32} (hother : memory.eType address ≠ vdecExtradataNone)
      (helement : handler.ElementInside buffer memory address) (hnext : memory.next address ≤ buffer.bound)
      (hdata : (handler.behind memory address).nDataSize (memory.next address) ≠ 0)
      (hsize : (handler.behind memory address).nSize (memory.next address) ≠ 0)
      (hrest : Area handler buffer (handler.behind memory address) (memory.next address)) :
      Area handler buffer memory address

variable {handler : ExtradataHandler} {buffer : ExtradataBuffer} {walk : ExtradataWalk}

theorem nSize_expose (memory : ExtradataMemory) (address : BitVec 32) :
    (handler.expose memory address).nSize address = memory.nSize address := by
  rw [expose]
  split
  · exact memory.nSize_setWord address _
  · rfl

theorem next_behind (memory : ExtradataMemory) (address : BitVec 32) :
    (handler.behind memory address).next address = memory.next address := by
  rw [behind]
  split
  · rfl
  · rw [ExtradataMemory.next, nSize_expose, ExtradataMemory.next]

/-! ### One iteration -/

variable {address : BitVec 32}

theorem memory_body (hextra : walk.pExtra = some address) :
    (handler.body buffer walk).memory = handler.behind walk.memory address := by
  simp only [body, hextra, behind]
  split <;> rfl

theorem pExtra_body (hextra : walk.pExtra = some address) :
    (handler.body buffer walk).pExtra = advance buffer (handler.behind walk.memory address) address := by
  simp only [body, hextra, behind]
  split <;> rfl

theorem test_eq_true_iff (hextra : walk.pExtra = some address) :
    test walk = true ↔ walk.memory.eType address ≠ vdecExtradataNone := by
  simp only [test, hextra, decide_eq_true_eq]

theorem forall_mem_nextHeader {memory : ExtradataMemory} :
    (∀ range ∈ nextHeader buffer memory address, buffer.Inside range) ↔
      (memory.next address ≤ buffer.bound → buffer.Inside (header (memory.next address))) := by
  rw [nextHeader]
  split
  · have hbeyond : ¬memory.next address ≤ buffer.bound := BitVec.not_le.mpr ‹_›
    exact ⟨fun _ hle => absurd hle hbeyond, fun _ _ hrange => absurd hrange List.not_mem_nil⟩
  · have hle : memory.next address ≤ buffer.bound := BitVec.not_lt.mp ‹_›
    rw [List.forall_mem_singleton]
    exact ⟨fun hinside _ => hinside, fun hinside => hinside hle⟩

theorem forall_mem_accesses (hextra : walk.pExtra = some address)
    (hother : walk.memory.eType address ≠ vdecExtradataNone) :
    (∀ range ∈ handler.accesses buffer walk, buffer.Inside range) ↔
      handler.ElementInside buffer walk.memory address ∧
        (walk.memory.next address ≤ buffer.bound → buffer.Inside (header (walk.memory.next address))) := by
  simp only [accesses, hextra, List.forall_mem_cons, if_neg hother, ElementInside, and_assoc]
  apply and_congr_right
  intro _
  split
  · have hcorrupt : ¬walk.memory.nDataSize address ≤ walk.memory.nSize address := BitVec.not_le.mpr ‹_›
    rw [forall_mem_nextHeader]
    exact ⟨fun hnext => ⟨fun hle => absurd hle hcorrupt, hnext⟩, And.right⟩
  have hnot : ¬walk.memory.nSize address < walk.memory.nDataSize address := ‹_›
  have hexpose : handler.behind walk.memory address = handler.expose walk.memory address := if_neg hnot
  rw [forall_prop_of_true (BitVec.not_lt.mp hnot), List.forall_mem_append, List.forall_mem_append,
    forall_mem_nextHeader, ← hexpose, next_behind, hexpose]
  apply and_congr_left
  intro _
  apply and_congr_left
  intro _
  split
  · rw [List.forall_mem_singleton, forall_prop_of_true ‹_›]
  · exact ⟨fun _ hreads => absurd hreads ‹_›, fun _ _ hrange => absurd hrange List.not_mem_nil⟩

/-! ### The loop -/

/-- The loop ends from here and stays inside. -/
def Safe (handler : ExtradataHandler) (buffer : ExtradataBuffer) (walk : ExtradataWalk) : Prop :=
  (∃ count, ExitsAfter test (handler.body buffer) count walk) ∧
    ∀ fuel, ∀ visited ∈ whileStates test (handler.body buffer) fuel walk,
      ∀ range ∈ handler.accesses buffer visited, buffer.Inside range

theorem safe_iff_of_test (htest : test walk = true) :
    handler.Safe buffer walk ↔
      (∀ range ∈ handler.accesses buffer walk, buffer.Inside range) ∧
        handler.Safe buffer (handler.body buffer walk) := by
  rw [Safe, forall_whileStates_iff htest, ExitsAfter.exists_iff_of_test htest, Safe]
  exact and_left_comm

theorem safe_iff_of_not (htest : test walk = false) :
    handler.Safe buffer walk ↔ ∀ range ∈ handler.accesses buffer walk, buffer.Inside range := by
  simp only [Safe, whileStates_of_not htest, List.mem_singleton, forall_eq, forall_const]
  exact and_iff_right ⟨0, htest⟩

theorem safe_of_none (hextra : walk.pExtra = none) : handler.Safe buffer walk := by
  have htest : test walk = false := by simp only [test, hextra]
  rw [safe_iff_of_not htest, accesses, hextra]
  exact fun _ hrange => absurd hrange List.not_mem_nil

theorem Area.header_inside {memory : ExtradataMemory} (harea : handler.Area buffer memory address) :
    buffer.Inside (header address) := by
  cases harea with
  | terminator hheader _ => exact hheader
  | last _ helement _ => exact helement.1
  | element _ helement _ _ _ _ => exact helement.1

theorem Area.safe {memory : ExtradataMemory} (harea : handler.Area buffer memory address) :
    ∀ walk : ExtradataWalk, walk.memory = memory → walk.pExtra = some address → handler.Safe buffer walk := by
  induction harea with
  | terminator hheader hnone =>
    rintro walk rfl hextra
    have htest : test walk = false := by
      rw [← Bool.not_eq_true, test_eq_true_iff hextra]
      exact fun hother => hother hnone
    rw [safe_iff_of_not htest, accesses, hextra]
    simpa only [if_pos hnone, List.forall_mem_singleton] using hheader
  | @last memory address hother helement hend =>
    rintro walk rfl hextra
    rw [safe_iff_of_test ((test_eq_true_iff hextra).mpr hother), forall_mem_accesses hextra hother]
    rcases hend with hbeyond | ⟨hheader, hempty⟩
    · have hnone : (handler.body buffer walk).pExtra = none := by
        rw [pExtra_body hextra, advance, next_behind, if_pos hbeyond]
      exact ⟨⟨helement, fun hle => absurd hle (BitVec.not_le.mpr hbeyond)⟩, safe_of_none hnone⟩
    · have hnone : (handler.body buffer walk).pExtra = none := by
        rw [pExtra_body hextra, advance, next_behind, if_pos hempty, ite_self]
      exact ⟨⟨helement, fun _ => hheader⟩, safe_of_none hnone⟩
  | @element memory address hother helement hnext hdata hsize hrest ih =>
    rintro walk rfl hextra
    rw [safe_iff_of_test ((test_eq_true_iff hextra).mpr hother), forall_mem_accesses hextra hother]
    have hbody : (handler.body buffer walk).pExtra = some (walk.memory.next address) := by
      rw [pExtra_body hextra, advance, next_behind, if_neg (BitVec.not_lt.mpr hnext),
        if_neg (not_or.mpr ⟨hdata, hsize⟩)]
    exact ⟨⟨helement, fun _ => hrest.header_inside⟩, ih _ (memory_body hextra) hbody⟩

theorem area_of_exitsAfter {count : Nat} :
    ∀ {walk : ExtradataWalk} {address : BitVec 32}, walk.pExtra = some address →
      ExitsAfter test (handler.body buffer) count walk → handler.Safe buffer walk →
        handler.Area buffer walk.memory address := by
  induction count with
  | zero =>
    intro walk address hextra hexits hsafe
    have hnone : walk.memory.eType address = vdecExtradataNone := by
      by_contra hother
      exact Bool.false_ne_true (hexits.symm.trans ((test_eq_true_iff hextra).mpr hother))
    rw [safe_iff_of_not hexits, accesses, hextra] at hsafe
    exact .terminator (hsafe _ List.mem_cons_self) hnone
  | succ count ih =>
    rintro walk address hextra ⟨htest, hexits⟩ hsafe
    have hother := (test_eq_true_iff hextra).mp htest
    rw [safe_iff_of_test htest, forall_mem_accesses hextra hother] at hsafe
    obtain ⟨⟨helement, hheader⟩, hrest⟩ := hsafe
    have hbody := @pExtra_body handler buffer _ _ hextra
    rw [advance, next_behind] at hbody
    split at hbody
    · exact .last hother helement (Or.inl ‹_›)
    · have hnext : walk.memory.next address ≤ buffer.bound := BitVec.not_lt.mp ‹_›
      split at hbody
      · exact .last hother helement (Or.inr ⟨hheader hnext, ‹_›⟩)
      · obtain ⟨hdata, hsize⟩ := not_or.mp ‹¬(_ ∨ _)›
        have harea := ih hbody hexits hrest
        rw [memory_body hextra] at harea
        exact .element hother helement hnext hdata hsize harea

/-- The walk ends and stays inside of the buffer if and only if it finds a well-formed area behind the frame, or
nothing of the buffer. -/
theorem contained_iff (handler : ExtradataHandler) (buffer : ExtradataBuffer) (memory : ExtradataMemory) :
    handler.Contained buffer memory ↔
      (handler.Processes buffer → buffer.bound < buffer.first ∨ handler.Area buffer memory buffer.first) := by
  have hsafe : handler.Contained buffer memory ↔
      (handler.Processes buffer → handler.Safe buffer (start buffer memory)) := by
    rw [Contained, Ends, ← exists_exitsAfter_iff]
    rfl
  rw [hsafe]
  apply imp_congr_right
  intro _
  by_cases hbeyond : buffer.bound < buffer.first
  · have hextra : (start buffer memory).pExtra = none := if_pos hbeyond
    exact iff_of_true (safe_of_none hextra) (Or.inl hbeyond)
  · have hextra : (start buffer memory).pExtra = some buffer.first := if_neg hbeyond
    rw [or_iff_right hbeyond]
    constructor
    · intro hsafe
      obtain ⟨count, hexits⟩ := hsafe.1
      exact area_of_exitsAfter hextra hexits hsafe
    · exact fun harea => harea.safe _ rfl hextra

/-- A frame that fills its buffer: the header that is read first is behind the end. -/
theorem not_contained :
    ¬ExtradataHandler.Contained
      ⟨⟨0x40, 0x7F000006, 0x7FFFFFFF, 0x7F000007, 0x7F000001, 20, 100, 8, 12, 16⟩, 0x008, 0, 176, 144, false, true⟩
      ⟨0x40000000, 0, 0x10000, 0x10000, 0x40⟩ (fun _ => 0) := by
  intro hcontained
  obtain ⟨-, hinside⟩ := hcontained (by decide)
  have hheader := hinside 0 _ List.mem_cons_self (header 0x40010000) (by decide)
  exact absurd hheader (by decide)

end ExtradataHandler

end Nozomi
