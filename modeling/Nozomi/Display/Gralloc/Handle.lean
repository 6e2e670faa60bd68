import Nozomi.Base.Align

/-!
# Gralloc handles

The handles of `gralloc_priv.h` and the constants of the gralloc module. An `int`, an address and a `size_t` are
words of 32 bits.
-/

namespace Nozomi.Gralloc

def invalidArgument : Int := -22
def outOfMemory : Int := -12

/-! ### Usage -/

def usageHw2d : BitVec 32 := 0x400
def usageHwFb : BitVec 32 := 0x1000
def usageSwReadMask : BitVec 32 := 0xF
def usageSwWriteMask : BitVec 32 := 0xF0
def usageSystemHeap : BitVec 32 := 0x10000000
def usageUiContigHeap : BitVec 32 := 0x20000000
def usageIommuHeap : BitVec 32 := 0x40000000
def usageMmHeap : BitVec 32 := 0x80000000
def usageCameraHeap : BitVec 32 := 0x01000000

def heapMask : BitVec 32 :=
  usageUiContigHeap ||| usageSystemHeap ||| usageIommuHeap ||| usageMmHeap ||| usageCameraHeap

/-! ### Handles -/

def flagFramebuffer : BitVec 32 := 0x1
def flagUsesPmem : BitVec 32 := 0x2
def flagUsesIon : BitVec 32 := 0x8
def flagNeedsFlush : BitVec 32 := 0x20
def flagDoNotFlush : BitVec 32 := 0x40
def flagSecureBuffer : BitVec 32 := 0x400

def bufferTypeUi : BitVec 32 := 0

def handleMagic : BitVec 32 := 0x676D736D

structure PrivateHandle where
  version : BitVec 32
  numFds : BitVec 32
  numInts : BitVec 32
  fd : BitVec 32
  fdMetadata : BitVec 32
  magic : BitVec 32
  flags : BitVec 32
  size : BitVec 32
  offset : BitVec 32
  bufferType : BitVec 32
  base : BitVec 32
  offsetMetadata : BitVec 32
  gpuaddr : BitVec 32
  format : BitVec 32
  width : BitVec 32
  height : BitVec 32
  baseMetadata : BitVec 32
  deriving DecidableEq, Repr

namespace PrivateHandle

def new (fd size flags bufferType format width height : BitVec 32) : PrivateHandle where
  version := 12
  numFds := 2
  numInts := 12
  fd := fd
  fdMetadata := -1
  magic := handleMagic
  flags := flags
  size := size
  offset := 0
  bufferType := bufferType
  base := 0
  offsetMetadata := 0
  gpuaddr := 0
  format := format
  width := width
  height := height
  baseMetadata := 0

def hasFlag (hnd : PrivateHandle) (flag : BitVec 32) : Bool := hnd.flags &&& flag != 0

def validate (hnd : PrivateHandle) : Bool :=
  hnd.version == 12 && hnd.numInts == 12 && hnd.numFds == 2 && hnd.magic == handleMagic

/-- What a buffer is, wherever it is mapped. -/
structure SameBuffer (hnd other : PrivateHandle) : Prop where
  size : hnd.size = other.size
  format : hnd.format = other.format
  width : hnd.width = other.width
  height : hnd.height = other.height

theorem SameBuffer.refl (hnd : PrivateHandle) : hnd.SameBuffer hnd := ⟨rfl, rfl, rfl, rfl⟩

theorem SameBuffer.trans {hnd other third : PrivateHandle} (hfirst : hnd.SameBuffer other)
    (hsecond : other.SameBuffer third) : hnd.SameBuffer third :=
  ⟨hfirst.size.trans hsecond.size, hfirst.format.trans hsecond.format, hfirst.width.trans hsecond.width,
    hfirst.height.trans hsecond.height⟩

end PrivateHandle

def pageSize : BitVec 32 := 4096

def roundUpToPageSize (x : BitVec 32) : BitVec 32 := (x + (pageSize - 1)) &&& ~~~(pageSize - 1)

theorem roundUpToPageSize_eq (x : BitVec 32) : roundUpToPageSize x = alignUp x pageSize := by
  rw [roundUpToPageSize, alignUp, BitVec.sub_eq_add_neg, BitVec.sub_eq_add_neg, BitVec.add_assoc]

theorem isPowerOfTwo_pageSize : IsPowerOfTwo pageSize := ⟨12, by decide, by decide⟩

end Nozomi.Gralloc
