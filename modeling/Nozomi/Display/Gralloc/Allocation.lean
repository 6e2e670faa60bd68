import Mathlib.Order.Monotone.Basic
import Nozomi.Display.Gralloc.Sizes

/-!
# Allocation

`alloc_impl` of `gpu.cpp` takes the size of a buffer from its format and makes a handle with the size rounded up to
pages. What the memory allocator answers is given to the model.
-/

namespace Nozomi.Gralloc

def usageHwTexture : BitVec 32 := 0x100
def usageHwComposer : BitVec 32 := 0x800
def usageExternalDisp : BitVec 32 := 0x2000
def usageProtected : BitVec 32 := 0x4000
def usageHwVideoEncoder : BitVec 32 := 0x10000
def usageHwCameraWrite : BitVec 32 := 0x20000
def usageHwCameraRead : BitVec 32 := 0x40000
def usageHwCameraZsl : BitVec 32 := 0x60000
def usageExternalBlock : BitVec 32 := 0x00100000
def usageExternalCc : BitVec 32 := 0x00200000
def usageCpBuffer : BitVec 32 := 0x00400000
def usageExternalOnly : BitVec 32 := 0x08000000

def flagExternalOnly : BitVec 32 := 0x2000
def flagExternalBlock : BitVec 32 := 0x4000
def flagExternalCc : BitVec 32 := 0x8000
def flagVideoEncoder : BitVec 32 := 0x10000
def flagCameraWrite : BitVec 32 := 0x20000
def flagCameraRead : BitVec 32 := 0x40000
def flagHwComposer : BitVec 32 := 0x80000
def flagHwTexture : BitVec 32 := 0x100000
def flagItuR601 : BitVec 32 := 0x200000
def flagItuR601Fr : BitVec 32 := 0x400000
def flagItuR709 : BitVec 32 := 0x800000

def bufferTypeVideo : BitVec 32 := 1

def grallocFormat (format usage : BitVec 32) : BitVec 32 :=
  -- `HAL_PIXEL_FORMAT_IMPLEMENTATION_DEFINED` and `HAL_PIXEL_FORMAT_YCbCr_420_888`
  if format = 0x22 ∨ format = 0x23 then
    if usage &&& usageHwVideoEncoder ≠ 0 then 0x102
    else if usage &&& usageHwCameraRead ≠ 0 then 0x11
    else if usage &&& usageHwCameraWrite ≠ 0 then 0x11
    else if format = 0x23 ∧ (usage &&& usageSwWriteMask ≠ 0 ∨ usage &&& usageSwReadMask ≠ 0) then 0x11
    else format
  else format

def getGrallocInformationFromFormat (format : BitVec 32) : BitVec 32 :=
  if format.sle 5 then bufferTypeUi
  else if format = 0x10D ∨ format = 0x10E then bufferTypeUi
  else bufferTypeVideo

def bufferTypeFor (format usage : BitVec 32) : BitVec 32 :=
  if usage &&& usageExternalDisp ≠ 0 ∨ usage &&& usageProtected ≠ 0 then bufferTypeVideo
  else getGrallocInformationFromFormat format

def bufferFlags (mdss5 : Bool) (usage bufferType : BitVec 32) : BitVec 32 :=
  let given (bits flag : BitVec 32) : BitVec 32 := if usage &&& bits ≠ 0 then flag else 0
  let external :=
    if usage &&& usageExternalOnly ≠ 0 then
      -- the EXTERNAL_BLOCK flag is always an add-on
      flagExternalOnly ||| given usageExternalBlock flagExternalBlock ||| given usageExternalCc flagExternalCc
    else 0
  let colours :=
    if bufferType = bufferTypeVideo then
      if usage &&& usageHwCameraWrite ≠ 0 then
        if !mdss5 then flagItuR601Fr
        else if usage &&& (usageHwTexture ||| usageHwVideoEncoder) ≠ 0 then flagItuR709
        else given usageHwCameraZsl flagItuR601Fr
      else flagItuR601
    else 0
  external ||| colours ||| given usageHwVideoEncoder flagVideoEncoder ||| given usageHwCameraWrite flagCameraWrite |||
    given usageHwCameraRead flagCameraRead ||| given usageHwComposer flagHwComposer |||
    given usageHwTexture flagHwTexture

/-- What `IonController::allocate` answers. -/
structure AllocOutcome where
  err : Int
  fd : BitVec 32
  offset : BitVec 32
  base : BitVec 32
  deriving DecidableEq, Repr

def allocType (usage : BitVec 32) : BitVec 32 :=
  (if usage &&& usageProtected ≠ 0 then flagSecureBuffer else 0) ||| flagUsesIon

def bufferBytes (mdss5 : Bool) (format usage size : BitVec 32) : BitVec 32 :=
  let size := roundUpToPageSize size
  let align := if PixelFormat.ofCode format = .yCbCr420SpTiled then 8192 else pageSize
  -- force 1MB alignment selectively for secure buffers, MDP5 onwards
  if mdss5 ∧ usage &&& usageProtected ≠ 0 then alignUp size (alignUp align 0x100000) else size

def grallocAllocBuffer (mdss5 : Bool) (size usage bufferType format width height : BitVec 32)
    (data eData : AllocOutcome) : Int × Option PrivateHandle :=
  if data.err = 0 then
    let size := bufferBytes mdss5 format usage size
    let flags := bufferFlags mdss5 usage bufferType ||| allocType usage
    (0, some { PrivateHandle.new data.fd size flags bufferType format width height with
      fdMetadata := eData.fd
      offsetMetadata := eData.offset
      baseMetadata := eData.base + eData.offset
      offset := data.offset
      base := data.base + data.offset })
  else (data.err, none)

/-- What `alloc_impl` does: an error, a call for memory of the framebuffer, or a buffer with its stride. An error
above zero counts as none, and leaves no handle. -/
inductive Allocation where
  | failed (status : Int)
  | framebuffer (size usage stride : BitVec 32)
  | regular (hnd : Option PrivateHandle) (stride : BitVec 32)
  deriving DecidableEq, Repr

def requestedSize (usage bufferSize size : BitVec 32) : BitVec 32 :=
  let size := if usage &&& (usageMmHeap ||| usageCpBuffer) = usageMmHeap ||| usageCpBuffer then size + 8192 else size
  if size ≤ bufferSize then bufferSize else size

def allocImpl (padding : AdrenoPadding) (mdss5 mapFbMemory : Bool) (width height format usage bufferSize : BitVec 32)
    (data eData : AllocOutcome) : Allocation :=
  let grallocFormat := grallocFormat format usage
  let dimensions := getBufferSizeAndDimensions padding width height (.ofCode grallocFormat)
  if ¬dimensions.Accepted then .failed invalidArgument
  else
    let size := requestedSize usage bufferSize dimensions.size
    let bufferType := bufferTypeFor grallocFormat usage
    if usage &&& usageHwFb ≠ 0 ∧ mapFbMemory then .framebuffer size usage dimensions.alignedw
    else
      let (err, hnd) :=
        grallocAllocBuffer mdss5 size usage bufferType grallocFormat dimensions.alignedw dimensions.alignedh data eData
      if err < 0 then .failed err else .regular hnd dimensions.alignedw

theorem grallocAllocBuffer_some {mdss5 : Bool} {size usage bufferType format width height : BitVec 32}
    {data eData : AllocOutcome} {hnd : PrivateHandle}
    (hmade : (grallocAllocBuffer mdss5 size usage bufferType format width height data eData).2 = some hnd) :
    hnd.size = bufferBytes mdss5 format usage size ∧ hnd.format = format ∧ hnd.width = width ∧
      hnd.height = height := by
  unfold grallocAllocBuffer at hmade
  split at hmade
  · rw [← Option.some.inj hmade]
    exact ⟨rfl, rfl, rfl, rfl⟩
  · contradiction

theorem allocImpl_eq_regular {padding : AdrenoPadding} {mdss5 mapFbMemory : Bool}
    {width height format usage bufferSize stride : BitVec 32} {data eData : AllocOutcome} {hnd : PrivateHandle}
    (hallocated : allocImpl padding mdss5 mapFbMemory width height format usage bufferSize data eData =
      .regular (some hnd) stride) :
    let dimensions := getBufferSizeAndDimensions padding width height (.ofCode (grallocFormat format usage))
    dimensions.Accepted ∧
      hnd.size =
        bufferBytes mdss5 (grallocFormat format usage) usage (requestedSize usage bufferSize dimensions.size) ∧
      hnd.format = grallocFormat format usage ∧ hnd.width = dimensions.alignedw ∧
      hnd.height = dimensions.alignedh := by
  intro dimensions
  unfold allocImpl at hallocated
  by_cases haccepted : dimensions.Accepted
  · refine ⟨haccepted, ?_⟩
    rw [if_neg (not_not.mpr haccepted)] at hallocated
    dsimp only at hallocated
    by_cases hframebuffer : usage &&& usageHwFb ≠ 0 ∧ mapFbMemory = true
    · rw [if_pos hframebuffer] at hallocated
      contradiction
    · rw [if_neg hframebuffer] at hallocated
      split at hallocated
      · contradiction
      · exact grallocAllocBuffer_some (Allocation.regular.inj hallocated).1
  · rw [if_pos haccepted] at hallocated
    contradiction

/-! ### Sizes -/

section

variable (mdss5 : Bool) (format usage bufferSize size : BitVec 32)

def sizeUnit : Int := if mdss5 ∧ usage &&& usageProtected ≠ 0 then 1048576 else 4096

def secureExtra : Int :=
  if usage &&& (usageMmHeap ||| usageCpBuffer) = usageMmHeap ||| usageCpBuffer then 8192 else 0

theorem sizeUnit_bounds :
    0 < sizeUnit mdss5 usage ∧ sizeUnit mdss5 usage ≤ 1048576 ∧ sizeUnit mdss5 usage ∣ 2 ^ 32 := by
  unfold sizeUnit
  split <;> decide

theorem secureExtra_bounds : 0 ≤ secureExtra usage ∧ secureExtra usage ≤ 8192 := by
  unfold secureExtra
  split <;> decide

theorem isPowerOfTwo_1M : IsPowerOfTwo (0x100000 : BitVec 32) := ⟨20, by decide, by decide⟩

theorem wraps_bufferBytes :
    Wraps (bufferBytes mdss5 format usage size) (roundUp (sizeUnit mdss5 usage) size.toNat) := by
  have hpages : Wraps (roundUpToPageSize size) (roundUp 4096 size.toNat) := by
    rw [roundUpToPageSize_eq]
    exact (wraps_toNat size).alignUp isPowerOfTwo_pageSize
  have halign : alignUp (if PixelFormat.ofCode format = .yCbCr420SpTiled then 8192 else pageSize) 0x100000 =
      0x100000 := by
    split <;> decide
  unfold bufferBytes sizeUnit
  dsimp only
  split
  · rw [halign, ← roundUp_roundUp (show (0 : Int) < 4096 by decide) (by decide) (by decide)]
    exact hpages.alignUp isPowerOfTwo_1M
  · exact hpages

theorem le_bufferBytes_iff {bytes : Int} (hpositive : 0 < bytes) :
    bytes ≤ (bufferBytes mdss5 format usage size).toNat ↔
      roundUp (sizeUnit mdss5 usage) size.toNat < 2 ^ 32 ∧ bytes ≤ roundUp (sizeUnit mdss5 usage) size.toNat := by
  obtain ⟨hunit, -, hdvd⟩ := sizeUnit_bounds mdss5 usage
  have hwraps := wraps_bufferBytes mdss5 format usage size
  have hbelow := (roundUp_bounds hunit size.toNat).1
  have hend := (roundUp_le_iff hunit hdvd (x := size.toNat)).mpr (by omega)
  by_cases hfits : roundUp (sizeUnit mdss5 usage) size.toNat < 2 ^ 32
  · rw [hwraps.toNat_eq (by omega) hfits, and_iff_right hfits]
  · rw [hwraps, show roundUp (sizeUnit mdss5 usage) size.toNat = 2 ^ 32 by omega]
    refine ⟨fun hcovers => absurd hcovers ?_, fun hcovers => absurd hcovers.1 (by decide)⟩
    change ¬bytes ≤ 0
    omega

variable {size}

theorem toNat_requestedSize (haccepted : 0 < size.toInt) :
    ((requestedSize usage bufferSize size).toNat : Int) =
      max (bufferSize.toNat : Int) (size.toNat + secureExtra usage) := by
  have hlt := size.isLt
  rw [BitVec.toInt_eq_toNat_cond] at haccepted
  have hsize : size.toNat < 2 ^ 31 := by
    split at haccepted <;> omega
  have hsum : (size + 8192).toNat = size.toNat + 8192 := BitVec.toNat_add_of_lt (by
    change size.toNat + 8192 < 2 ^ 32
    omega)
  have hlarger : ∀ asked : BitVec 32, ((if asked ≤ bufferSize then bufferSize else asked).toNat : Int) =
      max (bufferSize.toNat : Int) asked.toNat := by
    intro asked
    split
    next hle =>
      rw [BitVec.le_def] at hle
      omega
    next hlt =>
      rw [BitVec.le_def] at hlt
      omega
  unfold requestedSize secureExtra
  dsimp only
  rw [hlarger]
  split
  · rw [hsum]
    rfl
  · rw [Int.add_zero]

theorem le_allocated_iff (haccepted : 0 < size.toInt) {bytes : Int} (hpositive : 0 < bytes) :
    bytes ≤ (bufferBytes mdss5 format usage (requestedSize usage bufferSize size)).toNat ↔
      roundUp (sizeUnit mdss5 usage) bufferSize.toNat < 2 ^ 32 ∧
        (bytes ≤ roundUp (sizeUnit mdss5 usage) bufferSize.toNat ∨
          bytes ≤ roundUp (sizeUnit mdss5 usage) (size.toNat + secureExtra usage)) := by
  obtain ⟨hunit, hlimit, -⟩ := sizeUnit_bounds mdss5 usage
  have hmono : Monotone (roundUp (sizeUnit mdss5 usage)) := fun _ _ => roundUp_mono hunit
  have hformat : roundUp (sizeUnit mdss5 usage) (size.toNat + secureExtra usage) < 2 ^ 32 := by
    have := (roundUp_bounds hunit (size.toNat + secureExtra usage)).2
    have := (secureExtra_bounds usage).2
    have hlt := size.isLt
    rw [BitVec.toInt_eq_toNat_cond] at haccepted
    split at haccepted <;> omega
  rw [le_bufferBytes_iff mdss5 format usage _ hpositive, toNat_requestedSize usage bufferSize haccepted, hmono.map_max,
    max_lt_iff, le_max_iff, and_iff_left hformat]

end

end Nozomi.Gralloc
