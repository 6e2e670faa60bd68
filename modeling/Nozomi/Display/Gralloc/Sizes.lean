import Mathlib.Algebra.Order.Ring.Int
import Mathlib.Tactic.Linarith
import Nozomi.Display.Gralloc.Handle

/-!
# The sizes of buffers

`getBufferSizeAndDimensions` of `alloc_controller.cpp` gives the size of a buffer and its aligned dimensions. An `int`
and a `size_t` are words of 32 bits, and the arithmetic wraps. Builds without `VENUS_COLOR_FORMAT` have no sizes for
the format of that name.
-/

namespace Nozomi.Gralloc

inductive PixelFormat
  | rgba8888 | rgbx8888 | rgb888 | rgb565 | bgra8888
  | raw16 | rawOpaque | blob
  | nv12 | nv12Encodeable | yv12
  | yCbCr420Sp | yCrCb420Sp | yCbCr422Sp | yCrCb422Sp
  | yCrCb420SpAdreno | yCbCr420SpTiled | yCbCr420SpVenus
  | other (code : BitVec 32)
  deriving DecidableEq, Repr

def PixelFormat.ofCode (code : BitVec 32) : PixelFormat :=
  match code.toNat with
  | 1 => .rgba8888
  | 2 => .rgbx8888
  | 3 => .rgb888
  | 4 => .rgb565
  | 5 => .bgra8888
  | 0x10 => .yCbCr422Sp
  | 0x11 => .yCrCb420Sp
  | 0x15 => .nv12
  | 0x20 => .raw16
  | 0x21 => .blob
  | 0x24 => .rawOpaque
  | 0x102 => .nv12Encodeable
  | 0x109 => .yCbCr420Sp
  | 0x10B => .yCrCb422Sp
  | 0x32315659 => .yv12
  | 0x7FA30C01 => .yCrCb420SpAdreno
  | 0x7FA30C03 => .yCbCr420SpTiled
  | 0x7FA30C04 => .yCbCr420SpVenus
  | _ => .other code

abbrev AdrenoPadding := Option (BitVec 32 → BitVec 32 → BitVec 32)

def AdrenoPadding.stride (padding : AdrenoPadding) (width bpp : BitVec 32) : BitVec 32 :=
  match padding with
  | some computePadding => computePadding (alignUp width 32) bpp
  | none => alignUp width 32

def getStride (padding : AdrenoPadding) (width : BitVec 32) : PixelFormat → BitVec 32
  | .rgb888 => padding.stride width 3
  | .rgb565 => padding.stride width 2
  | .rgba8888 | .rgbx8888 | .bgra8888 => padding.stride width 4
  | .yCrCb420SpAdreno => alignUp width 32
  | .yCbCr420SpTiled => alignUp width 128
  | .nv12Encodeable | .yCbCr420Sp | .yCrCb420Sp | .yv12 | .yCbCr422Sp | .yCrCb422Sp | .raw16 | .rawOpaque =>
    alignUp width 16
  | .yCbCr420SpVenus => 0
  | .blob => width
  | .nv12 => alignUp width 32
  | .other code => if code.sle 5 then padding.stride width 4 else alignUp width 32

/-- What `getBufferSizeAndDimensions` gives. -/
structure Dimensions where
  size : BitVec 32
  alignedw : BitVec 32
  alignedh : BitVec 32
  deriving DecidableEq, Repr

def invalidSize : BitVec 32 := BitVec.ofInt 32 invalidArgument

def getBufferSizeAndDimensions (padding : AdrenoPadding) (width height : BitVec 32) (format : PixelFormat) :
    Dimensions :=
  let alignedw := getStride padding width format
  let alignedh := alignUp height 32
  match format with
  | .rgba8888 | .rgbx8888 | .bgra8888 => ⟨alignedw * alignedh * 4, alignedw, alignedh⟩
  | .rgb888 => ⟨alignedw * alignedh * 3, alignedw, alignedh⟩
  | .rgb565 | .raw16 | .rawOpaque => ⟨alignedw * alignedh * 2, alignedw, alignedh⟩
  | .yCrCb420SpAdreno =>
    ⟨alignUp (alignedw * alignedh) 4096 +
      alignUp (2 * alignUp (width.sdiv 2) 32 * alignUp (height.sdiv 2) 32) 4096, alignedw, alignedh⟩
  | .yCbCr420SpTiled =>
    let alignedw := alignUp alignedw 128
    ⟨alignUp (alignedw * alignedh) 8192 + alignUp (alignedw * alignUp (height.sdiv 2) 32) 8192, alignedw, alignedh⟩
  | .nv12 =>
    ⟨alignUp (alignUp width 128 * alignUp height 32) 8192 +
      alignUp (alignUp width 128 * alignUp (height.sdiv 2) 32) 8192, alignUp width 16, height⟩
  | .nv12Encodeable =>
    let alignedh := height
    let size := alignUp (alignedw * alignedh) 2048 + alignUp (alignedw.sdiv 2) 16 * alignedh.sdiv 2 * 2
    ⟨alignUp size 4096, alignedw, alignedh⟩
  | .yv12 =>
    if width &&& 1 ≠ 0 ∨ height &&& 1 ≠ 0 then ⟨invalidSize, alignedw, alignedh⟩
    else
      let alignedh := height
      let size := alignedw * alignedh + alignUp (alignedw.sdiv 2) 16 * alignedh.sdiv 2 * 2
      ⟨alignUp size 4096, alignedw, alignedh⟩
  | .yCbCr420Sp | .yCrCb420Sp =>
    let alignedh := height
    ⟨alignUp (alignedw * alignedh + (alignedw * alignedh).sdiv 2) 4096, alignedw, alignedh⟩
  | .yCbCr422Sp | .yCrCb422Sp =>
    if width &&& 1 ≠ 0 then ⟨invalidSize, alignedw, alignedh⟩
    else
      let alignedh := height
      ⟨alignUp (alignedw * alignedh * 2) 4096, alignedw, alignedh⟩
  | .yCbCr420SpVenus => ⟨0, alignedw, 0⟩
  | .blob => if height ≠ 1 then ⟨invalidSize, alignedw, alignedh⟩ else ⟨width, width, height⟩
  | .other _ => ⟨invalidSize, alignedw, alignedh⟩

def Dimensions.Accepted (dimensions : Dimensions) : Prop := 0 < dimensions.size.toInt

instance (dimensions : Dimensions) : Decidable dimensions.Accepted := inferInstanceAs (Decidable (_ < _))

/-! ### Planes -/

def planes (format : PixelFormat) (alignedw alignedh : Int) : List (Int × Int) :=
  match format with
  | .rgba8888 | .rgbx8888 | .bgra8888 => [(4 * alignedw, alignedh)]
  | .rgb888 => [(3 * alignedw, alignedh)]
  | .rgb565 | .raw16 | .rawOpaque => [(2 * alignedw, alignedh)]
  | .yCrCb420SpAdreno | .yCbCr420SpTiled | .nv12 | .nv12Encodeable | .yCbCr420Sp | .yCrCb420Sp =>
    [(alignedw, alignedh), (alignedw, alignedh.tdiv 2)]
  | .yv12 =>
    [(alignedw, alignedh), (roundUp 16 (alignedw.tdiv 2), alignedh.tdiv 2),
      (roundUp 16 (alignedw.tdiv 2), alignedh.tdiv 2)]
  | .yCbCr422Sp | .yCrCb422Sp => [(alignedw, alignedh), (alignedw, alignedh)]
  | .blob => [(alignedw, alignedh)]
  | .yCbCr420SpVenus | .other _ => []

def planeBytes (format : PixelFormat) (alignedw alignedh : Int) : Int :=
  ((planes format alignedw alignedh).map fun plane => plane.1 * plane.2).sum

def exactSize (format : PixelFormat) (width height alignedw alignedh : Int) : Int :=
  match format with
  | .rgba8888 | .rgbx8888 | .bgra8888 => alignedw * alignedh * 4
  | .rgb888 => alignedw * alignedh * 3
  | .rgb565 | .raw16 | .rawOpaque => alignedw * alignedh * 2
  | .yCrCb420SpAdreno =>
    roundUp 4096 (alignedw * alignedh) +
      roundUp 4096 (2 * roundUp 32 (width.tdiv 2) * roundUp 32 (height.tdiv 2))
  | .yCbCr420SpTiled =>
    roundUp 8192 (alignedw * alignedh) + roundUp 8192 (alignedw * roundUp 32 (height.tdiv 2))
  | .nv12 =>
    roundUp 8192 (roundUp 128 width * roundUp 32 height) +
      roundUp 8192 (roundUp 128 width * roundUp 32 (height.tdiv 2))
  | .nv12Encodeable =>
    roundUp 4096 (roundUp 2048 (alignedw * alignedh) + roundUp 16 (alignedw.tdiv 2) * alignedh.tdiv 2 * 2)
  | .yv12 => roundUp 4096 (alignedw * alignedh + roundUp 16 (alignedw.tdiv 2) * alignedh.tdiv 2 * 2)
  | .yCbCr420Sp | .yCrCb420Sp => roundUp 4096 (alignedw * alignedh + (alignedw * alignedh).tdiv 2)
  | .yCbCr422Sp | .yCrCb422Sp => roundUp 4096 (alignedw * alignedh * 2)
  | .blob => width
  | .yCbCr420SpVenus => 0
  | .other _ => invalidArgument

/-! ### Wrapped integers -/

def Wraps (word : BitVec 32) (value : Int) : Prop := word = BitVec.ofInt 32 value

section

variable {word other : BitVec 32} {value number : Int}

theorem wraps_toInt (word : BitVec 32) : Wraps word word.toInt := BitVec.ofInt_toInt.symm

theorem wraps_toNat (word : BitVec 32) : Wraps word word.toNat := by
  rw [Wraps, BitVec.ofInt_natCast, BitVec.ofNat_toNat, BitVec.setWidth_eq]

theorem Wraps.add (hword : Wraps word value) (hother : Wraps other number) : Wraps (word + other) (value + number) := by
  rw [Wraps, hword, hother, BitVec.ofInt_add]

theorem Wraps.mul (hword : Wraps word value) (hother : Wraps other number) : Wraps (word * other) (value * number) := by
  rw [Wraps, hword, hother, BitVec.ofInt_mul]

theorem Wraps.alignUp (hword : Wraps word value) {alignment : BitVec 32} (halignment : IsPowerOfTwo alignment) :
    Wraps (alignUp word alignment) (roundUp alignment.toNat value) := by
  rw [Wraps, hword, halignment.alignUp_ofInt]

theorem wraps_half (word : BitVec 32) : Wraps (word.sdiv 2) (word.toInt.tdiv 2) := by
  have hhalf : (word.sdiv 2).toInt = word.toInt.tdiv 2 :=
    BitVec.toInt_sdiv_of_ne_or_ne word 2 (.inr (by decide))
  exact hhalf ▸ wraps_toInt _

theorem Wraps.toNat_eq (hword : Wraps word value) (hlow : 0 ≤ value) (hhigh : value < 2 ^ 32) :
    (word.toNat : Int) = value := by
  rw [hword, BitVec.toNat_ofInt]
  omega

theorem Wraps.toInt_eq (hword : Wraps word value) (hlow : -2 ^ 31 ≤ value) (hhigh : value < 2 ^ 31) :
    word.toInt = value := by
  rw [hword]
  exact BitVec.toInt_ofInt_eq_self (by decide) hlow hhigh

end

theorem isPowerOfTwo_16 : IsPowerOfTwo (16 : BitVec 32) := ⟨4, by decide, by decide⟩
theorem isPowerOfTwo_32 : IsPowerOfTwo (32 : BitVec 32) := ⟨5, by decide, by decide⟩
theorem isPowerOfTwo_128 : IsPowerOfTwo (128 : BitVec 32) := ⟨7, by decide, by decide⟩
theorem isPowerOfTwo_2048 : IsPowerOfTwo (2048 : BitVec 32) := ⟨11, by decide, by decide⟩
theorem isPowerOfTwo_4096 : IsPowerOfTwo (4096 : BitVec 32) := ⟨12, by decide, by decide⟩
theorem isPowerOfTwo_8192 : IsPowerOfTwo (8192 : BitVec 32) := ⟨13, by decide, by decide⟩

variable (padding : AdrenoPadding) (width height : BitVec 32)

theorem not_accepted_invalid (alignedw alignedh : BitVec 32) :
    ¬Dimensions.Accepted ⟨invalidSize, alignedw, alignedh⟩ := by
  change ¬0 < invalidSize.toInt
  decide

theorem even_of_accepted_yv12 (haccepted : (getBufferSizeAndDimensions padding width height .yv12).Accepted) :
    ¬(width &&& 1 ≠ 0 ∨ height &&& 1 ≠ 0) := by
  intro hodd
  rw [getBufferSizeAndDimensions, if_pos hodd] at haccepted
  exact not_accepted_invalid _ _ haccepted

variable {format : PixelFormat} {dimensions : Dimensions}

theorem even_of_accepted_422Sp (hformat : format = .yCbCr422Sp ∨ format = .yCrCb422Sp)
    (haccepted : (getBufferSizeAndDimensions padding width height format).Accepted) : ¬width &&& 1 ≠ 0 := by
  intro hodd
  rcases hformat with rfl | rfl <;> rw [getBufferSizeAndDimensions, if_pos hodd] at haccepted <;>
    exact not_accepted_invalid _ _ haccepted

theorem one_of_accepted_blob (haccepted : (getBufferSizeAndDimensions padding width height .blob).Accepted) :
    ¬height ≠ 1 := by
  intro hone
  rw [getBufferSizeAndDimensions, if_pos hone] at haccepted
  exact not_accepted_invalid _ _ haccepted

theorem wraps_size (hdimensions : getBufferSizeAndDimensions padding width height format = dimensions)
    (haccepted : dimensions.Accepted)
    (hfits : format = .yCbCr420Sp ∨ format = .yCrCb420Sp →
      -2 ^ 31 ≤ dimensions.alignedw.toInt * dimensions.alignedh.toInt ∧
        dimensions.alignedw.toInt * dimensions.alignedh.toInt < 2 ^ 31) :
    Wraps dimensions.size
      (exactSize format width.toInt height.toInt dimensions.alignedw.toInt dimensions.alignedh.toInt) := by
  subst hdimensions
  have hmul : ∀ first second : BitVec 32, Wraps (first * second) (first.toInt * second.toInt) :=
    fun first second => (wraps_toInt first).mul (wraps_toInt second)
  have hwidth := (wraps_half width).alignUp isPowerOfTwo_32
  have hheight := (wraps_half height).alignUp isPowerOfTwo_32
  have hchroma : ∀ alignedw alignedh : BitVec 32, Wraps (alignUp (alignedw.sdiv 2) 16 * alignedh.sdiv 2 * 2)
      (roundUp 16 (alignedw.toInt.tdiv 2) * alignedh.toInt.tdiv 2 * 2) := fun alignedw alignedh =>
    (((wraps_half alignedw).alignUp isPowerOfTwo_16).mul (wraps_half alignedh)).mul (wraps_toInt 2)
  have hhalf : ∀ alignedw alignedh : BitVec 32, -2 ^ 31 ≤ alignedw.toInt * alignedh.toInt ∧
      alignedw.toInt * alignedh.toInt < 2 ^ 31 →
      Wraps (alignUp (alignedw * alignedh + (alignedw * alignedh).sdiv 2) 4096)
        (roundUp 4096 (alignedw.toInt * alignedh.toInt + (alignedw.toInt * alignedh.toInt).tdiv 2)) := by
    rintro alignedw alignedh ⟨hlow, hhigh⟩
    have hluma := (hmul alignedw alignedh).toInt_eq hlow hhigh
    have hsum := (hmul alignedw alignedh).add (wraps_half (alignedw * alignedh))
    rw [hluma] at hsum
    exact hsum.alignUp isPowerOfTwo_4096
  cases format with
  | rgba8888 | rgbx8888 | bgra8888 => exact (hmul _ _).mul (wraps_toInt 4)
  | rgb888 => exact (hmul _ _).mul (wraps_toInt 3)
  | rgb565 | raw16 | rawOpaque => exact (hmul _ _).mul (wraps_toInt 2)
  | yCrCb420SpAdreno =>
    exact ((hmul _ _).alignUp isPowerOfTwo_4096).add
      ((((wraps_toInt 2).mul hwidth).mul hheight).alignUp isPowerOfTwo_4096)
  | yCbCr420SpTiled =>
    exact ((hmul _ _).alignUp isPowerOfTwo_8192).add (((wraps_toInt _).mul hheight).alignUp isPowerOfTwo_8192)
  | nv12 =>
    have hpitch := (wraps_toInt width).alignUp isPowerOfTwo_128
    exact ((hpitch.mul ((wraps_toInt height).alignUp isPowerOfTwo_32)).alignUp isPowerOfTwo_8192).add
      ((hpitch.mul hheight).alignUp isPowerOfTwo_8192)
  | nv12Encodeable =>
    exact (((hmul _ _).alignUp isPowerOfTwo_2048).add (hchroma _ _)).alignUp isPowerOfTwo_4096
  | yv12 =>
    rw [getBufferSizeAndDimensions, if_neg (even_of_accepted_yv12 padding width height haccepted)]
    exact ((hmul _ _).add (hchroma _ _)).alignUp isPowerOfTwo_4096
  | yCbCr420Sp => exact hhalf _ _ (hfits (.inl rfl))
  | yCrCb420Sp => exact hhalf _ _ (hfits (.inr rfl))
  | yCbCr422Sp =>
    rw [getBufferSizeAndDimensions, if_neg (even_of_accepted_422Sp padding width height (.inl rfl) haccepted)]
    exact ((hmul _ _).mul (wraps_toInt 2)).alignUp isPowerOfTwo_4096
  | yCrCb422Sp =>
    rw [getBufferSizeAndDimensions, if_neg (even_of_accepted_422Sp padding width height (.inr rfl) haccepted)]
    exact ((hmul _ _).mul (wraps_toInt 2)).alignUp isPowerOfTwo_4096
  | yCbCr420SpVenus => rfl
  | blob =>
    rw [getBufferSizeAndDimensions, if_neg (one_of_accepted_blob padding width height haccepted)]
    exact wraps_toInt width
  | other code => exact absurd haccepted (not_accepted_invalid _ _)

/-! ### Bounds -/

section

variable {width height}

theorem toInt_alignUp {alignment : BitVec 32} (halignment : IsPowerOfTwo alignment) (word : BitVec 32) :
    (alignUp word alignment).toInt = roundUp alignment.toNat word.toInt ∨
      (alignUp word alignment).toInt = -2 ^ 31 ∧ 2 ^ 31 - (alignment.toNat : Int) < word.toInt := by
  have hpositive : 0 < (alignment.toNat : Int) := Int.natCast_pos.mpr halignment.pos
  obtain ⟨hle, hlt⟩ := roundUp_bounds hpositive word.toInt
  have hwraps := (wraps_toInt word).alignUp halignment
  have hlow := BitVec.le_toInt word
  have hhigh := BitVec.toInt_lt (x := word)
  by_cases hfits : roundUp alignment.toNat word.toInt < 2 ^ 31
  · exact .inl (hwraps.toInt_eq (by omega) hfits)
  -- Both are multiples, and less than one apart
  have hsame : roundUp alignment.toNat word.toInt = 2 ^ 31 := by
    obtain ⟨count, hcount⟩ := dvd_roundUp alignment.toNat word.toInt
    obtain ⟨k, hk, hpow⟩ := halignment
    obtain ⟨total, htotal⟩ : (alignment.toNat : Int) ∣ 2 ^ 31 := by
      rw [hpow]
      exact_mod_cast Nat.pow_dvd_pow 2 (Nat.le_of_lt_succ hk)
    have hbelow : alignment.toNat * count < alignment.toNat * (total + 1) := by
      rw [Int.mul_add, ← hcount, ← htotal]
      omega
    have habove : (alignment.toNat : Int) * total ≤ alignment.toNat * count := by
      rw [← hcount, ← htotal]
      omega
    have hfirst := Int.lt_of_mul_lt_mul_left hbelow hpositive.le
    have hsecond := Int.le_of_mul_le_mul_left habove hpositive
    rw [hcount, htotal, show count = total by omega]
  rw [hsame] at hwraps
  refine .inr ⟨?_, by omega⟩
  rw [hwraps]
  decide

theorem half_rows (stride rows : Int) :
    (0 ≤ stride * rows → 0 ≤ stride * rows.tdiv 2 ∧ 2 * (stride * rows.tdiv 2) ≤ stride * rows) ∧
      (stride * rows ≤ 0 → stride * rows.tdiv 2 ≤ 0) := by
  have hsplit : stride * rows = 2 * (stride * rows.tdiv 2) + stride * rows.tmod 2 := by
    conv_lhs => rw [← Int.mul_tdiv_add_tmod rows 2]
    ring
  have hsigns : 0 ≤ rows.tdiv 2 ∧ 0 ≤ rows.tmod 2 ∨ rows.tdiv 2 ≤ 0 ∧ rows.tmod 2 ≤ 0 := by
    rcases le_total 0 rows with hrows | hrows
    · exact .inl ⟨Int.tdiv_nonneg hrows (by decide), Int.tmod_nonneg 2 hrows⟩
    · have hhalf := Int.tdiv_nonneg (Int.neg_nonneg_of_nonpos hrows) (show (0 : Int) ≤ 2 by decide)
      have hrest := Int.tmod_nonneg 2 (Int.neg_nonneg_of_nonpos hrows)
      rw [Int.neg_tdiv] at hhalf
      rw [Int.neg_tmod] at hrest
      exact .inr (by omega)
  rw [hsplit]
  rcases le_total 0 stride with hstride | hstride <;> rcases hsigns with ⟨hhalf, hrest⟩ | ⟨hhalf, hrest⟩
  · have := mul_nonneg hstride hhalf
    have := mul_nonneg hstride hrest
    omega
  · have := mul_nonpos_of_nonneg_of_nonpos hstride hhalf
    have := mul_nonpos_of_nonneg_of_nonpos hstride hrest
    omega
  · have := mul_nonpos_of_nonpos_of_nonneg hstride hhalf
    have := mul_nonpos_of_nonpos_of_nonneg hstride hrest
    omega
  · have := mul_nonneg_of_nonpos_of_nonpos hstride hhalf
    have := mul_nonneg_of_nonpos_of_nonpos hstride hrest
    omega

theorem luma_bounds {stride rows : Int} (hpositive : 0 < stride * rows + stride * rows.tdiv 2) :
    0 < stride * rows ∧ 0 ≤ stride * rows.tdiv 2 ∧ 2 * (stride * rows.tdiv 2) ≤ stride * rows := by
  obtain ⟨hnonneg, hnonpos⟩ := half_rows stride rows
  have hluma : 0 < stride * rows := by
    by_contra hzero
    have := hnonpos (by omega)
    omega
  exact ⟨hluma, hnonneg hluma.le⟩

theorem half_roundUp (rows : Int) :
    (0 < roundUp 32 rows → 0 ≤ roundUp 32 (rows.tdiv 2) ∧ roundUp 32 (rows.tdiv 2) ≤ roundUp 32 rows ∧
      2 * roundUp 32 (rows.tdiv 2) ≤ roundUp 32 rows + 32) ∧
    (roundUp 32 rows < 0 → roundUp 32 (rows.tdiv 2) ≤ 0 ∧ roundUp 32 rows ≤ 2 * roundUp 32 (rows.tdiv 2)) ∧
    (roundUp 32 rows).tdiv 2 * 2 = roundUp 32 rows := by
  have hhalf : ∀ number : Int, 0 ≤ number ∧ number.tdiv 2 = number / 2 ∨
      number < 0 ∧ number.tdiv 2 = -(-number / 2) := by
    intro number
    rcases le_or_gt 0 number with hnonneg | hneg
    · exact .inl ⟨hnonneg, Int.tdiv_eq_ediv_of_nonneg hnonneg⟩
    · have hflip := Int.tdiv_eq_ediv_of_nonneg (b := 2) (Int.neg_nonneg_of_nonpos hneg.le)
      rw [Int.neg_tdiv] at hflip
      exact .inr ⟨hneg, by omega⟩
  have hrows := hhalf rows
  have hrounded := hhalf (roundUp 32 rows)
  simp only [roundUp] at hrounded ⊢
  omega

theorem half_alignedh (height : BitVec 32) :
    (alignUp height 32).toInt.tdiv 2 * 2 = (alignUp height 32).toInt := by
  rcases toInt_alignUp isPowerOfTwo_32 height with hrounded | ⟨hwrapped, -⟩
  · rw [hrounded]
    exact (half_roundUp height.toInt).2.2
  · rw [hwrapped]
    decide

theorem chroma_bounds {stride : Int} (hpositive : 0 < stride * (alignUp height 32).toInt)
    (hsmall : stride * (alignUp height 32).toInt < 2 ^ 31) :
    0 ≤ stride * roundUp 32 (height.toInt.tdiv 2) ∧
      stride * roundUp 32 (height.toInt.tdiv 2) ≤ stride * (alignUp height 32).toInt := by
  obtain ⟨habove, hbelow, -⟩ := half_roundUp height.toInt
  rcases toInt_alignUp isPowerOfTwo_32 height with hrounded | ⟨hwrapped, -⟩
  · rw [hrounded] at hpositive hsmall ⊢
    change 0 < stride * roundUp 32 _ at hpositive
    change _ ∧ _ ≤ stride * roundUp 32 _
    rcases pos_and_pos_or_neg_and_neg_of_mul_pos hpositive with ⟨hstride, hrows⟩ | ⟨hstride, hrows⟩
    · obtain ⟨hnonneg, hle, -⟩ := habove hrows
      exact ⟨mul_nonneg hstride.le hnonneg, mul_le_mul_of_nonneg_left hle hstride.le⟩
    · obtain ⟨hnonpos, hle⟩ := hbelow hrows
      exact ⟨mul_nonneg_of_nonpos_of_nonpos hstride.le hnonpos,
        mul_le_mul_of_nonpos_left (by omega) hstride.le⟩
  · rw [hwrapped] at hpositive hsmall
    omega

theorem adreno_bounds (hpositive : 0 < (alignUp width 32).toInt * (alignUp height 32).toInt)
    (hsmall : (alignUp width 32).toInt * (alignUp height 32).toInt < 2 ^ 31) :
    0 ≤ 2 * roundUp 32 (width.toInt.tdiv 2) * roundUp 32 (height.toInt.tdiv 2) ∧
      2 * roundUp 32 (width.toInt.tdiv 2) * roundUp 32 (height.toInt.tdiv 2) ≤
        (alignUp width 32).toInt * (alignUp height 32).toInt + 1024 := by
  obtain ⟨haboveWidth, hbelowWidth, -⟩ := half_roundUp width.toInt
  obtain ⟨haboveHeight, hbelowHeight, -⟩ := half_roundUp height.toInt
  rcases toInt_alignUp isPowerOfTwo_32 width with hwidth | ⟨hwrapped, -⟩
  · rcases toInt_alignUp isPowerOfTwo_32 height with hheight | ⟨hwrapped, -⟩
    · rw [hwidth, hheight] at hpositive ⊢
      change 0 < roundUp 32 _ * roundUp 32 _ at hpositive
      change _ ∧ _ ≤ roundUp 32 _ * roundUp 32 _ + _
      obtain ⟨countWidth, hcountWidth⟩ := dvd_roundUp 32 width.toInt
      obtain ⟨countHeight, hcountHeight⟩ := dvd_roundUp 32 height.toInt
      generalize roundUp 32 (width.toInt.tdiv 2) = halfWidth at *
      generalize roundUp 32 (height.toInt.tdiv 2) = halfHeight at *
      generalize roundUp 32 width.toInt = alignedw at *
      generalize roundUp 32 height.toInt = alignedh at *
      rcases pos_and_pos_or_neg_and_neg_of_mul_pos hpositive with ⟨hw, hh⟩ | ⟨hw, hh⟩
      · obtain ⟨hnonnegWidth, -, hleWidth⟩ := haboveWidth hw
        obtain ⟨hnonnegHeight, -, hleHeight⟩ := haboveHeight hh
        refine ⟨by positivity, ?_⟩
        have hcorner : 0 ≤ (alignedw - 32) * (alignedh - 32) := mul_nonneg (by omega) (by omega)
        have hproduct : 2 * halfWidth * (2 * halfHeight) ≤ (alignedw + 32) * (alignedh + 32) :=
          mul_le_mul hleWidth hleHeight (by omega) (by omega)
        linarith
      · obtain ⟨hnonposWidth, hleWidth⟩ := hbelowWidth hw
        obtain ⟨hnonposHeight, hleHeight⟩ := hbelowHeight hh
        refine ⟨mul_nonneg_of_nonpos_of_nonpos (by omega) hnonposHeight, ?_⟩
        have hproduct : -(2 * halfWidth) * -halfHeight ≤ -alignedw * -alignedh :=
          mul_le_mul (by omega) (by omega) (by omega) (by omega)
        linarith
    · rw [hwrapped] at hpositive hsmall
      omega
  · rw [hwrapped] at hpositive hsmall
    omega

theorem encodeable_bounds {rows : Int} (hpositive : 0 < (alignUp width 16).toInt * rows) :
    0 ≤ roundUp 16 ((alignUp width 16).toInt.tdiv 2) * rows.tdiv 2 * 2 ∧
      roundUp 16 ((alignUp width 16).toInt.tdiv 2) * rows.tdiv 2 * 2 ≤
        2 * ((alignUp width 16).toInt * rows.tdiv 2) := by
  obtain ⟨count, hcount⟩ : (16 : Int) ∣ (alignUp width 16).toInt := by
    rcases toInt_alignUp isPowerOfTwo_16 width with hrounded | ⟨hwrapped, -⟩
    · rw [hrounded]
      exact dvd_roundUp 16 _
    · rw [hwrapped]
      decide
  have hhalf : (16 * count).tdiv 2 = 8 * count := by
    rw [show 16 * count = 8 * count * 2 by ring, Int.mul_tdiv_cancel _ (by decide)]
  have hbounds : 16 * count ≤ 2 * roundUp 16 (8 * count) ∧ 2 * roundUp 16 (8 * count) ≤ 16 * count + 16 := by
    simp only [roundUp]
    omega
  rw [hcount] at hpositive ⊢
  rw [hhalf]
  generalize roundUp 16 (8 * count) = chroma at *
  rcases pos_and_pos_or_neg_and_neg_of_mul_pos hpositive with ⟨hstride, hrows⟩ | ⟨hstride, hrows⟩
  · have hnonneg := Int.tdiv_nonneg hrows.le (show (0 : Int) ≤ 2 by decide)
    have hlow : 0 ≤ 2 * chroma * rows.tdiv 2 := mul_nonneg (by omega) hnonneg
    have hhigh : 2 * chroma * rows.tdiv 2 ≤ 2 * (16 * count) * rows.tdiv 2 :=
      mul_le_mul_of_nonneg_right (by omega) hnonneg
    constructor <;> linarith
  · have hflip := Int.tdiv_nonneg (Int.neg_nonneg_of_nonpos hrows.le) (show (0 : Int) ≤ 2 by decide)
    rw [Int.neg_tdiv] at hflip
    have hlow : 0 ≤ -(2 * chroma) * -rows.tdiv 2 := mul_nonneg (by omega) hflip
    have hhigh : -(2 * chroma) * -rows.tdiv 2 ≤ -(2 * (16 * count)) * -rows.tdiv 2 :=
      mul_le_mul_of_nonneg_right (by omega) hflip
    constructor <;> linarith

/-! ### Exact sizes of small planes -/

theorem adreno_size_bounds
    (hpositive : 0 < (alignUp width 32).toInt * (alignUp height 32).toInt +
      (alignUp width 32).toInt * (alignUp height 32).toInt.tdiv 2)
    (hsmall : (alignUp width 32).toInt * (alignUp height 32).toInt +
      (alignUp width 32).toInt * (alignUp height 32).toInt.tdiv 2 < 2 ^ 31) :
    0 < roundUp 4096 ((alignUp width 32).toInt * (alignUp height 32).toInt) +
        roundUp 4096 (2 * roundUp 32 (width.toInt.tdiv 2) * roundUp 32 (height.toInt.tdiv 2)) ∧
      roundUp 4096 ((alignUp width 32).toInt * (alignUp height 32).toInt) +
        roundUp 4096 (2 * roundUp 32 (width.toInt.tdiv 2) * roundUp 32 (height.toInt.tdiv 2)) < 2 ^ 32 := by
  obtain ⟨hluma, hnonneg, -⟩ := luma_bounds hpositive
  have hrows := congrArg ((alignUp width 32).toInt * ·) (half_alignedh height)
  have hchroma := adreno_bounds hluma (by omega)
  have hfirst := roundUp_bounds (show (0 : Int) < 4096 by decide) ((alignUp width 32).toInt * (alignUp height 32).toInt)
  have hsecond := roundUp_bounds (show (0 : Int) < 4096 by decide)
    (2 * roundUp 32 (width.toInt.tdiv 2) * roundUp 32 (height.toInt.tdiv 2))
  rw [← Int.mul_assoc] at hrows
  omega

theorem tiled_size_bounds {stride : Int}
    (hpositive : 0 < stride * (alignUp height 32).toInt + stride * (alignUp height 32).toInt.tdiv 2)
    (hsmall : stride * (alignUp height 32).toInt + stride * (alignUp height 32).toInt.tdiv 2 < 2 ^ 31) :
    0 < roundUp 8192 (stride * (alignUp height 32).toInt) +
        roundUp 8192 (stride * roundUp 32 (height.toInt.tdiv 2)) ∧
      roundUp 8192 (stride * (alignUp height 32).toInt) +
        roundUp 8192 (stride * roundUp 32 (height.toInt.tdiv 2)) < 2 ^ 32 := by
  obtain ⟨hluma, hnonneg, -⟩ := luma_bounds hpositive
  have hrows := congrArg (stride * ·) (half_alignedh height)
  have hchroma := chroma_bounds hluma (by omega)
  have hfirst := roundUp_bounds (show (0 : Int) < 8192 by decide) (stride * (alignUp height 32).toInt)
  have hsecond := roundUp_bounds (show (0 : Int) < 8192 by decide) (stride * roundUp 32 (height.toInt.tdiv 2))
  rw [← Int.mul_assoc] at hrows
  omega

theorem encodeable_size_bounds {rows : Int}
    (hpositive : 0 < (alignUp width 16).toInt * rows + (alignUp width 16).toInt * rows.tdiv 2)
    (hsmall : (alignUp width 16).toInt * rows + (alignUp width 16).toInt * rows.tdiv 2 < 2 ^ 31) :
    0 < roundUp 4096 (roundUp 2048 ((alignUp width 16).toInt * rows) +
        roundUp 16 ((alignUp width 16).toInt.tdiv 2) * rows.tdiv 2 * 2) ∧
      roundUp 4096 (roundUp 2048 ((alignUp width 16).toInt * rows) +
        roundUp 16 ((alignUp width 16).toInt.tdiv 2) * rows.tdiv 2 * 2) < 2 ^ 32 := by
  obtain ⟨hluma, hnonneg, hless⟩ := luma_bounds hpositive
  have hchroma := encodeable_bounds hluma
  have hfirst := roundUp_bounds (show (0 : Int) < 2048 by decide) ((alignUp width 16).toInt * rows)
  have hsecond := roundUp_bounds (show (0 : Int) < 4096 by decide) (roundUp 2048 ((alignUp width 16).toInt * rows) +
    roundUp 16 ((alignUp width 16).toInt.tdiv 2) * rows.tdiv 2 * 2)
  omega

theorem half_size_bounds {stride rows : Int} (hpositive : 0 < stride * rows + stride * rows.tdiv 2)
    (hsmall : stride * rows + stride * rows.tdiv 2 < 2 ^ 31) :
    0 < roundUp 4096 (stride * rows + (stride * rows).tdiv 2) ∧
      roundUp 4096 (stride * rows + (stride * rows).tdiv 2) < 2 ^ 32 := by
  obtain ⟨hluma, hnonneg, -⟩ := luma_bounds hpositive
  have hround := roundUp_bounds (show (0 : Int) < 4096 by decide) (stride * rows + (stride * rows).tdiv 2)
  rw [Int.tdiv_eq_ediv_of_nonneg hluma.le] at hround ⊢
  omega

end

theorem exactSize_bounds (hdimensions : getBufferSizeAndDimensions padding width height format = dimensions)
    (haccepted : dimensions.Accepted) (hnv12 : format ≠ .nv12)
    (hpositive : 0 < planeBytes format dimensions.alignedw.toInt dimensions.alignedh.toInt)
    (hsmall : planeBytes format dimensions.alignedw.toInt dimensions.alignedh.toInt < 2 ^ 31) :
    0 < exactSize format width.toInt height.toInt dimensions.alignedw.toInt dimensions.alignedh.toInt ∧
      exactSize format width.toInt height.toInt dimensions.alignedw.toInt dimensions.alignedh.toInt < 2 ^ 32 := by
  subst hdimensions
  have hpixels : ∀ luma bytes : Int, 0 < bytes * luma → bytes * luma < 2 ^ 31 →
      0 < luma * bytes ∧ luma * bytes < 2 ^ 32 := by
    intro luma bytes hlow hhigh
    rw [Int.mul_comm luma]
    omega
  have hrounded : ∀ bytes total : Int, bytes = total → 0 < total → total < 2 ^ 31 →
      0 < roundUp 4096 bytes ∧ roundUp 4096 bytes < 2 ^ 32 := by
    rintro bytes _ rfl hlow hhigh
    have := roundUp_bounds (show (0 : Int) < 4096 by decide) bytes
    omega
  cases format
  all_goals simp only [planeBytes, planes, List.map_cons, List.map_nil, List.sum_cons, List.sum_nil,
    Int.add_zero] at hpositive hsmall
  case rgba8888 | rgbx8888 | bgra8888 | rgb888 | rgb565 | raw16 | rawOpaque =>
    rw [Int.mul_assoc] at hpositive hsmall
    exact hpixels _ _ hpositive hsmall
  case nv12 => exact absurd rfl hnv12
  case yCrCb420SpAdreno => exact adreno_size_bounds hpositive hsmall
  case yCbCr420SpTiled => exact tiled_size_bounds hpositive hsmall
  case nv12Encodeable => exact encodeable_size_bounds hpositive hsmall
  case yv12 => exact hrounded _ _ (by ring) hpositive hsmall
  case yCbCr420Sp | yCrCb420Sp => exact half_size_bounds hpositive hsmall
  case yCbCr422Sp | yCrCb422Sp => exact hrounded _ _ (by ring) hpositive hsmall
  case blob =>
    have hone := not_not.mp (one_of_accepted_blob padding width height haccepted)
    subst hone
    have hpositive : 0 < width.toInt * 1 := hpositive
    have hwidth := BitVec.toInt_lt (x := width)
    change 0 < width.toInt ∧ width.toInt < 2 ^ 32
    omega
  case yCbCr420SpVenus | other => exact absurd hpositive (lt_irrefl 0)

/-! ### Accepted sizes -/

/-- The exact size fits an `int` and covers the planes. For `HAL_PIXEL_FORMAT_NV12`, whose size is that of larger
dimensions, what is left of it in a word may also do. -/
def SizeCovers (format : PixelFormat) (width height alignedw alignedh : Int) : Prop :=
  planeBytes format alignedw alignedh ≤ 0 ∨
    planeBytes format alignedw alignedh ≤ exactSize format width height alignedw alignedh ∧
      exactSize format width height alignedw alignedh < 2 ^ 31 ∨
    format = .nv12 ∧
      planeBytes format alignedw alignedh ≤ exactSize format width height alignedw alignedh % 2 ^ 32

instance (format : PixelFormat) (width height alignedw alignedh : Int) :
    Decidable (SizeCovers format width height alignedw alignedh) := by
  unfold SizeCovers
  infer_instance

def alignedWidth (format : PixelFormat) : Int :=
  match format with
  | .yCbCr420SpTiled => (alignUp (alignUp width 128) 128).toInt
  | .nv12 => (alignUp width 16).toInt
  | format => (getStride padding width format).toInt

def alignedHeight (format : PixelFormat) : Int :=
  match format with
  | .nv12 | .nv12Encodeable | .yv12 | .yCbCr420Sp | .yCrCb420Sp | .yCbCr422Sp | .yCrCb422Sp | .blob => height.toInt
  | .yCbCr420SpVenus => 0
  | _ => (alignUp height 32).toInt

theorem aligned_eq (hdimensions : getBufferSizeAndDimensions padding width height format = dimensions)
    (haccepted : dimensions.Accepted) :
    dimensions.alignedw.toInt = alignedWidth padding width format ∧
      dimensions.alignedh.toInt = alignedHeight height format := by
  subst hdimensions
  cases format with
  | yv12 =>
    rw [getBufferSizeAndDimensions, if_neg (even_of_accepted_yv12 padding width height haccepted)]
    exact ⟨rfl, rfl⟩
  | yCbCr422Sp =>
    rw [getBufferSizeAndDimensions, if_neg (even_of_accepted_422Sp padding width height (.inl rfl) haccepted)]
    exact ⟨rfl, rfl⟩
  | yCrCb422Sp =>
    rw [getBufferSizeAndDimensions, if_neg (even_of_accepted_422Sp padding width height (.inr rfl) haccepted)]
    exact ⟨rfl, rfl⟩
  | blob =>
    rw [getBufferSizeAndDimensions, if_neg (one_of_accepted_blob padding width height haccepted)]
    exact ⟨rfl, rfl⟩
  | _ => exact ⟨rfl, rfl⟩

/-- An accepted size covers the planes exactly where the exact one does. -/
theorem planeBytes_le_size_iff {format : PixelFormat} {dimensions : Dimensions}
    (hdimensions : getBufferSizeAndDimensions padding width height format = dimensions)
    (haccepted : dimensions.Accepted) :
    planeBytes format dimensions.alignedw.toInt dimensions.alignedh.toInt ≤ dimensions.size.toNat ↔
      SizeCovers format width.toInt height.toInt (alignedWidth padding width format) (alignedHeight height format) := by
  obtain ⟨halignedw, halignedh⟩ := aligned_eq padding width height hdimensions haccepted
  rw [← halignedw, ← halignedh]
  have hsize : 0 < dimensions.size.toNat ∧ dimensions.size.toNat < 2 ^ 31 := by
    rw [Dimensions.Accepted, BitVec.toInt_eq_toNat_cond] at haccepted
    have hlt := dimensions.size.isLt
    split at haccepted <;> omega
  rw [SizeCovers]
  by_cases hnv12 : format = .nv12
  · have hwraps := wraps_size padding width height hdimensions haccepted fun h => by
      rw [hnv12] at h
      exact absurd h (by decide)
    have hmod : (dimensions.size.toNat : Int) =
        exactSize format width.toInt height.toInt dimensions.alignedw.toInt dimensions.alignedh.toInt % 2 ^ 32 := by
      rw [hwraps, BitVec.toNat_ofInt]
      omega
    rw [← hmod, and_iff_right hnv12]
    omega
  · have hexact : 0 < planeBytes format dimensions.alignedw.toInt dimensions.alignedh.toInt →
        planeBytes format dimensions.alignedw.toInt dimensions.alignedh.toInt < 2 ^ 31 →
        (dimensions.size.toNat : Int) =
          exactSize format width.toInt height.toInt dimensions.alignedw.toInt dimensions.alignedh.toInt := by
      intro hpositive hsmall
      have hbounds := exactSize_bounds padding width height hdimensions haccepted hnv12 hpositive hsmall
      have hwraps := wraps_size padding width height hdimensions haccepted fun h => by
        have hbytes : planeBytes format dimensions.alignedw.toInt dimensions.alignedh.toInt =
            dimensions.alignedw.toInt * dimensions.alignedh.toInt +
              dimensions.alignedw.toInt * dimensions.alignedh.toInt.tdiv 2 := by
          rcases h with rfl | rfl <;> simp [planeBytes, planes]
        rw [hbytes] at hpositive hsmall
        have hluma := luma_bounds hpositive
        omega
      exact hwraps.toNat_eq hbounds.1.le hbounds.2
    constructor
    · intro hcovers
      by_cases hpositive : 0 < planeBytes format dimensions.alignedw.toInt dimensions.alignedh.toInt
      · have hsame := hexact hpositive (by omega)
        exact .inr (.inl (by omega))
      · exact .inl (Int.not_lt.mp hpositive)
    · rintro (hnone | ⟨hcovers, hsmall⟩ | ⟨hformat, -⟩)
      · omega
      · by_cases hpositive : 0 < planeBytes format dimensions.alignedw.toInt dimensions.alignedh.toInt
        · rw [hexact hpositive (by omega)]
          exact hcovers
        · omega
      · exact absurd hformat hnv12

theorem planeBytes_le_size_iff_small :
    let dimensions := getBufferSizeAndDimensions none 640 480 .yCrCb420Sp
    planeBytes .yCrCb420Sp dimensions.alignedw.toInt dimensions.alignedh.toInt ≤ dimensions.size.toNat ↔
      SizeCovers .yCrCb420Sp 640 480 (alignedWidth none 640 .yCrCb420Sp) (alignedHeight 480 .yCrCb420Sp) :=
  planeBytes_le_size_iff none 640 480 rfl (by decide)

/-- 32800 rows of 32768 pixels with 4 bytes: the size wraps to 4 MiB. -/
theorem not_planeBytes_le_size :
    let dimensions := getBufferSizeAndDimensions none 32768 32800 .rgba8888
    dimensions.Accepted ∧
      ¬planeBytes .rgba8888 dimensions.alignedw.toInt dimensions.alignedh.toInt ≤ dimensions.size.toNat := by
  decide

end Nozomi.Gralloc
