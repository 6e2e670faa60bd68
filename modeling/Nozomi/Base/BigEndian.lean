import Mathlib.Data.List.Induction
import Mathlib.Data.Nat.Bitwise
import Mathlib.Tactic.Ring

/-!
# Big-endian numbers

The value of a list of bytes with the most significant byte first, the bytes of a number, and the step
by which a number is put together from its bytes with shifts. Numbers with the least significant byte first
are read backwards.
-/

namespace Nozomi

def bigEndian (bytes : List UInt8) : Nat :=
  bytes.foldl (fun value byte => value * 256 + byte.toNat) 0

def toBigEndian : Nat → Nat → List UInt8
  | 0, _ => []
  | width + 1, value => toBigEndian width (value / 256) ++ [UInt8.ofNat (value % 256)]

@[simp] theorem toBigEndian_length (width value : Nat) :
    (toBigEndian width value).length = width := by
  induction width generalizing value with
  | zero => rfl
  | succ width ih => rw [toBigEndian, List.length_append, ih, List.length_singleton]

theorem bigEndian_concat (bytes : List UInt8) (byte : UInt8) :
    bigEndian (bytes ++ [byte]) = bigEndian bytes * 256 + byte.toNat := by
  rw [bigEndian, List.foldl_append]
  rfl

theorem bigEndian_toBigEndian {width value : Nat} (hvalue : value < 256 ^ width) :
    bigEndian (toBigEndian width value) = value := by
  induction width generalizing value with
  | zero =>
    rw [pow_zero] at hvalue
    simp only [toBigEndian, bigEndian, List.foldl_nil]
    omega
  | succ width ih =>
    have hhigh : value / 256 < 256 ^ width := by
      rw [Nat.div_lt_iff_lt_mul (by omega), ← pow_succ]
      exact hvalue
    have hlow : (UInt8.ofNat (value % 256)).toNat = value % 256 := by
      rw [UInt8.toNat_ofNat']
      omega
    rw [toBigEndian, bigEndian_concat, ih hhigh, hlow]
    omega

theorem bigEndian_lt (bytes : List UInt8) : bigEndian bytes < 256 ^ bytes.length := by
  induction bytes using List.reverseRecOn with
  | nil => decide
  | append_singleton bytes byte ih =>
    have hbyte := byte.toNat_lt
    rw [bigEndian_concat, List.length_append, List.length_singleton, pow_succ]
    omega

theorem shifted_or_byte (value : Nat) (byte : UInt8) (shift : Nat) :
    value * 2 ^ (shift + 8) ||| byte.toNat <<< shift = (value * 256 + byte.toNat) * 2 ^ shift := by
  have hor : value <<< 8 ||| byte.toNat = value * 256 + byte.toNat := by
    rw [← Nat.shiftLeft_add_eq_or_of_lt byte.toNat_lt, Nat.shiftLeft_eq]
  rw [← Nat.shiftLeft_eq, Nat.add_comm shift 8, Nat.shiftLeft_add, ← Nat.shiftLeft_or_distrib, hor,
    Nat.shiftLeft_eq]

/-! ### The other order -/

def littleEndian (bytes : List UInt8) : Nat := bigEndian bytes.reverse

def toLittleEndian (width value : Nat) : List UInt8 := (toBigEndian width value).reverse

@[simp] theorem toLittleEndian_length (width value : Nat) :
    (toLittleEndian width value).length = width := by
  rw [toLittleEndian, List.length_reverse, toBigEndian_length]

theorem littleEndian_toLittleEndian {width value : Nat} (hvalue : value < 256 ^ width) :
    littleEndian (toLittleEndian width value) = value := by
  rw [littleEndian, toLittleEndian, List.reverse_reverse, bigEndian_toBigEndian hvalue]

end Nozomi
