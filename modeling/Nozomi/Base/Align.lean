import Mathlib.Data.Nat.Bitwise
import Mathlib.Tactic.Ring

/-!
# Rounding up to a power of two

`(x + a - 1) & ~(a - 1)` on words: the least multiple of `a` that is not below `x`, where `a` is a power of
two and the sum fits the word.
-/

namespace Nozomi

variable {width : Nat}

def alignUp (x alignment : BitVec width) : BitVec width := (x + alignment - 1) &&& ~~~(alignment - 1)

def roundUp (multiple x : Int) : Int := (x + (multiple - 1)) / multiple * multiple

section

variable {multiple : Int}

theorem roundUp_bounds (hpositive : 0 < multiple) (x : Int) :
    x ≤ roundUp multiple x ∧ roundUp multiple x < x + multiple := by
  have hrest := Int.emod_nonneg (x + (multiple - 1)) (Int.ne_of_gt hpositive)
  have hless := Int.emod_lt_of_pos (x + (multiple - 1)) hpositive
  have hsplit := Int.emod_add_mul_ediv (x + (multiple - 1)) multiple
  rw [roundUp, Int.mul_comm]
  omega

theorem dvd_roundUp (multiple x : Int) : multiple ∣ roundUp multiple x := Int.dvd_mul_left _ _

theorem roundUp_le_iff (hpositive : 0 < multiple) {x bound : Int} (hdvd : multiple ∣ bound) :
    roundUp multiple x ≤ bound ↔ x ≤ bound := by
  obtain ⟨hle, hlt⟩ := roundUp_bounds hpositive x
  refine ⟨Int.le_trans hle, fun hbound => ?_⟩
  obtain ⟨count, hcount⟩ := dvd_roundUp multiple x
  obtain ⟨total, htotal⟩ := hdvd
  have hless : multiple * count < multiple * (total + 1) := by
    rw [Int.mul_add, ← hcount, ← htotal]
    omega
  have hcounts := Int.lt_of_mul_lt_mul_left hless (Int.le_of_lt hpositive)
  rw [hcount, htotal]
  exact Int.mul_le_mul_of_nonneg_left (by omega) (Int.le_of_lt hpositive)

theorem roundUp_mono (hpositive : 0 < multiple) {x y : Int} (hle : x ≤ y) :
    roundUp multiple x ≤ roundUp multiple y :=
  (roundUp_le_iff hpositive (dvd_roundUp multiple y)).mpr (Int.le_trans hle (roundUp_bounds hpositive y).1)

theorem roundUp_roundUp (hpositive : 0 < multiple) {larger : Int} (hlarger : 0 < larger) (hdvd : multiple ∣ larger)
    (x : Int) : roundUp larger (roundUp multiple x) = roundUp larger x := by
  apply Int.le_antisymm
  · rw [roundUp_le_iff hlarger (dvd_roundUp larger x),
      roundUp_le_iff hpositive (Int.dvd_trans hdvd (dvd_roundUp larger x))]
    exact (roundUp_bounds hlarger x).1
  · exact roundUp_mono hlarger (roundUp_bounds hpositive x).1

end

def align (multiple num : Nat) : Nat := (num + (multiple - 1)) / multiple * multiple

theorem le_align {multiple : Nat} (hpositive : 0 < multiple) (num : Nat) : num ≤ align multiple num := by
  have hrest := Nat.div_add_mod (num + (multiple - 1)) multiple
  have hless := Nat.mod_lt (num + (multiple - 1)) hpositive
  rw [align, Nat.mul_comm]
  omega

def IsPowerOfTwo (alignment : BitVec width) : Prop := ∃ k < width, alignment.toNat = 2 ^ k

def padding (alignment x : Nat) : Nat := (alignment - x % alignment) % alignment

namespace IsPowerOfTwo

variable {alignment x : BitVec width}

theorem pos (halignment : IsPowerOfTwo alignment) : 0 < alignment.toNat := by
  obtain ⟨k, -, hk⟩ := halignment
  rw [hk]
  exact Nat.two_pow_pos k

theorem dvd_size (halignment : IsPowerOfTwo alignment) : alignment.toNat ∣ 2 ^ width := by
  obtain ⟨k, hlt, hk⟩ := halignment
  rw [hk]
  exact Nat.pow_dvd_pow 2 hlt.le

theorem toNat_sub_one (halignment : IsPowerOfTwo alignment) :
    (alignment - 1).toNat = alignment.toNat - 1 := by
  have hpos := halignment.pos
  by_cases hwidth : (1 : BitVec width).toNat = 1
  · rw [BitVec.toNat_sub_of_le, hwidth]
    rw [BitVec.le_def, hwidth]
    exact hpos
  · obtain ⟨k, hlt, -⟩ := halignment
    have hsize : 1 < 2 ^ width := Nat.one_lt_two_pow (by omega)
    exact absurd (Nat.mod_eq_of_lt hsize) hwidth

theorem toNat_and_not (halignment : IsPowerOfTwo alignment) (x : BitVec width) :
    (x &&& ~~~(alignment - 1)).toNat = x.toNat - x.toNat % alignment.toNat := by
  have hparts : (x &&& ~~~(alignment - 1)) + (x &&& (alignment - 1)) = x := by
    rw [BitVec.add_eq_or_of_and_eq_zero]
    · apply BitVec.eq_of_getLsbD_eq
      intro i hi
      simp only [BitVec.getLsbD_or, BitVec.getLsbD_and, BitVec.getLsbD_not, hi, decide_true, Bool.true_and]
      cases x.getLsbD i <;> cases (alignment - 1).getLsbD i <;> rfl
    · apply BitVec.eq_of_getLsbD_eq
      intro i hi
      simp only [BitVec.getLsbD_and, BitVec.getLsbD_not, hi, decide_true, Bool.true_and, BitVec.getLsbD_zero]
      cases x.getLsbD i <;> cases (alignment - 1).getLsbD i <;> rfl
  have hlow : (x &&& (alignment - 1)).toNat = x.toNat % alignment.toNat := by
    rw [BitVec.toNat_and, halignment.toNat_sub_one]
    obtain ⟨k, -, hk⟩ := halignment
    rw [hk, Nat.and_two_pow_sub_one_eq_mod]
  have hhigh : x &&& ~~~(alignment - 1) = x - (x &&& (alignment - 1)) := by
    rw [eq_comm, BitVec.sub_eq_iff_eq_add, hparts]
  rw [hhigh, BitVec.toNat_sub_of_le, hlow]
  rw [BitVec.le_def, hlow]
  exact Nat.mod_le _ _

theorem dvd_alignUp (halignment : IsPowerOfTwo alignment) (x : BitVec width) :
    alignment.toNat ∣ (alignUp x alignment).toNat := by
  rw [alignUp, halignment.toNat_and_not]
  exact Nat.dvd_sub_mod _

theorem toNat_alignUp_align (halignment : IsPowerOfTwo alignment) (hfits : x.toNat + alignment.toNat ≤ 2 ^ width) :
    (alignUp x alignment).toNat = align alignment.toNat x.toNat := by
  have hpos := halignment.pos
  have hsum : (x + alignment - 1).toNat = x.toNat + (alignment.toNat - 1) := by
    have hassoc : x + alignment - 1 = x + (alignment - 1) := by
      rw [BitVec.sub_eq_add_neg, BitVec.sub_eq_add_neg, BitVec.add_assoc]
    rw [hassoc, BitVec.toNat_add_of_lt, halignment.toNat_sub_one]
    rw [halignment.toNat_sub_one]
    omega
  rw [alignUp, halignment.toNat_and_not, hsum, align, Nat.div_mul_self_eq_mod_sub_self]

theorem toNat_alignUp (halignment : IsPowerOfTwo alignment) (hfits : x.toNat + alignment.toNat ≤ 2 ^ width) :
    x.toNat ≤ (alignUp x alignment).toNat ∧ (alignUp x alignment).toNat < x.toNat + alignment.toNat := by
  have hpos := halignment.pos
  rw [halignment.toNat_alignUp_align hfits]
  refine ⟨le_align hpos _, ?_⟩
  have hrest := Nat.div_mul_le_self (x.toNat + (alignment.toNat - 1)) alignment.toNat
  rw [align]
  omega

theorem toNat_alignUp_eq (halignment : IsPowerOfTwo alignment)
    (hfits : x.toNat + alignment.toNat ≤ 2 ^ width) :
    (alignUp x alignment).toNat = x.toNat + padding alignment.toNat x.toNat := by
  obtain ⟨hle, hlt⟩ := halignment.toNat_alignUp hfits
  obtain ⟨count, hcount⟩ := halignment.dvd_alignUp x
  have hpos := halignment.pos
  have hmod := Nat.mod_lt x.toNat hpos
  have hsplit := Nat.div_add_mod x.toNat alignment.toNat
  generalize hquotient : x.toNat / alignment.toNat = quotient at hsplit
  rw [hcount] at hle hlt ⊢
  unfold padding
  by_cases hzero : x.toNat % alignment.toNat = 0
  · rw [hzero, Nat.sub_zero, Nat.mod_self]
    have hleft : alignment.toNat * count < alignment.toNat * (quotient + 1) := by rw [Nat.mul_succ]; omega
    have hright : alignment.toNat * quotient ≤ alignment.toNat * count := by omega
    have hsame : count = quotient :=
      Nat.le_antisymm (Nat.le_of_lt_succ (Nat.lt_of_mul_lt_mul_left hleft)) (Nat.le_of_mul_le_mul_left hright hpos)
    rw [hsame]
    omega
  · rw [Nat.mod_eq_of_lt (by omega)]
    have hleft : alignment.toNat * count < alignment.toNat * (quotient + 1 + 1) := by
      rw [Nat.mul_succ, Nat.mul_succ]
      omega
    have hright : alignment.toNat * quotient < alignment.toNat * count := by omega
    have hsame : count = quotient + 1 :=
      Nat.le_antisymm (Nat.le_of_lt_succ (Nat.lt_of_mul_lt_mul_left hleft)) (Nat.lt_of_mul_lt_mul_left hright)
    rw [hsame, Nat.mul_succ]
    omega

theorem add_le_of_dvd (halignment : IsPowerOfTwo alignment) (hdvd : alignment.toNat ∣ x.toNat) :
    x.toNat + alignment.toNat ≤ 2 ^ width := by
  obtain ⟨count, hcount⟩ := hdvd
  obtain ⟨total, htotal⟩ := halignment.dvd_size
  have hlt := x.isLt
  rw [hcount, htotal] at hlt
  have hstep : count + 1 ≤ total := Nat.lt_of_mul_lt_mul_left hlt
  rw [hcount, htotal, ← Nat.mul_succ]
  exact Nat.mul_le_mul_left _ hstep

theorem alignUp_of_dvd (halignment : IsPowerOfTwo alignment) (hdvd : alignment.toNat ∣ x.toNat) :
    alignUp x alignment = x := by
  have hfits := halignment.add_le_of_dvd hdvd
  obtain ⟨hle, hlt⟩ := halignment.toNat_alignUp hfits
  apply BitVec.eq_of_toNat_eq
  obtain ⟨first, hfirst⟩ := hdvd
  obtain ⟨second, hsecond⟩ := halignment.dvd_alignUp x
  rw [hfirst, hsecond, ← Nat.mul_succ] at hlt
  rw [hfirst, hsecond] at hle
  have hpos := halignment.pos
  have hleft := Nat.le_of_mul_le_mul_left hle hpos
  have hright := Nat.lt_of_mul_lt_mul_left hlt
  rw [hfirst, hsecond, Nat.le_antisymm (Nat.le_of_lt_succ hright) hleft]

theorem alignUp_ofInt (halignment : IsPowerOfTwo alignment) (x : Int) :
    alignUp (BitVec.ofInt width x) alignment = BitVec.ofInt width (roundUp alignment.toNat x) := by
  obtain ⟨total, htotal⟩ := halignment.dvd_size
  have hpos := halignment.pos
  have hless : alignment - 1 = BitVec.ofInt width (alignment.toNat - 1) := by
    apply BitVec.eq_of_toNat_eq
    have hlt := (alignment - 1).isLt
    rw [halignment.toNat_sub_one] at hlt ⊢
    rw [BitVec.toNat_ofInt, Int.emod_eq_of_lt (by omega) (by omega)]
    omega
  have hsum : BitVec.ofInt width x + alignment - 1 = BitVec.ofInt width (x + (alignment.toNat - 1)) := by
    rw [BitVec.ofInt_add, ← hless, BitVec.sub_eq_add_neg, BitVec.sub_eq_add_neg, BitVec.add_assoc]
  apply BitVec.eq_of_toNat_eq
  rw [alignUp, hsum, halignment.toNat_and_not, roundUp]
  generalize x + (alignment.toNat - 1 : Int) = sum
  have hwords : (0 : Int) < 2 ^ width := Int.pow_pos (by decide)
  have hword : sum % 2 ^ width % alignment.toNat = sum % alignment.toNat :=
    Int.emod_emod_of_dvd _ ⟨total, by exact_mod_cast htotal⟩
  have hsplit := Int.emod_add_mul_ediv sum (2 ^ width)
  have hless := Int.emod_lt_of_pos sum hwords
  have hrest := Int.emod_nonneg sum (show (alignment.toNat : Int) ≠ 0 by omega)
  have hparts := Int.emod_add_mul_ediv (sum % 2 ^ width) alignment.toNat
  have hmultiple : 0 ≤ (alignment.toNat : Int) * (sum % 2 ^ width / alignment.toNat) :=
    Int.mul_nonneg (by omega) (Int.ediv_nonneg (Int.emod_nonneg _ (Int.ne_of_gt hwords)) (by omega))
  have hwhole : sum / alignment.toNat * alignment.toNat = sum - sum % alignment.toNat := by
    have hdiv := Int.emod_add_mul_ediv sum alignment.toNat
    rw [Int.mul_comm]
    omega
  have hwrapped : (sum - sum % alignment.toNat) % 2 ^ width = sum % 2 ^ width - sum % alignment.toNat := by
    rw [hword] at hparts
    rw [show sum - sum % alignment.toNat = sum % 2 ^ width - sum % alignment.toNat + 2 ^ width * (sum / 2 ^ width) by
      omega, Int.add_mul_emod_self_left, Int.emod_eq_of_lt (by omega) (by omega)]
  rw [BitVec.toNat_ofInt, BitVec.toNat_ofInt, hwhole]
  push_cast
  rw [hwrapped, ← hword]
  obtain ⟨word, hnat⟩ := Int.eq_ofNat_of_zero_le (Int.emod_nonneg sum (Int.ne_of_gt hwords))
  rw [hnat, Int.toNat_natCast, ← Int.natCast_emod]
  omega

end IsPowerOfTwo

end Nozomi
