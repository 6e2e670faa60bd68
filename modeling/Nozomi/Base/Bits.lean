import Mathlib.Data.List.Induction
import Mathlib.Data.Nat.Bitwise
import Mathlib.Data.Nat.Log
import Mathlib.Tactic.Linarith
import Mathlib.Tactic.Ring

/-!
# Bit strings

Numbers and bytes as bit strings, most significant bit first, and Exp-Golomb codes.
-/

namespace Nozomi

def natBits : Nat → Nat → List Bool
  | 0, _ => []
  | width + 1, value => value.testBit width :: natBits width value

def bitsValue (bits : List Bool) : Nat := bits.foldl (fun value bit => 2 * value + bit.toNat) 0

@[simp] theorem natBits_length (width value : Nat) : (natBits width value).length = width := by
  induction width with
  | zero => rfl
  | succ width ih => rw [natBits, List.length_cons, ih]

@[simp] theorem bitsValue_nil : bitsValue [] = 0 := rfl

theorem bitsValue_append (first second : List Bool) :
    bitsValue (first ++ second) = bitsValue first * 2 ^ second.length + bitsValue second := by
  induction second using List.reverseRecOn with
  | nil => simp
  | append_singleton second bit ih =>
    have hlast : ∀ bits : List Bool, bitsValue (bits ++ [bit]) = 2 * bitsValue bits + bit.toNat := by
      intro bits
      simp [bitsValue]
    rw [← List.append_assoc, hlast, hlast, ih, List.length_append, List.length_singleton, Nat.pow_succ]
    ring

theorem bitsValue_cons (bit : Bool) (bits : List Bool) :
    bitsValue (bit :: bits) = bit.toNat * 2 ^ bits.length + bitsValue bits := by
  rw [← List.singleton_append, bitsValue_append]
  simp [bitsValue]

theorem bitsValue_lt (bits : List Bool) : bitsValue bits < 2 ^ bits.length := by
  induction bits with
  | nil => simp
  | cons bit bits ih =>
    rw [bitsValue_cons, List.length_cons, Nat.pow_succ]
    have := bit.toNat_le
    nlinarith

theorem bitsValue_natBits (width value : Nat) : bitsValue (natBits width value) = value % 2 ^ width := by
  induction width with
  | zero => simp [natBits, Nat.mod_one]
  | succ width ih =>
    rw [natBits, bitsValue_cons, ih, natBits_length, Nat.toNat_testBit, Nat.pow_succ, Nat.mod_mul,
      Nat.mul_comm, Nat.add_comm]

theorem natBits_add (first second value : Nat) :
    natBits (first + second) value = natBits first (value >>> second) ++ natBits second value := by
  induction first with
  | zero => simp [natBits]
  | succ first ih =>
    rw [Nat.succ_add, natBits, natBits, ih, Nat.testBit_shiftRight, List.cons_append,
      Nat.add_comm second first]

variable (value : Nat)

theorem natBits_window {width start size : Nat} (hfit : start + size ≤ width) :
    ((natBits width value).drop start).take size = natBits size (value >>> (width - start - size)) := by
  have hsplit : width = start + (size + (width - start - size)) := by omega
  generalize width - start - size = rest at hsplit ⊢
  subst hsplit
  rw [natBits_add, List.drop_left' (natBits_length _ _), natBits_add,
    List.take_left' (natBits_length _ _)]

theorem natBits_congr {width value other : Nat} (hsame : value % 2 ^ width = other % 2 ^ width) :
    natBits width value = natBits width other := by
  induction width with
  | zero => rfl
  | succ width ih =>
    rw [natBits, natBits, ih]
    · congr 1
      have hbit := congrArg (fun number => number.testBit width) hsame
      simpa [Nat.testBit_mod_two_pow] using hbit
    · have hmod := congrArg (· % 2 ^ width) hsame
      simpa [Nat.mod_mod_of_dvd _ (pow_dvd_pow 2 (Nat.le_succ width))] using hmod

theorem natBits_bitsValue (bits : List Bool) : natBits bits.length (bitsValue bits) = bits := by
  induction bits with
  | nil => rfl
  | cons bit bits ih =>
    have hlt := bitsValue_lt bits
    rw [List.length_cons, Nat.add_comm, natBits_add, bitsValue_cons]
    have hhigh : (bit.toNat * 2 ^ bits.length + bitsValue bits) >>> bits.length = bit.toNat := by
      rw [Nat.shiftRight_eq_div_pow, Nat.add_comm, Nat.add_mul_div_right _ _ (Nat.two_pow_pos _),
        Nat.div_eq_of_lt hlt, Nat.zero_add]
    have hlow : natBits bits.length (bit.toNat * 2 ^ bits.length + bitsValue bits) = bits := by
      conv_rhs => rw [← ih]
      apply natBits_congr
      rw [Nat.mul_add_mod_self_right]
    rw [hhigh, hlow]
    cases bit <;> rfl

theorem natBits_zero (width : Nat) : natBits width 0 = List.replicate width false := by
  induction width with
  | zero => rfl
  | succ width ih => rw [natBits, ih, Nat.zero_testBit, List.replicate_succ]

/-! ### Bytes -/

def byteBits (byte : UInt8) : List Bool := natBits 8 byte.toNat

def bytesBits (bytes : List UInt8) : List Bool := bytes.flatMap byteBits

@[simp] theorem byteBits_length (byte : UInt8) : (byteBits byte).length = 8 := natBits_length 8 _

@[simp] theorem bytesBits_nil : bytesBits [] = [] := rfl

theorem bytesBits_cons (byte : UInt8) (bytes : List UInt8) :
    bytesBits (byte :: bytes) = byteBits byte ++ bytesBits bytes := rfl

@[simp] theorem bytesBits_append (first second : List UInt8) :
    bytesBits (first ++ second) = bytesBits first ++ bytesBits second := by
  simp [bytesBits]

@[simp] theorem bytesBits_length (bytes : List UInt8) :
    (bytesBits bytes).length = 8 * bytes.length := by
  induction bytes with
  | nil => rfl
  | cons byte bytes ih =>
    rw [bytesBits_cons, List.length_append, byteBits_length, ih, List.length_cons]
    omega

theorem bytesBits_window {bytes : List UInt8} (index start size : Nat) (hindex : index < bytes.length)
    (hfit : start + size ≤ 8) :
    ((bytesBits bytes).drop (8 * index + start)).take size =
      natBits size ((bytes.getD index 0).toNat >>> (8 - start - size)) := by
  have hbits : bytesBits bytes = bytesBits (bytes.take index) ++
      (byteBits bytes[index] ++ bytesBits (bytes.drop (index + 1))) := by
    rw [← bytesBits_cons, ← List.drop_eq_getElem_cons hindex, ← bytesBits_append,
      List.take_append_drop]
  have hlength : (bytesBits (bytes.take index)).length = 8 * index := by
    rw [bytesBits_length, List.length_take, Nat.min_eq_left hindex.le]
  rw [List.getD_eq_getElem _ _ hindex, hbits, ← List.drop_drop, List.drop_left' hlength,
    List.drop_append_of_le_length (by simp; omega), List.take_append_of_le_length (by simp; omega),
    byteBits, natBits_window _ hfit]

theorem bytesBits_getElem? {bytes : List UInt8} (index bit : Nat) (hindex : index < bytes.length)
    (hbit : bit < 8) :
    (bytesBits bytes)[8 * index + bit]? = some ((bytes.getD index 0).toNat.testBit (7 - bit)) := by
  have hwindow := bytesBits_window index bit 1 hindex (by omega)
  rw [natBits, natBits, Nat.testBit_shiftRight, Nat.add_zero, show 8 - bit - 1 = 7 - bit by omega]
    at hwindow
  have hhead := congrArg List.head? hwindow
  rwa [List.head?_take, if_neg (by decide), List.head?_drop] at hhead

theorem bitsValue_byteBits (byte : UInt8) : bitsValue (byteBits byte) = byte.toNat := by
  rw [byteBits, bitsValue_natBits, Nat.mod_eq_of_lt byte.toNat_lt]

/-! ### Exp-Golomb codes -/

def leadingZeros (value : Nat) : Nat := Nat.log 2 (value + 1)

def expGolomb (value : Nat) : List Bool := natBits (2 * leadingZeros value + 1) (value + 1)

theorem two_pow_leadingZeros_le : 2 ^ leadingZeros value ≤ value + 1 :=
  Nat.pow_log_le_self 2 (Nat.succ_ne_zero value)

theorem lt_two_pow_leadingZeros : value + 1 < 2 ^ (leadingZeros value + 1) :=
  Nat.lt_pow_succ_log_self (by decide) _

theorem mod_two_pow_leadingZeros : (value + 1) % 2 ^ leadingZeros value = value + 1 - 2 ^ leadingZeros value := by
  have hhigh := lt_two_pow_leadingZeros value
  rw [Nat.pow_succ] at hhigh
  rw [Nat.mod_eq_sub_mod (two_pow_leadingZeros_le value), Nat.mod_eq_of_lt (by omega)]

theorem expGolomb_eq :
    expGolomb value = List.replicate (leadingZeros value) false ++
      true :: natBits (leadingZeros value) (value + 1) := by
  have hlow := two_pow_leadingZeros_le value
  have hhigh := lt_two_pow_leadingZeros value
  have htop : (value + 1) >>> (leadingZeros value + 1) = 0 := by
    rw [Nat.shiftRight_eq_div_pow]
    exact Nat.div_eq_of_lt hhigh
  have hone : (value + 1).testBit (leadingZeros value) = true := by
    have hdiv : (value + 1) / 2 ^ leadingZeros value = 1 := by
      apply Nat.div_eq_of_lt_le
      · rwa [Nat.one_mul]
      · rwa [Nat.pow_succ, Nat.mul_comm] at hhigh
    rw [Nat.testBit_eq_decide_div_mod_eq, hdiv]
    rfl
  rw [expGolomb, Nat.two_mul, Nat.add_assoc, natBits_add, htop, natBits_zero, natBits, hone]

theorem leadingZeros_le {value bound : Nat} (hvalue : value + 1 < 2 ^ (bound + 1)) :
    leadingZeros value ≤ bound :=
  Nat.lt_succ_iff.mp (Nat.log_lt_of_lt_pow (Nat.succ_ne_zero value) hvalue)

end Nozomi
