import Nozomi.Vdec.StreamParser.Shifts

/-!
# Syntax elements

Lists of `u(n)` and `ue(v)` elements and their codes, and what the parser reads from a list of bits, which may cut a
code off. Codes that are complete are read back.
-/

namespace Nozomi

variable {bits rest : List Bool} {lead value : Nat}

/-! ### Ones -/

def ones (bits : List Bool) : Nat := bits.count true

@[simp] theorem ones_append (first second : List Bool) : ones (first ++ second) = ones first + ones second :=
  List.count_append

/-! ### `ue(v)` -/

def leadOf : List Bool → Nat × List Bool
  | [] => (0, [])
  | true :: rest => (0, rest)
  | [false] => (0, [])
  | false :: bit :: rest => ((leadOf (bit :: rest)).1 + 1, (leadOf (bit :: rest)).2)

def ueOf (bits : List Bool) : Nat × List Bool :=
  let (lead, rest) := leadOf bits
  if lead = 0 then (0, rest)
  else if lead > 32 then (sub32 (2 ^ lead % 2 ^ 32) 1, rest)
  else ((sub32 (2 ^ lead % 2 ^ 32) 1 + bitsValue (rest.take lead)) % 2 ^ 32, rest.drop lead)

theorem leadOf_found (lead : Nat) (rest : List Bool) :
    leadOf (List.replicate lead false ++ true :: rest) = (lead, rest) := by
  induction lead with
  | zero => rfl
  | succ lead ih =>
    rw [List.replicate_succ, List.cons_append]
    cases lead with
    | zero => rfl
    | succ lead =>
      rw [List.replicate_succ, List.cons_append] at ih ⊢
      rw [leadOf, ih]

theorem ueOf_found (hlead : lead ≤ 31) (rest : List Bool) :
    ueOf (List.replicate lead false ++ true :: rest) =
      (2 ^ lead - 1 + bitsValue (rest.take lead), rest.drop lead) := by
  have hpow : 2 ^ lead < 2 ^ 32 := Nat.pow_lt_pow_right Nat.one_lt_two (by omega)
  have hone : 1 ≤ 2 ^ lead := Nat.one_le_two_pow
  have hlow := (bitsValue_lt (rest.take lead)).trans_le
    (Nat.pow_le_pow_right Nat.zero_lt_two (List.length_take_le lead rest))
  have htwice : 2 ^ lead + 2 ^ lead ≤ 2 ^ 32 := by
    rw [← Nat.two_mul, ← Nat.pow_succ']
    exact Nat.pow_le_pow_right Nat.zero_lt_two (by omega)
  rw [ueOf, leadOf_found]
  dsimp only
  split
  · have hzero : lead = 0 := ‹_›
    subst hzero
    rfl
  · rw [if_neg (by omega), Nat.mod_eq_of_lt hpow, sub32_of_le hone hpow, Nat.mod_eq_of_lt (by omega)]

theorem expGolomb_length (value : Nat) : (expGolomb value).length = 2 * leadingZeros value + 1 :=
  natBits_length _ _

theorem ueOf_expGolomb (hvalue : value + 1 < 2 ^ 32) (rest : List Bool) :
    ueOf (expGolomb value ++ rest) = (value, rest) := by
  have hlow := two_pow_leadingZeros_le value
  have hlead : leadingZeros value ≤ 31 := leadingZeros_le hvalue
  rw [expGolomb_eq, List.append_assoc, List.cons_append, ueOf_found hlead,
    List.take_left' (natBits_length _ _), List.drop_left' (natBits_length _ _), bitsValue_natBits,
    mod_two_pow_leadingZeros]
  congr 1
  have hone : 1 ≤ 2 ^ leadingZeros value := Nat.one_le_two_pow
  omega

/-! ### Lists of elements -/

inductive Descriptor
  | u (n : Nat)
  | ue
  deriving DecidableEq, Repr

namespace Descriptor

def code : Descriptor → Nat → List Bool
  | u n, value => natBits n value
  | ue, value => expGolomb value

def Fits : Descriptor → Nat → Prop
  | u n, value => value < 2 ^ n
  | ue, value => value + 1 < 2 ^ 32

end Descriptor

def codes (elements : List (Descriptor × Nat)) : List Bool :=
  elements.flatMap fun element => element.1.code element.2

@[simp] theorem codes_cons (element : Descriptor × Nat) (elements : List (Descriptor × Nat)) :
    codes (element :: elements) = element.1.code element.2 ++ codes elements := List.flatMap_cons

end Nozomi
