import Mathlib.Tactic.Ring

/-!
# Emulation prevention

The byte stuffing of H.264 NAL units: after two zeros a byte of at most 3 is preceded by a 3. Both
directions carry the number of zeros that were just written, or read.
-/

namespace Nozomi

def zerosAfter (zeros : Nat) (byte : UInt8) : Nat := if byte = 0 then zeros + 1 else 0

theorem zerosAfter_le {zeros : Nat} (hzeros : zeros < 2) (byte : UInt8) : zerosAfter zeros byte ≤ 2 := by
  rw [zerosAfter]
  split <;> omega

def escapeFrom : Nat → List UInt8 → List UInt8
  | _, [] => []
  | zeros, byte :: bytes =>
    if 2 ≤ zeros ∧ byte ≤ 3 then 3 :: byte :: escapeFrom (zerosAfter 0 byte) bytes
    else byte :: escapeFrom (zerosAfter zeros byte) bytes

def unescapeFrom : Nat → List UInt8 → List UInt8
  | _, [] => []
  | zeros, byte :: bytes =>
    if 2 ≤ zeros ∧ byte = 3 then unescapeFrom 0 bytes
    else byte :: unescapeFrom (zerosAfter zeros byte) bytes

theorem unescapeFrom_length_le (zeros : Nat) (bytes : List UInt8) :
    (unescapeFrom zeros bytes).length ≤ bytes.length := by
  induction bytes generalizing zeros with
  | nil => exact Nat.le_refl 0
  | cons byte bytes ih =>
    rw [unescapeFrom]
    split
    · exact Nat.le_succ_of_le (ih 0)
    · exact Nat.succ_le_succ (ih _)

def escape (bytes : List UInt8) : List UInt8 := escapeFrom 0 bytes

/-! ### Windows of three bytes -/

theorem unescapeFrom_three (zeros : Nat) (bytes : List UInt8) :
    unescapeFrom (zeros + 2) bytes = unescapeFrom 2 bytes := by
  induction bytes generalizing zeros with
  | nil => rfl
  | cons byte bytes ih =>
    rw [unescapeFrom, unescapeFrom, zerosAfter, zerosAfter]
    by_cases hbyte : byte = 0
    · rw [if_pos hbyte, if_pos hbyte, ih 1, show zeros + 2 + 1 = zeros + 1 + 2 from rfl, ih (zeros + 1)]
      simp
    · rw [if_neg hbyte, if_neg hbyte]
      simp

variable {bytes : List UInt8} {byte : UInt8}

theorem unescapeFrom_two (hbytes : bytes.take 1 ≠ [3]) : unescapeFrom 2 bytes = unescapeFrom 1 bytes := by
  cases bytes with
  | nil => rfl
  | cons byte bytes =>
    have hthree : byte ≠ 3 := fun h => hbytes (by rw [List.take_succ_cons, List.take_zero, h])
    rw [unescapeFrom, unescapeFrom, if_neg fun h => hthree h.2, if_neg fun h => hthree h.2, zerosAfter,
      zerosAfter]
    by_cases hbyte : byte = 0
    · rw [if_pos hbyte, if_pos hbyte, unescapeFrom_three 1]
    · rw [if_neg hbyte, if_neg hbyte]

theorem unescapeFrom_one (hbytes : bytes.take 2 ≠ [0, 3]) : unescapeFrom 1 bytes = unescapeFrom 0 bytes := by
  cases bytes with
  | nil => rfl
  | cons byte bytes =>
    rw [unescapeFrom, unescapeFrom, if_neg fun h => absurd h.1 (by decide), if_neg fun h => absurd h.1
      (by decide),
      zerosAfter, zerosAfter]
    by_cases hbyte : byte = 0
    · rw [if_pos hbyte, if_pos hbyte, unescapeFrom_two]
      intro htake
      apply hbytes
      rw [List.take_succ_cons, htake, hbyte]
    · rw [if_neg hbyte, if_neg hbyte]

theorem unescapeFrom_cons (hbytes : (byte :: bytes).take 3 ≠ [0, 0, 3]) :
    unescapeFrom 0 (byte :: bytes) = byte :: unescapeFrom 0 bytes := by
  rw [unescapeFrom, if_neg fun h => absurd h.1 (by decide), zerosAfter]
  by_cases hbyte : byte = 0
  · rw [if_pos hbyte, Nat.zero_add, unescapeFrom_one]
    intro htake
    apply hbytes
    rw [List.take_succ_cons, htake, hbyte]
  · rw [if_neg hbyte]

theorem unescapeFrom_window (bytes : List UInt8) :
    unescapeFrom 0 (0 :: 0 :: 3 :: bytes) = 0 :: 0 :: unescapeFrom 0 bytes := rfl

/-! ### Start codes -/

def StartCodeFree (bytes : List UInt8) : Prop :=
  ∀ index third, third ≤ 2 → (bytes.drop index).take 3 ≠ [0, 0, third]

def CleanFrom : Nat → List UInt8 → Prop
  | _, [] => True
  | zeros, byte :: bytes => ¬(2 ≤ zeros ∧ byte ≤ 2) ∧ CleanFrom (zerosAfter zeros byte) bytes

theorem startCodeFree_short (hshort : bytes.length < 3) : StartCodeFree bytes := by
  intro index third _ htake
  have hlength := congrArg List.length htake
  rw [List.length_take, List.length_drop] at hlength
  simp only [List.length_cons, List.length_nil] at hlength
  omega

theorem startCodeFree_cons :
    StartCodeFree (byte :: bytes) ↔
      (∀ third ≤ 2, byte = 0 → bytes.take 2 ≠ [0, third]) ∧ StartCodeFree bytes := by
  constructor
  · intro hfree
    refine ⟨fun third hthird hbyte htake => ?_, fun index => hfree (index + 1)⟩
    apply hfree 0 third hthird
    rw [List.drop_zero, List.take_succ_cons, htake, hbyte]
  · rintro ⟨hfirst, hfree⟩ index third hthird htake
    cases index with
    | zero =>
      rw [List.drop_zero, List.take_succ_cons] at htake
      obtain ⟨hbyte, hrest⟩ := List.cons.inj htake
      exact hfirst third hthird hbyte hrest
    | succ index => exact hfree index third hthird htake

theorem startCodeFree_cons_of_ne (hbyte : byte ≠ 0) : StartCodeFree (byte :: bytes) ↔ StartCodeFree bytes := by
  rw [startCodeFree_cons]
  exact and_iff_right fun _ _ hzero => absurd hzero hbyte

theorem startCodeFree_zero_cons (hbyte : byte ≠ 0) : StartCodeFree (0 :: byte :: bytes) ↔ StartCodeFree bytes := by
  rw [startCodeFree_cons, startCodeFree_cons_of_ne hbyte]
  refine and_iff_right fun third _ _ htake => hbyte ?_
  rw [List.take_succ_cons] at htake
  exact (List.cons.inj htake).1

theorem startCodeFree_zeros_cons : StartCodeFree (0 :: 0 :: byte :: bytes) ↔ ¬byte ≤ 2 ∧ StartCodeFree bytes := by
  have hwindow : ∀ third, (0 :: byte :: bytes).take 2 = [0, third] ↔ byte = third := by
    intro third
    rw [List.take_succ_cons, List.take_succ_cons, List.take_zero]
    simp
  rw [startCodeFree_cons]
  constructor
  · rintro ⟨hfirst, hrest⟩
    have hlarge : ¬byte ≤ 2 := fun hsmall => hfirst byte hsmall rfl ((hwindow byte).mpr rfl)
    have hbyte : byte ≠ 0 := fun hzero => hlarge (hzero ▸ by decide)
    exact ⟨hlarge, (startCodeFree_zero_cons hbyte).mp hrest⟩
  · rintro ⟨hlarge, hrest⟩
    have hbyte : byte ≠ 0 := fun hzero => hlarge (hzero ▸ by decide)
    refine ⟨fun third hthird _ htake => ?_, (startCodeFree_zero_cons hbyte).mpr hrest⟩
    exact hlarge ((hwindow third).mp htake ▸ hthird)

theorem cleanFrom_iff (zeros : Nat) (bytes : List UInt8) :
    CleanFrom zeros bytes ↔ StartCodeFree (List.replicate (min zeros 2) 0 ++ bytes) := by
  induction bytes generalizing zeros with
  | nil =>
    rw [List.append_nil]
    refine iff_of_true trivial (startCodeFree_short ?_)
    rw [List.length_replicate]
    omega
  | cons byte bytes ih =>
    rw [CleanFrom, ih, zerosAfter]
    by_cases hbyte : byte = 0
    · subst hbyte
      rw [if_pos rfl]
      match zeros with
      | 0 => exact and_iff_right fun h => absurd h.1 (by decide)
      | 1 => exact and_iff_right fun h => absurd h.1 (by decide)
      | zeros + 2 =>
        have htwo : min (zeros + 2) 2 = 2 := Nat.min_eq_right (Nat.le_add_left 2 zeros)
        rw [htwo]
        refine iff_of_false (fun h => h.1 ⟨Nat.le_add_left 2 zeros, by decide⟩) fun hfree => ?_
        exact (startCodeFree_zeros_cons.mp hfree).1 (by decide)
    · rw [if_neg hbyte]
      match zeros with
      | 0 =>
        refine (and_iff_right fun h => absurd h.1 (by decide)).trans ?_
        exact (startCodeFree_cons_of_ne hbyte).symm
      | 1 =>
        refine (and_iff_right fun h => absurd h.1 (by decide)).trans ?_
        exact (startCodeFree_zero_cons hbyte).symm
      | zeros + 2 =>
        have htwo : min (zeros + 2) 2 = 2 := Nat.min_eq_right (Nat.le_add_left 2 zeros)
        rw [htwo]
        refine Iff.trans ?_ startCodeFree_zeros_cons.symm
        exact and_congr_left' (not_congr (and_iff_right (Nat.le_add_left 2 zeros)))

end Nozomi
