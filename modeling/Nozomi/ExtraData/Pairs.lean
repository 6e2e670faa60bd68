import Nozomi.ExtraData.Message

/-!
# Emulation prevention in `create_rbsp`

`create_rbsp` looks at the bytes in pairs and puts a 3 behind two zeros. A parser then misses the 3 of a pair
that follows a zero of the pair in front of it, and reads all other bytes.
-/

namespace Nozomi

def keptPairs : (behindZero : Bool) → List UInt8 → List UInt8
  | _, [] => []
  | _, [byte] => [byte]
  | behindZero, first :: second :: bytes =>
    if behindZero ∧ first = 0 ∧ second = 3 then first :: keptPairs false bytes
    else first :: second :: keptPairs (decide (first ≠ 0 ∧ second = 0)) bytes

def missedPairs : (behindZero : Bool) → List UInt8 → Nat
  | _, [] => 0
  | _, [_] => 0
  | behindZero, first :: second :: bytes =>
    if behindZero ∧ first = 0 ∧ second = 3 then missedPairs false bytes + 1
    else missedPairs (decide (first ≠ 0 ∧ second = 0)) bytes

def Lossless (bytes : List UInt8) : Prop :=
  ∀ index first, first ≠ 0 → (bytes.drop (2 * index)).take 4 ≠ [first, 0, 0, 3]

open ExtraDataHandler

theorem toNat_add_eq_zero {first second : UInt8} : first.toNat + second.toNat = 0 ↔ first = 0 ∧ second = 0 := by
  rw [Nat.add_eq_zero_iff, ← UInt8.toNat_inj, ← UInt8.toNat_inj]
  rfl

theorem unescapeFrom_escapePairs (behindZero : Bool) (bytes : List UInt8) :
    unescapeFrom behindZero.toNat (escapePairs bytes) = keptPairs behindZero bytes := by
  have hsmall : ∀ (flag : Bool) (byte : UInt8), ¬(2 ≤ flag.toNat ∧ byte = 3) := by
    rintro flag byte ⟨hzeros, -⟩
    have hle := flag.toNat_le
    omega
  induction bytes using escapePairs.induct generalizing behindZero with
  | case1 => rfl
  | case2 byte => rw [escapePairs, keptPairs, unescapeFrom, if_neg (hsmall _ _), unescapeFrom]
  | case3 first second bytes hzero ih =>
    obtain ⟨rfl, rfl⟩ := toNat_add_eq_zero.mp hzero
    have hnot : ¬(behindZero = true ∧ (0 : UInt8) = 0 ∧ (0 : UInt8) = 3) := fun h => absurd h.2.2 (by decide)
    have hpair : decide ((0 : UInt8) ≠ 0 ∧ (0 : UInt8) = 0) = false := by decide
    have hzeros : 2 ≤ zerosAfter (zerosAfter behindZero.toNat 0) 0 := by
      rw [zerosAfter, if_pos rfl, zerosAfter, if_pos rfl]
      omega
    rw [escapePairs, if_pos hzero, keptPairs, if_neg hnot, hpair, unescapeFrom, if_neg (hsmall _ _),
      unescapeFrom,
      if_neg (fun h => absurd h.2 (by decide)), unescapeFrom, if_pos ⟨hzeros, rfl⟩, ← ih false]
    rfl
  | case4 first second bytes hzero ih =>
    rw [escapePairs, if_neg hzero, keptPairs, unescapeFrom, if_neg (hsmall _ _), unescapeFrom]
    by_cases hfirst : first = 0
    · have hsecond : second ≠ 0 := fun hsecond => hzero (toNat_add_eq_zero.mpr ⟨hfirst, hsecond⟩)
      have hpair : decide (first ≠ 0 ∧ second = 0) = false := decide_eq_false fun h => h.1 hfirst
      have hzeros : zerosAfter behindZero.toNat first = behindZero.toNat + 1 := if_pos hfirst
      rw [hzeros, hpair, ← ih false]
      cases behindZero with
      | true =>
        by_cases hthree : second = 3
        · rw [if_pos ⟨Nat.le_refl 2, hthree⟩, if_pos ⟨rfl, hfirst, hthree⟩]
          rfl
        · rw [if_neg (fun h => hthree h.2), if_neg (fun h => hthree h.2.2), zerosAfter, if_neg hsecond]
          rfl
      | false =>
        rw [if_neg (fun h => absurd h.1 (by decide)), if_neg (fun h => absurd h.1 (by decide)), zerosAfter,
          if_neg hsecond]
        rfl
    · have hzeros : zerosAfter behindZero.toNat first = 0 := if_neg hfirst
      rw [hzeros, if_neg (fun h => absurd h.1 (by decide)), if_neg (fun h => hfirst h.2.1), ← ih]
      congr 3
      rw [zerosAfter]
      by_cases hsecond : second = 0
      · rw [if_pos hsecond, decide_eq_true ⟨hfirst, hsecond⟩]
        rfl
      · rw [if_neg hsecond, decide_eq_false fun h => hsecond h.2]
        rfl

theorem keptPairs_count (behindZero : Bool) (bytes : List UInt8) :
    (keptPairs behindZero bytes).length + missedPairs behindZero bytes = bytes.length ∧
      ones (bytesBits (keptPairs behindZero bytes)) + 2 * missedPairs behindZero bytes =
        ones (bytesBits bytes) := by
  induction bytes using escapePairs.induct generalizing behindZero with
  | case1 => exact ⟨rfl, rfl⟩
  | case2 byte => exact ⟨rfl, Nat.add_zero _⟩
  | case3 first second bytes hzero ih | case4 first second bytes hzero ih =>
    rw [keptPairs, missedPairs]
    split
    · obtain ⟨-, rfl, rfl⟩ := ‹_ ∧ _›
      obtain ⟨hlength, hones⟩ := ih false
      have hbits : ones (byteBits 0) = 0 ∧ ones (byteBits 3) = 2 := by decide
      simp only [List.length_cons, bytesBits_cons, ones_append, hbits]
      omega
    · obtain ⟨hlength, hones⟩ := ih (decide (first ≠ 0 ∧ second = 0))
      simp only [List.length_cons, bytesBits_cons, ones_append]
      omega

theorem keptPairs_of_missedPairs {behindZero : Bool} {bytes : List UInt8}
    (hnone : missedPairs behindZero bytes = 0) : keptPairs behindZero bytes = bytes := by
  induction bytes using escapePairs.induct generalizing behindZero with
  | case1 => rfl
  | case2 byte => rfl
  | case3 first second bytes hzero ih | case4 first second bytes hzero ih =>
    rw [missedPairs] at hnone
    rw [keptPairs]
    split
    · rw [if_pos ‹_›] at hnone
      exact absurd hnone (Nat.succ_ne_zero _)
    · rw [if_neg ‹_›] at hnone
      rw [ih hnone]

theorem lossless_cons_cons {first second : UInt8} {bytes : List UInt8} :
    Lossless (first :: second :: bytes) ↔
      ¬(first ≠ 0 ∧ second = 0 ∧ bytes.take 2 = [0, 3]) ∧ Lossless bytes := by
  constructor
  · intro hlossless
    refine ⟨?_, fun index byte hbyte => hlossless (index + 1) byte hbyte⟩
    rintro ⟨hfirst, rfl, hbytes⟩
    apply hlossless 0 first hfirst
    rw [Nat.mul_zero, List.drop_zero, List.take_succ_cons, List.take_succ_cons, hbytes]
  · rintro ⟨hnot, hlossless⟩ index byte hbyte htake
    cases index with
    | zero =>
      rw [Nat.mul_zero, List.drop_zero, List.take_succ_cons, List.take_succ_cons] at htake
      obtain ⟨hfirst, htake⟩ := List.cons.inj htake
      obtain ⟨hsecond, htake⟩ := List.cons.inj htake
      exact hnot ⟨hfirst ▸ hbyte, hsecond, htake⟩
    | succ index => exact hlossless index byte hbyte htake

theorem missedPairs_eq_zero_iff (behindZero : Bool) (bytes : List UInt8) :
    missedPairs behindZero bytes = 0 ↔ (behindZero = true → bytes.take 2 ≠ [0, 3]) ∧ Lossless bytes := by
  have hshort : ∀ bytes : List UInt8, bytes.length ≤ 1 → Lossless bytes ∧ bytes.take 2 ≠ [0, 3] := by
    intro bytes hlength
    constructor
    · intro index first _ htake
      have htaken := congrArg List.length htake
      rw [List.length_take, List.length_drop] at htaken
      simp only [List.length_cons, List.length_nil] at htaken
      omega
    · intro htake
      have htaken := congrArg List.length htake
      rw [List.length_take] at htaken
      simp only [List.length_cons, List.length_nil] at htaken
      omega
  induction bytes using escapePairs.induct generalizing behindZero with
  | case1 => exact iff_of_true rfl ⟨fun _ => (hshort [] (by decide)).2, (hshort [] (by decide)).1⟩
  | case2 byte =>
    exact iff_of_true rfl ⟨fun _ => (hshort [byte] (Nat.le_refl 1)).2, (hshort [byte] (Nat.le_refl 1)).1⟩
  | case3 first second bytes hzero ih | case4 first second bytes hzero ih =>
    rw [missedPairs, lossless_cons_cons]
    have htake : (first :: second :: bytes).take 2 = [0, 3] ↔ first = 0 ∧ second = 3 := by
      rw [List.take_succ_cons, List.take_succ_cons, List.take_zero]
      simp
    by_cases hmissed : behindZero = true ∧ first = 0 ∧ second = 3
    · obtain ⟨hflag, hfirst, hsecond⟩ := hmissed
      rw [if_pos ⟨hflag, hfirst, hsecond⟩]
      constructor
      · intro hnone
        exact absurd hnone (Nat.succ_ne_zero _)
      · rintro ⟨hnot, -⟩
        exact absurd (htake.mpr ⟨hfirst, hsecond⟩) (hnot hflag)
    · have hnot : behindZero = true → (first :: second :: bytes).take 2 ≠ [0, 3] := by
        intro hflag hpair
        obtain ⟨hfirst, hsecond⟩ := htake.mp hpair
        exact hmissed ⟨hflag, hfirst, hsecond⟩
      rw [if_neg hmissed]
      refine (ih (decide (first ≠ 0 ∧ second = 0))).trans ?_
      simp only [decide_eq_true_eq, ne_eq, not_and]
      constructor
      · rintro ⟨hpair, hlossless⟩
        exact ⟨hnot, fun hfirst hsecond => hpair ⟨hfirst, hsecond⟩, hlossless⟩
      · rintro ⟨-, hpair, hlossless⟩
        exact ⟨fun hflag => hpair hflag.1 hflag.2, hlossless⟩

end Nozomi
