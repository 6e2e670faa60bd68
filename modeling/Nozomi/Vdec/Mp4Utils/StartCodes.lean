import Nozomi.Base.Align
import Nozomi.Base.BigEndian

/-!
# Start codes

`find_code` of `mp4_utils.cpp` looks for a start code in a word that the bytes are shifted into. The bytes `00 00 01`
begin a code, and its last byte is of a range that the mask leaves open.
-/

namespace Nozomi

def findCodeLoop (data : List UInt8) (codeMask referenceCode : BitVec 32) :
    Nat → BitVec 32 → Nat → Option (Option Nat)
  | 0, _, _ => some none
  | rounds + 1, code, bytePtr =>
    match data[bytePtr]? with
    | none => none
    | some byte =>
      let code := code <<< 8 ||| BitVec.ofNat 32 byte.toNat
      if code &&& codeMask = referenceCode then some (some (bytePtr + 1))
      else findCodeLoop data codeMask referenceCode rounds code (bytePtr + 1)

def findCode (data : List UInt8) (bytePtr size : Nat) (codeMask referenceCode : BitVec 32) : Option (Option Nat) :=
  findCodeLoop data codeMask referenceCode size 0xFFFFFFFF bytePtr

/-- Start codes whose last bytes are a range of a power of two. -/
structure StartCodes where
  low : Nat
  count : Nat
  power : ∃ k ≤ 8, count = 2 ^ k
  dvd_low : count ∣ low
  low_add_count_le : low + count ≤ 256

namespace StartCodes

def single (last : Nat) (hlast : last < 256) : StartCodes where
  low := last
  count := 1
  power := ⟨0, by decide, rfl⟩
  dvd_low := Nat.one_dvd last
  low_add_count_le := hlast

variable (codes : StartCodes)

def mask : BitVec 32 := ~~~(BitVec.ofNat 32 codes.count - 1)

def reference : BitVec 32 := BitVec.ofNat 32 (256 + codes.low)

def Is (first second third last : UInt8) : Prop :=
  first = 0 ∧ second = 0 ∧ third = 1 ∧ codes.low ≤ last.toNat ∧ last.toNat < codes.low + codes.count

instance (first second third last : UInt8) : Decidable (codes.Is first second third last) := by
  unfold Is
  infer_instance

def firstEnd : List UInt8 → Option Nat
  | first :: second :: third :: last :: rest =>
    if codes.Is first second third last then some 4
    else (firstEnd (second :: third :: last :: rest)).map (· + 1)
  | _ => none

theorem toNat_shifted (code : BitVec 32) (byte : UInt8) :
    (code <<< 8 ||| BitVec.ofNat 32 byte.toNat).toNat = code.toNat % 2 ^ 24 * 256 + byte.toNat := by
  have hbyte := byte.toNat_lt
  have hshift : (code <<< 8).toNat = (code.toNat % 2 ^ 24) <<< 8 := by
    rw [BitVec.toNat_shiftLeft, Nat.shiftLeft_eq, Nat.shiftLeft_eq]
    omega
  have hword : (BitVec.ofNat 32 byte.toNat).toNat = byte.toNat := Nat.mod_eq_of_lt (by omega)
  rw [BitVec.toNat_or, hshift, hword, ← Nat.shiftLeft_add_eq_or_of_lt hbyte, Nat.shiftLeft_eq]

theorem masked_iff {code : BitVec 32} {first second third last : UInt8}
    (hcode : code.toNat = ((first.toNat * 256 + second.toNat) * 256 + third.toNat) * 256 + last.toNat) :
    code &&& codes.mask = codes.reference ↔ codes.Is first second third last := by
  obtain ⟨low, count, ⟨k, hk, hcount⟩, ⟨start, hlow⟩, hle⟩ := codes
  have hpositive : 0 < count := hcount ▸ Nat.two_pow_pos k
  obtain ⟨total, htotal⟩ : count ∣ 256 := hcount ▸ Nat.pow_dvd_pow 2 hk
  have hword : (BitVec.ofNat 32 count).toNat = count := Nat.mod_eq_of_lt (by omega)
  have halignment : IsPowerOfTwo (BitVec.ofNat 32 count) := ⟨k, by omega, hword.trans hcount⟩
  have hmasked := halignment.toNat_and_not code
  rw [hword] at hmasked
  have hreference : (BitVec.ofNat 32 (256 + low)).toNat = 256 + low := Nat.mod_eq_of_lt (by omega)
  have hrest : code.toNat % count = last.toNat % count := by
    rw [hcode, htotal, Nat.mul_left_comm, Nat.mul_add_mod]
  have hlast := last.toNat_lt
  have hthird := third.toNat_lt
  have hless := Nat.mod_lt last.toNat hpositive
  have hsplit := Nat.div_add_mod last.toNat count
  have hrange : count * (last.toNat / count) = low ↔ low ≤ last.toNat ∧ last.toNat < low + count := by
    refine ⟨fun hsame => by omega, fun ⟨hbegins, hends⟩ => ?_⟩
    have hquotient : last.toNat / count = start := by
      rw [Nat.div_eq_iff hpositive, Nat.mul_comm start, ← hlow]
      omega
    rw [hquotient, hlow]
  have hbytes : ∀ byte other : UInt8, byte = other ↔ byte.toNat = other.toNat := fun _ _ => UInt8.toNat_inj.symm
  rw [← BitVec.toNat_inj, mask, reference, hmasked, hreference, hrest, Is, hbytes, hbytes, hbytes, ← hrange, hcode]
  change _ ↔ first.toNat = 0 ∧ second.toNat = 0 ∧ third.toNat = 1 ∧ _
  omega

variable {codes : StartCodes}

theorem firstEnd_bounds (bytes : List UInt8) {stop : Nat} (hstop : codes.firstEnd bytes = some stop) :
    4 ≤ stop ∧ stop ≤ bytes.length := by
  induction bytes generalizing stop with
  | nil => contradiction
  | cons first bytes ih =>
    match bytes with
    | [] | [_] | [_, _] => contradiction
    | second :: third :: last :: rest =>
      rw [firstEnd] at hstop
      split at hstop
      · obtain rfl := Option.some.inj hstop
        simp
      · obtain ⟨before, hbefore, rfl⟩ := Option.map_eq_some_iff.mp hstop
        have := ih hbefore
        rw [List.length_cons]
        omega

theorem firstEnd_cons {first : UInt8} (hfirst : first ≠ 0) (bytes : List UInt8) :
    codes.firstEnd (first :: bytes) = (codes.firstEnd bytes).map (· + 1) := by
  match bytes with
  | [] | [_] | [_, _] => rfl
  | second :: third :: last :: rest => rw [firstEnd, if_neg fun h => hfirst h.1]

theorem findCodeLoop_eq {data : List UInt8} (rounds : Nat) :
    ∀ (code : BitVec 32) (bytePtr : Nat) (first second third : UInt8),
      code.toNat % 2 ^ 24 = (first.toNat * 256 + second.toNat) * 256 + third.toNat →
      findCodeLoop data codes.mask codes.reference rounds code bytePtr =
        match codes.firstEnd (first :: second :: third :: data.drop bytePtr) with
        | some stop => if stop ≤ rounds + 3 then some (some (bytePtr + stop - 3)) else some none
        | none => if rounds ≤ data.length - bytePtr then some none else none := by
  induction rounds with
  | zero =>
    intro code bytePtr first second third hcode
    rw [findCodeLoop]
    cases hend : codes.firstEnd (first :: second :: third :: data.drop bytePtr) with
    | none => exact (if_pos (Nat.zero_le _)).symm
    | some stop =>
      have := (firstEnd_bounds _ hend).1
      exact (if_neg (by omega)).symm
  | succ rounds ih =>
    intro code bytePtr first second third hcode
    by_cases hinside : bytePtr < data.length
    · rw [findCodeLoop, List.getElem?_eq_getElem hinside, List.drop_eq_getElem_cons hinside, firstEnd]
      generalize data[bytePtr] = last
      have hword := toNat_shifted code last
      rw [hcode] at hword
      dsimp only
      by_cases hfound : codes.Is first second third last
      · rw [if_pos (codes.masked_iff hword |>.mpr hfound), if_pos hfound]
        dsimp only
        rw [if_pos (by omega)]
        rfl
      rw [if_neg (fun h => hfound (codes.masked_iff hword |>.mp h)), if_neg hfound,
        ih _ (bytePtr + 1) second third last (by
          have := second.toNat_lt
          have := third.toNat_lt
          have := last.toNat_lt
          rw [hword]
          omega)]
      cases hend : codes.firstEnd (second :: third :: last :: data.drop (bytePtr + 1)) with
      | none =>
        dsimp only [Option.map_none]
        exact if_congr (by omega) rfl rfl
      | some stop =>
        dsimp only [Option.map_some]
        rw [show bytePtr + 1 + stop - 3 = bytePtr + (stop + 1) - 3 by omega]
        exact if_congr (by omega) rfl rfl
    · rw [findCodeLoop, List.getElem?_eq_none (Nat.not_lt.mp hinside), List.drop_eq_nil_of_le (Nat.not_lt.mp hinside)]
      exact (if_neg (by omega)).symm

theorem findCode_eq (data : List UInt8) (bytePtr size : Nat) :
    findCode data bytePtr size codes.mask codes.reference =
      match codes.firstEnd (data.drop bytePtr) with
      | some stop => if stop ≤ size then some (some (bytePtr + stop)) else some none
      | none => if size ≤ data.length - bytePtr then some none else none := by
  rw [findCode, findCodeLoop_eq size _ bytePtr 0xFF 0xFF 0xFF (by decide), firstEnd_cons (by decide),
    firstEnd_cons (by decide), firstEnd_cons (by decide)]
  cases codes.firstEnd (data.drop bytePtr) with
  | none => rfl
  | some stop => exact if_congr (Nat.add_le_add_iff_right (n := 3)) rfl rfl

end StartCodes

end Nozomi
