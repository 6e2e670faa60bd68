import Nozomi.Base.Bits
import Nozomi.Vdec.H264Utils.Code

/-!
# What `RbspParser` reads

As long as the bytes in front of it have no `00 00 03`, the parser is a plain bit reader.
-/

namespace Nozomi

namespace RbspParser

variable {parser : RbspParser}

/-- The parser has read `bits` bits and skipped nothing. -/
structure At (parser : RbspParser) (bits : Nat) : Prop where
  place : if parser.advanceNeeded then parser.bit = 0 ∧ bits = 8 * parser.nextPos
    else parser.bit < 8 ∧ bits + 8 = 8 * parser.nextPos + parser.bit
  lastZero : parser.cursor % 2 ^ 8 = 0 →
    1 ≤ parser.nextPos ∧ parser.bytes.getD (parser.nextPos - 1) 0 = 0
  lastZeros : parser.cursor % 2 ^ 16 = 0 →
    2 ≤ parser.nextPos ∧ parser.bytes.getD (parser.nextPos - 1) 0 = 0 ∧
      parser.bytes.getD (parser.nextPos - 2) 0 = 0

def Clean (bytes : List UInt8) (limit : Nat) : Prop :=
  ∀ index, index + 2 < limit →
    ¬(bytes.getD index 0 = 0 ∧ bytes.getD (index + 1) 0 = 0 ∧ bytes.getD (index + 2) 0 = 3)

theorem new_at (bytes : List UInt8) : (new bytes).At 0 := by
  refine ⟨⟨rfl, rfl⟩, fun hzero => ?_, fun hzero => ?_⟩
  · exact absurd hzero (show ¬0xFFFFFF % 2 ^ 8 = 0 by decide)
  · exact absurd hzero (show ¬0xFFFFFF % 2 ^ 16 = 0 by decide)

theorem shift_cursor (parser : RbspParser) : parser.shift.cursor =
    parser.cursor % 2 ^ 24 * 2 ^ 8 + (parser.bytes.getD parser.nextPos 0).toNat := by
  have hmod : (parser.cursor <<< 8) % 2 ^ 32 = (parser.cursor % 2 ^ 24) <<< 8 := by
    rw [Nat.shiftLeft_eq, Nat.shiftLeft_eq]
    omega
  change (parser.cursor <<< 8) % 2 ^ 32 ||| _ = _
  rw [hmod, ← Nat.shiftLeft_add_eq_or_of_lt (UInt8.toNat_lt _), Nat.shiftLeft_eq]

variable {limit bits : Nat}

theorem At.advance (hat : parser.At bits) (hneeded : parser.advanceNeeded = true)
    (hclean : Clean parser.bytes limit) (hlimit : parser.nextPos < limit) :
    parser.advance = { parser.shift with advanceNeeded := false } ∧
      { parser.shift with advanceNeeded := false }.At bits := by
  have hcursor := parser.shift_cursor
  have hbyte := (parser.bytes.getD parser.nextPos 0).toNat_lt
  have hzero : parser.shift.cursor % 2 ^ 8 = 0 → parser.bytes.getD parser.nextPos 0 = 0 := by
    intro hlow
    apply UInt8.toNat_inj.mp
    rw [hcursor] at hlow
    change _ = 0
    omega
  have hplace := hat.place
  rw [if_pos hneeded] at hplace
  constructor
  · rw [RbspParser.advance]
    dsimp only
    rw [if_neg]
    intro hskip
    rw [hcursor] at hskip
    obtain ⟨hpos, hlast, hbefore⟩ := hat.lastZeros (by omega)
    apply hclean (parser.nextPos - 2) (by omega)
    refine ⟨hbefore, ?_, ?_⟩
    · rwa [show parser.nextPos - 2 + 1 = parser.nextPos - 1 by omega]
    · rw [show parser.nextPos - 2 + 2 = parser.nextPos by omega]
      apply UInt8.toNat_inj.mp
      change _ = 3
      omega
  · refine ⟨?_, ?_, ?_⟩
    · rw [if_neg Bool.false_ne_true]
      simp only [shift]
      omega
    · intro hlow
      exact ⟨Nat.succ_pos _, hzero hlow⟩
    · intro hlow
      have hlast := hat.lastZero (by simp only [hcursor] at hlow; omega)
      refine ⟨Nat.succ_le_succ hlast.1, hzero (by simp only at hlow ⊢; omega), ?_⟩
      exact hlast.2

theorem At.next (hat : parser.At bits) (hclean : Clean parser.bytes limit) (hlimit : bits < 8 * limit) :
    parser.next.1.At bits ∧ parser.next.1.bytes = parser.bytes ∧
      parser.next.1.advanceNeeded = false ∧ parser.next.1.bit = parser.bit ∧ parser.bit = bits % 8 ∧
      parser.next.2 = (parser.bytes.getD (bits / 8) 0).toNat := by
  have hplace := hat.place
  rw [RbspParser.next]
  cases hneeded : parser.advanceNeeded with
  | true =>
    rw [if_pos hneeded] at hplace
    obtain ⟨hadvance, hat'⟩ := hat.advance hneeded hclean (by omega)
    simp only [if_true, hadvance]
    refine ⟨hat', rfl, trivial, rfl, by omega, ?_⟩
    simp only [shift]
    rw [show parser.nextPos + 1 - 1 = bits / 8 by omega]
  | false =>
    rw [hneeded, if_neg Bool.false_ne_true] at hplace
    simp only [Bool.false_eq_true, if_false]
    refine ⟨hat, trivial, hneeded, trivial, by omega, ?_⟩
    rw [show parser.nextPos - 1 = bits / 8 by omega]

theorem At.consume (hat : parser.At bits) (hneeded : parser.advanceNeeded = false) (size : Nat) (hpos : 0 < size)
    (hsize : parser.bit + size ≤ 8) :
    { parser with
      bit := (parser.bit + size) % 8
      advanceNeeded := if (parser.bit + size) % 8 = 0 then true else parser.advanceNeeded }.At
        (bits + size) := by
  have hplace := hat.place
  rw [hneeded, if_neg Bool.false_ne_true] at hplace
  refine ⟨?_, hat.lastZero, hat.lastZeros⟩
  by_cases hend : parser.bit + size = 8
  · have hmod : (parser.bit + size) % 8 = 0 := by rw [hend]
    simp only [hmod, ↓reduceIte, true_and]
    omega
  · have hinside : (parser.bit + size) % 8 = parser.bit + size := Nat.mod_eq_of_lt (by omega)
    simp only [hinside, if_neg (show ¬parser.bit + size = 0 by omega), hneeded,
      if_neg Bool.false_ne_true]
    omega

theorem At.uLoop {rounds remaining value room : Nat} (hat : parser.At bits) (hlimit : limit ≤ parser.bytes.length)
    (hclean : Clean parser.bytes limit) (hrounds : remaining ≤ rounds) (hfit : bits + remaining ≤ 8 * limit)
    (hvalue : value < 2 ^ room) (hroom : room + remaining ≤ 32) :
    (uLoop rounds remaining parser value).1.At (bits + remaining) ∧
      (uLoop rounds remaining parser value).1.bytes = parser.bytes ∧
      (uLoop rounds remaining parser value).2 = value * 2 ^ remaining +
        bitsValue (((bytesBits parser.bytes).drop bits).take remaining) := by
  induction rounds generalizing parser remaining bits value room with
  | zero =>
    obtain rfl := Nat.le_zero.mp hrounds
    simpa [RbspParser.uLoop] using hat
  | succ rounds ih =>
    rw [RbspParser.uLoop]
    by_cases hdone : remaining = 0
    · subst hdone
      simpa using hat
    rw [if_neg hdone]
    obtain ⟨hnext, hbytes, hneeded, hbit, hplace, hbyte⟩ := hat.next hclean (by omega)
    obtain ⟨rest, hrest⟩ := Nat.exists_eq_add_of_le (Nat.min_le_right (8 - parser.bit) remaining)
    generalize hsize : min (8 - parser.bit) remaining = size at hrest
    have hconsume := hnext.consume hneeded size (by omega) (by omega)
    rw [hbit] at hconsume
    -- The bits of this round, and the value with them.
    have hchunk : ((parser.bytes.getD (bits / 8) 0).toNat >>> (8 - parser.bit - size)) % 2 ^ size =
        bitsValue (((bytesBits parser.bytes).drop bits).take size) := by
      have hinside : bits / 8 < parser.bytes.length := by omega
      have hwindow := bytesBits_window (bits / 8) (bits % 8) size hinside (by omega)
      rw [Nat.div_add_mod] at hwindow
      rw [hwindow, bitsValue_natBits, hplace]
    have hlength : (((bytesBits parser.bytes).drop bits).take size).length = size := by
      rw [List.length_take, List.length_drop, bytesBits_length]
      omega
    have hchunkLt := bitsValue_lt (((bytesBits parser.bytes).drop bits).take size)
    rw [hlength] at hchunkLt
    have hgrown : value * 2 ^ size < 2 ^ (room + size) := by
      rw [Nat.pow_add]
      exact Nat.mul_lt_mul_of_pos_right hvalue (Nat.two_pow_pos size)
    have hword : (value <<< size) % 2 ^ 32 ||| bitsValue (((bytesBits parser.bytes).drop bits).take
        size) = value * 2 ^ size + bitsValue (((bytesBits parser.bytes).drop bits).take size) := by
      rw [Nat.mod_eq_of_lt, ← Nat.shiftLeft_add_eq_or_of_lt hchunkLt, Nat.shiftLeft_eq]
      rw [Nat.shiftLeft_eq]
      exact lt_of_lt_of_le hgrown (Nat.pow_le_pow_right (by decide) (by omega))
    have hvalue' : value * 2 ^ size + bitsValue (((bytesBits parser.bytes).drop bits).take size) <
        2 ^ (room + size) := by
      rw [Nat.pow_add]
      calc value * 2 ^ size + _ < value * 2 ^ size + 2 ^ size := Nat.add_lt_add_left hchunkLt _
        _ = (value + 1) * 2 ^ size := by ring
        _ ≤ 2 ^ room * 2 ^ size := Nat.mul_le_mul_right _ hvalue
    have hrounds' : rest ≤ rounds := by omega
    obtain ⟨hat', hbytes', hread⟩ := ih hconsume (by simpa only [hbytes] using hlimit)
      (by simpa only [hbytes] using hclean) hrounds' (by omega) hvalue' (by omega)
    simp only [hbit, hbyte, hchunk, hword, show remaining - size = rest by omega]
    rw [Nat.add_assoc, ← hrest] at hat'
    refine ⟨hat', hbytes'.trans hbytes, ?_⟩
    rw [hread]
    simp only [hbytes]
    rw [hrest, List.take_add, bitsValue_append, List.drop_drop, List.length_take,
      List.length_drop, bytesBits_length, Nat.min_eq_left (by omega), Nat.pow_add]
    ring

theorem At.u (n : Nat) (hat : parser.At bits) (hlimit : limit ≤ parser.bytes.length)
    (hclean : Clean parser.bytes limit) (hfit : bits + n ≤ 8 * limit) (hn : n ≤ 32) :
    (parser.u n).1.At (bits + n) ∧ (parser.u n).1.bytes = parser.bytes ∧
      (parser.u n).2 = bitsValue (((bytesBits parser.bytes).drop bits).take n) := by
  have hvalue : 0 < 2 ^ 0 := by decide
  obtain ⟨hat', hbytes, hread⟩ := hat.uLoop hlimit hclean (Nat.le_refl n) hfit hvalue (by omega)
  refine ⟨hat', hbytes, ?_⟩
  rw [RbspParser.u, hread, Nat.zero_mul, Nat.zero_add]

theorem At.ueZeros {zeros : Nat} (hat : parser.At bits) (hlimit : limit ≤ parser.bytes.length)
    (hclean : Clean parser.bytes limit) {rest : List Bool}
    (hbits : (bytesBits parser.bytes).drop bits = List.replicate zeros false ++ true :: rest)
    (hfit : bits + zeros + 1 ≤ 8 * limit) (fuel count : Nat) (hfuel : zeros < fuel) :
    ∃ after, ueZeros fuel parser count = some (after, count + zeros) ∧ after.At (bits + zeros + 1) ∧
      after.bytes = parser.bytes := by
  induction zeros generalizing parser bits fuel count with
  | zero =>
    obtain ⟨fuel, rfl⟩ := Nat.exists_eq_succ_of_ne_zero (Nat.ne_of_gt hfuel)
    obtain ⟨hat', hbytes, hread⟩ := hat.u 1 hlimit hclean (by omega) (by decide)
    rw [hbits] at hread
    refine ⟨(parser.u 1).1, ?_, hat', hbytes⟩
    rw [RbspParser.ueZeros]
    simp [hread, bitsValue]
  | succ zeros ih =>
    obtain ⟨fuel, rfl⟩ := Nat.exists_eq_succ_of_ne_zero (Nat.ne_of_gt (Nat.zero_lt_of_lt hfuel))
    obtain ⟨hat', hbytes, hread⟩ := hat.u 1 hlimit hclean (by omega) (by decide)
    rw [List.replicate_succ, List.cons_append] at hbits
    rw [hbits] at hread
    have hdrop : (bytesBits (parser.u 1).1.bytes).drop (bits + 1) =
        List.replicate zeros false ++ true :: rest := by
      rw [hbytes, ← List.drop_drop, hbits]
      rfl
    obtain ⟨after, hzeros, hafter, hbytes'⟩ := ih hat' (by rwa [hbytes]) (by rwa [hbytes]) hdrop
      (by omega) fuel (count + 1) (by omega)
    refine ⟨after, ?_, ?_, hbytes'.trans hbytes⟩
    · rw [RbspParser.ueZeros]
      simp only [hread, List.take_succ_cons, List.take_zero]
      rw [if_pos (by rfl), hzeros]
      congr 2
      omega
    · convert hafter using 1
      omega

theorem At.ue_expGolomb {value : Nat} {rest : List Bool} (hat : parser.At bits)
    (hlimit : limit ≤ parser.bytes.length) (hclean : Clean parser.bytes limit)
    (hbits : (bytesBits parser.bytes).drop bits = expGolomb value ++ rest)
    (hfit : bits + (2 * leadingZeros value + 1) ≤ 8 * limit) (hsmall : leadingZeros value < 32) :
    ∃ after, parser.ue = some (after, value) ∧ after.At (bits + (2 * leadingZeros value + 1)) := by
  have hlow := two_pow_leadingZeros_le value
  have hhigh := lt_two_pow_leadingZeros value
  have hmod := mod_two_pow_leadingZeros value
  generalize hzeros : leadingZeros value = zeros at *
  rw [expGolomb_eq, hzeros, List.append_assoc, List.cons_append] at hbits
  obtain ⟨after, hcount, hafter, hbytes⟩ := hat.ueZeros hlimit hclean hbits (by omega)
    (8 * parser.bytes.length) 0 (by omega)
  rw [← hbytes] at hlimit hclean
  obtain ⟨hafter', -, hread⟩ := hafter.u zeros hlimit hclean (by omega) (by omega)
  have hsuffix : (bytesBits parser.bytes).drop (bits + zeros + 1) = natBits zeros (value + 1) ++ rest := by
    rw [Nat.add_assoc, ← List.drop_drop, hbits, ← List.singleton_append, ← List.append_assoc]
    exact List.drop_left' (by simp)
  rw [hbytes, hsuffix, List.take_left' (natBits_length _ _), bitsValue_natBits] at hread
  rw [show bits + zeros + 1 + zeros = bits + (2 * zeros + 1) by omega] at hafter'
  refine ⟨(after.u zeros).1, ?_, hafter'⟩
  rw [RbspParser.ue, hcount]
  simp only [Option.bind_eq_bind, Option.bind_some, Nat.zero_add, hread]
  have hpow : 2 ^ zeros < 2 ^ 32 := Nat.pow_lt_pow_right (by decide) hsmall
  have hle : 2 ^ (zeros + 1) ≤ 2 ^ 32 := Nat.pow_le_pow_right (by decide) (by omega)
  rw [Nat.mod_eq_of_lt hpow, sub32_of_le (Nat.one_le_two_pow) hpow, hmod]
  congr 2
  rw [Nat.mod_eq_of_lt] <;> omega

theorem ue_expGolomb {value : Nat} {bytes : List UInt8} {rest : List Bool} (hlimit : limit ≤ bytes.length)
    (hclean : Clean bytes limit) (hbits : bytesBits bytes = expGolomb value ++ rest)
    (hfit : 2 * leadingZeros value + 1 ≤ 8 * limit) (hsmall : leadingZeros value < 32) :
    ∃ after, (new bytes).ue = some (after, value) := by
  obtain ⟨after, hue, -⟩ := (new_at bytes).ue_expGolomb hlimit hclean hbits (by omega) hsmall
  exact ⟨after, hue⟩

end RbspParser

end Nozomi
