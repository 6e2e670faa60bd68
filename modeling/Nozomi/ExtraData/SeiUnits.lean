import Nozomi.ExtraData.SeiBounds

/-!
# SEI units that are copied inside of the buffers

The loop of `parse_rbsp` looks at the byte behind the one that it copies. So it leaves a unit at its last byte, unless
the last bytes are an escape, which is skipped as a whole. What it copies must fit `rbsp_buf`, and the message that
`parse_sei` then reads must end there.
-/

namespace Nozomi

namespace ExtraDataHandler

/-! ### Units -/

/-- What is behind the start code is inside, when `rbsp_buf` holds what the units before have left. -/
def UnitInside (handler : ExtraDataHandler) (unit : List UInt8) : Prop :=
  ∃ header body, unit = header :: body ∧
    (header < 0x80 → EscapeEnds body ∧ (unescapeFrom 0 body).length ≤ rbspSize ∧
      (header.toNat &&& 0x1F = nalTypeSei →
        MessageInside { handler with rbspBuf := writeFrom handler.rbspBuf 0 (unescapeFrom 0 body) }))

/-- The unit has the bytes that are looked at, and what is read behind a start code is inside. -/
def SeiInside (handler : ExtraDataHandler) (buffer : List UInt8) : Prop :=
  3 ≤ buffer.length ∧ (buffer.take 3 = [0, 0, 0] → 4 ≤ buffer.length) ∧
    ∀ unit, buffer = [0, 0, 1] ++ unit ∨ buffer = [0, 0, 0, 1] ++ unit → handler.UnitInside unit

theorem startcode_eq (first second third : UInt8) : first.toNat <<< 16 ||| second.toNat <<< 8 ||| third.toNat =
    first.toNat * 65536 + second.toNat * 256 + third.toNat := by
  have hthird := third.toNat_lt
  have hsecond := second.toNat_lt
  rw [show first.toNat <<< 16 = (first.toNat <<< 8) <<< 8 from (Nat.shiftLeft_add _ 8 8), ← Nat.shiftLeft_or_distrib,
    ← Nat.shiftLeft_add_eq_or_of_lt hthird, ← Nat.shiftLeft_add_eq_or_of_lt hsecond]
  simp only [Nat.shiftLeft_eq]
  omega

theorem forbidden_bit (header : UInt8) : (header.toNat &&& 0x80) >>> 7 ≠ 0 ↔ ¬header < 0x80 := by
  have hbit : (header.toNat &&& 2 ^ 7) >>> 7 = (header.toNat.testBit 7).toNat := by
    rw [Nat.and_two_pow, Nat.shiftRight_eq_div_pow, Nat.mul_div_cancel _ (by decide)]
  have hlt := header.toNat_lt
  have hless : header < 0x80 ↔ header.toNat < 128 := UInt8.lt_iff_toNat_lt
  rw [show 0x80 = 2 ^ 7 from rfl, hbit, hless, Nat.testBit_eq_decide_div_mod_eq]
  by_cases hset : header.toNat / 2 ^ 7 % 2 = 1
  · rw [decide_eq_true hset]
    exact iff_of_true (by decide) (by omega)
  · rw [decide_eq_false hset]
    exact iff_of_false (by decide) (by omega)

theorem parseUnit_inside_iff (handler : ExtraDataHandler) {buffer unit : List UInt8} {i : Nat}
    (hunit : buffer.drop i = unit) :
    (buffer[i]?.bind fun header =>
      if (header.toNat &&& 0x80) >>> 7 ≠ 0 then some ((-1 : Int), handler.seek 0)
      else (parseRbspLoop (buffer[·]?) buffer.length buffer.length (i + 1) 0 handler.rbspBuf).bind fun rbspBuf =>
        some (((header.toNat &&& 0x1F : Nat) : Int), { handler.seek 0 with rbspBuf := rbspBuf })).bind
      (fun (nalUnitType, handler) =>
        if nalUnitType ≠ (nalTypeSei : Int) then some (-1, handler) else parseMessage handler) ≠ none ↔
      handler.UnitInside unit := by
  have hget : buffer[i + 0]? = (buffer.drop i)[0]? := List.getElem?_drop.symm
  have htail : buffer.drop (i + 1) = (buffer.drop i).drop 1 := List.drop_drop.symm
  have hbehind : ∀ index, buffer.length ≤ index → buffer[index]?.isSome = false := by
    intro index hindex
    rw [List.getElem?_eq_none hindex]
    rfl
  have hloop := parseRbspLoop_eq false (fun index _ => rfl) hbehind buffer.length (i + 1) 0 handler.rbspBuf
    (by omega) (Nat.zero_le _)
  rw [hunit] at hget htail
  rw [show buffer[i]? = unit[0]? from hget]
  rcases unit with - | ⟨header, body⟩
  · refine iff_of_false (fun h => h rfl) ?_
    rintro ⟨header, body, hnil, -⟩
    exact absurd hnil (List.cons_ne_nil header body).symm
  rw [List.getElem?_cons_zero, Option.bind_some, hloop, htail, List.drop_one, List.tail_cons]
  have hforbidden := forbidden_bit header
  by_cases hheader : header < 0x80
  · rw [if_neg fun h => hforbidden.mp h hheader, copyBytes, Nat.zero_add]
    simp only [Bool.false_eq_true, false_or]
    have hinside : handler.UnitInside (header :: body) ↔
        EscapeEnds body ∧ (unescapeFrom 0 body).length ≤ rbspSize ∧ (header.toNat &&& 0x1F = nalTypeSei →
          MessageInside { handler with rbspBuf := writeFrom handler.rbspBuf 0 (unescapeFrom 0 body) }) := by
      constructor
      · rintro ⟨header', body', hsame, hbody⟩
        obtain ⟨rfl, rfl⟩ := List.cons.inj hsame
        exact hbody hheader
      · intro hbody
        exact ⟨header, body, rfl, fun _ => hbody⟩
    rw [hinside]
    by_cases hfits : EscapeEnds body ∧ (unescapeFrom 0 body).length ≤ rbspSize
    · rw [if_pos hfits, ← and_assoc, and_iff_right hfits]
      by_cases htype : header.toNat &&& 0x1F = nalTypeSei
      · rw [htype]
        have hmessage := @stays_parseMessage
          { handler with rbspBuf := writeFrom handler.rbspBuf 0 (unescapeFrom 0 body) }
        exact Iff.trans hmessage (imp_iff_right rfl).symm
      · have hother : ((header.toNat &&& 0x1F : Nat) : Int) ≠ (nalTypeSei : Int) := fun h =>
          htype (Int.ofNat_inj.mp h)
        refine iff_of_true ?_ fun h => absurd h htype
        change (if _ then some _ else _) ≠ none
        rw [if_pos hother]
        exact Option.some_ne_none _
    · rw [if_neg hfits]
      exact iff_of_false (fun h => h rfl) fun h => hfits ⟨h.1, h.2.1⟩
  · rw [if_pos (hforbidden.mpr hheader)]
    refine iff_of_true ?_ ⟨header, body, rfl, fun h => absurd h hheader⟩
    exact Option.some_ne_none _

/-- `parse_sei` makes no access outside of the unit and of `rbsp_buf` if and only if the unit is of that kind. -/
theorem parseSei_inside_iff (handler : ExtraDataHandler) (buffer : List UInt8) :
    parseSei handler buffer ≠ none ↔ handler.SeiInside buffer := by
  rcases buffer with - | ⟨first, - | ⟨second, - | ⟨third, rest⟩⟩⟩
  · exact iff_of_false (fun h => h rfl) fun h => absurd h.1 (by decide)
  · exact iff_of_false (fun h => h rfl) fun h => absurd h.1 (by simp)
  · exact iff_of_false (fun h => h rfl) fun h => absurd h.1 (by simp)
  have hthird := third.toNat_lt
  have hsecond := second.toNat_lt
  rw [parseSei, parseRbsp, startcode]
  simp only [List.getElem?_cons_zero, List.getElem?_cons_succ, Option.bind_eq_bind, Option.bind_some, startcode_eq]
  split
  · obtain ⟨rfl, rfl, rfl⟩ : first = 0 ∧ second = 0 ∧ third = 0 := by
      simp only [← UInt8.toNat_inj]
      change _ = 0 ∧ _ = 0 ∧ _ = 0
      omega
    rcases rest with - | ⟨fourth, unit⟩
    · exact iff_of_false (fun h => h rfl) fun h => absurd (h.2.1 rfl) (by simp)
    simp only [List.getElem?_cons_zero, Option.map_some, Option.bind_some]
    have hunits : handler.SeiInside (0 :: 0 :: 0 :: fourth :: unit) ↔ (fourth = 1 → handler.UnitInside unit) := by
      simp [SeiInside]
    rw [hunits]
    by_cases hfourth : fourth = 1
    · subst hfourth
      exact (parseUnit_inside_iff handler (show (0 :: 0 :: 0 :: 1 :: unit).drop 4 = unit from rfl)).trans
        (imp_iff_right rfl).symm
    · have hcode : fourth.toNat ≠ 1 := fun h => hfourth (UInt8.toNat_inj.mp h)
      refine iff_of_true ?_ fun h => absurd h hfourth
      rw [if_pos hcode]
      exact Option.some_ne_none _
  · simp only [Option.bind_some]
    by_cases hcode : first.toNat * 65536 + second.toNat * 256 + third.toNat = 1
    · obtain ⟨rfl, rfl, rfl⟩ : first = 0 ∧ second = 0 ∧ third = 1 := by
        simp only [← UInt8.toNat_inj]
        change _ = 0 ∧ _ = 0 ∧ _ = 1
        omega
      have hunits : handler.SeiInside (0 :: 0 :: 1 :: rest) ↔ handler.UnitInside rest := by
        simp [SeiInside]
      rw [hunits]
      have hbody := parseUnit_inside_iff handler (show (0 :: 0 :: 1 :: rest).drop 3 = rest from rfl)
      rw [if_neg (not_not.mpr hcode)]
      exact hbody
    · have hother : ∀ unit, ¬(first :: second :: third :: rest = [0, 0, 1] ++ unit ∨
          first :: second :: third :: rest = [0, 0, 0, 1] ++ unit) := by
        rintro unit (hsame | hsame) <;> simp at hsame <;> simp_all
      rw [if_pos hcode]
      refine iff_of_true (Option.some_ne_none _) ⟨by simp, fun hzeros => ?_, fun unit h => absurd h (hother unit)⟩
      simp_all

/-- A unit of one message, whose last byte is the trailing bits, and a message of 101 bytes. -/
theorem parseSei_outside : parseSei new [0, 0, 0, 1, 6, 5, 1, 0x80, 0x80] = none ∧
    parseSei new ([0, 0, 0, 1, 6] ++ List.replicate 101 1 ++ [0, 0, 3]) = none := by
  decide +kernel

end ExtraDataHandler

end Nozomi
