import Nozomi.ExtraData.ParseSei

/-!
# SEI units that are parsed inside of the buffers

The loop of `parse_rbsp` looks at the byte behind the one that it copies, so it leaves the unit unless its last bytes
are an escape. The bytes that it writes, and the fields that are read from them, must fit `rbsp_buf`.
-/

namespace Nozomi

namespace ExtraDataHandler

/-! ### Fields -/

def Stays {α : Type} (code : StateT ExtraDataHandler Option α) (handler : ExtraDataHandler) : Prop :=
  code handler ≠ none

def rbspBits : Nat := 8 * rbspSize

section

variable {handler : ExtraDataHandler} {position numBits : Nat} {α β : Type}

theorem readLoop_inside (rounds : Nat) :
    ∀ remBits bins shift position, position + remBits ≤ rbspBits →
      readLoop rounds remBits bins shift (handler.seek position) =
        some (dULoop rounds remBits bins shift (handler.seek position)) := by
  induction rounds with
  | zero => exact fun _ _ _ _ _ => rfl
  | succ rounds ih =>
    intro remBits bins shift position hinside
    rw [rbspBits] at hinside
    have hbit : (handler.seek position).bitPtr = 8 - position % 8 := rfl
    have hbyte : (handler.seek position).bytePtr = position / 8 := rfl
    rw [readLoop, dULoop]
    by_cases hfills : (handler.seek position).bitPtr ≤ remBits
    · rw [if_pos hfills, if_pos hfills]
      rw [hbit] at hfills
      rw [if_pos (by omega)]
      simp only [seek_nextByte]
      rw [ih _ _ _ _ (by rw [hbit, rbspBits]; omega)]
    · rw [if_neg hfills, if_neg hfills]

theorem readLoop_outside (rounds : Nat) :
    ∀ remBits bins shift position, 0 < remBits → remBits ≤ rounds → rbspBits < position + remBits →
      ∀ rest last behind, readLoop rounds remBits bins shift (handler.seek position) = some (rest, last, behind) →
        rest ≠ 0 ∧ rbspSize ≤ behind.bytePtr := by
  induction rounds with
  | zero =>
    intro remBits bins shift position hpositive hrounds
    omega
  | succ rounds ih =>
    intro remBits bins shift position hpositive hrounds houtside rest last behind hloop
    rw [rbspBits] at houtside
    have hbit : (handler.seek position).bitPtr = 8 - position % 8 := rfl
    have hbyte : (handler.seek position).bytePtr = position / 8 := rfl
    rw [readLoop] at hloop
    by_cases hfills : (handler.seek position).bitPtr ≤ remBits
    · rw [if_pos hfills] at hloop
      obtain ⟨hsize, hloop⟩ := Option.ite_none_right_eq_some.mp hloop
      rw [hbit] at hfills
      rw [hbyte] at hsize
      simp only [seek_nextByte, hbit] at hloop
      exact ih _ _ _ _ (by omega) (by omega) (by rw [rbspBits]; omega) rest last behind hloop
    · rw [if_neg hfills] at hloop
      simp only [Option.some.injEq, Prod.mk.injEq] at hloop
      obtain ⟨rfl, -, rfl⟩ := hloop
      rw [hbit] at hfills
      exact ⟨hpositive.ne', by rw [hbyte]; omega⟩

def fieldAt (handler : ExtraDataHandler) (position numBits : Nat) : Nat := ((handler.seek position).dU numBits).1

theorem readU_inside (hinside : position + numBits ≤ rbspBits) :
    readU numBits (handler.seek position) =
      some (handler.fieldAt position numBits, handler.seek (position + numBits)) := by
  obtain ⟨total, rest, last, shift, hloop, htotal, hend, -⟩ :=
    (gathered_zero handler position).dULoop (Nat.le_refl numBits)
  obtain ⟨read, hdU, -⟩ := handler.dU_seek position numBits
  rw [Nat.add_zero] at hloop
  rw [rbspBits] at hinside
  have hbyte : (handler.seek (position + total)).bytePtr = (position + total) / 8 := rfl
  have hsize : ¬(rest ≠ 0 ∧ rbspSize ≤ (handler.seek (position + total)).bytePtr) := by
    rw [hbyte]
    omega
  have hread : (handler.seek (position + total)).dURest rest last = (read, handler.seek (position + numBits)) := by
    rw [← hdU, dU, hloop]
  rw [readU, readLoop_inside _ _ _ _ _ hinside, hloop, fieldAt, hdU]
  exact (if_neg hsize).trans (congrArg some hread)

theorem readU_outside (hpositive : 0 < numBits) (houtside : rbspBits < position + numBits) :
    readU numBits (handler.seek position) = none := by
  rw [readU]
  rcases hloop : readLoop numBits numBits 0 0 (handler.seek position) with _ | ⟨rest, last, behind⟩
  · rfl
  · exact if_pos (readLoop_outside numBits numBits 0 0 position hpositive le_rfl houtside rest last behind hloop)

/-! ### Reads in front of other reads -/

theorem stays_pure (value : α) : Stays (pure value) handler := Option.some_ne_none _

theorem stays_bind_of_eq {code : StateT ExtraDataHandler Option α} {next : α → StateT ExtraDataHandler Option β}
    {value : α} {behind : ExtraDataHandler} (hcode : code handler = some (value, behind)) :
    Stays (code >>= next) handler ↔ Stays (next value) behind := by
  change (code handler).bind _ ≠ none ↔ _
  rw [hcode]
  rfl

theorem not_stays_bind {code : StateT ExtraDataHandler Option α} {next : α → StateT ExtraDataHandler Option β}
    (hcode : code handler = none) : ¬Stays (code >>= next) handler := by
  intro hstays
  apply hstays
  change (code handler).bind _ = none
  rw [hcode]
  rfl

theorem stays_readU_bind (hpositive : 0 < numBits) (next : Nat → StateT ExtraDataHandler Option α) :
    Stays (readU numBits >>= next) (handler.seek position) ↔
      position + numBits ≤ rbspBits ∧
        Stays (next (handler.fieldAt position numBits)) (handler.seek (position + numBits)) := by
  by_cases hinside : position + numBits ≤ rbspBits
  · rw [stays_bind_of_eq (readU_inside hinside), and_iff_right hinside]
  · exact iff_of_false (not_stays_bind (readU_outside hpositive (Nat.lt_of_not_le hinside))) fun h => hinside h.1

theorem fieldAt_one (handler : ExtraDataHandler) (position : Nat) :
    handler.fieldAt position 1 = (handler.bit position).toNat := by
  rw [fieldAt, dU_one]

/-! ### Codes -/

/-- The code of `d_ue` from a bit on: zeros, a one, and as many bits as there are zeros. -/
def CodeEnds (handler : ExtraDataHandler) (position behind : Nat) : Prop :=
  ∃ zeros, behind = position + 2 * zeros + 1 ∧ behind ≤ rbspBits ∧
    (∀ index < zeros, handler.bit (position + index) = false) ∧ handler.bit (position + zeros) = true

theorem readZeros_seek (rounds : Nat) : ∀ lead position, rbspBits < position + rounds →
    (∃ zeros, (∀ index < zeros, handler.bit (position + index) = false) ∧
      handler.bit (position + zeros) = true ∧ position + zeros < rbspBits ∧
      readZeros rounds lead (handler.seek position) = some (lead + zeros, handler.seek (position + zeros + 1))) ∨
    ((∀ index, position + index < rbspBits → handler.bit (position + index) = false) ∧
      readZeros rounds lead (handler.seek position) = none) := by
  induction rounds with
  | zero =>
    intro lead position hrounds
    exact .inr ⟨fun index hinside => by omega, rfl⟩
  | succ rounds ih =>
    intro lead position hrounds
    by_cases hinside : position + 1 ≤ rbspBits
    · have hread : readZeros (rounds + 1) lead (handler.seek position) =
          (if handler.fieldAt position 1 = 0 then readZeros rounds (lead + 1) else pure lead)
            (handler.seek (position + 1)) := by
        change (readU 1 (handler.seek position)).bind _ = _
        rw [readU_inside hinside]
        rfl
      rw [hread, fieldAt_one]
      cases hbit : handler.bit position with
      | true => exact .inl ⟨0, fun index h => absurd h index.not_lt_zero, hbit, hinside, rfl⟩
      | false =>
        have hnext : ∀ index, handler.bit (position + 1 + index) = handler.bit (position + (index + 1)) := by
          intro index
          congr 1
          omega
        rw [Bool.toNat_false, if_pos rfl]
        rcases ih (lead + 1) (position + 1) (by omega) with ⟨zeros, hzeros, hone, hlt, hloop⟩ | ⟨hzeros, hloop⟩
        · refine .inl ⟨zeros + 1, fun index hindex => ?_, (hnext zeros).symm.trans hone, by omega, ?_⟩
          · cases index with
            | zero => exact hbit
            | succ index => exact (hnext index).symm.trans (hzeros index (by omega))
          · rw [hloop]
            congr 2
            · omega
            · congr 1
              omega
        · refine .inr ⟨fun index hindex => ?_, hloop⟩
          cases index with
          | zero => exact hbit
          | succ index => exact (hnext index).symm.trans (hzeros index (by omega))
    · refine .inr ⟨fun index hindex => by omega, ?_⟩
      change (readU 1 (handler.seek position)).bind _ = none
      rw [readU_outside one_pos (Nat.lt_of_not_le hinside)]
      rfl

theorem stays_readUe_bind {next : Nat → StateT ExtraDataHandler Option α} {Inside : Nat → Prop}
    (hnext : ∀ value behind, Stays (next value) (handler.seek behind) ↔ Inside behind) :
    Stays (readUe >>= next) (handler.seek position) ↔ ∃ behind, handler.CodeEnds position behind ∧ Inside behind := by
  have hrounds : rbspBits < position + (8 * rbspSize + 1) := by
    rw [rbspBits]
    omega
  rw [readUe, bind_assoc]
  rcases readZeros_seek (8 * rbspSize + 1) 0 position hrounds with ⟨zeros, hzeros, hone, hlt, hloop⟩ | ⟨hzeros, hloop⟩
  · rw [stays_bind_of_eq hloop, Nat.zero_add, bind_assoc]
    have hcode : ∀ behind, handler.CodeEnds position behind ↔
        behind = position + zeros + 1 + zeros ∧ behind ≤ rbspBits := by
      intro behind
      constructor
      · rintro ⟨zeros', rfl, hinside, hzeros', hone'⟩
        obtain rfl : zeros' = zeros := by
          rcases lt_trichotomy zeros' zeros with hless | hsame | hless
          · exact absurd ((hzeros zeros' hless).symm.trans hone') (by decide)
          · exact hsame
          · exact absurd ((hzeros' zeros hless).symm.trans hone) (by decide)
        exact ⟨by omega, hinside⟩
      · rintro ⟨rfl, hinside⟩
        exact ⟨zeros, by omega, hinside, hzeros, hone⟩
    simp only [hcode]
    by_cases hinside : position + zeros + 1 + zeros ≤ rbspBits
    · rw [stays_bind_of_eq (readU_inside hinside), pure_bind, hnext]
      constructor
      · intro h
        exact ⟨_, ⟨rfl, hinside⟩, h⟩
      · rintro ⟨behind, ⟨rfl, -⟩, h⟩
        exact h
    · refine iff_of_false (not_stays_bind (readU_outside (by omega) (Nat.lt_of_not_le hinside))) ?_
      rintro ⟨behind, ⟨rfl, hbehind⟩, -⟩
      exact hinside hbehind
  · refine iff_of_false (not_stays_bind hloop) ?_
    rintro ⟨behind, ⟨zeros, rfl, hinside, -, hone⟩, -⟩
    exact absurd ((hzeros zeros (by omega)).symm.trans hone) (by decide)

/-! ### Messages -/

def gridBits (handler : ExtraDataHandler) (position : Nat) : Nat :=
  if handler.bit (position + 7) = false ∧ handler.numberFrom position 7 ≠ 5 then 16 else 0

def FramePackInside (handler : ExtraDataHandler) (position : Nat) : Prop :=
  ∃ idEnd, handler.CodeEnds position idEnd ∧
    if handler.bit idEnd then idEnd + 2 ≤ rbspBits
    else ∃ behind, handler.CodeEnds (idEnd + 29 + handler.gridBits (idEnd + 1)) behind ∧ behind + 1 ≤ rbspBits

theorem fieldAt_seven (handler : ExtraDataHandler) (position : Nat) :
    handler.fieldAt position 7 = handler.numberFrom position 7 := by
  rw [fieldAt, dU_seek_eq_iff]
  calc handler.numberFrom position 7 < 2 ^ 7 := numberFrom_lt handler position 7
    _ ≤ 2 ^ (8 + (position + 7) % 8) := Nat.pow_le_pow_right Nat.zero_lt_two (by omega)

theorem stays_parseGrid_bind (pack : FramePackArrangement)
    {next : FramePackArrangement → StateT ExtraDataHandler Option α} {Inside : Nat → Prop}
    (hnext : ∀ pack behind, Stays (next pack) (handler.seek behind) ↔ Inside behind)
    (hinside : ∀ behind, Inside behind → behind ≤ rbspBits) :
    Stays (parseArrangement.parseGrid pack >>= next) (handler.seek position) ↔
      Inside (position + if pack.quincunxSamplingFlag = 0 ∧ pack.type ≠ 5 then 16 else 0) := by
  rw [parseArrangement.parseGrid]
  split
  · simp only [bind_assoc, pure_bind, stays_readU_bind (show 0 < 4 by decide), hnext]
    constructor
    · rintro ⟨-, -, -, -, h⟩
      exact h
    · intro h
      have hlast := hinside _ h
      exact ⟨by omega, by omega, by omega, by omega, h⟩
  · rw [pure_bind]
    exact hnext pack position

theorem stays_parseArrangement_bind {pack : FramePackArrangement}
    {next : FramePackArrangement → StateT ExtraDataHandler Option α} {Inside : Nat → Prop}
    (hnext : ∀ pack behind, Stays (next pack) (handler.seek behind) ↔ Inside behind) :
    Stays (parseArrangement pack >>= next) (handler.seek position) ↔
      ∃ behind, handler.CodeEnds (position + 28 + handler.gridBits position) behind ∧ Inside behind := by
  have hcode : ∀ start, (∃ behind, handler.CodeEnds start behind ∧ Inside behind) → start ≤ rbspBits := by
    rintro start ⟨behind, ⟨zeros, rfl, hinside, -⟩, -⟩
    omega
  have htail : ∀ (pack : FramePackArrangement) (start : Nat), Stays (readU 8 >>= fun reservedByte => readUe >>= fun
      repetitionPeriod => next { pack with reservedByte, repetitionPeriod }) (handler.seek start) ↔
      ∃ behind, handler.CodeEnds (start + 8) behind ∧ Inside behind := by
    intro pack start
    rw [stays_readU_bind (by decide), stays_readUe_bind fun _ _ => hnext _ _]
    exact and_iff_right_of_imp (hcode (start + 8))
  have hgrid : (if handler.fieldAt (position + 7) 1 = 0 ∧ handler.fieldAt position 7 ≠ 5 then 16 else 0) =
      handler.gridBits position := by
    rw [fieldAt_one, fieldAt_seven, gridBits]
    cases handler.bit (position + 7) <;> simp
  simp only [parseArrangement, bind_assoc, pure_bind, stays_readU_bind (show 0 < 7 by decide),
    stays_readU_bind Nat.one_pos, stays_readU_bind (show 0 < 6 by decide)]
  rw [stays_parseGrid_bind _ htail fun behind h => (Nat.le_add_right _ _).trans (hcode _ h), hgrid]
  have hstart : position + 7 + 1 + 6 + 1 + 1 + 1 + 1 + 1 + 1 + handler.gridBits position + 8 =
      position + 28 + handler.gridBits position := by
    omega
  rw [hstart]
  constructor
  · rintro ⟨-, -, -, -, -, -, -, -, -, h⟩
    exact h
  · intro h
    have hlast := hcode _ h
    refine ⟨?_, ?_, ?_, ?_, ?_, ?_, ?_, ?_, ?_, h⟩ <;> omega

theorem stays_checkPadding (hinside : position ≤ rbspBits) : Stays checkPadding (handler.seek position) := by
  rw [rbspBits] at hinside
  change Stays ((if (handler.seek position).bitPtr = 8 then pure 1 else _) : StateT ExtraDataHandler Option Int) _
  have hbit : (handler.seek position).bitPtr = 8 - position % 8 := rfl
  split
  · exact stays_pure 1
  rw [stays_readU_bind Nat.one_pos]
  refine ⟨by rw [rbspBits]; omega, ?_⟩
  split
  · exact stays_pure (-1)
  change Stays ((if (handler.seek (position + 1)).bitPtr = 8 then pure 1 else _) :
    StateT ExtraDataHandler Option Int) _
  have hnext : (handler.seek (position + 1)).bitPtr = 8 - (position + 1) % 8 := rfl
  split
  · exact stays_pure 1
  · rw [stays_readU_bind (by omega)]
    refine ⟨by rw [rbspBits]; omega, ?_⟩
    split
    · exact stays_pure 1
    · exact stays_pure (-1)

theorem stays_extensionFlag (pack : Nat → FramePackArrangement) :
    Stays (readU 1 >>= fun extensionFlag =>
      (modify fun handler => { handler with framePackingArrangement := pack extensionFlag } :
        StateT ExtraDataHandler Option Unit) >>= fun _ => checkPadding) (handler.seek position) ↔
      position + 1 ≤ rbspBits := by
  rw [stays_readU_bind Nat.one_pos]
  refine and_iff_left_of_imp fun hinside => ?_
  rw [stays_bind_of_eq rfl]
  exact @stays_checkPadding { handler with framePackingArrangement := pack (handler.fieldAt position 1) }
    (position + 1) hinside

theorem stays_parseFramePack_bind :
    Stays (parseFramePack >>= fun _ => checkPadding) (handler.seek position) ↔ handler.FramePackInside position := by
  rw [parseFramePack]
  simp only [bind_assoc]
  apply stays_readUe_bind
  intro value idEnd
  rw [stays_readU_bind Nat.one_pos, fieldAt_one, stays_bind_of_eq rfl]
  cases hcancel : handler.bit idEnd with
  | true =>
    simp only [Bool.toNat_true, one_ne_zero, if_false, pure_bind, if_true, bind_assoc]
    rw [stays_extensionFlag]
    omega
  | false =>
    simp only [Bool.toNat_false, if_true, bind_assoc, Bool.false_eq_true, if_false]
    rw [stays_parseArrangement_bind fun _ _ => stays_extensionFlag _, Nat.add_assoc idEnd 1 28]
    refine and_iff_right_of_imp ?_
    rintro ⟨behind, ⟨zeros, rfl, hinside, -⟩, -⟩
    omega

/-! ### Payloads -/

/-- The bytes of a payload type or size from a byte on: those of 255 and the one behind them. -/
def PayloadEnds (handler : ExtraDataHandler) (start behind : Nat) : Prop :=
  ∃ run, behind = start + run + 1 ∧ behind ≤ rbspSize ∧
    (∀ index < run, handler.rbspBuf (start + index) = 0xFF) ∧ handler.rbspBuf (start + run) ≠ 0xFF

theorem readPayload_seek (rounds : Nat) : ∀ payload start, rbspSize < start + rounds →
    (∃ run, start + run < rbspSize ∧ (∀ index < run, handler.rbspBuf (start + index) = 0xFF) ∧
      handler.rbspBuf (start + run) ≠ 0xFF ∧
      readPayload rounds payload (handler.seek (8 * start)) =
        some (payload + 0xFF * run + (handler.rbspBuf (start + run)).toNat, handler.seek (8 * (start + run + 1)))) ∨
    ((∀ index, start + index < rbspSize → handler.rbspBuf (start + index) = 0xFF) ∧
      readPayload rounds payload (handler.seek (8 * start)) = none) := by
  induction rounds with
  | zero =>
    intro payload start hrounds
    exact .inr ⟨fun index hinside => by omega, rfl⟩
  | succ rounds ih =>
    intro payload start hrounds
    have hbyte : (handler.seek (8 * start)).bytePtr = start := Nat.mul_div_cancel_left start (by decide)
    have hnext : { handler.seek (8 * start) with bytePtr := (handler.seek (8 * start)).bytePtr + 1 } =
        handler.seek (8 * (start + 1)) := by
      rw [hbyte]
      simp only [seek, Nat.mul_mod_right, Nat.mul_div_cancel_left _ (show 0 < 8 by decide)]
    rw [readPayload]
    simp only [hnext]
    rw [hbyte, show (handler.seek (8 * start)).rbspBuf = handler.rbspBuf from rfl]
    by_cases hinside : start < rbspSize
    · rw [if_pos hinside]
      by_cases hlast : handler.rbspBuf start = 0xFF
      · rw [if_pos hlast]
        have hshift : ∀ index, handler.rbspBuf (start + 1 + index) = handler.rbspBuf (start + (index + 1)) := by
          intro index
          congr 1
          omega
        have hfirst : ∀ {Inside : Nat → Prop}, (∀ index, Inside (index + 1) → handler.rbspBuf (start + 1 + index) =
            0xFF) → ∀ index, Inside index → handler.rbspBuf (start + index) = 0xFF := by
          intro Inside hrest index hindex
          cases index with
          | zero => exact hlast
          | succ index => exact (hshift index).symm.trans (hrest index hindex)
        rcases ih (payload + 0xFF) (start + 1) (by omega) with ⟨run, hlt, hrun, hend, hloop⟩ | ⟨hrun, hloop⟩
        · refine .inl ⟨run + 1, by omega, hfirst fun index hindex => hrun index (Nat.lt_of_succ_lt_succ hindex),
            hshift run ▸ hend, ?_⟩
          rw [hloop, hshift]
          congr 2
          · omega
          · congr 1
            omega
        · exact .inr ⟨hfirst fun index hindex => hrun index (by omega), hloop⟩
      · rw [if_neg hlast]
        exact .inl ⟨0, hinside, fun index h => absurd h index.not_lt_zero, hlast, rfl⟩
    · rw [if_neg hinside]
      exact .inr ⟨fun index hindex => by omega, rfl⟩

theorem stays_readPayload_bind (start : Nat) (next : Nat → StateT ExtraDataHandler Option α) :
    Stays (readPayload (rbspSize + 1) 0 >>= next) (handler.seek (8 * start)) ↔
      ∃ behind, handler.PayloadEnds start behind ∧ Stays
        (next (0xFF * (behind - 1 - start) + (handler.rbspBuf (behind - 1)).toNat)) (handler.seek (8 * behind)) := by
  have hrounds : rbspSize < start + (rbspSize + 1) := by omega
  rcases readPayload_seek (rbspSize + 1) 0 start hrounds with ⟨run, hlt, hrun, hend, hloop⟩ | ⟨hrun, hloop⟩
  · rw [stays_bind_of_eq hloop, Nat.zero_add]
    have hbehind : ∀ behind, handler.PayloadEnds start behind ↔ behind = start + run + 1 := by
      intro behind
      constructor
      · rintro ⟨run', rfl, -, hrun', hend'⟩
        rcases lt_trichotomy run' run with hless | rfl | hless
        · exact absurd (hrun run' hless) hend'
        · rfl
        · exact absurd (hrun' run hless) hend
      · rintro rfl
        exact ⟨run, rfl, hlt, hrun, hend⟩
    simp only [hbehind, exists_eq_left, Nat.add_sub_cancel, Nat.add_sub_cancel_left]
  · refine iff_of_false (not_stays_bind hloop) ?_
    rintro ⟨behind, ⟨run, rfl, hinside, -, hend⟩, -⟩
    exact hend (hrun run hinside)

def MessageInside (handler : ExtraDataHandler) : Prop :=
  ∃ typeEnd, handler.PayloadEnds 0 typeEnd ∧ ∃ sizeEnd, handler.PayloadEnds typeEnd sizeEnd ∧
    (typeEnd = 1 → handler.rbspBuf 0 = 0x2D → handler.FramePackInside (8 * sizeEnd))

theorem stays_parseMessage : Stays parseMessage (handler.seek 0) ↔ handler.MessageInside := by
  rw [parseMessage]
  refine (stays_readPayload_bind 0 _).trans (exists_congr fun typeEnd => and_congr_right fun htype => ?_)
  refine (stays_readPayload_bind typeEnd _).trans (exists_congr fun sizeEnd => and_congr_right fun hsize => ?_)
  obtain ⟨run, rfl, hinside, hrun, hend⟩ := htype
  obtain ⟨run', rfl, hinside', -⟩ := hsize
  have hpack : 0xFF * (0 + run + 1 - 1 - 0) + (handler.rbspBuf (0 + run + 1 - 1)).toNat = Parser.seiFramePackingType ↔
      0 + run + 1 = 1 ∧ handler.rbspBuf 0 = 0x2D := by
    rw [Parser.seiFramePackingType, ← UInt8.toNat_inj, UInt8.toNat_ofNat]
    cases run with
    | zero => simp
    | succ run =>
      refine iff_of_false ?_ fun h => absurd h.1 (by omega)
      omega
  by_cases hframe : 0 + run + 1 = 1 ∧ handler.rbspBuf 0 = 0x2D
  · rw [if_pos (hpack.mpr hframe), stays_parseFramePack_bind]
    exact ⟨fun h _ _ => h, fun h => h hframe.1 hframe.2⟩
  · rw [if_neg (hpack.not.mpr hframe)]
    refine iff_of_true (stays_checkPadding ?_) fun hrun hbyte => absurd ⟨hrun, hbyte⟩ hframe
    exact Nat.mul_le_mul_left 8 hinside'

end

end ExtraDataHandler

end Nozomi
