import Nozomi.ExtraData.Code

/-!
# What `e_u` and `e_ue` write

The bits in front of the write position are those that were written, behind it are zeros. `e_u` appends the bits
of a symbol, unless so many are asked for that its first shift loses the symbol: then it appends zeros.
-/

namespace Nozomi

theorem natBits_getD (width value index : Nat) :
    (natBits width value).getD index false = (decide (index < width) && value.testBit (width - 1 - index)) := by
  induction width generalizing index with
  | zero => simp [natBits]
  | succ width ih =>
    cases index with
    | zero => simp [natBits]
    | succ index =>
      rw [natBits, List.getD_cons_succ, ih]
      simp only [Nat.add_lt_add_iff_right, Nat.add_sub_cancel, Nat.sub_add_eq, Nat.sub_right_comm width]

namespace ExtraDataHandler

variable {handler : ExtraDataHandler} {bits : List Bool} {symbol count : Nat}

def bit (handler : ExtraDataHandler) (position : Nat) : Bool :=
  (handler.rbspBuf (position / 8)).toNat.testBit (7 - position % 8)

/-- The bits that were written, from a buffer of zeros on. -/
structure Written (handler : ExtraDataHandler) (bits : List Bool) : Prop where
  bytePtr : handler.bytePtr = bits.length / 8
  bitPtr : handler.bitPtr = 8 - bits.length % 8
  bit : ∀ position, handler.bit position = bits.getD position false

theorem bit_orByte (value position : Nat) :
    (handler.orByte value).bit position =
      (handler.bit position ||
        (decide (position / 8 = handler.bytePtr) && value.testBit (7 - position % 8))) := by
  have hsmall : 7 - position % 8 < 8 := by omega
  rw [bit, bit, orByte]
  dsimp only
  by_cases hbyte : position / 8 = handler.bytePtr
  · rw [hbyte, Function.update_self, UInt8.toNat_or, Nat.testBit_or, UInt8.toNat_ofNat',
      Nat.testBit_mod_two_pow]
    simp [hsmall]
  · rw [Function.update_of_ne hbyte]
    simp [hbyte]

theorem Written.bit_orByte (hwritten : handler.Written bits) (hsymbol : symbol < 2 ^ count)
    (hcount : count ≤ handler.bitPtr) (position : Nat) :
    (handler.orByte (symbol <<< (handler.bitPtr - count))).bit position =
      (bits ++ natBits count symbol).getD position false := by
  have hbitPtr := hwritten.bitPtr
  have hbytePtr := hwritten.bytePtr
  rw [ExtraDataHandler.bit_orByte, hwritten.bit, Nat.testBit_shiftLeft]
  rcases Nat.lt_or_ge position bits.length with hbefore | hbehind
  · rw [List.getD_append _ _ _ _ hbefore]
    by_cases hbyte : position / 8 = handler.bytePtr
    · have hhigh : symbol.testBit (7 - position % 8 - (handler.bitPtr - count)) = false := by
        apply Nat.testBit_lt_two_pow
        apply hsymbol.trans_le
        apply Nat.pow_le_pow_right Nat.zero_lt_two
        omega
      rw [hhigh, Bool.and_false, Bool.and_false, Bool.or_false]
    · simp [hbyte]
  · rw [List.getD_append_right _ _ _ _ hbehind, natBits_getD, List.getD_eq_default _ _ hbehind, Bool.false_or]
    by_cases hinside : position - bits.length < count
    · have hbyte : position / 8 = handler.bytePtr := by omega
      have hhigh : handler.bitPtr - count ≤ 7 - position % 8 := by omega
      have hindex : 7 - position % 8 - (handler.bitPtr - count) = count - 1 - (position - bits.length) :=
          by omega
      simp [hbyte, hhigh, hinside, hindex]
    · by_cases hbyte : position / 8 = handler.bytePtr
      · have hlow : ¬handler.bitPtr - count ≤ 7 - position % 8 := by omega
        simp [hlow, hinside]
      · simp [hbyte, hinside]

/-! ### `e_u` -/

theorem Written.round (hwritten : handler.Written bits) (hsymbol : symbol < 2 ^ handler.bitPtr) :
    Written { handler.orByte symbol with bytePtr := handler.bytePtr + 1, bitPtr := 8 }
      (bits ++ natBits handler.bitPtr symbol) := by
  have hbitPtr := hwritten.bitPtr
  have hbytePtr := hwritten.bytePtr
  refine ⟨?_, ?_, fun position => ?_⟩
  · rw [List.length_append, natBits_length]
    dsimp only
    omega
  · rw [List.length_append, natBits_length]
    dsimp only
    omega
  · have hbit := hwritten.bit_orByte hsymbol (Nat.le_refl _) position
    rw [Nat.sub_self, Nat.shiftLeft_zero] at hbit
    exact hbit

theorem Written.eURest (hwritten : handler.Written bits) (hsymbol : symbol < 2 ^ count)
    (hcount : count < handler.bitPtr) : (handler.eURest symbol count).Written (bits ++
      natBits count symbol) := by
  have hbitPtr := hwritten.bitPtr
  have hbytePtr := hwritten.bytePtr
  rw [ExtraDataHandler.eURest]
  split
  · have hzero : count = 0 := ‹_›
    rw [hzero, natBits, List.append_nil]
    exact hwritten
  have hleft : ¬handler.bitPtr - count = 0 := by omega
  have hshift : shiftLeft32 symbol (handler.bitPtr - count) = symbol <<< (handler.bitPtr - count) := by
    have hbyte : symbol <<< (handler.bitPtr - count) < 2 ^ 8 := by
      rw [Nat.shiftLeft_eq]
      calc symbol * 2 ^ (handler.bitPtr - count)
          < 2 ^ count * 2 ^ (handler.bitPtr - count) :=
            Nat.mul_lt_mul_of_pos_right hsymbol (Nat.two_pow_pos _)
        _ = 2 ^ handler.bitPtr := by rw [← Nat.pow_add, Nat.add_sub_cancel' hcount.le]
        _ ≤ 2 ^ 8 := Nat.pow_le_pow_right Nat.zero_lt_two (by omega)
    rw [shiftLeft32, if_pos (by omega), Nat.mod_eq_of_lt (by omega)]
  dsimp only
  rw [if_neg hleft, hshift]
  refine ⟨?_, ?_, fun position => hwritten.bit_orByte hsymbol hcount.le position⟩
  · rw [List.length_append, natBits_length]
    change handler.bytePtr = _
    omega
  · rw [List.length_append, natBits_length]
    dsimp only
    omega

theorem lowSymbol_eq {shift : Nat} (hshift : shift < 2 ^ 32) :
    shiftRight32 (shiftLeft32 symbol (sub32 32 shift)) (sub32 32 shift) =
      if shift ≤ 32 then symbol % 2 ^ shift else 0 := by
  by_cases hsmall : shift ≤ 32
  · rw [if_pos hsmall, sub32_of_le hsmall (by decide)]
    rcases Nat.eq_zero_or_pos shift with rfl | hpositive
    · rw [Nat.sub_zero, shiftRight32, if_neg (by decide), Nat.pow_zero, Nat.mod_one]
    · have hcount : 32 - shift < 32 := by omega
      have hpow : 2 ^ 32 = 2 ^ shift * 2 ^ (32 - shift) := by rw [← Nat.pow_add, Nat.add_sub_cancel' hsmall]
      rw [shiftRight32, if_pos hcount, shiftLeft32, if_pos hcount, Nat.shiftLeft_eq, hpow,
        Nat.mul_mod_mul_right, Nat.shiftRight_eq_div_pow, Nat.mul_div_cancel _ (Nat.two_pow_pos _)]
  · have hlarge : ¬sub32 32 shift < 32 := by
      unfold sub32
      omega
    rw [if_neg hsmall, shiftRight32, if_neg hlarge]

theorem shiftRight32_eq (hsymbol : symbol < 2 ^ 32) (shift : Nat) : shiftRight32 symbol shift =
    symbol >>> shift := by
  rw [shiftRight32]
  split
  · rfl
  · have hpow : 2 ^ 32 ≤ 2 ^ shift := Nat.pow_le_pow_right Nat.zero_lt_two (by omega)
    rw [Nat.shiftRight_eq_div_pow, Nat.div_eq_of_lt (hsymbol.trans_le hpow)]

def appended (bitPtr symbol numBits : Nat) : List Bool :=
  if numBits ≤ 32 + bitPtr then natBits numBits symbol else List.replicate numBits false

theorem Written.eUFrom {rounds remBits : Nat} (hwritten : handler.Written bits) (hsymbol : symbol < 2 ^ 32)
    (hfits : symbol < 2 ^ remBits) (hrounds : remBits ≤ rounds) (hsmall : remBits < 2 ^ 32) :
    let last := eULoop rounds symbol remBits handler
    (last.2.2.eURest last.1 last.2.1).Written (bits ++ appended handler.bitPtr symbol remBits) := by
  induction rounds generalizing handler bits symbol remBits with
  | zero =>
    obtain rfl : remBits = 0 := Nat.le_zero.mp hrounds
    have hpositive : 0 < handler.bitPtr := by
      have hbitPtr := hwritten.bitPtr
      omega
    rw [appended, if_pos (Nat.zero_le _)]
    exact hwritten.eURest hfits hpositive
  | succ rounds ih =>
    have hbitPtr := hwritten.bitPtr
    rw [eULoop]
    split
    · obtain ⟨shift, rfl⟩ := Nat.exists_eq_add_of_le ‹handler.bitPtr ≤ remBits›
      dsimp only
      rw [Nat.add_sub_cancel_left, lowSymbol_eq (by omega), shiftRight32_eq hsymbol]
      have hpart : symbol >>> shift < 2 ^ handler.bitPtr := by
        rw [Nat.shiftRight_eq_div_pow]
        apply Nat.div_lt_of_lt_mul
        rwa [← Nat.pow_add, Nat.add_comm]
      have hnext := hwritten.round hpart
      have hrest : (if shift ≤ 32 then symbol % 2 ^ shift else 0) < 2 ^ shift := by
        split
        · exact Nat.mod_lt _ (Nat.two_pow_pos _)
        · exact Nat.two_pow_pos _
      have hword : (if shift ≤ 32 then symbol % 2 ^ shift else 0) < 2 ^ 32 := by
        split
        · exact (Nat.mod_le _ _).trans_lt hsymbol
        · exact Nat.two_pow_pos _
      have hlast := ih hnext hword hrest (by omega) (by omega)
      rw [List.append_assoc] at hlast
      convert hlast using 2
      -- The bits of the byte and the rest of the symbol
      by_cases hkept : shift ≤ 32
      · have hlow : natBits shift (symbol % 2 ^ shift) = natBits shift symbol := by
          apply natBits_congr
          rw [Nat.mod_mod]
        rw [if_pos hkept, appended, if_pos (by omega), appended, if_pos (by omega), natBits_add, hlow]
      have hhigh : symbol >>> shift = 0 := by
        have hpow : 2 ^ 32 ≤ 2 ^ shift := Nat.pow_le_pow_right Nat.zero_lt_two (by omega)
        rw [Nat.shiftRight_eq_div_pow, Nat.div_eq_of_lt (hsymbol.trans_le hpow)]
      have hzeros : appended 8 0 shift = List.replicate shift false := by
        rw [appended, natBits_zero]
        split <;> rfl
      rw [if_neg hkept, hzeros, hhigh, natBits_zero, appended, if_neg (by omega),
        List.replicate_append_replicate]
    · have hshort : remBits < handler.bitPtr := Nat.lt_of_not_le ‹_›
      rw [appended, if_pos (by omega)]
      exact hwritten.eURest hfits hshort

theorem Written.eU {numBits : Nat} (hwritten : handler.Written bits) (hsymbol : symbol < 2 ^ 32)
    (hfits : symbol < 2 ^ numBits) (hsmall : numBits < 2 ^ 32) :
    (handler.eU symbol numBits).Written (bits ++ appended handler.bitPtr symbol numBits) :=
  hwritten.eUFrom hsymbol hfits (Nat.le_refl _) hsmall

theorem Written.field {numBits : Nat} (hwritten : handler.Written bits) (hfits : symbol < 2 ^ numBits)
    (hsmall : numBits ≤ 32) : (handler.eU symbol numBits).Written (bits ++ natBits numBits symbol) := by
  have hpow : 2 ^ numBits ≤ 2 ^ 32 := Nat.pow_le_pow_right Nat.zero_lt_two hsmall
  have hlast := hwritten.eU (hfits.trans_le hpow) hfits (by omega)
  rwa [appended, if_pos (by omega)] at hlast

/-! ### `e_ue` -/

theorem ueLength_eq {rounds value : Nat} (hpositive : 0 < value) (hsmall : value < 2 ^ (rounds + 1)) :
    ueLength rounds (value >>> 1) = Nat.log 2 value := by
  induction rounds generalizing value with
  | zero =>
    obtain rfl : value = 1 := by omega
    rfl
  | succ rounds ih =>
    rw [Nat.shiftRight_one, ueLength]
    split
    · have hhalf : value / 2 < 2 ^ (rounds + 1) := by
        rw [Nat.pow_succ] at hsmall
        omega
      rw [ih (Nat.pos_of_ne_zero ‹_›) hhalf, ← Nat.log_of_one_lt_of_le Nat.one_lt_two (by omega)]
    · rw [Nat.log_of_lt (by omega)]

theorem eUe_eq_eU {value : Nat} (handler : ExtraDataHandler) (hvalue : value + 1 < 2 ^ 32) :
    handler.eUe value = handler.eU (value + 1) (2 * leadingZeros value + 1) := by
  have hlow := two_pow_leadingZeros_le value
  have hhigh := lt_two_pow_leadingZeros value
  have hzeros : leadingZeros value ≤ 31 := leadingZeros_le hvalue
  have hlength : ueLength 33 (((value + 1) % 2 ^ 32) >>> 1) = leadingZeros value := by
    rw [Nat.mod_eq_of_lt hvalue, ueLength_eq (Nat.succ_pos value) (by omega)]
    rfl
  have hpow : shiftLeft32 1 (leadingZeros value) = 2 ^ leadingZeros value := by
    rw [shiftLeft32, if_pos (by omega), Nat.one_shiftLeft, Nat.mod_eq_of_lt (by omega)]
  have hsymbol : 2 ^ leadingZeros value |||
      (value + 1 - 2 ^ leadingZeros value &&& 2 ^ leadingZeros value - 1) =
      value + 1 := by
    have hrest : value + 1 - 2 ^ leadingZeros value < 2 ^ leadingZeros value := by
      rw [Nat.pow_succ] at hhigh
      omega
    have hor := Nat.two_pow_add_eq_or_of_lt hrest 1
    rw [Nat.mul_one] at hor
    rw [Nat.and_two_pow_sub_one_eq_mod, Nat.mod_eq_of_lt hrest, ← hor]
    omega
  have hone : 1 ≤ 2 ^ leadingZeros value := Nat.one_le_two_pow
  rw [ExtraDataHandler.eUe, hlength, Nat.shiftLeft_eq, Nat.pow_one, Nat.mul_comm, Nat.shiftRight_one,
    show (2 * leadingZeros value + 1) / 2 = leadingZeros value by omega, hpow, Nat.mod_eq_of_lt hvalue,
    sub32_of_le hlow hvalue, sub32_of_le hone (by omega), hsymbol]

theorem Written.eUe {value : Nat} (hwritten : handler.Written bits) (hvalue : value + 1 < 2 ^ 32) :
    (handler.eUe value).Written
      (bits ++ appended handler.bitPtr (value + 1) (2 * leadingZeros value + 1)) := by
  have hzeros : leadingZeros value ≤ 31 := leadingZeros_le hvalue
  have hhigh := lt_two_pow_leadingZeros value
  rw [eUe_eq_eU handler hvalue]
  apply hwritten.eU hvalue _ (by omega)
  apply hhigh.trans_le
  apply Nat.pow_le_pow_right Nat.zero_lt_two
  omega

end ExtraDataHandler

end Nozomi
