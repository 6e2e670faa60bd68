import Nozomi.ExtraData.Rbsp

/-!
# What `d_u` and `d_ue` read

`d_u` of `extra_data_handler.cpp` keeps only the bits of the last whole byte: in front of a whole byte it shifts what
it has read by the unused bits of the byte before, not by 8. So a field is read right if and only if its value is that
of its last byte and of the bits behind that. The position goes on by the bits of the field in any case.
-/

namespace Nozomi

namespace ExtraDataHandler

def dULoop : (rounds remBits bins shift : Nat) → ExtraDataHandler → Nat × Nat × ExtraDataHandler
  | 0, remBits, bins, _, handler => (remBits, bins, handler)
  | rounds + 1, remBits, bins, shift, handler =>
    if handler.bitPtr ≤ remBits then
      let bins := shiftLeft32 bins shift
      let shift := 8 - handler.bitPtr
      let bins := bins ||| (((handler.rbspBuf handler.bytePtr).toNat <<< shift) &&& 0xFF) >>> shift
      dULoop rounds (remBits - handler.bitPtr) bins shift
        { handler with
          bitPtr := 8
          bytePtr := handler.bytePtr + 1 }
    else (remBits, bins, handler)

variable (handler : ExtraDataHandler)

def dURest (remBits bins : Nat) : Nat × ExtraDataHandler :=
  if remBits = 0 then (bins, handler)
  else
    let byte := (handler.rbspBuf handler.bytePtr).toNat
    let bins := shiftLeft32 bins remBits ||| ((byte <<< (8 - handler.bitPtr)) &&& 0xFF) >>> (8 - remBits)
    let handler := { handler with bitPtr := handler.bitPtr - remBits }
    if handler.bitPtr = 0 then (bins, { handler with bitPtr := 8, bytePtr := handler.bytePtr + 1 })
    else (bins, handler)

def dU (numBits : Nat) : Nat × ExtraDataHandler :=
  let (remBits, bins, handler) := dULoop numBits numBits 0 0 handler
  handler.dURest remBits bins

def dUeZeros : (rounds leadZeros : Nat) → ExtraDataHandler → Option (Nat × ExtraDataHandler)
  | 0, _, _ => none
  | rounds + 1, leadZeros, handler =>
    let (bit, handler) := handler.dU 1
    if bit = 0 then dUeZeros rounds (leadZeros + 1) handler else some (leadZeros, handler)

def dUe : Option (Nat × ExtraDataHandler) := do
  let (leadZeros, handler) ← dUeZeros (8 * rbspSize) 0 handler
  let (suffix, handler) := handler.dU leadZeros
  some ((sub32 (shiftLeft32 1 leadZeros) 1 + suffix) % 2 ^ 32, handler)

/-! ### Positions -/

def seek (position : Nat) : ExtraDataHandler :=
  { handler with
    bitPtr := 8 - position % 8
    bytePtr := position / 8 }

theorem seek_nextByte (position : Nat) :
    { handler.seek position with bitPtr := 8, bytePtr := (handler.seek position).bytePtr + 1 } =
      handler.seek (position + (8 - position % 8)) := by
  have haligned : (position + (8 - position % 8)) % 8 = 0 := by omega
  have hindex : position / 8 + 1 = (position + (8 - position % 8)) / 8 := by omega
  simp only [seek, haligned, hindex, Nat.sub_zero]

def bitsFrom (position count : Nat) : List Bool :=
  (List.range count).map fun index => handler.bit (position + index)

def numberFrom (position count : Nat) : Nat := bitsValue (handler.bitsFrom position count)

variable {handler} {position count : Nat}

@[simp] theorem bitsFrom_length : (handler.bitsFrom position count).length = count := by
  rw [bitsFrom, List.length_map, List.length_range]

theorem bitsFrom_add (first second : Nat) : handler.bitsFrom position (first + second) =
    handler.bitsFrom position first ++ handler.bitsFrom (position + first) second := by
  rw [bitsFrom, List.range_add, List.map_append, List.map_map]
  congr 1
  apply List.map_congr_left
  intro index _
  rw [Function.comp_apply, Nat.add_assoc]

theorem numberFrom_add (first second : Nat) : handler.numberFrom position (first + second) =
    handler.numberFrom position first * 2 ^ second + handler.numberFrom (position + first) second := by
  rw [numberFrom, bitsFrom_add, bitsValue_append, bitsFrom_length]
  rfl

theorem numberFrom_lt (handler : ExtraDataHandler) (position count : Nat) :
    handler.numberFrom position count < 2 ^ count := by
  have hlt := bitsValue_lt (handler.bitsFrom position count)
  rwa [bitsFrom_length] at hlt

theorem bitsFrom_inside (hinside : position % 8 + count ≤ 8) : handler.bitsFrom position count =
    natBits count ((handler.rbspBuf (position / 8)).toNat >>> (8 - position % 8 - count)) := by
  apply List.ext_getElem
  · rw [bitsFrom_length, natBits_length]
  · intro index hindex hright
    rw [bitsFrom_length] at hindex
    have hbit := natBits_getD count ((handler.rbspBuf (position / 8)).toNat >>> (8 - position % 8 - count)) index
    rw [List.getD_eq_getElem _ _ hright] at hbit
    have hbyte : (position + index) / 8 = position / 8 := by omega
    have hplace : 8 - position % 8 - count + (count - 1 - index) = 7 - (position + index) % 8 := by omega
    rw [hbit, Nat.testBit_shiftRight, hplace, decide_eq_true hindex, Bool.true_and]
    simp only [bitsFrom, List.getElem_map, List.getElem_range, bit, hbyte]

theorem shifted_byte (handler : ExtraDataHandler) (hinside : position % 8 + count ≤ 8) :
    (((handler.rbspBuf (position / 8)).toNat <<< (position % 8)) &&& 0xFF) >>> (8 - count) =
      handler.numberFrom position count := by
  rw [numberFrom, bitsFrom_inside hinside, bitsValue_natBits]
  generalize (handler.rbspBuf (position / 8)).toNat = byte
  obtain ⟨behind, hbehind⟩ := Nat.exists_eq_add_of_le hinside
  generalize position % 8 = skipped at *
  have hpow : 2 ^ 8 = 2 ^ (count + behind) * 2 ^ skipped := by
    rw [← Nat.pow_add]
    congr 1
    omega
  have hcount : 8 - count = skipped + behind := by omega
  rw [show 0xFF = 2 ^ 8 - 1 from rfl, Nat.and_two_pow_sub_one_eq_mod, Nat.shiftLeft_eq, hpow,
    Nat.mul_mod_mul_right, hcount, Nat.shiftRight_add, Nat.shiftRight_eq_div_pow _ skipped,
    Nat.mul_div_cancel _ (Nat.two_pow_pos _), Nat.shiftRight_eq_div_pow, Nat.pow_add, Nat.mul_comm (2 ^ count),
    Nat.mod_mul_right_div_self, show 8 - skipped - count = behind by omega, Nat.shiftRight_eq_div_pow]

/-! ### `d_u` -/

/-- What the loop of `d_u` has read from a position on: the number, as long as it fits a byte. -/
structure Gathered (handler : ExtraDataHandler) (position count bins shift : Nat) : Prop where
  place : (position + count) % 8 = 0 ∨ count = 0
  small : shift < 8
  bound : bins < 2 ^ (8 - shift)
  number : handler.numberFrom position count < 2 ^ 8 → bins = handler.numberFrom position count

theorem gathered_zero (handler : ExtraDataHandler) (position : Nat) : handler.Gathered position 0 0 0 :=
  ⟨.inr rfl, by decide, by decide, fun _ => rfl⟩

theorem Gathered.lt_byte {bins shift : Nat} (hgathered : handler.Gathered position count bins shift) : bins < 2 ^ 8 :=
  hgathered.bound.trans_le (Nat.pow_le_pow_right Nat.zero_lt_two (Nat.sub_le 8 shift))

theorem Gathered.round {bins shift start : Nat} (hgathered : handler.Gathered position count bins shift)
    (hstart : start = position + count) :
    handler.Gathered position (count + (8 - start % 8))
      (shiftLeft32 bins shift ||| handler.numberFrom start (8 - start % 8)) (start % 8) := by
  have hpart := numberFrom_lt handler start (8 - start % 8)
  have hshifted : shiftLeft32 bins shift < 2 ^ 8 := by
    have hmul := Nat.mul_lt_mul_of_pos_right hgathered.bound (Nat.two_pow_pos shift)
    rw [← Nat.pow_add, Nat.sub_add_cancel hgathered.small.le] at hmul
    have hshift := hgathered.small
    rw [shiftLeft32, if_pos (by omega), Nat.shiftLeft_eq, Nat.mod_eq_of_lt (by omega)]
    exact hmul
  -- Behind no bits or at a byte, a small number is that of the bits of the round
  have hbefore : count = 0 → bins = 0 := by
    rintro rfl
    exact hgathered.number (Nat.two_pow_pos 8)
  have hzero : shiftLeft32 0 shift = 0 := by
    rw [shiftLeft32, Nat.zero_shiftLeft]
    split <;> rfl
  refine ⟨.inl ?_, Nat.mod_lt _ (by decide), ?_, fun hsmall => ?_⟩
  · omega
  · rcases hgathered.place with haligned | hnone
    · rw [← hstart] at haligned
      rw [haligned] at hpart ⊢
      exact Nat.or_lt_two_pow hshifted hpart
    · rw [hbefore hnone, hzero, Nat.zero_or]
      exact hpart
  · rw [numberFrom_add, ← hstart] at hsmall ⊢
    have hfirst : handler.numberFrom position count = 0 := by
      rcases hgathered.place with haligned | rfl
      · rw [← hstart] at haligned
        rw [haligned] at hsmall
        omega
      · rfl
    have hbins : bins = 0 := by
      have hnumber := hgathered.number
      rw [hfirst] at hnumber
      exact hnumber (Nat.two_pow_pos 8)
    rw [hfirst, hbins, hzero, Nat.zero_or, Nat.zero_mul, Nat.zero_add]

theorem Gathered.dULoop {bins shift rounds remBits : Nat} (hgathered : handler.Gathered position count bins shift)
    (hrounds : remBits ≤ rounds) :
    ∃ total rest last shift', dULoop rounds remBits bins shift (handler.seek (position + count)) =
        (rest, last, handler.seek (position + total)) ∧ total + rest = count + remBits ∧
      (position + total) % 8 + rest < 8 ∧ handler.Gathered position total last shift' := by
  induction rounds generalizing count remBits bins shift with
  | zero =>
    obtain rfl := Nat.le_zero.mp hrounds
    have hinside : (position + count) % 8 < 8 := Nat.mod_lt _ (by decide)
    exact ⟨count, 0, bins, shift, rfl, rfl, hinside, hgathered⟩
  | succ rounds ih =>
    generalize hstart : position + count = start
    have hbit : (handler.seek start).bitPtr = 8 - start % 8 := rfl
    rw [ExtraDataHandler.dULoop]
    split
    · have hfills : 8 - start % 8 ≤ remBits := ‹_›
      have hround := hgathered.round hstart.symm
      have hinside : start % 8 + (8 - start % 8) ≤ 8 := by omega
      have hbyte := shifted_byte handler hinside
      have hshift : 8 - (8 - start % 8) = start % 8 := by omega
      have hnext := handler.seek_nextByte start
      rw [show start + (8 - start % 8) = position + (count + (8 - start % 8)) by omega] at hnext
      rw [hshift] at hbyte
      simp only [hbit, hshift, hnext]
      obtain ⟨total, rest, last, shift', hlast, htotal, hend, hgathered'⟩ :=
        ih hround (show remBits - (8 - start % 8) ≤ rounds by omega)
      refine ⟨total, rest, last, shift', ?_, by omega, hend, hgathered'⟩
      rw [← hlast, ← hbyte]
      rfl
    · rw [hbit, Nat.not_le] at *
      subst hstart
      exact ⟨count, remBits, bins, shift, rfl, rfl, by omega, hgathered⟩

theorem dURest_seek {rest bins : Nat} (hinside : position % 8 + rest < 8) (hbins : bins < 2 ^ 8) :
    (handler.seek position).dURest rest bins =
      (bins * 2 ^ rest + handler.numberFrom position rest, handler.seek (position + rest)) := by
  have hpart := numberFrom_lt handler position rest
  rw [dURest]
  split
  · obtain rfl : rest = 0 := ‹_›
    rw [Nat.pow_zero, Nat.mul_one]
    rfl
  have hshifted : shiftLeft32 bins rest = bins <<< rest := by
    have hword : bins <<< rest < 2 ^ 32 := by
      rw [Nat.shiftLeft_eq]
      calc bins * 2 ^ rest < 2 ^ 8 * 2 ^ rest := Nat.mul_lt_mul_of_pos_right hbins (Nat.two_pow_pos rest)
        _ = 2 ^ (8 + rest) := (Nat.pow_add 2 8 rest).symm
        _ ≤ 2 ^ 32 := Nat.pow_le_pow_right Nat.zero_lt_two (by omega)
    rw [shiftLeft32, if_pos (by omega), Nat.mod_eq_of_lt hword]
  have hbyte := shifted_byte handler hinside.le
  have hbit : (handler.seek position).bitPtr = 8 - position % 8 := rfl
  have hshift : 8 - (8 - position % 8) = position % 8 := by omega
  have hnext : 8 - position % 8 - rest = 8 - (position + rest) % 8 := by omega
  have hsame : position / 8 = (position + rest) / 8 := by omega
  have hleft : ¬8 - (position + rest) % 8 = 0 := by omega
  simp only [hbit, hshift, hnext, if_neg hleft, hshifted]
  rw [← Nat.shiftLeft_eq, Nat.shiftLeft_add_eq_or_of_lt hpart, ← hbyte, seek, seek, hsame]

theorem dU_seek (handler : ExtraDataHandler) (position numBits : Nat) :
    ∃ read, (handler.seek position).dU numBits = (read, handler.seek (position + numBits)) ∧
      read < 2 ^ (8 + (position + numBits) % 8) ∧
      (handler.numberFrom position numBits < 2 ^ (8 + (position + numBits) % 8) →
        read = handler.numberFrom position numBits) := by
  obtain ⟨total, rest, last, shift, hloop, htotal, hend, hgathered⟩ :=
    (gathered_zero handler position).dULoop (Nat.le_refl numBits)
  rw [Nat.add_zero] at hloop
  rw [Nat.zero_add] at htotal
  subst htotal
  have hbyte := hgathered.lt_byte
  have hpart := numberFrom_lt handler (position + total) rest
  have hread : (handler.seek (position + total)).dURest rest last = (last * 2 ^ rest +
      handler.numberFrom (position + total) rest, handler.seek (position + total + rest)) :=
    dURest_seek hend hbyte
  rw [Nat.add_assoc] at hread
  refine ⟨last * 2 ^ rest + handler.numberFrom (position + total) rest, ?_, ?_, fun hsmall => ?_⟩
  · rw [dU, hloop]
    exact hread
  · calc last * 2 ^ rest + handler.numberFrom (position + total) rest
        < (last + 1) * 2 ^ rest := by rw [Nat.add_mul, Nat.one_mul]; exact Nat.add_lt_add_left hpart _
      _ ≤ 2 ^ 8 * 2 ^ rest := Nat.mul_le_mul_right _ hbyte
      _ = 2 ^ (8 + rest) := (Nat.pow_add 2 8 rest).symm
      _ ≤ 2 ^ (8 + (position + (total + rest)) % 8) := by
        apply Nat.pow_le_pow_right Nat.zero_lt_two
        rcases hgathered.place with haligned | hnone <;> omega
  · rw [numberFrom_add] at hsmall ⊢
    rw [hgathered.number]
    rcases hgathered.place with haligned | rfl
    · have hrest : (position + (total + rest)) % 8 = rest := by omega
      rw [hrest, Nat.pow_add] at hsmall
      exact Nat.lt_of_mul_lt_mul_right ((Nat.le_add_right _ _).trans_lt hsmall)
    · exact Nat.two_pow_pos 8

theorem dU_seek_eq_iff (handler : ExtraDataHandler) (position numBits : Nat) :
    ((handler.seek position).dU numBits).1 = handler.numberFrom position numBits ↔
      handler.numberFrom position numBits < 2 ^ (8 + (position + numBits) % 8) := by
  obtain ⟨read, hdU, hlt, hread⟩ := handler.dU_seek position numBits
  rw [hdU]
  exact ⟨fun hsame => hsame ▸ hlt, hread⟩

/-! ### `d_ue` -/

theorem dU_one (handler : ExtraDataHandler) (position : Nat) :
    (handler.seek position).dU 1 = ((handler.bit position).toNat, handler.seek (position + 1)) := by
  have hnumber : handler.numberFrom position 1 = (handler.bit position).toNat := by
    rw [numberFrom, bitsFrom, List.range_one, List.map_singleton, bitsValue_cons]
    simp
  obtain ⟨read, hdU, -, hread⟩ := handler.dU_seek position 1
  rw [hdU, hread, hnumber]
  rw [hnumber]
  exact (Bool.toNat_le _).trans_lt (Nat.one_lt_two_pow (by omega))

theorem dUeZeros_seek {rounds leadZeros lead : Nat} (hrounds : lead < rounds)
    (hzeros : ∀ index < lead, handler.bit (position + index) = false)
    (hone : handler.bit (position + lead) = true) :
    dUeZeros rounds leadZeros (handler.seek position) =
      some (leadZeros + lead, handler.seek (position + lead + 1)) := by
  induction lead generalizing rounds leadZeros position with
  | zero =>
    obtain ⟨rounds, rfl⟩ := Nat.exists_eq_succ_of_ne_zero hrounds.ne'
    rw [Nat.add_zero] at hone
    rw [dUeZeros, dU_one, hone]
    rfl
  | succ lead ih =>
    obtain ⟨rounds, rfl⟩ := Nat.exists_eq_succ_of_ne_zero (Nat.ne_zero_of_lt hrounds)
    have hfirst := hzeros 0 (Nat.succ_pos lead)
    have hnext : ∀ index, position + 1 + index = position + (index + 1) := fun index => by omega
    rw [Nat.add_zero] at hfirst
    rw [dUeZeros, dU_one, hfirst]
    simp only [Bool.toNat_false, if_true]
    rw [ih (Nat.lt_of_succ_lt_succ hrounds), hnext, Nat.add_assoc leadZeros, Nat.add_comm 1]
    · intro index hindex
      rw [hnext]
      exact hzeros (index + 1) (Nat.succ_lt_succ hindex)
    · rwa [hnext]

theorem bitsFrom_expGolomb {value : Nat}
    (hcode : handler.bitsFrom position (2 * leadingZeros value + 1) = expGolomb value) :
    (∀ index < leadingZeros value, handler.bit (position + index) = false) ∧
      handler.bit (position + leadingZeros value) = true ∧
      handler.numberFrom (position + leadingZeros value + 1) (leadingZeros value) =
        (value + 1) % 2 ^ leadingZeros value := by
  generalize hlead : leadingZeros value = lead at *
  rw [expGolomb_eq, hlead, show 2 * lead + 1 = lead + (1 + lead) by omega, bitsFrom_add, bitsFrom_add,
    ← List.singleton_append] at hcode
  obtain ⟨hzeros, hrest⟩ := List.append_inj hcode (by rw [bitsFrom_length, List.length_replicate])
  obtain ⟨hone, hsuffix⟩ := List.append_inj hrest bitsFrom_length
  refine ⟨fun index hindex => ?_, ?_, ?_⟩
  · apply (List.eq_replicate_iff.mp hzeros).2
    exact List.mem_map.mpr ⟨index, List.mem_range.mpr hindex, rfl⟩
  · exact List.head_eq_of_cons_eq hone
  · rw [numberFrom, hsuffix, bitsValue_natBits]

theorem dUe_seek {value : Nat} (hvalue : value + 1 < 2 ^ 32)
    (hcode : handler.bitsFrom position (2 * leadingZeros value + 1) = expGolomb value) :
    ∃ read, (handler.seek position).dUe = some (read, handler.seek (position + (2 * leadingZeros value + 1))) ∧
      (read = value ↔ (value + 1) % 2 ^ leadingZeros value <
        2 ^ (8 + (position + (2 * leadingZeros value + 1)) % 8)) := by
  obtain ⟨hzeros, hone, hsuffix⟩ := bitsFrom_expGolomb hcode
  have hlow := two_pow_leadingZeros_le value
  have hmod := mod_two_pow_leadingZeros value
  have hlead : leadingZeros value ≤ 31 := leadingZeros_le hvalue
  generalize leadingZeros value = lead at *
  have hloop : dUeZeros (8 * rbspSize) 0 (handler.seek position) =
      some (0 + lead, handler.seek (position + lead + 1)) := by
    apply dUeZeros_seek _ hzeros hone
    rw [rbspSize]
    omega
  obtain ⟨read, hdU, hlt, hread⟩ := handler.dU_seek (position + lead + 1) lead
  have hend : position + lead + 1 + lead = position + (2 * lead + 1) := by omega
  rw [hend] at hdU hlt hread
  rw [hsuffix] at hread
  have hpow : 2 ^ lead ≤ 2 ^ 31 := Nat.pow_le_pow_right Nat.zero_lt_two hlead
  have hsmall : read < 2 ^ 15 := by
    apply hlt.trans_le
    apply Nat.pow_le_pow_right Nat.zero_lt_two
    omega
  have hbase : sub32 (shiftLeft32 1 lead) 1 = 2 ^ lead - 1 := by
    rw [shiftLeft32, if_pos (by omega), Nat.one_shiftLeft, Nat.mod_eq_of_lt (by omega),
      sub32_of_le Nat.one_le_two_pow (by omega)]
  refine ⟨2 ^ lead - 1 + read, ?_, ?_, fun hfits => ?_⟩
  · rw [dUe, hloop]
    simp only [Option.bind_eq_bind, Option.bind_some, Nat.zero_add, hdU, hbase]
    rw [Nat.mod_eq_of_lt (by omega)]
  · intro hsame
    apply lt_of_eq_of_lt _ hlt
    omega
  · rw [hread hfits, hmod]
    have hone : 1 ≤ 2 ^ lead := Nat.one_le_two_pow
    omega

end ExtraDataHandler

end Nozomi
