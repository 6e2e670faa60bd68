import Nozomi.Vdec.StreamParser.Reader

/-!
# What `extract_bits` reads

The window holds bits, the most significant one at the top of the word. `extract_bits` takes the next bits of
the stream, as many as are left, and `read_word` counts the emulation-prevention bytes that it passes.
-/

namespace Nozomi

/-! ### Left-justified bits -/

def justified (bits : List Bool) : Nat := bitsValue bits * 2 ^ (32 - bits.length)

theorem justified_shiftRight {bits : List Bool} {n : Nat} (hlength : bits.length ≤ 32) (hn : n ≤ bits.length) :
    justified bits >>> (32 - n) = bitsValue (bits.take n) := by
  have hdrop := bitsValue_lt (bits.drop n)
  have hsplit := bitsValue_append (bits.take n) (bits.drop n)
  rw [List.take_append_drop] at hsplit
  rw [List.length_drop] at hdrop hsplit
  obtain ⟨rest, hrest⟩ := Nat.exists_eq_add_of_le hn
  have hlow : bits.length - n = rest := by omega
  have hhigh : 32 - n = rest + (32 - bits.length) := by omega
  rw [hlow] at hdrop hsplit
  rw [justified, Nat.shiftRight_eq_div_pow, hhigh, Nat.pow_add,
    Nat.mul_div_mul_right _ _ (Nat.two_pow_pos _), hsplit, Nat.add_comm,
    Nat.add_mul_div_right _ _ (Nat.two_pow_pos _), Nat.div_eq_of_lt hdrop, Nat.zero_add]

theorem justified_shiftRight_all {bits : List Bool} {n : Nat} (hlength : bits.length ≤ n) (hn : n ≤ 32) :
    justified bits >>> (32 - n) = bitsValue bits * 2 ^ (n - bits.length) := by
  have hpow : 32 - bits.length = (n - bits.length) + (32 - n) := by omega
  rw [justified, hpow, Nat.pow_add, ← Nat.mul_assoc, Nat.shiftRight_eq_div_pow,
    Nat.mul_div_cancel _ (Nat.two_pow_pos _)]

theorem justified_shiftLeft {bits : List Bool} {n : Nat} (hlength : bits.length ≤ 32) (hn : n ≤ bits.length) :
    (justified bits <<< n) % 2 ^ 32 = justified (bits.drop n) := by
  have hdrop := bitsValue_lt (bits.drop n)
  have hsplit := bitsValue_append (bits.take n) (bits.drop n)
  rw [List.take_append_drop] at hsplit
  rw [List.length_drop] at hdrop hsplit
  have hpow : 2 ^ (bits.length - n) * 2 ^ (32 - (bits.length - n)) = 2 ^ 32 := by
    rw [← Nat.pow_add]
    congr 1
    omega
  have hshift : 2 ^ (32 - bits.length) * 2 ^ n = 2 ^ (32 - (bits.length - n)) := by
    rw [← Nat.pow_add]
    congr 1
    omega
  have hlt : bitsValue (bits.drop n) * 2 ^ (32 - (bits.length - n)) < 2 ^ 32 := by
    rw [← hpow]
    exact Nat.mul_lt_mul_of_pos_right hdrop (Nat.two_pow_pos _)
  have hword : justified bits <<< n =
      bitsValue (bits.drop n) * 2 ^ (32 - (bits.length - n)) + 2 ^ 32 * bitsValue (bits.take n) := by
    rw [justified, Nat.shiftLeft_eq, Nat.mul_assoc, hshift, hsplit, Nat.add_mul, Nat.mul_assoc, hpow]
    ring
  rw [hword, Nat.add_mul_mod_self_left, Nat.mod_eq_of_lt hlt, justified, List.length_drop]

namespace StreamReader

variable {reader : StreamReader} {window : List Bool}

def ShiftsFit (reader : StreamReader) : Prop := ∀ count ∈ reader.shifts, count < 32

instance : Decidable reader.ShiftsFit := inferInstanceAs (Decidable (∀ count ∈ reader.shifts, count < 32))

def CallsFit (reader : StreamReader) : Prop := ∀ call ∈ reader.calls, call.Fits

theorem shiftsFit_shift (count : Nat) : (reader.shift count).ShiftsFit ↔ reader.ShiftsFit ∧ count < 32 := by
  rw [ShiftsFit, shift, List.forall_mem_append, List.forall_mem_singleton]
  rfl

/-! ### `read_word` -/

structure Window (reader : StreamReader) (window : List Bool) : Prop where
  length : window.length = reader.bitsRead
  value : reader.curr32Bit = justified window

theorem Window.bits_eq (hwindow : reader.Window window) (hlength : window.length ≤ 32) :
    reader.bits = window ++ bytesBits reader.payload := by
  rw [bits, ← hwindow.length, hwindow.value, justified_shiftRight hlength (Nat.le_refl _), List.take_length,
    natBits_bitsValue]

def emulationBytes (reader : StreamReader) : Nat :=
  reader.emulationCodeSkipCntr + (reader.bitstream.length - reader.payload.length)

theorem payload_length_le (reader : StreamReader) : reader.payload.length ≤ reader.bitstream.length := by
  rw [payload]
  split
  · exact unescapeFrom_length_le _ _
  · exact Nat.le_refl _

theorem readByte_cases {byte : UInt8} {bytes : List UInt8} (hbytes : reader.bitstream = byte :: bytes) :
    ((reader.readByte byte bytes).payload = reader.payload ∧
        (reader.readByte byte bytes).bitsRead = reader.bitsRead ∧
        (reader.readByte byte bytes).curr32Bit = reader.curr32Bit ∧
        (reader.readByte byte bytes).shifts = reader.shifts ∨
      reader.payload = byte :: (reader.readByte byte bytes).payload ∧
        (reader.readByte byte bytes).bitsRead = reader.bitsRead + 8 ∧
        (reader.readByte byte bytes).curr32Bit = (reader.curr32Bit <<< 8) % 2 ^ 32 ||| byte.toNat ∧
        (reader.readByte byte bytes).shifts = reader.shifts ++ [8]) ∧
      (reader.readByte byte bytes).emulationBytes = reader.emulationBytes ∧
      (reader.readByte byte bytes).calls = reader.calls ∧
      (reader.readByte byte bytes).bitstream = bytes := by
  have hle := (reader.readByte byte bytes).payload_length_le
  rw [emulationBytes, emulationBytes]
  by_cases hescape : byte = 3 ∧ 2 ≤ reader.zeroCntr ∧ reader.emulationScEnabled
  · obtain ⟨rfl, hzeros, henabled⟩ := hescape
    have hread : reader.readByte 3 bytes = { reader with
        emulationCodeSkipCntr := reader.emulationCodeSkipCntr + 1
        zeroCntr := 0
        bitstream := bytes } := by
      rw [readByte, if_pos ⟨rfl, hzeros, henabled⟩]
      rfl
    have hpayload : reader.payload = unescapeFrom 0 bytes := by
      rw [payload, if_pos henabled, hbytes, unescapeFrom, if_pos ⟨hzeros, rfl⟩]
    have hpayload' : (reader.readByte 3 bytes).payload = unescapeFrom 0 bytes := by
      rw [hread, payload, if_pos henabled]
    rw [hpayload'] at hle ⊢
    rw [hpayload, hbytes]
    rw [hread] at hle ⊢
    refine ⟨.inl ⟨rfl, rfl, rfl, rfl⟩, ?_, rfl, rfl⟩
    simp only [List.length_cons] at hle ⊢
    omega
  · have hread : reader.readByte byte bytes = { reader.shift 8 with
        curr32Bit := (reader.curr32Bit <<< 8) % 2 ^ 32 ||| byte.toNat
        bitsRead := reader.bitsRead + 8
        zeroCntr := zerosAfter reader.zeroCntr byte
        bitstream := bytes } := by
      rw [readByte, if_neg hescape]
      rfl
    have hpayload : reader.payload = byte :: (reader.readByte byte bytes).payload := by
      rw [hread, payload, payload, hbytes]
      cases henabled : reader.emulationScEnabled with
      | true =>
        rw [if_pos rfl, unescapeFrom, if_neg, shift, if_pos henabled]
        rintro ⟨hzeros, rfl⟩
        exact hescape ⟨rfl, hzeros, henabled⟩
      | false =>
        rw [if_neg Bool.false_ne_true, shift, if_neg (by simp [henabled])]
    refine ⟨.inr ⟨hpayload, ?_, ?_, ?_⟩, ?_, ?_, ?_⟩
    · rw [hread]
    · rw [hread]
    · rw [hread]
      rfl
    · rw [hpayload, hbytes, List.length_cons, List.length_cons, Nat.add_sub_add_right, hread]
      rfl
    · rw [hread]
      rfl
    · rw [hread]

/-- While `read_word` fills the window, its bits are at the bottom of the word. -/
structure Filling (reader : StreamReader) (window : List Bool) : Prop where
  length : window.length = reader.bitsRead
  value : reader.curr32Bit = bitsValue window
  room : reader.bitsRead ≤ 32
  aligned : reader.bitsRead % 8 = 0

theorem Filling.readByte {byte : UInt8} {bytes : List UInt8} (hfilling : reader.Filling window)
    (hbytes : reader.bitstream = byte :: bytes) (hshort : reader.bitsRead < 32) :
    (∃ window', (reader.readByte byte bytes).Filling window' ∧
        window' ++ bytesBits (reader.readByte byte bytes).payload = window ++ bytesBits reader.payload) ∧
      ((reader.readByte byte bytes).ShiftsFit ↔ reader.ShiftsFit) := by
  obtain ⟨hlength, hvalue, hroom, haligned⟩ := hfilling
  obtain ⟨hcases, -⟩ := readByte_cases hbytes
  rcases hcases with ⟨hpayload, hbitsRead, hcurr, hshifts⟩ | ⟨hpayload, hbitsRead, hcurr, hshifts⟩
  · refine ⟨⟨window, ⟨?_, ?_, ?_, ?_⟩, by rw [hpayload]⟩, by rw [ShiftsFit, hshifts, ShiftsFit]⟩
    · rw [hbitsRead, hlength]
    · rw [hcurr, hvalue]
    · rwa [hbitsRead]
    · rwa [hbitsRead]
  refine ⟨⟨window ++ byteBits byte, ⟨?_, ?_, ?_, ?_⟩, ?_⟩, ?_⟩
  · rw [hbitsRead, List.length_append, byteBits_length, hlength]
  · have hlt := bitsValue_lt window
    have hsmall : bitsValue window <<< 8 < 2 ^ 32 := by
      rw [Nat.shiftLeft_eq]
      calc bitsValue window * 2 ^ 8 < 2 ^ window.length * 2 ^ 8 :=
            Nat.mul_lt_mul_of_pos_right hlt (Nat.two_pow_pos 8)
        _ = 2 ^ (window.length + 8) := (Nat.pow_add 2 _ 8).symm
        _ ≤ 2 ^ 32 := Nat.pow_le_pow_right (by decide) (by omega)
    rw [hcurr, hvalue, Nat.mod_eq_of_lt hsmall, ← Nat.shiftLeft_add_eq_or_of_lt byte.toNat_lt,
      Nat.shiftLeft_eq, bitsValue_append, byteBits_length, bitsValue_byteBits]
  · rw [hbitsRead]
    omega
  · rw [hbitsRead]
    omega
  · rw [hpayload, bytesBits_cons, List.append_assoc]
  · rw [ShiftsFit, hshifts, List.forall_mem_append, List.forall_mem_singleton]
    exact and_iff_left (by decide)

theorem Filling.readBytes {bytes : List UInt8} (hfilling : reader.Filling window)
    (hbytes : reader.bitstream = bytes) :
    (∃ window', (reader.readBytes bytes).Filling window' ∧
        window' ++ bytesBits (reader.readBytes bytes).payload = window ++ bytesBits reader.payload) ∧
      ((reader.readBytes bytes).bitsRead = 32 ∨ (reader.readBytes bytes).bitstream = []) ∧
      ((reader.readBytes bytes).ShiftsFit ↔ reader.ShiftsFit) ∧
      (reader.readBytes bytes).emulationBytes = reader.emulationBytes ∧
      (reader.readBytes bytes).calls = reader.calls := by
  induction bytes generalizing reader window with
  | nil => exact ⟨⟨window, hfilling, rfl⟩, .inr hbytes, Iff.rfl, rfl, rfl⟩
  | cons byte bytes ih =>
    rw [StreamReader.readBytes]
    by_cases hshort : reader.bitsRead < 32
    · rw [if_pos hshort]
      obtain ⟨-, hescapes, hcalls, hbitstream⟩ := readByte_cases hbytes
      obtain ⟨⟨window', hfilling', hbits⟩, hshifts⟩ := hfilling.readByte hbytes hshort
      obtain ⟨⟨window'', hfilling'', hbits'⟩, hend, hshifts', hescapes', hcalls'⟩ := ih hfilling' hbitstream
      exact ⟨⟨window'', hfilling'', hbits'.trans hbits⟩, hend, hshifts'.trans hshifts,
        hescapes'.trans hescapes, hcalls'.trans hcalls⟩
    · rw [if_neg hshort]
      have hroom := hfilling.room
      exact ⟨⟨window, hfilling, rfl⟩, .inl (by omega), Iff.rfl, rfl, rfl⟩

theorem readWord_spec (reader : StreamReader) :
    (∃ window, reader.readWord.Window window ∧ window.length ≤ 32 ∧
        window ++ bytesBits reader.readWord.payload = bytesBits reader.payload ∧
        (window.length = 32 ∨ reader.readWord.payload = [])) ∧
      (reader.readWord.ShiftsFit ↔ reader.ShiftsFit ∧ 0 < reader.payload.length) ∧
      reader.readWord.emulationBytes = reader.emulationBytes ∧ reader.readWord.calls = reader.calls := by
  have hfilling : { reader with curr32Bit := 0, bitsRead := 0 }.Filling [] := by
    exact ⟨rfl, rfl, Nat.zero_le 32, rfl⟩
  obtain ⟨⟨window, hfilled, hbits⟩, hend, hshifts, hescapes, hcalls⟩ :=
    hfilling.readBytes (rfl : _ = reader.bitstream)
  have hbits : window ++ bytesBits _ = bytesBits reader.payload := hbits
  rw [readWord]
  generalize { reader with curr32Bit := 0, bitsRead := 0 }.readBytes reader.bitstream = filled at *
  obtain ⟨hlength, hvalue, hroom, haligned⟩ := hfilled
  have hpayload : filled.bitstream = [] → filled.payload = [] := by
    intro hnone
    have hle := filled.payload_length_le
    rw [hnone] at hle
    exact List.eq_nil_of_length_eq_zero (Nat.le_zero.mp hle)
  have hlengths := congrArg List.length hbits
  rw [List.length_append, bytesBits_length, bytesBits_length] at hlengths
  refine ⟨⟨window, ⟨hlength, ?_⟩, hlength ▸ hroom, hbits, ?_⟩, ?_, hescapes, hcalls⟩
  · have hlt := bitsValue_lt window
    have hpow : 2 ^ window.length * 2 ^ (32 - window.length) = 2 ^ 32 := by
      rw [← Nat.pow_add, Nat.add_sub_cancel' (hlength ▸ hroom)]
    change (filled.curr32Bit <<< (32 - filled.bitsRead)) % 2 ^ 32 = justified window
    rw [hvalue, ← hlength, Nat.shiftLeft_eq, Nat.mod_eq_of_lt, justified]
    rw [← hpow]
    exact Nat.mul_lt_mul_of_pos_right hlt (Nat.two_pow_pos _)
  · rcases hend with hfull | hnone
    · exact .inl (hlength.trans hfull)
    · exact .inr (hpayload hnone)
  · change (filled.shift (32 - filled.bitsRead)).ShiftsFit ↔ _
    rw [shiftsFit_shift, hshifts]
    change reader.ShiftsFit ∧ _ ↔ _
    apply and_congr_right
    intro _
    constructor
    · intro hcount
      omega
    · intro hleft
      rcases hend with hfull | hnone
      · omega
      · have hempty := congrArg List.length (hpayload hnone)
        rw [List.length_nil] at hempty
        omega

/-! ### `extract_bits` -/

def Ready (reader : StreamReader) : Prop := ∃ window, reader.Window window ∧ window.length < 32

theorem Window.shift (hwindow : reader.Window window) (count : Nat) : (reader.shift count).Window window :=
  ⟨hwindow.length, hwindow.value⟩

theorem Window.consume {n : Nat} (hwindow : reader.Window window) (hlength : window.length ≤ 32)
    (hn : n ≤ window.length) : (reader.consume n).Window (window.drop n) where
  length := by rw [List.length_drop, hwindow.length, StreamReader.consume]
  value := by rw [StreamReader.consume, hwindow.value, justified_shiftLeft hlength hn]

theorem shiftsFit_consume (n : Nat) : (reader.consume n).ShiftsFit ↔ reader.ShiftsFit ∧ n < 32 :=
  shiftsFit_shift n

/-- What is read of the bits that are left: as many as there are, and the state behind them. -/
structure Takes (reader : StreamReader) (n : Nat) (result : Nat × StreamReader) : Prop where
  ready : result.2.Ready
  value : result.1 = bitsValue (reader.bits.take n)
  bits : result.2.bits = reader.bits.drop n
  emulationBytes : result.2.emulationBytes = reader.emulationBytes
  calls : result.2.calls = reader.calls

theorem extractFrom_window {n : Nat} (hwindow : reader.Window window) (hlength : window.length < 32)
    (hn : n ≤ window.length) : reader.Takes n (reader.extractFrom (reader.curr32Bit >>> (32 - n)) n) ∧
      ((reader.extractFrom (reader.curr32Bit >>> (32 - n)) n).2.ShiftsFit ↔ reader.ShiftsFit) := by
  have hbits := hwindow.bits_eq hlength.le
  have hafter := hwindow.consume hlength.le hn
  have hshort : (window.drop n).length < 32 := by
    rw [List.length_drop]
    omega
  rw [extractFrom, if_neg (by rw [← hwindow.length]; omega)]
  refine ⟨⟨⟨window.drop n, hafter, hshort⟩, ?_, ?_, rfl, rfl⟩, ?_⟩
  · rw [hwindow.value, justified_shiftRight hlength.le hn, hbits, List.take_append_of_le_length hn]
  · rw [hafter.bits_eq hshort.le, hbits, List.drop_append_of_le_length hn]
    rfl
  · rw [shiftsFit_consume]
    exact and_iff_left (by omega)

private theorem bitsValue_or {first second : List Bool} :
    bitsValue first * 2 ^ second.length ||| bitsValue second = bitsValue (first ++ second) := by
  rw [bitsValue_append, ← Nat.shiftLeft_eq, Nat.shiftLeft_add_eq_or_of_lt (bitsValue_lt second),
    Nat.shiftLeft_eq]

theorem extractFilled_spec {filled : List Bool} {n before : Nat} (first : List Bool)
    (hwindow : reader.Window filled) (hlength : filled.length ≤ 32) (hn : n ≤ 32) (hpositive : 0 < n)
    (hend : filled.length = 32 ∨ reader.payload = []) (hbefore : before = bitsValue first * 2 ^ n) :
    (reader.extractFilled (before ||| reader.curr32Bit >>> (32 - n)) n).2.Ready ∧
      (reader.extractFilled (before ||| reader.curr32Bit >>> (32 - n)) n).1 =
        bitsValue (first ++ filled.take n) ∧
      (reader.extractFilled (before ||| reader.curr32Bit >>> (32 - n)) n).2.bits = reader.bits.drop n ∧
      ((reader.extractFilled (before ||| reader.curr32Bit >>> (32 - n)) n).2.ShiftsFit ↔
        reader.ShiftsFit ∧ ¬(n = 32 ∧ (filled.length = 0 ∨ filled.length = 32))) := by
  have hbits := hwindow.bits_eq hlength
  rw [extractFilled, ← hwindow.length, hwindow.value]
  by_cases hshort : filled.length < n
  · obtain ⟨rest, rfl⟩ := Nat.exists_eq_add_of_le hshort.le
    have hempty : reader.payload = [] := hend.resolve_left (by omega)
    have hafter : ((reader.shift (filled.length + rest - filled.length)).consume filled.length).Window [] := by
      have hdropped := (hwindow.shift (filled.length + rest - filled.length)).consume hlength (Nat.le_refl _)
      rwa [List.drop_length] at hdropped
    have hvalue : before ||| justified filled >>> (32 - (filled.length + rest)) =
        bitsValue (first ++ filled) * 2 ^ rest := by
      rw [justified_shiftRight_all hshort.le hn, hbefore, Nat.add_sub_cancel_left, Nat.pow_add,
        ← Nat.mul_assoc, ← Nat.shiftLeft_eq _ rest, ← Nat.shiftLeft_eq _ rest,
        ← Nat.shiftLeft_or_distrib, bitsValue_or, Nat.shiftLeft_eq]
    rw [if_pos hshort]
    refine ⟨⟨[], hafter, Nat.zero_lt_succ 31⟩, ?_, ?_, ?_⟩
    · rw [hvalue, Nat.add_sub_cancel_left, Nat.shiftRight_eq_div_pow,
        Nat.mul_div_cancel _ (Nat.two_pow_pos _), List.take_of_length_le hshort.le]
    · have hpayload : ((reader.shift (filled.length + rest - filled.length)).consume
          filled.length).payload = [] := hempty
      rw [hafter.bits_eq (Nat.zero_le 32), hpayload, hbits, hempty]
      simp
    · rw [shiftsFit_consume, shiftsFit_shift]
      constructor
      · rintro ⟨⟨hfits, hfirst⟩, hsecond⟩
        exact ⟨hfits, by omega⟩
      · rintro ⟨hfits, hcount⟩
        exact ⟨⟨hfits, by omega⟩, by omega⟩
  · have hfit : n ≤ filled.length := by omega
    have hafter := hwindow.consume hlength hfit
    have hleft : (filled.drop n).length < 32 := by
      rw [List.length_drop]
      omega
    have htake : (filled.take n).length = n := List.length_take_of_le hfit
    rw [if_neg hshort]
    refine ⟨⟨filled.drop n, hafter, hleft⟩, ?_, ?_, ?_⟩
    · rw [justified_shiftRight hlength hfit, hbefore, ← bitsValue_or, htake]
    · rw [hafter.bits_eq hleft.le, hbits, List.drop_append_of_le_length hfit]
      rfl
    · rw [shiftsFit_consume]
      apply and_congr_right
      intro _
      omega

theorem extractFrom_filled {n : Nat} (hwindow : reader.Window window) (hshort : window.length < n) (hn : n ≤ 32) :
    reader.Takes n (reader.extractFrom (reader.curr32Bit >>> (32 - n)) n) ∧
      ((reader.extractFrom (reader.curr32Bit >>> (32 - n)) n).2.ShiftsFit ↔
        reader.ShiftsFit ∧ 0 < reader.payload.length ∧
          ¬(n = 32 ∧ window.length = 0 ∧ 4 ≤ reader.payload.length)) := by
  obtain ⟨rest, rfl⟩ := Nat.exists_eq_add_of_le hshort.le
  obtain ⟨⟨filled, hfilled, hlength, hleft, hend⟩, hshifts, hescapes, hcalls⟩ := reader.readWord_spec
  have hlengths := congrArg List.length hleft
  rw [List.length_append, bytesBits_length, bytesBits_length] at hlengths
  have hbits := hwindow.bits_eq (by omega)
  have hrest : window.length + rest - reader.bitsRead = rest := by
    rw [← hwindow.length, Nat.add_sub_cancel_left]
  have hbefore : reader.curr32Bit >>> (32 - (window.length + rest)) = bitsValue window * 2 ^ rest := by
    rw [hwindow.value, justified_shiftRight_all hshort.le hn, Nat.add_sub_cancel_left]
  have hcurr : reader.readWord.curr32Bit = (reader.readWord.shift (32 - rest)).curr32Bit := rfl
  rw [extractFrom, if_pos (by rw [← hwindow.length]; omega)]
  simp only [hrest, hbefore, hcurr]
  obtain ⟨hready, hvalue, hdropped, hfits⟩ := extractFilled_spec window
    (hfilled.shift (32 - rest)) hlength (by omega) (by omega) hend (rfl : bitsValue window * 2 ^ rest = _)
  have hfull : 32 ≤ filled.length ∨ reader.readWord.payload.length = 0 := by
    rcases hend with hfull | hnone
    · exact .inl hfull.ge
    · exact .inr (by rw [hnone]; rfl)
  refine ⟨⟨hready, ?_, ?_, ?_, ?_⟩, ?_⟩
  · rw [hvalue, hbits, List.take_append, List.take_of_length_le hshort.le, Nat.add_sub_cancel_left, ← hleft]
    congr 2
    by_cases hfit : rest ≤ filled.length
    · rw [List.take_append_of_le_length hfit]
    · have hnone : reader.readWord.payload = [] := List.eq_nil_of_length_eq_zero (by omega)
      rw [hnone, bytesBits_nil, List.append_nil]
  · have hsame : (reader.readWord.shift (32 - rest)).bits = bytesBits reader.payload := by
      rw [← hleft]
      exact hfilled.bits_eq hlength
    rw [hdropped, hsame, hbits, List.drop_append, List.drop_of_length_le hshort.le, Nat.add_sub_cancel_left,
      List.nil_append]
  · rw [← hescapes, extractFilled]
    split <;> rfl
  · rw [← hcalls, extractFilled]
    split <;> rfl
  · rw [hfits, shiftsFit_shift, hshifts]
    constructor
    · rintro ⟨⟨⟨hbase, hpositive⟩, hcount⟩, hnot⟩
      exact ⟨hbase, hpositive, by omega⟩
    · rintro ⟨hbase, hpositive, hnot⟩
      exact ⟨⟨⟨hbase, hpositive⟩, by omega⟩, by omega⟩

theorem extractBits_spec (hready : reader.Ready) {n : Nat} (hn : n ≤ 32) :
    (reader.extractBits n).2.Ready ∧
      (reader.extractBits n).1 = bitsValue (reader.bits.take n) ∧
      (reader.extractBits n).2.bits = reader.bits.drop n ∧
      (reader.extractBits n).2.emulationBytes = reader.emulationBytes ∧
      (reader.extractBits n).2.calls =
        reader.calls ++ [.extractBits reader.bitsRead reader.payload.length n] ∧
      ((reader.extractBits n).2.ShiftsFit ↔ reader.ShiftsFit ∧
        (ReadCall.extractBits reader.bitsRead reader.payload.length n).Fits) := by
  obtain ⟨window, hwindow, hlength⟩ := hready
  have hread := hwindow.length
  generalize hcall : ReadCall.extractBits reader.bitsRead reader.payload.length n = call
  obtain ⟨start, hstart⟩ : ∃ start, start = { reader with calls := reader.calls ++ [call] }.shift (32 - n) :=
    ⟨_, rfl⟩
  have hextract : reader.extractBits n = start.extractFrom (start.curr32Bit >>> (32 - n)) n := by
    rw [hstart, extractBits, hcall]
    exact if_neg (by omega)
  have hbits : start.bits = reader.bits := by rw [hstart]; rfl
  have hescapes : start.emulationBytes = reader.emulationBytes := by rw [hstart]; rfl
  have hleft : start.payload = reader.payload := by rw [hstart]; rfl
  have hcalls : start.calls = reader.calls ++ [call] := by rw [hstart]; rfl
  have hfits : start.ShiftsFit ↔ reader.ShiftsFit ∧ 32 - n < 32 := by
    rw [hstart, shiftsFit_shift]
    rfl
  have hwindow' : start.Window window := by
    rw [hstart]
    exact ⟨hwindow.length, hwindow.value⟩
  rw [hextract, ← hcall, ReadCall.Fits, ← hbits, ← hescapes, hcall, ← hcalls, ← hleft]
  by_cases hinside : n ≤ window.length
  · obtain ⟨htakes, hshifts⟩ := extractFrom_window hwindow' hlength hinside
    refine ⟨htakes.ready, htakes.value, htakes.bits, htakes.emulationBytes, htakes.calls, ?_⟩
    rw [hshifts, hfits]
    apply and_congr_right
    intro _
    omega
  · obtain ⟨htakes, hshifts⟩ := extractFrom_filled hwindow' (Nat.lt_of_not_le hinside) hn
    refine ⟨htakes.ready, htakes.value, htakes.bits, htakes.emulationBytes, htakes.calls, ?_⟩
    rw [hshifts, hfits, and_assoc]
    apply and_congr_right
    intro _
    omega

theorem bits_length (reader : StreamReader) :
    reader.bits.length = reader.bitsRead + 8 * reader.payload.length := by
  rw [bits, List.length_append, natBits_length, bytesBits_length]

/-! ### Consecutive fields -/

def extractAll (reader : StreamReader) : List Nat → List Nat × StreamReader
  | [] => ([], reader)
  | n :: ns =>
    let (value, reader) := reader.extractBits n
    let (values, reader) := reader.extractAll ns
    (value :: values, reader)

def fields (bits : List Bool) : List Nat → List Nat
  | [] => []
  | n :: ns => bitsValue (bits.take n) :: fields (bits.drop n) ns

theorem extractAll_spec (ns : List Nat) (hready : reader.Ready) (hsmall : ∀ n ∈ ns, 1 ≤ n ∧ n ≤ 31)
    (htotal : ns.sum ≤ reader.bits.length) :
    (reader.extractAll ns).1 = fields reader.bits ns ∧
      (reader.extractAll ns).2.emulationBytes = reader.emulationBytes ∧
      ((reader.extractAll ns).2.ShiftsFit ↔ reader.ShiftsFit) := by
  induction ns generalizing reader with
  | nil => exact ⟨rfl, rfl, Iff.rfl⟩
  | cons n ns ih =>
    obtain ⟨⟨hpositive, hn⟩, hrest⟩ := List.forall_mem_cons.mp hsmall
    rw [List.sum_cons] at htotal
    obtain ⟨hready', hvalue, hbits, hescapes, -, hshifts⟩ := extractBits_spec hready (show n ≤ 32 by omega)
    have hleft : ns.sum ≤ (reader.extractBits n).2.bits.length := by
      rw [hbits, List.length_drop]
      omega
    obtain ⟨hvalues, hescapes', hshifts'⟩ := ih hready' hrest hleft
    have hfits : (ReadCall.extractBits reader.bitsRead reader.payload.length n).Fits := by
      have hlength := bits_length reader
      rw [ReadCall.Fits]
      omega
    rw [extractAll, fields]
    refine ⟨?_, hescapes'.trans hescapes, ?_⟩
    · change (reader.extractBits n).1 :: ((reader.extractBits n).2.extractAll ns).1 = _
      rw [hvalue, hvalues, hbits]
    · change ((reader.extractBits n).2.extractAll ns).2.ShiftsFit ↔ _
      rw [hshifts', hshifts]
      exact and_iff_left hfits

def unprotected (enabled : Bool) (bytes : List UInt8) : List UInt8 :=
  if enabled then unescapeFrom 0 bytes else bytes

/-- From `init_bitstream` on, calls for 1 to 31 bits give the consecutive fields of the bytes without the
emulation-prevention bytes, of which not more are counted than there are; no shift is undefined. -/
theorem extractAll_initBitstream (reader : StreamReader) (enabled : Bool) (bytes : List UInt8) (ns : List Nat)
    (hsmall : ∀ n ∈ ns, 1 ≤ n ∧ n ≤ 31) (htotal : ns.sum ≤ 8 * (unprotected enabled bytes).length) :
    let start := { reader with emulationScEnabled := enabled, shifts := [] }.initBitstream bytes
    (start.extractAll ns).1 = fields (bytesBits (unprotected enabled bytes)) ns ∧
      (start.extractAll ns).2.emulationCodeSkipCntr ≤ bytes.length - (unprotected enabled bytes).length ∧
      (start.extractAll ns).2.ShiftsFit := by
  intro start
  have hready : start.Ready := ⟨[], ⟨rfl, rfl⟩, Nat.zero_lt_succ 31⟩
  have hbits : start.bits = bytesBits (unprotected enabled bytes) := rfl
  have hescapes : start.emulationBytes = 0 + (bytes.length - (unprotected enabled bytes).length) := rfl
  have hfit : ns.sum ≤ start.bits.length := by
    rw [hbits, bytesBits_length]
    exact htotal
  obtain ⟨hvalues, hcounted, hshifts⟩ := extractAll_spec ns hready hsmall hfit
  refine ⟨hbits ▸ hvalues, ?_, hshifts.mpr nofun⟩
  have hle := Nat.le_add_right (start.extractAll ns).2.emulationCodeSkipCntr
    ((start.extractAll ns).2.bitstream.length - (start.extractAll ns).2.payload.length)
  rw [Nat.zero_add] at hescapes
  rw [← hescapes, ← hcounted]
  exact hle

/-- Fields that straddle a refill and an emulation-prevention byte. -/
theorem extractAll_initBitstream_escaped :
    (∀ n ∈ [12, 15, 13], 1 ≤ n ∧ n ≤ 31) ∧
      [12, 15, 13].sum ≤ 8 * (unprotected true [0xAB, 0, 0, 3, 1, 0x7F]).length ∧
      let start := { StreamReader.new with emulationScEnabled := true, shifts := [] }.initBitstream
        [0xAB, 0, 0, 3, 1, 0x7F]
      (start.extractAll [12, 15, 13]).1 =
          fields (bytesBits (unprotected true [0xAB, 0, 0, 3, 1, 0x7F])) [12, 15, 13] ∧
        (start.extractAll [12, 15, 13]).2.emulationCodeSkipCntr ≤
          [0xAB, 0, 0, 3, 1, 0x7F].length - (unprotected true [0xAB, 0, 0, 3, 1, 0x7F]).length ∧
        (start.extractAll [12, 15, 13]).2.ShiftsFit :=
  ⟨by decide, by decide, extractAll_initBitstream _ true _ _ (by decide) (by decide)⟩

end StreamReader

end Nozomi
