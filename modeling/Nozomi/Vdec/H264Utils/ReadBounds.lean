import Nozomi.Base.EmulationPrevention
import Nozomi.Vdec.H264Utils.Reading

/-!
# How far `RbspParser::ue` reads

`RbspParser` has no bound of its own: it reads the bytes in front of `nextPos`, whether they belong to the
RBSP or to the memory behind it. What is left of an RBSP is the bits of its bytes without the 3 of each
`00 00 03`, and the parser stays in it as long as they suffice.
-/

namespace Nozomi

theorem natBits_drop (start rest value : Nat) :
    (natBits (start + rest) value).drop start = natBits rest value := by
  rw [natBits_add, List.drop_left' (natBits_length _ _)]

namespace RbspParser

variable {parser : RbspParser} {rbsp : List UInt8} {bits : List Bool}

/-! ### Zeros -/

/-- `cursor` tells whether the last byte is a zero and whether the last two are. -/
structure Tracks (parser : RbspParser) (zeros : Nat) : Prop where
  one : parser.cursor % 2 ^ 8 = 0 ↔ 1 ≤ zeros
  two : parser.cursor % 2 ^ 16 = 0 ↔ 2 ≤ zeros

variable {zeros : Nat}

theorem Tracks.shift (htracks : parser.Tracks zeros) :
    parser.shift.Tracks (zerosAfter zeros (parser.bytes.getD parser.nextPos 0)) := by
  have hcursor := parser.shift_cursor
  have hlt := (parser.bytes.getD parser.nextPos 0).toNat_lt
  have hzero : parser.bytes.getD parser.nextPos 0 = 0 ↔
      (parser.bytes.getD parser.nextPos 0).toNat = 0 := UInt8.toNat_inj.symm
  obtain ⟨hone, htwo⟩ := htracks
  simp only [zerosAfter, hzero]
  constructor
  · rw [hcursor]
    split <;> omega
  · rw [hcursor]
    split <;> omega

theorem Tracks.advance_eq (htracks : parser.Tracks zeros) : parser.advance =
    { if 2 ≤ zeros ∧ parser.bytes.getD parser.nextPos 0 = 3 then parser.shift.shift
      else parser.shift with advanceNeeded := false } := by
  have hlt := (parser.bytes.getD parser.nextPos 0).toNat_lt
  have hthree : parser.bytes.getD parser.nextPos 0 = 3 ↔
      (parser.bytes.getD parser.nextPos 0).toNat = 3 := UInt8.toNat_inj.symm
  have hskip : parser.shift.cursor % 2 ^ 24 = 3 ↔
      2 ≤ zeros ∧ parser.bytes.getD parser.nextPos 0 = 3 := by
    rw [parser.shift_cursor, hthree, ← htracks.two]
    omega
  rw [RbspParser.advance]
  simp only [hskip]

/-! ### What is left -/

/-- The parser has read no byte behind the RBSP, of which `bits` are left. -/
structure Left (rbsp : List UInt8) (parser : RbspParser) (bits : List Bool) : Prop where
  inside : parser.nextPos ≤ rbsp.length
  memory : rbsp <+: parser.bytes
  bit : parser.bit < 8
  bits : ∃ zeros, parser.Tracks zeros ∧ bits =
    (if parser.advanceNeeded then []
      else natBits (8 - parser.bit) (parser.bytes.getD (parser.nextPos - 1) 0).toNat) ++
      bytesBits (unescapeFrom zeros (rbsp.drop parser.nextPos))
  fresh : parser.advanceNeeded = true → parser.bit = 0

theorem new_left {bytes : List UInt8} (hbegin : rbsp <+: bytes) :
    (new bytes).Left rbsp (bytesBits (unescapeFrom 0 rbsp)) where
  inside := Nat.zero_le _
  memory := hbegin
  bit := Nat.zero_lt_succ 7
  bits := ⟨0, ⟨show 0xFFFFFF % 2 ^ 8 = 0 ↔ 1 ≤ 0 by decide, show 0xFFFFFF % 2 ^ 16 = 0 ↔ 2 ≤ 0 by decide⟩,
    rfl⟩
  fresh := fun _ => rfl

theorem Tracks.advance (htracks : parser.Tracks zeros) (hinside : parser.nextPos ≤ rbsp.length)
    (hmemory : rbsp <+: parser.bytes) :
    match unescapeFrom zeros (rbsp.drop parser.nextPos) with
    | [] => rbsp.length < parser.advance.nextPos
    | byte :: rest => parser.advance.nextPos ≤ rbsp.length ∧
        parser.advance.bytes.getD (parser.advance.nextPos - 1) 0 = byte ∧
        ∃ zeros', parser.advance.Tracks zeros' ∧
          unescapeFrom zeros' (rbsp.drop parser.advance.nextPos) = rest := by
  have hbyte : ∀ pos (hpos : pos < rbsp.length), parser.bytes.getD pos 0 = rbsp[pos] := by
    intro pos hpos
    obtain ⟨behind, hbytes⟩ := hmemory
    rw [← hbytes, List.getD_append _ _ _ _ hpos, List.getD_eq_getElem _ _ hpos]
  rw [htracks.advance_eq]
  by_cases hend : parser.nextPos = rbsp.length
  · have hnone : unescapeFrom zeros (rbsp.drop parser.nextPos) = [] := by
      rw [hend, List.drop_length, unescapeFrom]
    rw [hnone, ← hend]
    dsimp only
    split
    · simp only [RbspParser.shift]
      omega
    · exact Nat.lt_succ_self parser.nextPos
  · have hlt : parser.nextPos < rbsp.length := by omega
    rw [List.drop_eq_getElem_cons hlt, unescapeFrom, ← hbyte parser.nextPos hlt]
    by_cases hskip : 2 ≤ zeros ∧ parser.bytes.getD parser.nextPos 0 = 3
    · have htracks' := htracks.shift
      have hafter : zerosAfter zeros (parser.bytes.getD parser.nextPos 0) = 0 := by
        rw [hskip.2]
        rfl
      rw [hafter] at htracks'
      rw [if_pos hskip, if_pos hskip]
      by_cases hlast : parser.nextPos + 1 = rbsp.length
      · rw [hlast, List.drop_length, unescapeFrom]
        simp only [RbspParser.shift]
        omega
      · have hnext : parser.nextPos + 1 < rbsp.length := by omega
        rw [List.drop_eq_getElem_cons hnext, unescapeFrom, if_neg (by omega), ← hbyte _ hnext]
        exact ⟨hnext, rfl, _, ⟨htracks'.shift.one, htracks'.shift.two⟩, rfl⟩
    · rw [if_neg hskip, if_neg hskip]
      exact ⟨hlt, rfl, _, ⟨htracks.shift.one, htracks.shift.two⟩, rfl⟩

theorem advance_fields (parser : RbspParser) : parser.advance.bytes = parser.bytes ∧
    parser.advance.bit = parser.bit ∧ parser.advance.advanceNeeded = false := by
  rw [RbspParser.advance]
  dsimp only
  split <;> exact ⟨rfl, rfl, rfl⟩

theorem Left.next (hleft : parser.Left rbsp bits) (hbits : bits ≠ []) :
    parser.next.1.Left rbsp bits ∧ parser.next.1.advanceNeeded = false ∧
      parser.next.1.bit = parser.bit ∧
      parser.next.2 = (parser.next.1.bytes.getD (parser.next.1.nextPos - 1) 0).toNat := by
  rw [RbspParser.next]
  cases hneeded : parser.advanceNeeded with
  | false =>
    rw [if_neg Bool.false_ne_true]
    exact ⟨hleft, hneeded, rfl, rfl⟩
  | true =>
    obtain ⟨hbytes, hbit, hadvanced⟩ := parser.advance_fields
    obtain ⟨zeros, htracks, hleftBits⟩ := hleft.bits
    have hadvance := htracks.advance hleft.inside hleft.memory
    rw [hneeded, if_pos rfl, List.nil_append] at hleftBits
    cases hrest : unescapeFrom zeros (rbsp.drop parser.nextPos) with
    | nil =>
      rw [hrest] at hleftBits
      exact absurd hleftBits hbits
    | cons byte rest =>
      rw [hrest] at hadvance hleftBits
      obtain ⟨hinside, hbyte, zeros', htracks', hrest'⟩ := hadvance
      rw [if_pos rfl]
      refine ⟨⟨hinside, hbytes ▸ hleft.memory, hbit ▸ hleft.bit, ⟨zeros', htracks', ?_⟩, ?_⟩, hadvanced, hbit,
        rfl⟩
      · rw [hadvanced, if_neg Bool.false_ne_true, hbit, hleft.fresh hneeded, hbyte, hrest', hleftBits,
          bytesBits_cons]
        rfl
      · intro hneeded'
        rw [hadvanced] at hneeded'
        exact absurd hneeded' Bool.false_ne_true

theorem Left.next_past (hleft : parser.Left rbsp []) : rbsp.length < parser.next.1.nextPos := by
  obtain ⟨zeros, htracks, hleftBits⟩ := hleft.bits
  have hadvance := htracks.advance hleft.inside hleft.memory
  rw [RbspParser.next]
  cases hneeded : parser.advanceNeeded with
  | false =>
    have hlength := congrArg List.length hleftBits
    have hbit := hleft.bit
    rw [hneeded, if_neg Bool.false_ne_true, List.length_append, natBits_length, List.length_nil] at hlength
    omega
  | true =>
    rw [hneeded, if_pos rfl, List.nil_append] at hleftBits
    have hnone : unescapeFrom zeros (rbsp.drop parser.nextPos) = [] := by
      have hlength := congrArg List.length hleftBits
      rw [List.length_nil, bytesBits_length] at hlength
      exact List.eq_nil_of_length_eq_zero (by omega)
    rw [hnone] at hadvance
    rw [if_pos rfl]
    exact hadvance

/-! ### `u` -/

theorem Left.consume (hleft : parser.Left rbsp bits) (hneeded : parser.advanceNeeded = false) {size : Nat}
    (hpositive : 0 < size) (hsize : parser.bit + size ≤ 8) :
    { parser with
      bit := (parser.bit + size) % 8
      advanceNeeded := if (parser.bit + size) % 8 = 0 then true else parser.advanceNeeded }.Left rbsp
        (bits.drop size) ∧
      ((parser.bytes.getD (parser.nextPos - 1) 0).toNat >>> (8 - parser.bit - size)) % 2 ^ size =
        bitsValue (bits.take size) ∧ size ≤ bits.length := by
  obtain ⟨zeros, htracks, hleftBits⟩ := hleft.bits
  rw [hneeded, if_neg Bool.false_ne_true] at hleftBits
  obtain ⟨rest, hrest⟩ := Nat.exists_eq_add_of_le hsize
  have hwidth : 8 - parser.bit = size + rest := by omega
  generalize hbyte : (parser.bytes.getD (parser.nextPos - 1) 0).toNat = byte at hleftBits ⊢
  have hdrop : bits.drop size =
      natBits rest byte ++ bytesBits (unescapeFrom zeros (rbsp.drop parser.nextPos)) := by
    rw [hleftBits, hwidth, List.drop_append_of_le_length (by simp), natBits_drop]
  have htake : bits.take size = natBits size (byte >>> rest) := by
    rw [hleftBits, hwidth, List.take_append_of_le_length (by simp), natBits_add,
      List.take_left' (natBits_length _ _)]
  refine ⟨⟨hleft.inside, hleft.memory, Nat.mod_lt _ (by decide), ⟨zeros, ⟨htracks.one, htracks.two⟩, ?_⟩, ?_⟩,
    ?_, ?_⟩
  · rw [hdrop]
    by_cases hend : rest = 0
    · have hmod : (parser.bit + size) % 8 = 0 := by omega
      simp only [hmod, if_true, hend, natBits]
    · have hmod : (parser.bit + size) % 8 = parser.bit + size := Nat.mod_eq_of_lt (by omega)
      have hnonzero : parser.bit + size ≠ 0 := by omega
      simp only [hmod, if_neg hnonzero, hneeded, Bool.false_eq_true, if_false, hbyte]
      rw [show 8 - (parser.bit + size) = rest by omega]
  · intro hfresh
    by_contra hnonzero
    rw [if_neg hnonzero, hneeded] at hfresh
    exact Bool.false_ne_true hfresh
  · rw [htake, bitsValue_natBits, hwidth, Nat.add_sub_cancel_left]
  · rw [hleftBits, List.length_append, natBits_length]
    omega

theorem shifted_or_chunk {value chunk size : Nat} (hsize : size ≤ 32) (hchunk : chunk < 2 ^ size) :
    (value <<< size) % 2 ^ 32 ||| chunk = (value * 2 ^ size + chunk) % 2 ^ 32 := by
  obtain ⟨rest, hrest⟩ := Nat.exists_eq_add_of_le hsize
  have hmod : (value <<< size) % 2 ^ 32 = (value % 2 ^ rest) <<< size := by
    rw [Nat.shiftLeft_eq, Nat.shiftLeft_eq, hrest, Nat.add_comm size rest, Nat.pow_add,
      Nat.mul_mod_mul_right]
  have hlow : value % 2 ^ rest * 2 ^ size + chunk < 2 ^ 32 := by
    have hlt := Nat.mod_lt value (Nat.two_pow_pos rest)
    calc value % 2 ^ rest * 2 ^ size + chunk < value % 2 ^ rest * 2 ^ size + 2 ^ size :=
          Nat.add_lt_add_left hchunk _
      _ = (value % 2 ^ rest + 1) * 2 ^ size := by ring
      _ ≤ 2 ^ rest * 2 ^ size := Nat.mul_le_mul_right _ hlt
      _ = 2 ^ 32 := by rw [← Nat.pow_add, Nat.add_comm, ← hrest]
  have hvalue : value * 2 ^ size + chunk =
      value % 2 ^ rest * 2 ^ size + chunk + 2 ^ 32 * (value / 2 ^ rest) := by
    have hdiv := Nat.mod_add_div value (2 ^ rest)
    calc value * 2 ^ size + chunk
        = (value % 2 ^ rest + 2 ^ rest * (value / 2 ^ rest)) * 2 ^ size + chunk := by rw [hdiv]
      _ = value % 2 ^ rest * 2 ^ size + chunk + 2 ^ (size + rest) * (value / 2 ^ rest) := by
          rw [Nat.pow_add]
          ring
      _ = _ := by rw [← hrest]
  rw [hmod, ← Nat.shiftLeft_add_eq_or_of_lt hchunk, Nat.shiftLeft_eq, hvalue, Nat.add_mul_mod_self_left,
    Nat.mod_eq_of_lt hlow]

theorem nextPos_le_next (parser : RbspParser) : parser.nextPos ≤ parser.next.1.nextPos := by
  rw [RbspParser.next]
  dsimp only
  split
  · rw [RbspParser.advance]
    dsimp only
    split <;> simp only [RbspParser.shift] <;> omega
  · exact Nat.le_refl _

theorem le_nextPos_uLoop {start : Nat} (rounds remaining : Nat) {parser : RbspParser} (value : Nat)
    (hstart : start ≤ parser.nextPos) : start ≤ (uLoop rounds remaining parser value).1.nextPos := by
  induction rounds generalizing remaining parser value with
  | zero => exact hstart
  | succ rounds ih =>
    rw [RbspParser.uLoop]
    split
    · exact hstart
    · exact ih _ _ (hstart.trans parser.nextPos_le_next)

private theorem noBits_value {value : Nat} (hvalue : value < 2 ^ 32) (bits : List Bool) :
    value = (value * 2 ^ 0 + bitsValue (bits.take 0)) % 2 ^ 32 := by
  rw [List.take_zero, bitsValue_nil, Nat.pow_zero, Nat.mul_one, Nat.add_zero, Nat.mod_eq_of_lt hvalue]

theorem Left.uLoop {rounds remaining value : Nat} (hleft : parser.Left rbsp bits)
    (hrounds : remaining ≤ rounds) (hvalue : value < 2 ^ 32) (hfit : remaining ≤ bits.length) :
    (uLoop rounds remaining parser value).1.Left rbsp (bits.drop remaining) ∧
      (uLoop rounds remaining parser value).2 =
        (value * 2 ^ remaining + bitsValue (bits.take remaining)) % 2 ^ 32 := by
  induction rounds generalizing parser bits remaining value with
  | zero =>
    obtain rfl := Nat.le_zero.mp hrounds
    exact ⟨hleft, noBits_value hvalue bits⟩
  | succ rounds ih =>
    rw [RbspParser.uLoop]
    by_cases hdone : remaining = 0
    · subst hdone
      exact ⟨hleft, noBits_value hvalue bits⟩
    rw [if_neg hdone]
    have hnonempty : bits ≠ [] := by
      rintro rfl
      exact hdone (Nat.le_zero.mp hfit)
    have hbit := hleft.bit
    obtain ⟨hnext, hneeded, hsame, hbyte⟩ := hleft.next hnonempty
    obtain ⟨rest, hrest⟩ := Nat.exists_eq_add_of_le (Nat.min_le_right (8 - parser.bit) remaining)
    generalize hsize : min (8 - parser.bit) remaining = size at hrest
    have hpositive : 0 < size := by omega
    obtain ⟨hconsumed, hchunk, -⟩ := hnext.consume hneeded hpositive (by omega)
    rw [hsame] at hconsumed hchunk
    have hlength : (bits.take size).length = size := by
      rw [List.length_take]
      omega
    have hlt := bitsValue_lt (bits.take size)
    rw [hlength] at hlt
    have hleftOver : rest ≤ (bits.drop size).length := by
      rw [List.length_drop]
      omega
    obtain ⟨hafter, hread⟩ := ih hconsumed (show rest ≤ rounds by omega)
      (Nat.mod_lt (value * 2 ^ size + bitsValue (bits.take size)) (Nat.two_pow_pos 32)) hleftOver
    have hword := @shifted_or_chunk value _ size (by omega) hlt
    simp only [hbyte, hsame, hchunk, hword, show remaining - size = rest by omega]
    rw [List.drop_drop, ← hrest] at hafter
    refine ⟨hafter, ?_⟩
    have hbehind : ((bits.drop size).take rest).length = rest := by
      rw [List.length_take, Nat.min_eq_left hleftOver]
    rw [hread, hrest, List.take_add, bitsValue_append, hbehind, Nat.add_mod, Nat.mul_mod, Nat.mod_mod,
      ← Nat.mul_mod, ← Nat.add_mod, Nat.pow_add]
    congr 1
    ring

theorem Left.uLoop_past {rounds remaining : Nat} (hleft : parser.Left rbsp bits) (hrounds : remaining ≤ rounds)
    (hshort : bits.length < remaining) (value : Nat) :
    rbsp.length < (RbspParser.uLoop rounds remaining parser value).1.nextPos := by
  induction rounds generalizing parser bits remaining value with
  | zero => omega
  | succ rounds ih =>
    rw [RbspParser.uLoop, if_neg (by omega)]
    by_cases hnone : bits = []
    · subst hnone
      exact le_nextPos_uLoop rounds _ _ hleft.next_past
    have hbit := hleft.bit
    obtain ⟨hnext, hneeded, hsame, -⟩ := hleft.next hnone
    generalize hsize : min (8 - parser.bit) remaining = size
    have hpositive : 0 < size := by omega
    obtain ⟨hconsumed, -, hfit⟩ := hnext.consume hneeded hpositive (by omega)
    rw [hsame] at hconsumed
    have hshort' : (bits.drop size).length < remaining - size := by
      rw [List.length_drop]
      omega
    simp only [hsame]
    exact ih hconsumed (by omega) hshort' _

theorem Left.u (hleft : parser.Left rbsp bits) {n : Nat} (hfit : n ≤ bits.length) :
    (parser.u n).1.Left rbsp (bits.drop n) ∧ (parser.u n).2 = bitsValue (bits.take n) % 2 ^ 32 := by
  obtain ⟨hafter, hread⟩ := hleft.uLoop (Nat.le_refl n) (Nat.two_pow_pos 32) hfit
  refine ⟨hafter, ?_⟩
  rw [RbspParser.u, hread, Nat.zero_mul, Nat.zero_add]

theorem Left.u_past (hleft : parser.Left rbsp bits) {n : Nat} (hshort : bits.length < n) :
    rbsp.length < (parser.u n).1.nextPos :=
  hleft.uLoop_past (Nat.le_refl n) hshort 0

theorem Left.u_one {bit : Bool} (hleft : parser.Left rbsp (bit :: bits)) :
    (parser.u 1).1.Left rbsp bits ∧ (parser.u 1).2 = bit.toNat := by
  obtain ⟨hafter, hread⟩ := hleft.u (n := 1) (by simp)
  refine ⟨hafter, ?_⟩
  rw [hread]
  cases bit <;> rfl

/-! ### `ue` -/

theorem Left.ueZeros {rest : List Bool} (hleft : parser.Left rbsp (List.replicate zeros false ++ true :: rest))
    {fuel : Nat} (hfuel : zeros < fuel) (count : Nat) :
    ∃ after, ueZeros fuel parser count = some (after, count + zeros) ∧ after.Left rbsp rest := by
  induction zeros generalizing parser fuel count with
  | zero =>
    obtain ⟨fuel, rfl⟩ := Nat.exists_eq_succ_of_ne_zero (Nat.ne_of_gt hfuel)
    obtain ⟨hafter, hread⟩ := hleft.u_one
    refine ⟨(parser.u 1).1, ?_, hafter⟩
    rw [RbspParser.ueZeros]
    dsimp only
    rw [hread, if_neg (by decide)]
    rfl
  | succ zeros ih =>
    obtain ⟨fuel, rfl⟩ := Nat.exists_eq_succ_of_ne_zero (Nat.ne_of_gt (Nat.zero_lt_of_lt hfuel))
    rw [List.replicate_succ, List.cons_append] at hleft
    obtain ⟨hafter, hread⟩ := hleft.u_one
    obtain ⟨after, hzeros, hrest⟩ := ih hafter (Nat.lt_of_succ_lt_succ hfuel) (count + 1)
    refine ⟨after, ?_, hrest⟩
    rw [RbspParser.ueZeros]
    dsimp only
    rw [hread, if_pos (by decide), hzeros, Nat.add_right_comm]
    rfl

theorem le_nextPos_ueZeros {start fuel count : Nat} (hstart : start ≤ parser.nextPos) :
    ∀ after ∈ RbspParser.ueZeros fuel parser count, start ≤ after.1.nextPos := by
  induction fuel generalizing parser count with
  | zero => exact nofun
  | succ fuel ih =>
    rw [RbspParser.ueZeros]
    have hnext := le_nextPos_uLoop 1 1 0 hstart
    dsimp only
    split
    · exact ih hnext
    · rintro after ⟨⟩
      exact hnext

theorem Left.ueZeros_past (hleft : parser.Left rbsp (List.replicate zeros false)) (fuel count : Nat) :
    ∀ after ∈ RbspParser.ueZeros fuel parser count, rbsp.length < after.1.nextPos := by
  induction fuel generalizing parser zeros count with
  | zero => exact nofun
  | succ fuel ih =>
    rw [RbspParser.ueZeros]
    dsimp only
    cases zeros with
    | zero =>
      have hpast := hleft.u_past (n := 1) (by simp)
      split
      · exact le_nextPos_ueZeros hpast
      · rintro after ⟨⟩
        exact hpast
    | succ zeros =>
      rw [List.replicate_succ] at hleft
      obtain ⟨hafter, hread⟩ := hleft.u_one
      rw [hread, if_pos (by decide)]
      exact ih hafter (count + 1)

/-- The bits begin with a code: zeros, a one, and at least as many bits as there are zeros. -/
def HoldsCode (bits : List Bool) : Prop :=
  ∃ zeros rest, bits = List.replicate zeros false ++ true :: rest ∧ zeros ≤ rest.length

def codeValue (zeros : Nat) (rest : List Bool) : Nat :=
  (sub32 (2 ^ zeros % 2 ^ 32) 1 + bitsValue (rest.take zeros) % 2 ^ 32) % 2 ^ 32

theorem zeros_or_one (bits : List Bool) : (∃ zeros, bits = List.replicate zeros false) ∨
    ∃ zeros rest, bits = List.replicate zeros false ++ true :: rest := by
  induction bits with
  | nil => exact .inl ⟨0, rfl⟩
  | cons bit bits ih =>
    cases bit with
    | true => exact .inr ⟨0, bits, rfl⟩
    | false =>
      rcases ih with ⟨zeros, rfl⟩ | ⟨zeros, rest, rfl⟩
      · exact .inl ⟨zeros + 1, rfl⟩
      · exact .inr ⟨zeros + 1, rest, rfl⟩

theorem replicate_true_inj {zeros' : Nat} {rest rest' : List Bool}
    (hsame : List.replicate zeros false ++ true :: rest = List.replicate zeros' false ++ true :: rest') :
    zeros = zeros' ∧ rest = rest' := by
  induction zeros generalizing zeros' with
  | zero =>
    cases zeros' with
    | zero => exact ⟨rfl, (List.cons.inj hsame).2⟩
    | succ zeros' => exact absurd (List.cons.inj hsame).1 (by decide)
  | succ zeros ih =>
    cases zeros' with
    | zero => exact absurd (List.cons.inj hsame).1 (by decide)
    | succ zeros' =>
      obtain ⟨rfl, rfl⟩ := ih (List.cons.inj hsame).2
      exact ⟨rfl, rfl⟩

theorem holdsCode_iff (bits : List Bool) :
    HoldsCode bits ↔ 2 * (bits.takeWhile (!·)).length + 1 ≤ bits.length := by
  rcases zeros_or_one bits with ⟨zeros, rfl⟩ | ⟨zeros, rest, rfl⟩
  · have hall : (List.replicate zeros false).takeWhile (!·) = List.replicate zeros false := by simp
    rw [hall, List.length_replicate]
    constructor
    · rintro ⟨zeros', rest, hcode, -⟩
      have hone : true ∈ List.replicate zeros false := by
        rw [hcode]
        simp
      exact absurd (List.eq_of_mem_replicate hone) (by decide)
    · intro hshort
      omega
  · have hzeros : (List.replicate zeros false ++ true :: rest).takeWhile (!·) = List.replicate zeros false := by
      rw [List.takeWhile_append_of_pos (by simp)]
      simp
    rw [hzeros, List.length_append, List.length_replicate, List.length_cons]
    constructor
    · rintro ⟨zeros', rest', hcode, hfit⟩
      obtain ⟨rfl, rfl⟩ := replicate_true_inj hcode
      omega
    · intro hfit
      exact ⟨zeros, rest, rfl, by omega⟩

instance : DecidablePred HoldsCode := fun bits => decidable_of_iff' _ (holdsCode_iff bits)

theorem ue_zeros {bytes : List UInt8} (hbegin : rbsp <+: bytes) {rest : List Bool}
    (hbits : bytesBits (unescapeFrom 0 rbsp) = List.replicate zeros false ++ true :: rest) :
    ∃ parser : RbspParser, parser.Left rbsp rest ∧ (new bytes).ue = some ((parser.u zeros).1,
      (sub32 (2 ^ zeros % 2 ^ 32) 1 + (parser.u zeros).2) % 2 ^ 32) := by
  have hleft := new_left hbegin
  rw [hbits] at hleft
  have hfuel : zeros < 8 * bytes.length := by
    have hlength := congrArg List.length hbits
    rw [bytesBits_length, List.length_append, List.length_replicate, List.length_cons] at hlength
    have hshorter := unescapeFrom_length_le 0 rbsp
    have hroom := hbegin.length_le
    omega
  obtain ⟨after, hzeros, hafter⟩ := hleft.ueZeros hfuel 0
  refine ⟨after, hafter, ?_⟩
  rw [RbspParser.ue, show (new bytes).bytes = bytes from rfl, hzeros]
  simp only [Option.bind_eq_bind, Option.bind_some, Nat.zero_add]

/-- `ue` ends without reading behind the RBSP if and only if that begins with a whole code. -/
theorem ue_inside_iff (rbsp behind : List UInt8) :
    (∃ after value, (new (rbsp ++ behind)).ue = some (after, value) ∧ after.nextPos ≤ rbsp.length) ↔
      HoldsCode (bytesBits (unescapeFrom 0 rbsp)) := by
  have hbegin := List.prefix_append rbsp behind
  rcases zeros_or_one (bytesBits (unescapeFrom 0 rbsp)) with ⟨zeros, hbits⟩ | ⟨zeros, rest, hbits⟩
  · have hleft := new_left hbegin
    rw [hbits] at hleft ⊢
    constructor
    · rintro ⟨after, value, hue, hinside⟩
      rw [RbspParser.ue, Option.bind_eq_bind, Option.bind_eq_some_iff] at hue
      obtain ⟨counted, hcounted, hsuffix⟩ := hue
      have hpast := hleft.ueZeros_past _ 0 counted hcounted
      obtain ⟨rfl, -⟩ := Prod.mk.inj (Option.some.inj hsuffix)
      have hread : rbsp.length < (counted.1.u counted.2).1.nextPos :=
        le_nextPos_uLoop counted.2 counted.2 0 hpast
      exact absurd hinside (Nat.not_le.mpr hread)
    · intro hcode
      have hfit := (holdsCode_iff _).mp hcode
      simp at hfit
      omega
  · obtain ⟨parser, hleft, hue⟩ := ue_zeros hbegin hbits
    rw [hue, hbits]
    constructor
    · rintro ⟨after, value, hsome, hinside⟩
      obtain ⟨rfl, -⟩ := Prod.mk.inj (Option.some.inj hsome)
      refine ⟨zeros, rest, rfl, ?_⟩
      by_contra hshort
      exact absurd hinside (Nat.not_le.mpr (hleft.u_past (Nat.lt_of_not_le hshort)))
    · rintro ⟨zeros', rest', hcode, hfit⟩
      obtain ⟨rfl, rfl⟩ := replicate_true_inj hcode
      exact ⟨_, _, rfl, (hleft.u hfit).1.inside⟩

theorem ue_value (hcode : HoldsCode (bytesBits (unescapeFrom 0 rbsp))) :
    ∃ value, ∀ bytes, rbsp <+: bytes → ∃ after, (new bytes).ue = some (after, value) := by
  obtain ⟨zeros, rest, hbits, hfit⟩ := hcode
  refine ⟨codeValue zeros rest, fun bytes hbegin => ?_⟩
  obtain ⟨parser, hleft, hue⟩ := ue_zeros hbegin hbits
  exact ⟨(parser.u zeros).1, by rw [hue, (hleft.u hfit).2, codeValue]⟩

/-- An empty RBSP is read. -/
theorem ue_not_inside :
    ¬∀ rbsp behind : List UInt8, ∃ after value,
      (new (rbsp ++ behind)).ue = some (after, value) ∧ after.nextPos ≤ rbsp.length := by
  intro hinside
  obtain ⟨after, value, hue, hle⟩ := hinside [] [0x80]
  have hresult : (new [0x80]).ue = some (⟨[0x80], 1, 1, 0xFFFFFF80, false⟩, 0) := by decide
  rw [List.nil_append, hresult] at hue
  obtain ⟨rfl, -⟩ := Prod.mk.inj (Option.some.inj hue)
  exact absurd hle (by decide)

end RbspParser

end Nozomi
