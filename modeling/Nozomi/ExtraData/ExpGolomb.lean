import Nozomi.ExtraData.Reading
import Nozomi.Vdec.H264Utils.Reading

/-!
# The three readers of Exp-Golomb codes

`RbspParser::ue`, `h264_stream_parser::uev` and `extra_data_handler::d_ue` at the same bit of bytes without
emulation-prevention bytes. The first two read every code; the third reads a code right if and only if its suffix fits
the last whole byte and the bits behind it.
-/

namespace Nozomi

/-! ### `RbspParser` -/

namespace RbspParser

def uAll (parser : RbspParser) (widths : List Nat) : RbspParser :=
  widths.foldl (fun parser n => (parser.u n).1) parser

def position (parser : RbspParser) : Nat :=
  if parser.advanceNeeded then 8 * parser.nextPos else 8 * parser.nextPos + parser.bit - 8

variable {parser : RbspParser} {bytes : List UInt8} {bits : Nat}

theorem At.position_eq (hat : parser.At bits) : parser.position = bits := by
  have hplace := hat.place
  rw [position]
  split at hplace <;> split <;> first | contradiction | omega

theorem At.uAll {limit : Nat} {widths : List Nat} (hat : parser.At bits) (hlimit : limit ≤ parser.bytes.length)
    (hclean : Clean parser.bytes limit) (hsmall : ∀ n ∈ widths, n ≤ 32) (hfit : bits + widths.sum ≤ 8 * limit) :
    (parser.uAll widths).At (bits + widths.sum) ∧ (parser.uAll widths).bytes = parser.bytes := by
  induction widths generalizing parser bits with
  | nil => exact ⟨hat, rfl⟩
  | cons n widths ih =>
    obtain ⟨hn, hrest⟩ := List.forall_mem_cons.mp hsmall
    rw [List.sum_cons] at hfit ⊢
    obtain ⟨hafter, hbytes, -⟩ := hat.u n hlimit hclean (by omega) hn
    rw [← hbytes] at hlimit hclean
    obtain ⟨hlast, hsame⟩ := ih hafter hlimit hclean hrest (by omega)
    rw [Nat.add_assoc] at hlast
    exact ⟨hlast, hsame.trans hbytes⟩

theorem unescapeFrom_eq_self (hclean : Clean bytes bytes.length) : unescapeFrom 0 bytes = bytes := by
  induction bytes with
  | nil => rfl
  | cons byte bytes ih =>
    rw [unescapeFrom_cons, ih]
    · intro index hindex
      exact hclean (index + 1) (Nat.succ_lt_succ hindex)
    · rcases bytes with - | ⟨second, - | ⟨third, bytes⟩⟩
      · simp
      · simp
      · intro hwindow
        obtain ⟨rfl, rfl, rfl⟩ : byte = 0 ∧ second = 0 ∧ third = 3 := by simpa using hwindow
        exact hclean 0 (by simp) ⟨rfl, rfl, rfl⟩

end RbspParser

/-! ### `h264_stream_parser` -/

namespace StreamReader

variable {reader : StreamReader} {lead value : Nat} {rest : List Bool}

theorem leadZeroBitsLoop_found {rounds before : Nat} (hready : reader.Ready)
    (hbits : reader.bits = List.replicate lead false ++ true :: rest) (hrounds : lead < rounds) :
    ∃ after, leadZeroBitsLoop rounds before reader = (before + lead, after) ∧ after.Ready ∧ after.bits = rest := by
  induction lead generalizing reader rounds before with
  | zero =>
    obtain ⟨rounds, rfl⟩ := Nat.exists_eq_succ_of_ne_zero hrounds.ne'
    obtain ⟨hready', hvalue, hdrop, -⟩ := extractBits_spec hready (show 1 ≤ 32 by decide)
    rw [hbits] at hvalue hdrop
    have hone : (reader.extractBits 1).1 = 1 := hvalue
    refine ⟨_, ?_, hready', hdrop⟩
    rw [leadZeroBitsLoop]
    simp [hone]
  | succ lead ih =>
    obtain ⟨rounds, rfl⟩ := Nat.exists_eq_succ_of_ne_zero (Nat.ne_zero_of_lt hrounds)
    obtain ⟨hready', hvalue, hdrop, -⟩ := extractBits_spec hready (show 1 ≤ 32 by decide)
    rw [hbits] at hvalue hdrop
    have hzero : (reader.extractBits 1).1 = 0 := hvalue
    have hleft : (reader.extractBits 1).2.bits = List.replicate lead false ++ true :: rest := hdrop
    have hmore : (reader.extractBits 1).2.moreBits = true := by
      by_contra hnone
      have hempty := bits_eq_nil_of_not_moreBits (Bool.not_eq_true _ ▸ hnone)
      rw [hleft] at hempty
      simp at hempty
    obtain ⟨after, hloop, hafter⟩ := ih hready' hleft (Nat.lt_of_succ_lt_succ hrounds)
    refine ⟨after, ?_, hafter⟩
    rw [leadZeroBitsLoop]
    dsimp only
    rw [if_pos ⟨hzero, hmore⟩, hloop, Nat.add_right_comm, Nat.add_assoc]

theorem uev_expGolomb (hready : reader.Ready) (hbits : reader.bits = expGolomb value ++ rest)
    (hvalue : value + 1 < 2 ^ 32) : reader.uev.1 = value ∧ reader.uev.2.bits = rest := by
  have hcode := ueOf_expGolomb hvalue rest
  have hlead : leadingZeros value ≤ 31 := leadingZeros_le hvalue
  rw [expGolomb_eq, List.append_assoc, List.cons_append] at hbits hcode
  generalize natBits (leadingZeros value) (value + 1) ++ rest = behind at hbits hcode
  rw [ueOf, leadOf_found] at hcode
  dsimp only at hcode
  generalize leadingZeros value = lead at *
  obtain ⟨start, hstart⟩ : ∃ start, start = { reader with
    calls := reader.calls ++ [ReadCall.uev (reader.bits.takeWhile (!·)).length] } := ⟨_, rfl⟩
  have hstartBits : start.bits = List.replicate lead false ++ true :: behind := by
    rw [hstart, ← hbits]
    rfl
  have hstartReady : start.Ready := by
    obtain ⟨window, hwindow, hlength⟩ := hready
    rw [hstart]
    exact ⟨window, ⟨hwindow.length, hwindow.value⟩, hlength⟩
  have hrounds : lead < start.size + 1 := by
    have hsize := start.bits_length_le_size
    rw [hstartBits, List.length_append, List.length_replicate] at hsize
    omega
  obtain ⟨after, hloop, hafter, hrest⟩ :=
    @leadZeroBitsLoop_found start lead behind (start.size + 1) 0 hstartReady hstartBits hrounds
  rw [Nat.zero_add] at hloop
  rw [uev]
  dsimp only
  rw [← hstart, leadZeroBits, hloop]
  dsimp only
  split at hcode
  · rw [if_pos ‹_›, hrest]
    exact Prod.mk.inj hcode
  · obtain ⟨-, hsuffix, hdropped, -⟩ := extractBits_spec (hafter.shift lead) (show lead ≤ 32 by omega)
    have hsame : (after.shift lead).bits = behind := hrest
    rw [if_neg (by omega)] at hcode
    rw [if_neg ‹_›, hsuffix, hdropped, hsame]
    exact Prod.mk.inj hcode

theorem extractAll_bits {widths : List Nat} (hready : reader.Ready) (hsmall : ∀ n ∈ widths, 1 ≤ n ∧ n ≤ 31) :
    (reader.extractAll widths).2.Ready ∧ (reader.extractAll widths).2.bits = reader.bits.drop widths.sum := by
  induction widths generalizing reader with
  | nil => exact ⟨hready, rfl⟩
  | cons n widths ih =>
    obtain ⟨hn, hrest⟩ := List.forall_mem_cons.mp hsmall
    obtain ⟨hready', -, hdrop, -⟩ := extractBits_spec hready (show n ≤ 32 by omega)
    obtain ⟨hlast, hbits⟩ := ih hready' hrest
    rw [hdrop, List.drop_drop] at hbits
    exact ⟨hlast, hbits⟩

end StreamReader

/-! ### `extra_data_handler` -/

namespace ExtraDataHandler

variable {handler : ExtraDataHandler}

def dUAll (handler : ExtraDataHandler) (widths : List Nat) : ExtraDataHandler :=
  widths.foldl (fun handler n => (handler.dU n).2) handler

def position (handler : ExtraDataHandler) : Nat := 8 * handler.bytePtr + (8 - handler.bitPtr)

theorem seek_position (handler : ExtraDataHandler) (position : Nat) :
    (handler.seek position).position = position := by
  simp only [ExtraDataHandler.position, seek]
  omega

theorem dUAll_seek (handler : ExtraDataHandler) (position : Nat) (widths : List Nat) :
    (handler.seek position).dUAll widths = handler.seek (position + widths.sum) := by
  induction widths generalizing position with
  | nil => rfl
  | cons n widths ih =>
    obtain ⟨read, hdU, -⟩ := handler.dU_seek position n
    rw [dUAll, List.foldl_cons, hdU, List.sum_cons, ← Nat.add_assoc]
    exact ih (position + n)

def Holds (handler : ExtraDataHandler) (bytes : List UInt8) : Prop :=
  ∀ index, (hindex : index < bytes.length) → handler.rbspBuf index = bytes[index]

theorem Holds.bitsFrom_eq {bytes : List UInt8} {position count : Nat} (hholds : handler.Holds bytes)
    (hfit : position + count ≤ 8 * bytes.length) :
    handler.bitsFrom position count = ((bytesBits bytes).drop position).take count := by
  apply List.ext_getElem
  · rw [bitsFrom_length, List.length_take, List.length_drop, bytesBits_length]
    omega
  · intro index hindex hright
    rw [bitsFrom_length] at hindex
    have hbyte : (position + index) / 8 < bytes.length := by omega
    have hbit := bytesBits_getElem? ((position + index) / 8) ((position + index) % 8) hbyte
      (Nat.mod_lt _ (by decide))
    rw [Nat.div_add_mod, List.getD_eq_getElem _ _ hbyte, ← hholds _ hbyte] at hbit
    apply Option.some.inj
    rw [← List.getElem?_eq_getElem hright, List.getElem?_take_of_lt hindex, List.getElem?_drop, hbit]
    simp only [bitsFrom, List.getElem_map, List.getElem_range, bit]

end ExtraDataHandler

/-! ### The same code -/

/-- The readers at the same bit of the bytes, each behind fields that it has read. -/
structure Positioned (bytes : List UInt8) (position : Nat) (parser : RbspParser) (reader : StreamReader)
    (handler : ExtraDataHandler) : Prop where
  ofParser : ∃ widths : List Nat, (∀ n ∈ widths, n ≤ 32) ∧ widths.sum = position ∧
    parser = (RbspParser.new bytes).uAll widths
  ofReader : ∃ (start : StreamReader) (widths : List Nat), (∀ n ∈ widths, 1 ≤ n ∧ n ≤ 31) ∧
    widths.sum = position ∧ reader = ((start.initBitstream bytes).extractAll widths).2
  ofHandler : ∃ (start : ExtraDataHandler) (widths : List Nat), start.Holds bytes ∧ widths.sum = position ∧
    handler = (start.seek 0).dUAll widths

/-- The readers give the value, with its sign where they read a signed code, and go on by the same number of bits. -/
structure Agree (value : Nat) (parser : RbspParser) (reader : StreamReader) (handler : ExtraDataHandler) :
    Prop where
  unsigned : ∃ count parser' handler', parser.ue = some (parser', value) ∧
    parser'.position = parser.position + count ∧ reader.uev.1 = value ∧
    reader.bits.length = reader.uev.2.bits.length + count ∧ handler.dUe = some (value, handler') ∧
    handler'.position = handler.position + count
  signed : ∃ parser', parser.se = some (parser', sev reader.uev.1)

theorem RbspParser.se_eq_sev {parser after : RbspParser} {value : Nat} (hue : parser.ue = some (after, value))
    (hvalue : value + 1 < 2 ^ 32) : parser.se = some (after, sev value) := by
  have hhalf : ((value + 1) % 2 ^ 32 / 2 : Nat) = (value + 1) / 2 := by rw [Nat.mod_eq_of_lt hvalue]
  rw [RbspParser.se, hue]
  simp only [Option.bind_eq_bind, Option.bind_some, sev, hhalf]
  split
  · obtain rfl : value = 0 := ‹_›
    rfl
  · split
    · have hodd : (value + 1) / 2 = value / 2 + 1 := by omega
      rw [hodd, Int.bmod_eq_of_le] <;> omega
    · have heven : (value + 1) / 2 = value / 2 := by omega
      rw [heven]

/-- Three readers of a code in bytes without emulation-prevention bytes agree if and only if its suffix fits the last
whole byte and the bits behind it. -/
theorem expGolomb_agree_iff {bytes : List UInt8} {value : Nat} {before behind : List Bool} {parser : RbspParser}
    {reader : StreamReader} {handler : ExtraDataHandler} (hvalue : value ≤ 2 ^ 32 - 2)
    (hclean : RbspParser.Clean bytes bytes.length)
    (hcode : bytesBits bytes = before ++ (expGolomb value ++ behind))
    (hpositioned : Positioned bytes before.length parser reader handler) :
    Agree value parser reader handler ↔ (value + 1) % 2 ^ leadingZeros value <
      2 ^ (8 + (before.length + (2 * leadingZeros value + 1)) % 8) := by
  obtain ⟨⟨first, hfirst, hposition, rfl⟩, ⟨start, second, hsecond, hposition', rfl⟩,
    ⟨buffer, third, hholds, hposition'', rfl⟩⟩ := hpositioned
  have hword : value + 1 < 2 ^ 32 := by omega
  have hlead : leadingZeros value ≤ 31 := leadingZeros_le hword
  have hdrop : (bytesBits bytes).drop before.length = expGolomb value ++ behind := by
    rw [hcode, List.drop_left]
  have hfit : before.length + (2 * leadingZeros value + 1) ≤ 8 * bytes.length := by
    have hlength := congrArg List.length hcode
    rw [bytesBits_length, List.length_append, List.length_append, expGolomb_length] at hlength
    omega
  -- The parser
  obtain ⟨hat, hbytes⟩ := (RbspParser.new_at bytes).uAll (Nat.le_refl bytes.length) hclean hfirst (by omega)
  rw [Nat.zero_add, hposition] at hat
  obtain ⟨parser', hue, hat'⟩ := hat.ue_expGolomb (by rw [hbytes]; exact Nat.le_refl bytes.length)
    (by rw [hbytes]; exact hclean) (by rw [hbytes]; exact hdrop) hfit (by omega)
  -- The stream parser
  have hready : (start.initBitstream bytes).Ready := ⟨[], ⟨rfl, rfl⟩, Nat.zero_lt_succ 31⟩
  have hpayload : (start.initBitstream bytes).bits = bytesBits bytes := by
    have hself : (start.initBitstream bytes).payload = bytes := by
      rw [StreamReader.payload]
      split
      · exact RbspParser.unescapeFrom_eq_self hclean
      · rfl
    rw [StreamReader.bits, hself]
    rfl
  obtain ⟨hready', hbits⟩ := StreamReader.extractAll_bits hready hsecond
  rw [hpayload, hposition', hdrop] at hbits
  obtain ⟨huev, hrest⟩ := StreamReader.uev_expGolomb hready' hbits hword
  -- The handler
  have hread := hholds.bitsFrom_eq hfit
  rw [hdrop, List.take_left' (expGolomb_length value)] at hread
  obtain ⟨read, hdUe, hiff⟩ := ExtraDataHandler.dUe_seek hword hread
  rw [ExtraDataHandler.dUAll_seek, Nat.zero_add, hposition'', ← hiff]
  constructor
  · rintro ⟨⟨count, -, handler', -, -, -, -, hsome, -⟩, -⟩
    rw [hdUe] at hsome
    exact congrArg Prod.fst (Option.some.inj hsome)
  · intro hsame
    rw [hsame] at hdUe
    refine ⟨⟨2 * leadingZeros value + 1, parser', _, hue, ?_, huev, ?_, hdUe, ?_⟩, parser', ?_⟩
    · rw [hat'.position_eq, hat.position_eq]
    · rw [hrest, hbits, List.length_append, expGolomb_length, Nat.add_comm]
    · rw [ExtraDataHandler.seek_position, ExtraDataHandler.seek_position]
    · rw [huev]
      exact RbspParser.se_eq_sev hue hword

def ExtraDataHandler.filled (bytes : List UInt8) : ExtraDataHandler :=
  { ExtraDataHandler.new with rbspBuf := fun index => bytes.getD index 0 }

theorem ExtraDataHandler.filled_holds (bytes : List UInt8) : (filled bytes).Holds bytes :=
  fun _ hindex => List.getD_eq_getElem _ _ hindex

/-- The code of 5 behind three bits. -/
theorem expGolomb_agree_iff_five :
    Positioned [0xA6] 3 ((RbspParser.new [0xA6]).uAll [3])
      ((StreamReader.new.initBitstream [0xA6]).extractAll [1, 2]).2
      (((ExtraDataHandler.filled [0xA6]).seek 0).dUAll [2, 1]) ∧
    (Agree 5 ((RbspParser.new [0xA6]).uAll [3]) ((StreamReader.new.initBitstream [0xA6]).extractAll [1, 2]).2
      (((ExtraDataHandler.filled [0xA6]).seek 0).dUAll [2, 1]) ↔
      (5 + 1) % 2 ^ leadingZeros 5 < 2 ^ (8 + (3 + (2 * leadingZeros 5 + 1)) % 8)) := by
  have hpositioned : Positioned [0xA6] [true, false, true].length ((RbspParser.new [0xA6]).uAll [3])
      ((StreamReader.new.initBitstream [0xA6]).extractAll [1, 2]).2
      (((ExtraDataHandler.filled [0xA6]).seek 0).dUAll [2, 1]) := by
    refine ⟨⟨[3], by decide, rfl, rfl⟩, ⟨StreamReader.new, [1, 2], by decide, rfl, rfl⟩, ?_⟩
    exact ⟨ExtraDataHandler.filled [0xA6], [2, 1], ExtraDataHandler.filled_holds _, rfl, rfl⟩
  have hcode : bytesBits [0xA6] = [true, false, true] ++ (expGolomb 5 ++ []) := by decide +kernel
  refine ⟨hpositioned, expGolomb_agree_iff (by decide) ?_ hcode hpositioned⟩
  intro index hindex
  exact absurd hindex (Nat.not_lt.mpr (Nat.le_add_left 1 (index + 1)))

/-- The suffix of 6143 has a one in front of its last whole byte. -/
theorem expGolomb_not_agree :
    RbspParser.Clean [0, 0xC, 0, 0] 4 ∧
      bytesBits [0, 0xC, 0, 0] = expGolomb 6143 ++ List.replicate 7 false ∧
      Positioned [0, 0xC, 0, 0] 0 ((RbspParser.new [0, 0xC, 0, 0]).uAll [])
        ((StreamReader.new.initBitstream [0, 0xC, 0, 0]).extractAll []).2
        (((ExtraDataHandler.filled [0, 0xC, 0, 0]).seek 0).dUAll []) ∧
      ¬Agree 6143 ((RbspParser.new [0, 0xC, 0, 0]).uAll [])
        ((StreamReader.new.initBitstream [0, 0xC, 0, 0]).extractAll []).2
        (((ExtraDataHandler.filled [0, 0xC, 0, 0]).seek 0).dUAll []) := by
  have hread : (((ExtraDataHandler.filled [0, 0xC, 0, 0]).seek 0).dUAll []).dUe.map Prod.fst = some 4351 := by
    decide +kernel
  refine ⟨fun index hindex => ?_, by decide +kernel, ⟨⟨[], nofun, rfl, rfl⟩, ⟨_, [], nofun, rfl, rfl⟩,
    ⟨_, [], ExtraDataHandler.filled_holds _, rfl, rfl⟩⟩, ?_⟩
  · obtain rfl | rfl : index = 0 ∨ index = 1 := by omega
    · decide
    · decide
  · rintro ⟨⟨count, parser', handler', -, -, -, -, hsome, -⟩, -⟩
    have hvalues : some 4351 = some 6143 := hread.symm.trans (congrArg (Option.map Prod.fst) hsome)
    exact absurd hvalues (by decide)

end Nozomi
