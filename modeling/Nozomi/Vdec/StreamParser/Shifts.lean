import Nozomi.Vdec.StreamParser.Bits
import Nozomi.Vdec.StreamParser.Code

/-!
# The shifts of the parser

Whatever is parsed, a shift by 32 or more is executed if and only if one of the calls of the bit reader does
not fit the bits that are left. The parser is a computation over the reader, so this is a fact about single
calls of `extract_bits`, `uev` and `iv`.
-/

namespace Nozomi

namespace StreamReader

variable {reader after : StreamReader} {n : Nat}

/-- From one state to another all shifts are by less than 32 if and only if all calls fit. -/
def Follows (reader after : StreamReader) : Prop :=
  reader.Ready → after.Ready ∧ ∃ calls, after.calls = reader.calls ++ calls ∧
    (after.ShiftsFit ↔ reader.ShiftsFit ∧ ∀ call ∈ calls, call.Fits)

theorem Follows.refl (reader : StreamReader) : reader.Follows reader := by
  intro hready
  refine ⟨hready, [], (List.append_nil _).symm, ?_⟩
  exact (and_iff_left nofun).symm

theorem Follows.trans {last : StreamReader} (hfirst : reader.Follows after) (hsecond : after.Follows last) :
    reader.Follows last := by
  intro hready
  obtain ⟨hready', calls, hcalls, hshifts⟩ := hfirst hready
  obtain ⟨hready'', calls', hcalls', hshifts'⟩ := hsecond hready'
  refine ⟨hready'', calls ++ calls', ?_, ?_⟩
  · rw [hcalls', hcalls, List.append_assoc]
  · rw [hshifts', hshifts, List.forall_mem_append, and_assoc]

theorem Ready.shift (hready : reader.Ready) (count : Nat) : (reader.shift count).Ready := by
  obtain ⟨window, hwindow, hlength⟩ := hready
  exact ⟨window, hwindow.shift count, hlength⟩

theorem extractBits_fits (hready : reader.Ready) (n : Nat) :
    (reader.extractBits n).2.Ready ∧
      (reader.extractBits n).2.calls = reader.calls ++ [.extractBits reader.bitsRead reader.payload.length n] ∧
      ((reader.extractBits n).2.ShiftsFit ↔ reader.ShiftsFit ∧
        (ReadCall.extractBits reader.bitsRead reader.payload.length n).Fits) := by
  by_cases hn : n ≤ 32
  · obtain ⟨hready', -, -, -, hcalls, hshifts⟩ := extractBits_spec hready hn
    exact ⟨hready', hcalls, hshifts⟩
  have hlarge : 32 < n := Nat.lt_of_not_le hn
  rw [extractBits]
  dsimp only
  rw [if_pos hlarge]
  obtain ⟨window, hwindow, hlength⟩ := hready
  refine ⟨⟨window, ⟨hwindow.length, hwindow.value⟩, hlength⟩, rfl, ?_⟩
  rw [ReadCall.Fits]
  exact (and_iff_left (.inl hlarge)).symm

theorem follows_extractBits (reader : StreamReader) (n : Nat) :
    reader.Follows (reader.extractBits n).2 := by
  intro hready
  obtain ⟨hready', hcalls, hshifts⟩ := extractBits_fits hready n
  refine ⟨hready', _, hcalls, ?_⟩
  rw [hshifts, List.forall_mem_singleton]

theorem follows_leadZeroBitsLoop (rounds leadZeroBits : Nat) (reader : StreamReader) :
    reader.Follows (leadZeroBitsLoop rounds leadZeroBits reader).2 := by
  induction rounds generalizing leadZeroBits reader with
  | zero => exact Follows.refl reader
  | succ rounds ih =>
    rw [leadZeroBitsLoop]
    have hbit := reader.follows_extractBits 1
    dsimp only
    split
    · exact hbit.trans (ih _ _)
    · exact hbit

/-! ### Exp-Golomb codes -/

theorem extractOne_fits_iff (reader : StreamReader) :
    (ReadCall.extractBits reader.bitsRead reader.payload.length 1).Fits ↔ reader.bits ≠ [] := by
  rw [ReadCall.Fits, ← List.length_pos_iff, bits_length]
  omega

theorem bits_eq_nil_of_not_moreBits (hend : reader.moreBits = false) : reader.bits = [] := by
  rw [moreBits, decide_eq_false_iff_not, not_or, not_not] at hend
  have hle := reader.payload_length_le
  apply List.eq_nil_of_length_eq_zero
  rw [bits_length]
  rw [hend.1, List.length_nil] at hle
  omega

theorem leadZeroBitsLoop_counts {rounds lead : Nat} (hready : reader.Ready)
    (hrounds : reader.bits.length < rounds) {calls : List ReadCall}
    (hcalls : (leadZeroBitsLoop rounds lead reader).2.calls = reader.calls ++ calls)
    (hfits : ∀ call ∈ calls, call.Fits) :
    ∃ zeros, (leadZeroBitsLoop rounds lead reader).1 = lead + zeros ∧
      ((∃ rest, reader.bits = List.replicate zeros false ++ true :: rest) ∨
        reader.bits = List.replicate (zeros + 1) false ∧
          (leadZeroBitsLoop rounds lead reader).2.bits = []) := by
  induction rounds generalizing reader lead calls with
  | zero => exact absurd hrounds (Nat.not_lt_zero _)
  | succ rounds ih =>
    obtain ⟨hready', hvalue, hdrop, -, hcall, -⟩ := extractBits_spec hready (show 1 ≤ 32 by decide)
    -- The first call is the one for the first bit.
    have hfirst : ∃ later, calls = .extractBits reader.bitsRead reader.payload.length 1 :: later ∧
        (leadZeroBitsLoop (rounds + 1) lead reader).2.calls = (reader.extractBits 1).2.calls ++ later := by
      have hlater : (reader.extractBits 1).2.Follows (leadZeroBitsLoop (rounds + 1) lead reader).2 := by
        rw [leadZeroBitsLoop]
        dsimp only
        split
        · exact follows_leadZeroBitsLoop _ _ _
        · exact Follows.refl _
      obtain ⟨-, later, hlater, -⟩ := hlater hready'
      refine ⟨later, ?_, hlater⟩
      rw [hlater, hcall, List.append_assoc] at hcalls
      exact (List.append_cancel_left hcalls).symm
    obtain ⟨later, rfl, hlater⟩ := hfirst
    obtain ⟨hfit, hfits⟩ := List.forall_mem_cons.mp hfits
    obtain ⟨bit, rest, hbits⟩ := List.exists_cons_of_ne_nil ((extractOne_fits_iff reader).mp hfit)
    have hbit : (reader.extractBits 1).1 = bit.toNat := by
      rw [hvalue, hbits]
      cases bit <;> rfl
    rw [hbits, List.drop_succ_cons, List.drop_zero] at hdrop
    rw [leadZeroBitsLoop] at hlater ⊢
    dsimp only at hlater ⊢
    rw [hbit] at hlater ⊢
    cases bit with
    | true =>
      refine ⟨0, ?_, .inl ⟨rest, hbits⟩⟩
      rw [if_neg (by simp)]
      rfl
    | false =>
      by_cases hmore : (reader.extractBits 1).2.moreBits = true
      · have hgoes : false.toNat = 0 ∧ (reader.extractBits 1).2.moreBits = true := ⟨rfl, hmore⟩
        rw [if_pos hgoes] at hlater ⊢
        have hshorter : (reader.extractBits 1).2.bits.length < rounds := by
          rw [hbits, List.length_cons] at hrounds
          rw [hdrop]
          omega
        obtain ⟨zeros, hcount, hends⟩ := ih hready' hshorter hlater hfits
        rw [hdrop] at hends
        refine ⟨zeros + 1, by omega, ?_⟩
        rcases hends with ⟨later, hone⟩ | ⟨hnone, hempty⟩
        · exact .inl ⟨later, by rw [hbits, hone]; rfl⟩
        · exact .inr ⟨by rw [hbits, hnone]; rfl, hempty⟩
      · have hempty := bits_eq_nil_of_not_moreBits (Bool.not_eq_true _ ▸ hmore)
        rw [if_neg (by simp [hmore])]
        refine ⟨0, rfl, .inr ⟨?_, hempty⟩⟩
        rw [hbits, ← hdrop, hempty]
        rfl

theorem bits_length_le_size (reader : StreamReader) : reader.bits.length ≤ reader.size := by
  have hle := reader.payload_length_le
  rw [bits_length, size]
  omega

theorem uev_zeros_iff {zeros lead : Nat} (hlead : 0 < lead)
    (hends : (∃ rest, reader.bits = List.replicate lead false ++ true :: rest) ∨
      reader.bits = List.replicate (lead + 1) false ∧ after.bits = [])
    (hzeros : zeros = (reader.bits.takeWhile (!·)).length)
    (hsuffix : (ReadCall.extractBits after.bitsRead after.payload.length lead).Fits) :
    lead < 32 ↔ zeros < 32 := by
  rcases hends with ⟨rest, hbits⟩ | ⟨hbits, hempty⟩
  · have hcount : zeros = lead := by
      rw [hzeros, hbits, List.takeWhile_append_of_pos (by simp)]
      simp
    rw [hcount]
  have hcount : zeros = lead + 1 := by
    rw [hzeros, hbits]
    simp
  have hnone := congrArg List.length hempty
  rw [bits_length, List.length_nil] at hnone
  have hlarge : 32 < lead := by
    rw [ReadCall.Fits] at hsuffix
    omega
  omega

theorem follows_uev (reader : StreamReader) : reader.Follows reader.uev.2 := by
  intro hready
  obtain ⟨window, hwindow, hlength⟩ := hready
  rw [uev]
  generalize hzeros : (reader.bits.takeWhile (!·)).length = zeros
  obtain ⟨start, hstart⟩ : ∃ start, start = { reader with calls := reader.calls ++ [ReadCall.uev zeros] } :=
    ⟨_, rfl⟩
  have hready' : start.Ready := by
    rw [hstart]
    exact ⟨window, ⟨hwindow.length, hwindow.value⟩, hlength⟩
  have hbits : start.bits = reader.bits := by rw [hstart]; rfl
  have hcalls : start.calls = reader.calls ++ [ReadCall.uev zeros] := by rw [hstart]
  have hshifts : start.ShiftsFit ↔ reader.ShiftsFit := by rw [hstart]; rfl
  obtain ⟨hloop, calls, hlogged, hfits⟩ :=
    follows_leadZeroBitsLoop (start.size + 1) 0 start hready'
  have hcounts := fun hcallsFit =>
    leadZeroBitsLoop_counts hready' (Nat.lt_succ_of_le start.bits_length_le_size) hlogged hcallsFit
  dsimp only
  rw [← hstart, leadZeroBits]
  generalize leadZeroBitsLoop (start.size + 1) 0 start = result at *
  obtain ⟨lead, after⟩ := result
  simp only [Nat.zero_add, exists_eq_left'] at hcounts
  dsimp only at hloop hlogged hfits
  rcases Nat.eq_zero_or_pos lead with hlead | hlead
  · rw [if_pos hlead]
    refine ⟨hloop, .uev zeros :: calls, ?_, ?_⟩
    · rw [hlogged, hcalls, List.append_assoc, List.singleton_append]
    · rw [hfits, hshifts, List.forall_mem_cons]
      apply and_congr_right
      intro _
      refine ⟨fun hcallsFit => ⟨?_, hcallsFit⟩, And.right⟩
      have hends := hcounts hcallsFit
      rw [hlead, hbits] at hends
      rw [ReadCall.Fits, ← hzeros]
      rcases hends with ⟨rest, hone⟩ | ⟨hnone, -⟩
      · rw [hone]
        simp
      · rw [hnone]
        simp
  · rw [if_neg hlead.ne']
    obtain ⟨hlast, hlastCalls, hlastFits⟩ := extractBits_fits (hloop.shift lead) lead
    refine ⟨hlast, .uev zeros :: calls ++ [.extractBits after.bitsRead after.payload.length lead], ?_, ?_⟩
    · rw [hlastCalls]
      change after.calls ++ [ReadCall.extractBits after.bitsRead after.payload.length lead] = _
      rw [hlogged, hcalls, List.append_assoc, List.append_assoc, List.singleton_append, List.cons_append]
    · rw [hlastFits, shiftsFit_shift, hfits, hshifts, List.forall_mem_append, List.forall_mem_cons,
        List.forall_mem_singleton]
      constructor
      · rintro ⟨⟨⟨hbase, hcallsFit⟩, hlt⟩, hsuffix⟩
        have hends := hcounts hcallsFit
        rw [hbits] at hends
        exact ⟨hbase, ⟨(uev_zeros_iff hlead hends hzeros.symm hsuffix).mp hlt, hcallsFit⟩, hsuffix⟩
      · rintro ⟨hbase, ⟨hlt, hcallsFit⟩, hsuffix⟩
        have hends := hcounts hcallsFit
        rw [hbits] at hends
        exact ⟨⟨⟨hbase, hcallsFit⟩, (uev_zeros_iff hlead hends hzeros.symm hsuffix).mpr hlt⟩, hsuffix⟩

/-! ### The calls of the parser -/

theorem follows_shift {count : Nat} (hsmall : count < 32) (reader : StreamReader) :
    reader.Follows (reader.shift count) := by
  intro hready
  refine ⟨hready.shift count, [], (List.append_nil _).symm, ?_⟩
  rw [shiftsFit_shift]
  constructor
  · rintro ⟨hshifts, -⟩
    exact ⟨hshifts, nofun⟩
  · rintro ⟨hshifts, -⟩
    exact ⟨hshifts, hsmall⟩

theorem follows_iv (hsmall : n < 32) (reader : StreamReader) : reader.Follows (reader.iv n).2 := by
  have hless : n - 1 < 32 := by omega
  have hfirst := (reader.follows_extractBits n).trans (follows_shift hless _)
  rw [iv]
  dsimp only
  split
  · exact hfirst
  · exact hfirst.trans (follows_shift hless _)

theorem follows_initBitstream (reader : StreamReader) (bytes : List UInt8) :
    reader.Follows (reader.initBitstream bytes) := by
  intro _
  refine ⟨⟨[], ⟨rfl, rfl⟩, Nat.zero_lt_succ 31⟩, [], (List.append_nil _).symm, ?_⟩
  exact (and_iff_left nofun).symm

theorem follows_setEmulationScEnabled (reader : StreamReader) (enabled : Bool) :
    reader.Follows { reader with emulationScEnabled := enabled } := by
  rintro ⟨window, hwindow, hlength⟩
  refine ⟨⟨window, ⟨hwindow.length, hwindow.value⟩, hlength⟩, [], (List.append_nil _).symm, ?_⟩
  exact (and_iff_left nofun).symm

end StreamReader

open StreamReader

theorem ReaderOp.follows_step (op : ReaderOp) (reader : StreamReader) : reader.Follows (op.step reader).2 := by
  cases op with
  | extractBits n => exact reader.follows_extractBits n
  | moreBits => exact Follows.refl reader
  | leadZeroBits => exact follows_leadZeroBitsLoop _ _ reader
  | uev => exact reader.follows_uev
  | iv nBits positive small => exact reader.follows_iv small
  | initBitstream bytes => exact reader.follows_initBitstream bytes
  | setEmulationScEnabled enabled => exact reader.follows_setEmulationScEnabled enabled
  | emulationCodeSkipCntr => exact Follows.refl reader

namespace H264StreamParser

def parseNals (parser : H264StreamParser) (inputs : List (Nat × NalInput)) : H264StreamParser :=
  inputs.foldl (fun parser input => parser.parseNal input.1 input.2) parser

theorem follows_parseNal (parser : H264StreamParser) (rounds : Nat) (input : NalInput) :
    parser.reader.Follows (parser.parseNal rounds input).reader :=
  Calls.run_related Follows.refl Follows.trans ReaderOp.follows_step (Parser.parseNal rounds input parser.params)
    parser.reader

theorem follows_parseNals (parser : H264StreamParser) (inputs : List (Nat × NalInput)) :
    parser.reader.Follows (parser.parseNals inputs).reader := by
  induction inputs generalizing parser with
  | nil => exact Follows.refl _
  | cons input inputs ih => exact (parser.follows_parseNal input.1 input.2).trans (ih _)

end H264StreamParser

end Nozomi
