import Nozomi.Base.Bits
import Nozomi.Base.Loop

/-!
# VOPs that are not coded

`is_notcodec_vop` walks over the header of a VOP to its `vop_coded` bit. The width of the time increment in
front of that bit comes from the resolution of the video object layer. A read outside of the buffer is `none`.
-/

namespace Nozomi

/-- `MP4_Utils`: what the last video object layer said about the time. -/
structure Mp4Utils where
  vopTimeResolution : BitVec 32
  vopTimeFound : Bool
  deriving DecidableEq, Repr

namespace Mp4Utils

def vopBits (temp : BitVec 32) : Nat :=
  (whileLoop (fun state : BitVec 32 × Nat => state.1 != 0) (fun state => (state.1 >>> 1, state.2 + 1)) 32
    (temp, 0)).2

/-- How the loop over `modulo_time_base` ends: behind the buffer, or at the place behind its last bit. -/
inductive ModuloEnd where
  | behind
  | at (index bitsParsed : Nat)
  deriving DecidableEq, Repr

def moduloTimeBase (pbuffer : List UInt8) : Nat → Nat → Nat → Option ModuloEnd
  | 0, _, _ => none
  | rounds + 1, index, bitsParsed =>
    match pbuffer[index]? with
    | none => none
    | some byte =>
      let moduloBit := byte.toNat.testBit (7 - bitsParsed)
      let index := index + (bitsParsed + 1) / 8
      let bitsParsed := (bitsParsed + 1) % 8
      if pbuffer.length ≤ index then some .behind
      else if moduloBit then moduloTimeBase pbuffer rounds index bitsParsed
      else some (.at index bitsParsed)

def isNotcodecVop (utils : Mp4Utils) : Option (List UInt8) → Option Bool
  | none => some false
  | some pbuffer =>
    if utils.vopTimeFound = false ∨ pbuffer.length < 5 then some false
    else if pbuffer.take 4 = [0, 0, 1, 0xB6] then
      -- behind the two bits of the coding type
      match moduloTimeBase pbuffer (8 * pbuffer.length) 4 2 with
      | none => none
      | some .behind => some false
      | some (.at index bitsParsed) =>
        -- the marker bit, and the time increment with its marker bit
        let bitsParsed := bitsParsed + 1 + (vopBits (utils.vopTimeResolution - 1) + 1)
        let index := index + bitsParsed / 8
        if pbuffer.length ≤ index then some false
        else (pbuffer[index]?).map fun byte => !byte.toNat.testBit (7 - bitsParsed % 8)
    else some false

/-! ### Headers of VOPs -/

def incrementWidth (resolution : Nat) : Nat := max 1 (Nat.clog 2 resolution)

/-- The header of a VOP behind its start code, up to `vop_coded`. -/
structure VopHeader where
  codingType : Nat
  /-- The ones of `modulo_time_base`. -/
  seconds : Nat
  timeIncrement : Nat
  vopCoded : Bool
  deriving DecidableEq, Repr

def VopHeader.bits (header : VopHeader) (resolution : Nat) : List Bool :=
  natBits 2 header.codingType ++ (List.replicate header.seconds true ++ false ::
    true :: (natBits (incrementWidth resolution) header.timeIncrement ++ [true, header.vopCoded]))

/-! ### The width of the time increment -/

theorem vopBits_loop (rounds : Nat) :
    ∀ (temp : BitVec 32) (count : Nat), temp.toNat < 2 ^ rounds →
      (whileLoop (fun state : BitVec 32 × Nat => state.1 != 0) (fun state => (state.1 >>> 1, state.2 + 1))
        rounds (temp, count)).2 = count + Nat.clog 2 (temp.toNat + 1) := by
  induction rounds with
  | zero =>
    intro temp count htemp
    have hzero : temp.toNat = 0 := by omega
    rw [whileLoop, hzero]
    rfl
  | succ rounds ih =>
    intro temp count htemp
    by_cases hzero : temp = 0
    · subst hzero
      rw [whileLoop_of_not rfl]
      rfl
    have hpos : 1 ≤ temp.toNat := by
      by_contra hsmall
      exact hzero (BitVec.eq_of_toNat_eq (by rw [show temp.toNat = 0 by omega]; rfl))
    have hhalf : (temp >>> 1).toNat = temp.toNat / 2 := by
      rw [BitVec.toNat_ushiftRight, Nat.shiftRight_eq_div_pow, Nat.pow_one]
    rw [whileLoop, if_pos (bne_iff_ne.mpr hzero), ih _ _ (by rw [hhalf]; omega), hhalf,
      Nat.clog_of_two_le (by decide) (show 2 ≤ temp.toNat + 1 by omega),
      show (temp.toNat + 1 + 2 - 1) / 2 = temp.toNat / 2 + 1 by omega]
    omega

theorem vopBits_eq {resolution : BitVec 32} (hresolution : 1 ≤ resolution.toNat) :
    vopBits (resolution - 1) = Nat.clog 2 resolution.toNat := by
  have hsub : (resolution - 1).toNat + 1 = resolution.toNat := by
    rw [BitVec.toNat_sub_of_le (by rw [BitVec.le_def]; exact hresolution)]
    exact Nat.sub_add_cancel hresolution
  rw [vopBits, vopBits_loop 32 _ _ (resolution - 1).isLt, hsub, Nat.zero_add]

/-! ### The walk -/

section

variable {pbuffer : List UInt8} {index bitsParsed rounds : Nat}

theorem moduloTimeBase_bit {bit : Bool} {rest : List Bool} (hbits : bitsParsed < 8)
    (hdrop : (bytesBits pbuffer).drop (8 * index + bitsParsed) = bit :: rest) (hrest : rest ≠ []) :
    moduloTimeBase pbuffer (rounds + 1) index bitsParsed =
      if bit then moduloTimeBase pbuffer rounds (index + (bitsParsed + 1) / 8) ((bitsParsed + 1) % 8)
      else some (.at (index + (bitsParsed + 1) / 8) ((bitsParsed + 1) % 8)) := by
  have hlength := congrArg List.length hdrop
  rw [List.length_drop, bytesBits_length, List.length_cons] at hlength
  have hpos := List.length_pos_iff.mpr hrest
  have hindex : index < pbuffer.length := by omega
  have hbit : pbuffer[index].toNat.testBit (7 - bitsParsed) = bit := by
    have hwindow := bytesBits_getElem? index bitsParsed hindex hbits
    rw [← List.head?_drop, hdrop, List.getD_eq_getElem _ _ hindex] at hwindow
    exact (Option.some.inj hwindow).symm
  rw [moduloTimeBase, List.getElem?_eq_getElem hindex]
  dsimp only
  rw [if_neg (by omega), hbit]

theorem moduloTimeBase_at {rest : List Bool} (hrest : rest ≠ []) (seconds : Nat) :
    ∀ rounds index bitsParsed, bitsParsed < 8 → seconds < rounds →
      (bytesBits pbuffer).drop (8 * index + bitsParsed) = List.replicate seconds true ++ false :: rest →
      ∃ last lastBits, moduloTimeBase pbuffer rounds index bitsParsed = some (.at last lastBits) ∧
        lastBits < 8 ∧ 8 * last + lastBits = 8 * index + bitsParsed + seconds + 1 := by
  induction seconds with
  | zero =>
    intro rounds index bitsParsed hbits hrounds hdrop
    obtain ⟨rounds, rfl⟩ := Nat.exists_eq_succ_of_ne_zero hrounds.ne'
    refine ⟨index + (bitsParsed + 1) / 8, (bitsParsed + 1) % 8, ?_, Nat.mod_lt _ (by decide), ?_⟩
    · rw [moduloTimeBase_bit hbits hdrop hrest]
      rfl
    · omega
  | succ seconds ih =>
    intro rounds index bitsParsed hbits hrounds hdrop
    obtain ⟨rounds, rfl⟩ := Nat.exists_eq_succ_of_ne_zero (Nat.ne_zero_of_lt hrounds)
    rw [List.replicate_succ, List.cons_append] at hdrop
    have hplace : 8 * (index + (bitsParsed + 1) / 8) + (bitsParsed + 1) % 8 = 8 * index + bitsParsed + 1 := by
      omega
    have hnext : (bytesBits pbuffer).drop (8 * (index + (bitsParsed + 1) / 8) + (bitsParsed + 1) % 8) =
        List.replicate seconds true ++ false :: rest := by
      rw [hplace, ← List.drop_drop, hdrop]
      rfl
    obtain ⟨last, lastBits, hend, hlast, hsum⟩ :=
      ih rounds _ _ (Nat.mod_lt _ (by decide)) (by omega) hnext
    refine ⟨last, lastBits, ?_, hlast, by omega⟩
    rw [moduloTimeBase_bit hbits hdrop (by simp), if_pos rfl]
    exact hend

theorem moduloTimeBase_ne_none (rounds : Nat) :
    ∀ index bitsParsed, index < pbuffer.length → bitsParsed < 8 →
      8 * pbuffer.length ≤ 8 * index + bitsParsed + rounds →
      moduloTimeBase pbuffer rounds index bitsParsed ≠ none := by
  induction rounds with
  | zero =>
    intro index bitsParsed hindex hbits hrounds
    omega
  | succ rounds ih =>
    intro index bitsParsed hindex hbits hrounds
    rw [moduloTimeBase, List.getElem?_eq_getElem hindex]
    dsimp only
    split
    · exact Option.some_ne_none _
    · split
      · exact ih _ _ (by omega) (Nat.mod_lt _ (by decide)) (by omega)
      · exact Option.some_ne_none _

end

theorem isNotcodecVop_ne_none (utils : Mp4Utils) (pbuffer : Option (List UInt8)) :
    utils.isNotcodecVop pbuffer ≠ none := by
  cases pbuffer with
  | none => exact Option.some_ne_none _
  | some pbuffer =>
    rw [isNotcodecVop]
    split
    · exact Option.some_ne_none _
    rename_i hguard
    rw [not_or, not_lt] at hguard
    split
    · have hloop := moduloTimeBase_ne_none (8 * pbuffer.length) 4 2
        (show 4 < pbuffer.length by omega) (by decide) (by omega)
      split
      · exact absurd ‹_› hloop
      · exact Option.some_ne_none _
      · dsimp only
        split
        · exact Option.some_ne_none _
        · rename_i hinside
          rw [not_le] at hinside
          rw [List.getElem?_eq_getElem hinside]
          exact Option.some_ne_none _
    · exact Option.some_ne_none _

/-! ### The bit that is tested -/

theorem VopHeader.bits_getElem? (header : VopHeader) {resolution : Nat} (hresolution : 1 ≤ resolution)
    (rest : List Bool) :
    ((true :: (natBits (incrementWidth resolution) header.timeIncrement ++ [true, header.vopCoded])) ++
        rest)[Nat.clog 2 resolution + 2]? = some (if 2 ≤ resolution then header.vopCoded else true) := by
  by_cases hone : resolution = 1
  · subst hone
    have hwidth : incrementWidth 1 = 1 := by decide
    have hclog : Nat.clog 2 1 = 0 := by decide
    rw [hwidth, hclog]
    rfl
  · have hseveral : 2 ≤ resolution := by omega
    have hwidth : incrementWidth resolution = Nat.clog 2 resolution :=
      Nat.max_eq_right (Nat.clog_pos (by decide) hseveral)
    rw [hwidth, if_pos hseveral, List.cons_append, List.getElem?_cons_succ, List.append_assoc,
      List.getElem?_append_right (by simp), natBits_length]
    simp

theorem isNotcodecVop_header {utils : Mp4Utils} (hfound : utils.vopTimeFound = true)
    (hresolution : 1 ≤ utils.vopTimeResolution.toNat) (header : VopHeader) {bytes : List UInt8}
    {rest : List Bool}
    (hbits : bytesBits bytes = header.bits utils.vopTimeResolution.toNat ++ rest) :
    utils.isNotcodecVop (some ([0, 0, 1, 0xB6] ++ bytes)) =
      some (!if 2 ≤ utils.vopTimeResolution.toNat then header.vopCoded else true) := by
  generalize hpbuffer : [0, 0, 1, 0xB6] ++ bytes = pbuffer
  have htake : pbuffer.take 4 = [0, 0, 1, 0xB6] := by
    rw [← hpbuffer]
    rfl
  generalize htail : true :: (natBits (incrementWidth utils.vopTimeResolution.toNat) header.timeIncrement ++
    [true, header.vopCoded]) ++ rest = tail
  have hdrop : (bytesBits pbuffer).drop (8 * 4 + 2) = List.replicate header.seconds true ++ false :: tail := by
    rw [← hpbuffer, bytesBits_append, ← List.drop_drop, List.drop_left' (by simp), hbits, VopHeader.bits,
      List.append_assoc, List.drop_left' (natBits_length _ _), ← htail]
    simp
  have hlength := congrArg List.length hdrop
  rw [List.length_drop, bytesBits_length, List.length_append, List.length_replicate, List.length_cons]
    at hlength
  have hnonempty : tail ≠ [] := by
    rw [← htail]
    exact List.cons_ne_nil _ _
  obtain ⟨last, lastBits, hloop, hlast, hsum⟩ := moduloTimeBase_at hnonempty header.seconds
    (8 * pbuffer.length) 4 2 (by decide) (by omega) hdrop
  -- the place of the bit behind the time increment as the code counts it
  have hplace : (bytesBits pbuffer)[8 * last + lastBits + (Nat.clog 2 utils.vopTimeResolution.toNat + 2)]? =
      some (if 2 ≤ utils.vopTimeResolution.toNat then header.vopCoded else true) := by
    have hbehind : (bytesBits pbuffer).drop (8 * last + lastBits) = tail := by
      rw [hsum, Nat.add_assoc, ← List.drop_drop, hdrop, List.drop_append]
      simp
    rw [← List.getElem?_drop, hbehind, ← htail, header.bits_getElem? hresolution]
  generalize hbitsParsed : lastBits + 1 + (Nat.clog 2 utils.vopTimeResolution.toNat + 1) = bitsParsed
  have hsplit : 8 * last + lastBits + (Nat.clog 2 utils.vopTimeResolution.toNat + 2) =
      8 * (last + bitsParsed / 8) + bitsParsed % 8 := by omega
  rw [hsplit] at hplace
  have hinside : last + bitsParsed / 8 < pbuffer.length := by
    obtain ⟨hlt, -⟩ := List.getElem?_eq_some_iff.mp hplace
    rw [bytesBits_length] at hlt
    omega
  rw [bytesBits_getElem? _ _ hinside (Nat.mod_lt _ (by decide)), List.getD_eq_getElem _ _ hinside] at hplace
  have hguard : ¬ (utils.vopTimeFound = false ∨ pbuffer.length < 5) := by
    rw [hfound, not_or]
    exact ⟨by decide, by omega⟩
  rw [isNotcodecVop, if_neg hguard, if_pos htake, hloop]
  dsimp only
  rw [vopBits_eq hresolution, hbitsParsed, if_neg (by omega), List.getElem?_eq_getElem hinside, Option.map_some,
    Option.some.inj hplace]

/-- A VOP is said not to be coded exactly where it is not, unless the resolution is one, whose time increment
has a bit that the loop over the resolution does not count. No buffer is read outside. -/
theorem isNotcodecVop_iff (utils : Mp4Utils) (hfound : utils.vopTimeFound = true)
    (hresolution : 1 ≤ utils.vopTimeResolution.toNat ∧ utils.vopTimeResolution.toNat ≤ 65535)
    (header : VopHeader) (bytes : List UInt8) (rest : List Bool)
    (hbits : bytesBits bytes = header.bits utils.vopTimeResolution.toNat ++ rest) :
    ((∃ result, utils.isNotcodecVop (some ([0, 0, 1, 0xB6] ++ bytes)) = some result ∧
        (result = true ↔ header.vopCoded = false)) ↔
      2 ≤ utils.vopTimeResolution.toNat ∨ header.vopCoded = true) ∧
      ∀ (other : Mp4Utils) (pbuffer : Option (List UInt8)), other.isNotcodecVop pbuffer ≠ none := by
  refine ⟨?_, isNotcodecVop_ne_none⟩
  rw [isNotcodecVop_header hfound hresolution.1 header hbits]
  by_cases hseveral : 2 ≤ utils.vopTimeResolution.toNat <;> cases header.vopCoded <;> simp [hseveral]

/-- A VOP that is not coded, in a layer of resolution one. -/
theorem isNotcodecVop_resolution_one :
    bytesBits [0x14] = (VopHeader.mk 0 0 0 false).bits 1 ++ [false] ∧
      (Mp4Utils.mk 1 true).isNotcodecVop (some ([0, 0, 1, 0xB6] ++ [0x14])) = some false := by
  decide

/-- The same in a layer of resolution 30. -/
theorem isNotcodecVop_resolution_thirty :
    ((∃ result, (Mp4Utils.mk 30 true).isNotcodecVop (some ([0, 0, 1, 0xB6] ++ [0x10, 0x40])) = some result ∧
        (result = true ↔ (VopHeader.mk 0 0 0 false).vopCoded = false)) ↔
      2 ≤ 30 ∨ (VopHeader.mk 0 0 0 false).vopCoded = true) :=
  (isNotcodecVop_iff (Mp4Utils.mk 30 true) rfl (by decide) (VopHeader.mk 0 0 0 false) [0x10, 0x40]
    (List.replicate 5 false) (by decide)).1

end Mp4Utils

end Nozomi
