import Nozomi.Vdec.StreamParser.Loops

/-!
# Where the loops of `parse_sps` start an iteration

The loops over the scaling matrices and over the HRD parameters test `more_bits()`, those of `scaling_list` and over
`offset_for_ref_frame` do not. No iteration starts behind the end of the bits if and only if the NAL has as many codes
as these two ask for.
-/

namespace Nozomi

/-! ### What a call takes -/

namespace StreamReader

variable {reader : StreamReader}

theorem moreBits_iff : reader.moreBits = true ↔ 0 < reader.size := by
  rw [moreBits, decide_eq_true_iff, size, ← List.length_pos_iff]
  omega

theorem size_readByte {byte : UInt8} {bytes : List UInt8} (hbytes : reader.bitstream = byte :: bytes) :
    (reader.readByte byte bytes).size ≤ reader.size ∧ reader.bitsRead ≤ (reader.readByte byte bytes).bitsRead ∧
      (0 < (reader.readByte byte bytes).bitsRead ∨ (reader.readByte byte bytes).size < reader.size) := by
  have hsize : reader.size = 8 * (bytes.length + 1) + reader.bitsRead := by rw [size, hbytes, List.length_cons]
  rw [hsize, readByte]
  split
  · simp only [size]
    omega
  · simp only [size]
    omega

theorem size_readBytes {bytes : List UInt8} (hbytes : reader.bitstream = bytes) :
    (reader.readBytes bytes).size ≤ reader.size ∧ reader.bitsRead ≤ (reader.readBytes bytes).bitsRead := by
  induction bytes generalizing reader with
  | nil => exact ⟨Nat.le_refl _, Nat.le_refl _⟩
  | cons byte bytes ih =>
    rw [readBytes]
    split
    · obtain ⟨hsize, hread, -⟩ := size_readByte hbytes
      obtain ⟨hsize', hread'⟩ := @ih (reader.readByte byte bytes) rfl
      exact ⟨hsize'.trans hsize, hread.trans hread'⟩
    · exact ⟨Nat.le_refl _, Nat.le_refl _⟩

theorem size_readWord (reader : StreamReader) :
    reader.readWord.size ≤ 8 * reader.bitstream.length ∧
      (reader.bitstream ≠ [] → 0 < reader.readWord.bitsRead ∨
        reader.readWord.size < 8 * reader.bitstream.length) := by
  obtain ⟨start, hstart⟩ : ∃ start, start = { reader with curr32Bit := 0, bitsRead := 0 } := ⟨_, rfl⟩
  have hempty : start.bitsRead = 0 := by rw [hstart]
  have hsame : start.bitstream = reader.bitstream := by rw [hstart]
  have hsize : start.size = 8 * reader.bitstream.length := by rw [size, hempty, hsame, Nat.add_zero]
  have hword : reader.readWord.size = (start.readBytes start.bitstream).size := by
    rw [readWord, hstart]
    rfl
  have hbits : reader.readWord.bitsRead = (start.readBytes start.bitstream).bitsRead := by
    rw [readWord, hstart]
    rfl
  rw [hword, hbits, ← hsize, ← hsame]
  refine ⟨(size_readBytes rfl).1, fun hbytes => ?_⟩
  obtain ⟨byte, bytes, hcons⟩ := List.exists_cons_of_ne_nil hbytes
  obtain ⟨-, -, hfirst⟩ := size_readByte hcons
  obtain ⟨hlater, hread⟩ := @size_readBytes (start.readByte byte bytes) _ rfl
  have hround : start.readBytes start.bitstream =
      (start.readByte byte bytes).readBytes (start.readByte byte bytes).bitstream := by
    rw [hcons, readBytes, if_pos (by rw [hempty]; decide)]
    rfl
  rw [hround]
  rcases hfirst with hpositive | hskipped
  · exact .inl (hpositive.trans_le hread)
  · exact .inr (hlater.trans_lt hskipped)

theorem size_consume (n : Nat) : (reader.consume n).size = 8 * reader.bitstream.length + (reader.bitsRead - n) := rfl

theorem size_extractFilled (value : Nat) {n : Nat} (hpositive : 0 < n) :
    (reader.extractFilled value n).2.size ≤ reader.size ∧
      (0 < reader.bitsRead → (reader.extractFilled value n).2.size < reader.size) := by
  rw [extractFilled]
  split
  · rw [size_consume]
    simp only [size, shift]
    omega
  · rw [size_consume, size]
    omega

theorem size_extractBits {n : Nat} (hpositive : 0 < n) (hn : n ≤ 32) :
    (reader.extractBits n).2.size ≤ reader.size - 1 := by
  obtain ⟨start, value, hstart, hextract⟩ : ∃ (start : StreamReader) (value : Nat), start.size = reader.size ∧
      reader.extractBits n = start.extractFrom value n := by
    have hsmall : ¬n > 32 := Nat.not_lt.mpr hn
    rw [extractBits]
    dsimp only
    rw [if_neg hsmall]
    refine ⟨_, _, ?_, rfl⟩
    rfl
  rw [hextract, ← hstart, extractFrom]
  split
  · obtain ⟨hword, hmore⟩ := size_readWord start
    have hrest : 0 < n - start.bitsRead := by omega
    obtain ⟨hle, hlt⟩ := @size_extractFilled (start.readWord.shift (32 - (n - start.bitsRead)))
      (value ||| start.readWord.curr32Bit >>> (32 - (n - start.bitsRead))) _ hrest
    have hsize : start.size = 8 * start.bitstream.length + start.bitsRead := rfl
    dsimp only
    change _ ≤ start.readWord.size at hle
    change 0 < start.readWord.bitsRead → _ < start.readWord.size at hlt
    by_cases hbytes : start.bitstream = []
    · rw [hbytes, List.length_nil] at hword hsize
      omega
    · have hbytes' := List.length_pos_iff.mpr hbytes
      rcases hmore hbytes with hpositive | hskipped
      · have := hlt hpositive
        omega
      · omega
  · rw [size_consume, size]
    omega

theorem size_extractBits_le (n : Nat) : (reader.extractBits n).2.size ≤ reader.size := by
  rcases Nat.eq_zero_or_pos n with rfl | hpositive
  · exact Nat.le_refl _
  · by_cases hn : n ≤ 32
    · exact (size_extractBits hpositive hn).trans (Nat.sub_le _ 1)
    · rw [extractBits]
      dsimp only
      rw [if_pos (Nat.lt_of_not_le hn)]
      exact Nat.le_refl _

theorem size_leadZeroBitsLoop {rounds : Nat} (leadZeroBits : Nat) (hrounds : 0 < rounds) :
    (leadZeroBitsLoop rounds leadZeroBits reader).2.size ≤ reader.size - 1 := by
  obtain ⟨rounds, rfl⟩ := Nat.exists_eq_succ_of_ne_zero hrounds.ne'
  clear hrounds
  induction rounds generalizing leadZeroBits reader with
  | zero =>
    have hone := @size_extractBits reader 1 (by decide) (by decide)
    rw [leadZeroBitsLoop]
    dsimp only
    split
    · exact hone
    · exact hone
  | succ rounds ih =>
    have hone := @size_extractBits reader 1 (by decide) (by decide)
    rw [leadZeroBitsLoop]
    dsimp only
    split
    · exact (ih _).trans ((Nat.sub_le _ 1).trans hone)
    · exact hone

theorem size_uev (reader : StreamReader) : reader.uev.2.size ≤ reader.size - 1 := by
  obtain ⟨start, hstart⟩ : ∃ start, start = { reader with
    calls := reader.calls ++ [ReadCall.uev (reader.bits.takeWhile (!·)).length] } := ⟨_, rfl⟩
  have hsize : start.size = reader.size := by rw [hstart]; rfl
  have hlead := @size_leadZeroBitsLoop start (start.size + 1) 0 (Nat.succ_pos _)
  rw [uev]
  dsimp only
  rw [← hstart, leadZeroBits]
  rw [hsize] at hlead ⊢
  split
  · exact hlead
  · exact (size_extractBits_le _).trans hlead

theorem size_iv (n : Nat) : (reader.iv n).2.size ≤ reader.size := by
  have hbits := @size_extractBits_le reader n
  rw [iv]
  dsimp only
  split
  · exact hbits
  · exact hbits

/-! ### Codes that are left -/

def codesFrom : (rounds : Nat) → StreamReader → Nat
  | 0, _ => 0
  | rounds + 1, reader => if reader.moreBits then codesFrom rounds reader.uev.2 + 1 else 0

def codesLeft (reader : StreamReader) : Nat := codesFrom reader.size reader

theorem codesFrom_of_end (rounds : Nat) (hend : ¬reader.moreBits = true) : codesFrom rounds reader = 0 := by
  cases rounds with
  | zero => rfl
  | succ rounds => rw [codesFrom, if_neg hend]

theorem codesFrom_congr {rounds rounds' : Nat} (hrounds : reader.size ≤ rounds) (hrounds' : reader.size ≤ rounds') :
    codesFrom rounds reader = codesFrom rounds' reader := by
  induction rounds generalizing rounds' reader with
  | zero =>
    have hend : ¬reader.moreBits = true := by
      rw [moreBits_iff]
      omega
    rw [codesFrom_of_end rounds' hend, codesFrom]
  | succ rounds ih =>
    by_cases hmore : reader.moreBits = true
    · have hsize := moreBits_iff.mp hmore
      have hnext := reader.size_uev
      obtain ⟨rounds', rfl⟩ := Nat.exists_eq_succ_of_ne_zero (show rounds' ≠ 0 by omega)
      rw [codesFrom, codesFrom, if_pos hmore, if_pos hmore,
        @ih reader.uev.2 rounds' (by omega) (by omega)]
    · rw [codesFrom_of_end _ hmore, codesFrom_of_end _ hmore]

theorem codesLeft_of_more (hmore : reader.moreBits = true) : reader.codesLeft = reader.uev.2.codesLeft + 1 := by
  have hsize := moreBits_iff.mp hmore
  have hnext := reader.size_uev
  obtain ⟨rest, hrest⟩ := Nat.exists_eq_succ_of_ne_zero hsize.ne'
  rw [codesLeft, hrest, codesFrom, if_pos hmore, codesLeft,
    @codesFrom_congr reader.uev.2 rest reader.uev.2.size (by omega) (Nat.le_refl _)]

theorem codesLeft_of_end (hend : ¬reader.moreBits = true) : reader.codesLeft = 0 :=
  codesFrom_of_end reader.size hend

theorem codesLeft_pos_iff : 0 < reader.codesLeft ↔ reader.moreBits = true := by
  by_cases hmore : reader.moreBits = true
  · rw [codesLeft_of_more hmore]
    exact iff_of_true (Nat.succ_pos _) hmore
  · rw [codesLeft_of_end hmore]
    exact iff_of_false (Nat.lt_irrefl 0) hmore

end StreamReader

namespace Parser

open Marked (mark lift erase PassedIn)

/-! ### The loops without a test -/

def listCodes : (rounds : Nat) → (lastScale nextScale : Int) → StreamReader → Nat
  | 0, _, _, _ => 0
  | rounds + 1, lastScale, nextScale, reader =>
    if nextScale = 0 then 1
    else
      let (deltaScale, reader) := sev.run ReaderOp.step reader
      let nextScale := ((lastScale + deltaScale + 256).bmod (2 ^ 32)).tmod 256
      listCodes rounds (if nextScale = 0 then lastScale else nextScale) nextScale reader + 1

/-- The lists of the scaling matrices from `i` on have the codes that they ask for. -/
def ListsFit : (rounds i : Nat) → StreamReader → Prop
  | 0, _, _ => True
  | rounds + 1, i, reader =>
    reader.moreBits = true →
      let size := if i < 6 then 16 else 64
      let (seqScalingListPresentFlag, reader) := (extractBits 1).run ReaderOp.step reader
      if seqScalingListPresentFlag ≠ 0 then
        listCodes size 8 8 reader ≤ reader.codesLeft ∧
          ListsFit rounds (i + 1) ((scalingList size 8 8).run ReaderOp.step reader).2
      else ListsFit rounds (i + 1) reader

def spsHead : Parser (Fin (2 ^ 8)) := do
  let profileIdc ← extractBits 8
  discard (extractBits 8)
  discard (extractBits 8)
  discard uev
  pure profileIdc

def highProfileFlag : Parser Nat := do
  let chromaFormatIdc ← uev
  if chromaFormatIdc = 3 then
    discard (extractBits 1)
  discard uev
  discard uev
  discard (extractBits 1)
  Fin.val <$> extractBits 1

def scalingMatrixFlag : Parser Nat := do
  let profileIdc ← spsHead
  if profileIdc.val ∈ highProfiles then highProfileFlag else pure 0

def picOrderCntCycle : Parser Nat := do
  let picOrderCntType ← uev
  if picOrderCntType = 1 then
    discard (extractBits 1)
    discard sev
    discard sev
    uev
  else pure 0

def numRefFrames : Parser Nat := do
  let profileIdc ← spsHead
  if profileIdc.val ∈ highProfiles then
    highProfile
  discard uev
  picOrderCntCycle

/-- The NAL has the codes that the scaling lists and `num_ref_frames_in_pic_order_cnt_cycle` ask for. -/
structure LoopsFit (reader : StreamReader) : Prop where
  lists : (scalingMatrixFlag.run ReaderOp.step reader).1 ≠ 0 →
    ListsFit 12 0 (scalingMatrixFlag.run ReaderOp.step reader).2
  offsets : (numRefFrames.run ReaderOp.step reader).1 ≤ (numRefFrames.run ReaderOp.step reader).2.codesLeft

abbrev StartsWithBits {α : Type} (program : Looping α) (reader : StreamReader) : Prop :=
  PassedIn ReaderOp.step (fun reader : StreamReader => reader.moreBits = true) program reader

theorem run_sev (reader : StreamReader) :
    sev.run ReaderOp.step reader = (Nozomi.sev reader.uev.1, reader.uev.2) := rfl

theorem listCodes_stopped (rounds : Nat) (lastScale : Int) (reader : StreamReader) :
    listCodes rounds lastScale 0 reader ≤ 1 := by
  cases rounds with
  | zero => exact Nat.zero_le 1
  | succ rounds => exact Nat.le_refl 1

theorem startsWithBits_scalingListLoop {rounds : Nat} {lastScale nextScale : Int} {reader : StreamReader} :
    StartsWithBits (scalingListLoop rounds lastScale nextScale) reader ↔
      listCodes rounds lastScale nextScale reader ≤ reader.codesLeft := by
  induction rounds generalizing lastScale nextScale reader with
  | zero => exact iff_of_true (Marked.passedIn_pure _ _) (Nat.zero_le _)
  | succ rounds ih =>
    rw [StartsWithBits, scalingListLoop, listCodes, Marked.passedIn_bind, Marked.passedIn_mark]
    by_cases hstopped : nextScale = 0
    · subst hstopped
      have hrest := @ih lastScale 0 reader
      have hone := listCodes_stopped rounds lastScale reader
      simp only [ne_eq, not_true_eq_false, ↓reduceIte]
      rw [← StreamReader.codesLeft_pos_iff]
      constructor
      · exact And.left
      · intro hmore
        exact ⟨hmore, hrest.mpr (hone.trans hmore)⟩
    · simp only [ne_eq, hstopped, not_false_eq_true, ↓reduceIte]
      rw [Marked.passedIn_lift_bind, run_sev]
      by_cases hmore : reader.moreBits = true
      · rw [StreamReader.codesLeft_of_more hmore, Nat.add_le_add_iff_right, and_iff_right hmore]
        exact ih
      · rw [StreamReader.codesLeft_of_end hmore]
        exact iff_of_false (fun h => hmore h.1) (Nat.not_succ_le_zero _)

theorem startsWithBits_offsetsForRefFrameLoop {rounds : Nat} {reader : StreamReader} :
    StartsWithBits (offsetsForRefFrameLoop rounds) reader ↔ rounds ≤ reader.codesLeft := by
  induction rounds generalizing reader with
  | zero => exact iff_of_true (Marked.passedIn_pure _ _) (Nat.zero_le _)
  | succ rounds ih =>
    rw [StartsWithBits, offsetsForRefFrameLoop, Marked.passedIn_bind, Marked.passedIn_mark,
      Marked.passedIn_lift_bind]
    by_cases hmore : reader.moreBits = true
    · rw [StreamReader.codesLeft_of_more hmore, Nat.add_le_add_iff_right, and_iff_right hmore]
      exact ih
    · rw [StreamReader.codesLeft_of_end hmore]
      exact iff_of_false (fun h => hmore h.1) (Nat.not_succ_le_zero _)

theorem startsWithBits_scalingMatrixLoop {rounds i : Nat} {reader : StreamReader} :
    StartsWithBits (scalingMatrixLoop rounds i) reader ↔ ListsFit rounds i reader := by
  induction rounds generalizing i reader with
  | zero => exact iff_of_true (Marked.passedIn_pure _ _) trivial
  | succ rounds ih =>
    rw [StartsWithBits, scalingMatrixLoop, ListsFit, Marked.passedIn_lift_bind]
    by_cases hmore : reader.moreBits = true
    · have htest : (moreBits.run ReaderOp.step reader).1 = true := hmore
      rw [if_pos htest, Marked.passedIn_bind, Marked.passedIn_mark, Marked.passedIn_lift_bind]
      have hmark : ((erase (mark SpsLoop.scalingMatrix : Looping PUnit)).run ReaderOp.step
          (moreBits.run ReaderOp.step reader).2).2 = reader := rfl
      rw [hmark, and_iff_right (show (moreBits.run ReaderOp.step reader).2.moreBits = true from hmore),
        forall_prop_of_true hmore]
      generalize (extractBits 1).run ReaderOp.step reader = read
      obtain ⟨seqScalingListPresentFlag, behind⟩ := read
      dsimp only
      split
      · rw [Marked.passedIn_bind, erase_scalingListLoop]
        exact and_congr startsWithBits_scalingListLoop ih
      · exact ih
    · have htest : ¬(moreBits.run ReaderOp.step reader).1 = true := hmore
      rw [if_neg htest]
      exact iff_of_true (Marked.passedIn_pure _ _) fun hbits => absurd hbits hmore

theorem startsWithBits_hrdLoops (rounds idx : Nat) (hrd : HrdParam) (reader : StreamReader) :
    StartsWithBits (hrdLoops rounds idx hrd) reader := by
  induction rounds generalizing idx hrd reader with
  | zero => exact Marked.passedIn_pure _ _
  | succ rounds ih =>
    rw [StartsWithBits, hrdLoops, Marked.passedIn_lift_bind]
    split
    · have hmore : (moreBits.run ReaderOp.step reader).1 = true := ‹_›
      rw [Marked.passedIn_bind, Marked.passedIn_mark, Marked.passedIn_lift_bind, Marked.passedIn_lift_bind,
        Marked.passedIn_lift_bind]
      exact ⟨hmore, ih _ _ _⟩
    · exact Marked.passedIn_pure _ _

theorem startsWithBits_hrdParametersLoops (hrd : HrdParam) (reader : StreamReader) :
    StartsWithBits (hrdParametersLoops hrd) reader := by
  rw [StartsWithBits, hrdParametersLoops]
  simp only [Marked.passedIn_lift_bind]
  split
  · exact Marked.passedIn_pure _ _
  · rw [Marked.passedIn_bind]
    refine ⟨startsWithBits_hrdLoops _ _ _ _, ?_⟩
    simp only [Marked.passedIn_lift_bind]
    exact Marked.passedIn_pure _ _

theorem startsWithBits_vuiHrdParametersLoops (vui : VuiParam) (reader : StreamReader) :
    StartsWithBits (vuiHrdParametersLoops vui) reader := by
  rw [StartsWithBits, vuiHrdParametersLoops]
  simp only [Marked.passedIn_lift_bind]
  refine Marked.passedIn_ite_bind (startsWithBits_hrdParametersLoops _ _) (Marked.passedIn_pure _ _) ?_
  intro nalHrd reader
  rw [Marked.passedIn_lift_bind]
  refine Marked.passedIn_ite_bind (startsWithBits_hrdParametersLoops _ _) (Marked.passedIn_pure _ _) ?_
  intro vclHrd reader
  refine Marked.passedIn_ite_bind (Marked.passedIn_lift _ _) (Marked.passedIn_pure _ _) ?_
  intro lowDelayHrdFlag reader
  exact Marked.passedIn_pure _ _

theorem startsWithBits_parseVuiLoops (vui : VuiParam) (reader : StreamReader) :
    StartsWithBits (parseVuiLoops vui) reader := by
  rw [StartsWithBits, parseVuiLoops, Marked.passedIn_lift_bind]
  split
  · rw [Marked.passedIn_lift_bind]
    refine Marked.passedIn_ite_bind (Marked.passedIn_lift _ _) (Marked.passedIn_pure _ _) ?_
    intro aspectRatio reader
    rw [Marked.passedIn_lift_bind, Marked.passedIn_lift_bind, Marked.passedIn_bind]
    refine ⟨startsWithBits_vuiHrdParametersLoops _ _, ?_⟩
    rw [Marked.passedIn_lift_bind, Marked.passedIn_lift_bind]
    exact Marked.passedIn_pure _ _
  · exact Marked.passedIn_pure _ _

/-! ### The iterations of `parse_sps` -/

theorem startsWithBits_highProfileLoops {reader : StreamReader} :
    StartsWithBits highProfileLoops reader ↔ ((highProfileFlag.run ReaderOp.step reader).1 ≠ 0 →
      ListsFit 12 0 (highProfileFlag.run ReaderOp.step reader).2) := by
  have hlast : ∀ reader : StreamReader,
      StartsWithBits (if ((extractBits 1).run ReaderOp.step reader).1 ≠ 0 then scalingMatrixLoop 12 0 else pure ())
        ((extractBits 1).run ReaderOp.step reader).2 ↔
        (((Fin.val <$> extractBits 1 : Parser Nat).run ReaderOp.step reader).1 ≠ 0 →
          ListsFit 12 0 ((Fin.val <$> extractBits 1 : Parser Nat).run ReaderOp.step reader).2) := by
    intro reader
    have hflag : (Fin.val <$> extractBits 1 : Parser Nat).run ReaderOp.step reader =
        (((extractBits 1).run ReaderOp.step reader).1.val, ((extractBits 1).run ReaderOp.step reader).2) := rfl
    rw [hflag]
    generalize (extractBits 1).run ReaderOp.step reader = read
    obtain ⟨flag, behind⟩ := read
    by_cases hset : flag = 0
    · subst hset
      exact iff_of_true (Marked.passedIn_pure _ _) fun h => absurd rfl h
    · have hvalue : flag.val ≠ 0 := fun h => hset (Fin.ext h)
      dsimp only
      rw [if_pos hset, forall_prop_of_true hvalue]
      exact startsWithBits_scalingMatrixLoop
  rw [StartsWithBits, highProfileLoops, highProfileFlag]
  simp only [Marked.passedIn_lift_bind, Calls.run_bind]
  generalize uev.run ReaderOp.step reader = read
  obtain ⟨chromaFormatIdc, behind⟩ := read
  by_cases hplanes : chromaFormatIdc = 3
  · simp only [hplanes, ↓reduceIte, Marked.passedIn_lift_bind, Calls.run_bind]
    exact hlast _
  · simp only [hplanes, ↓reduceIte, Marked.passedIn_lift_bind, Calls.run_bind]
    exact hlast _

theorem startsWithBits_picOrderCntLoops {reader : StreamReader} :
    StartsWithBits picOrderCntLoops reader ↔ (picOrderCntCycle.run ReaderOp.step reader).1 ≤
      (picOrderCntCycle.run ReaderOp.step reader).2.codesLeft := by
  rw [StartsWithBits, picOrderCntLoops, picOrderCntCycle]
  simp only [Marked.passedIn_lift_bind, Calls.run_bind]
  generalize uev.run ReaderOp.step reader = read
  obtain ⟨picOrderCntType, behind⟩ := read
  by_cases hone : picOrderCntType = 1
  · subst hone
    simp only [one_ne_zero, ↓reduceIte, Marked.passedIn_lift_bind, Calls.run_bind]
    exact startsWithBits_offsetsForRefFrameLoop
  · simp only [hone, ↓reduceIte]
    refine iff_of_true ?_ (Nat.zero_le _)
    split
    · exact Marked.passedIn_lift _ _
    · exact Marked.passedIn_pure _ _

theorem startsWithBits_parseSpsLoops {params : StreamParams} {reader : StreamReader} :
    StartsWithBits (parseSpsLoops params) reader ↔ LoopsFit reader := by
  have hafter : ∀ reader : StreamReader, StartsWithBits (do
      picOrderCntLoops
      lift (discard uev)
      lift (discard (extractBits 1))
      lift (discard uev)
      lift (discard uev)
      let frameMbsOnlyFlag ← lift (extractBits 1)
      let mbaffFlag ← if frameMbsOnlyFlag = 0 then lift (Fin.val <$> extractBits 1) else pure params.mbaffFlag
      lift (discard (extractBits 1))
      lift frameCropping
      let vuiParametersPresentFlag ← lift (extractBits 1)
      let vui ← if vuiParametersPresentFlag ≠ 0 then parseVuiLoops params.vuiParam else pure params.vuiParam
      pure { params with mbaffFlag := mbaffFlag, vuiParam := vui }) reader ↔
      StartsWithBits picOrderCntLoops reader := by
    intro reader
    apply Marked.passedIn_bind_of_forall
    intro _ reader
    simp only [Marked.passedIn_lift_bind]
    refine Marked.passedIn_ite_bind (Marked.passedIn_lift _ _) (Marked.passedIn_pure _ _) ?_
    intro mbaffFlag reader
    simp only [Marked.passedIn_lift_bind]
    refine Marked.passedIn_ite_bind (startsWithBits_parseVuiLoops _ _) (Marked.passedIn_pure _ _) ?_
    exact fun vui reader => Marked.passedIn_pure _ _
  obtain ⟨profileIdc, behind, hhead⟩ : ∃ profileIdc behind,
      spsHead.run ReaderOp.step reader = (profileIdc, behind) := ⟨_, _, rfl⟩
  have hprofile : ((extractBits 8).run ReaderOp.step reader).1 = profileIdc := congrArg Prod.fst hhead
  have hbehind := congrArg Prod.snd hhead
  simp only [spsHead, Calls.run_bind, Calls.run_pure] at hbehind
  rw [StartsWithBits, parseSpsLoops]
  simp only [Marked.passedIn_lift_bind]
  rw [hprofile, hbehind]
  by_cases hhigh : profileIdc.val ∈ highProfiles
  · have hflag : scalingMatrixFlag.run ReaderOp.step reader = highProfileFlag.run ReaderOp.step behind := by
      rw [scalingMatrixFlag, Calls.run_bind, hhead]
      dsimp only
      rw [if_pos hhigh]
    have hcount : numRefFrames.run ReaderOp.step reader = picOrderCntCycle.run ReaderOp.step
        ((discard uev : Parser Unit).run ReaderOp.step (highProfile.run ReaderOp.step behind).2).2 := by
      rw [numRefFrames, Calls.run_bind, hhead]
      dsimp only
      rw [if_pos hhigh]
      simp only [Calls.run_bind]
    have hfit : LoopsFit reader ↔ ((highProfileFlag.run ReaderOp.step behind).1 ≠ 0 →
        ListsFit 12 0 (highProfileFlag.run ReaderOp.step behind).2) ∧ (numRefFrames.run ReaderOp.step reader).1 ≤
          (numRefFrames.run ReaderOp.step reader).2.codesLeft := by
      rw [← hflag]
      exact ⟨fun h => ⟨h.lists, h.offsets⟩, fun h => ⟨h.1, h.2⟩⟩
    rw [if_pos hhigh, Marked.passedIn_bind, erase_highProfileLoops, Marked.passedIn_lift_bind, hfit, hcount]
    exact and_congr startsWithBits_highProfileLoops ((hafter _).trans startsWithBits_picOrderCntLoops)
  · have hflag : (scalingMatrixFlag.run ReaderOp.step reader).1 = 0 := by
      rw [scalingMatrixFlag, Calls.run_bind, hhead]
      dsimp only
      rw [if_neg hhigh]
      rfl
    have hcount : numRefFrames.run ReaderOp.step reader = picOrderCntCycle.run ReaderOp.step
        ((discard uev : Parser Unit).run ReaderOp.step behind).2 := by
      rw [numRefFrames, Calls.run_bind, hhead]
      dsimp only
      rw [if_neg hhigh]
      simp only [Calls.run_bind]
    have hfit : LoopsFit reader ↔ (numRefFrames.run ReaderOp.step reader).1 ≤
        (numRefFrames.run ReaderOp.step reader).2.codesLeft :=
      ⟨fun h => h.offsets, fun h => ⟨fun hset => absurd hflag hset, h⟩⟩
    rw [if_neg hhigh, Marked.passedIn_lift_bind, hfit, hcount]
    exact (hafter _).trans startsWithBits_picOrderCntLoops

end Parser

end Nozomi
