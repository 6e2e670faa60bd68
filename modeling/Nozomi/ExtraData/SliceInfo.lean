import Mathlib.Algebra.Order.Group.Nat
import Mathlib.Algebra.BigOperators.Group.List.Basic
import Nozomi.Base.BigEndian

/-!
# The slices of a frame

`parse_sliceinfo` of `extra_data_handler.cpp` checks a table of slices against the frame that they are slices
of. The number of slices, their offsets and their sizes are words of the table. A read outside of the table or of
the frame is `none`; where the start code of a slice does not match, the word at its offset is printed.
-/

namespace Nozomi

/-- The `nDataSize` bytes of the block and the `nFilledLen` bytes of the buffer. -/
structure SliceInfo where
  data : List UInt8
  frame : List UInt8
  data_lt : data.length < 2 ^ 32
  frame_lt : frame.length < 2 ^ 32

def wordAt (bytes : List UInt8) (index : Nat) : Nat := bigEndian ((bytes.drop index).take 4).reverse

def readWord (bytes : List UInt8) (index : Nat) : Option Nat :=
  if index + 4 ≤ bytes.length then some (wordAt bytes index) else none

namespace SliceInfo

variable (info : SliceInfo)

def startCode : List UInt8 := [0, 0, 0, 1]

def sliceLoop : Nat → Nat → Nat → Option (Option Nat)
  | 0, _, totalSize => some (some totalSize)
  | rounds + 1, i, totalSize =>
    match readWord info.data (4 * (i * 2 + 1)) with
    | none => none
    | some sliceOffset =>
      if info.frame.length < sliceOffset + 4 then none
      else if (info.frame.drop sliceOffset).take 4 ≠ startCode then some none
      else if sliceOffset ≠ totalSize then some none
      else
        match readWord info.data (4 * (i * 2 + 2)) with
        | none => none
        | some sliceSize => sliceLoop rounds (i + 1) ((totalSize + sliceSize) % 2 ^ 32)

def parseSliceinfo : Option Int :=
  match readWord info.data 0 with
  | none => none
  | some numSlices =>
    if (4 + numSlices * 8) % 2 ^ 32 ≠ info.data.length then some (-1)
    else
      match info.sliceLoop numSlices 0 0 with
      | none => none
      | some none => some (-1)
      | some (some totalSize) => if info.frame.length ≠ totalSize then some (-1) else some 0

/-! ### Tables -/

def numSlices : Nat := wordAt info.data 0
def sliceOffset (k : Nat) : Nat := wordAt info.data (4 * (k * 2 + 1))
def sliceSize (k : Nat) : Nat := wordAt info.data (4 * (k * 2 + 2))

def totalBefore (k : Nat) : Nat := ((List.range k).map info.sliceSize).sum

/-- The table has its size, and the slices follow each other from the start to the end of the frame, each with a
start code. -/
structure Tiles : Prop where
  dataSize : info.data.length = 4 + 8 * info.numSlices
  offset : ∀ k < info.numSlices, info.sliceOffset k = info.totalBefore k
  startCode : ∀ k < info.numSlices, (info.frame.drop (info.sliceOffset k)).take 4 = startCode
  total : info.totalBefore info.numSlices = info.frame.length

/-- The block is read inside, and accepted exactly where its table tiles the frame. -/
def ParsesExactly : Prop := ∃ status, info.parseSliceinfo = some status ∧ (status = 0 ↔ info.Tiles)

def SizeMatches : Prop := (4 + 8 * info.numSlices) % 2 ^ 32 = info.data.length

/-- A slice begins where those in front of it end, as words, and has a start code. -/
def Good (k : Nat) : Prop :=
  (info.frame.drop (info.sliceOffset k)).take 4 = startCode ∧
    info.sliceOffset k = info.totalBefore k % 2 ^ 32

/-- The entry of a slice is in the table, and four bytes from its offset on in the frame. -/
def EntryInside (k : Nat) : Prop :=
  8 * k + 12 ≤ info.data.length ∧ info.sliceOffset k + 4 ≤ info.frame.length

/-- The number of slices is in the table, and so is each slice behind good ones. -/
def ReadsInside : Prop :=
  4 ≤ info.data.length ∧
    (info.SizeMatches → ∀ k < info.numSlices, (∀ j < k, info.Good j) → info.EntryInside k)

/-- The sizes of good slices that add up to the frame as words do so exactly. -/
def SizesFit : Prop :=
  info.SizeMatches → (∀ k < info.numSlices, info.Good k) →
    info.totalBefore info.numSlices % 2 ^ 32 = info.frame.length →
    info.totalBefore info.numSlices < 2 ^ 32

/-! ### The loop -/

theorem totalBefore_succ (k : Nat) : info.totalBefore (k + 1) = info.totalBefore k + info.sliceSize k := by
  rw [totalBefore, List.range_succ, List.map_append, List.sum_append, List.map_singleton, List.sum_singleton]
  rfl

theorem totalBefore_mono {first second : Nat} (hle : first ≤ second) :
    info.totalBefore first ≤ info.totalBefore second := by
  induction hle with
  | refl => exact le_rfl
  | step _ ih => exact ih.trans (info.totalBefore_succ _ ▸ Nat.le_add_right _ _)

theorem forall_reached_succ {good inside : Nat → Prop} {rounds i : Nat} :
    (∀ k < rounds + 1, (∀ j < k, good (i + j)) → inside (i + k)) ↔
      inside i ∧ (good i → ∀ k < rounds, (∀ j < k, good (i + 1 + j)) → inside (i + 1 + k)) := by
  have hshift : ∀ k, i + 1 + k = i + (k + 1) := fun k => by omega
  have hreached : ∀ k, (∀ j < k + 1, good (i + j)) ↔ good i ∧ ∀ j < k, good (i + 1 + j) := by
    intro k
    rw [Nat.forall_lt_succ_left]
    simp only [Nat.add_zero, hshift]
  rw [Nat.forall_lt_succ_left]
  simp only [hreached, hshift, Nat.add_zero, Nat.not_lt_zero, false_implies, implies_true, true_implies]
  constructor
  · rintro ⟨hinside, hrest⟩
    exact ⟨hinside, fun hgood k hk hall => hrest k hk ⟨hgood, hall⟩⟩
  · rintro ⟨hinside, hrest⟩
    exact ⟨hinside, fun k hk hall => hrest hall.1 k hk hall.2⟩

open Classical in
theorem sliceLoop_eq (hsize : info.data.length % 8 = 4) (rounds : Nat) :
    ∀ i, info.sliceLoop rounds i (info.totalBefore i % 2 ^ 32) =
      if ∀ k < rounds, (∀ j < k, info.Good (i + j)) → info.EntryInside (i + k) then
        some (if ∀ k < rounds, info.Good (i + k) then some (info.totalBefore (i + rounds) % 2 ^ 32) else none)
      else none := by
  induction rounds with
  | zero =>
    intro i
    simp [sliceLoop]
  | succ rounds ih =>
    intro i
    have hshift : ∀ k, i + 1 + k = i + (k + 1) := fun k => by omega
    have hall : (∀ k < rounds + 1, info.Good (i + k)) ↔
        info.Good i ∧ ∀ k < rounds, info.Good (i + 1 + k) := by
      rw [Nat.forall_lt_succ_left]
      simp only [Nat.add_zero, hshift]
    rw [if_congr forall_reached_succ rfl rfl, if_congr hall rfl rfl, sliceLoop]
    by_cases hinside : info.EntryInside i
    · obtain ⟨hentry, hcode⟩ := hinside
      have hoffset : readWord info.data (4 * (i * 2 + 1)) = some (info.sliceOffset i) := if_pos (by omega)
      have hsizeWord : readWord info.data (4 * (i * 2 + 2)) = some (info.sliceSize i) := if_pos (by omega)
      simp only [hoffset, hsizeWord]
      rw [if_neg (by omega)]
      by_cases hgood : info.Good i
      · rw [if_neg (not_not.mpr hgood.1), if_neg (not_not.mpr hgood.2), Nat.mod_add_mod, ← totalBefore_succ, ih]
        simp only [hgood, EntryInside, hentry, hcode, true_and, true_implies, hshift]
      have hleft : (if (info.frame.drop (info.sliceOffset i)).take 4 ≠ startCode then some none
          else if info.sliceOffset i ≠ info.totalBefore i % 2 ^ 32 then some none
          else info.sliceLoop rounds (i + 1) ((info.totalBefore i % 2 ^ 32 + info.sliceSize i) % 2 ^ 32)) =
            some none := by
        by_cases hcodeMatches : (info.frame.drop (info.sliceOffset i)).take 4 = startCode
        · rw [if_neg (not_not.mpr hcodeMatches), if_pos fun hsame => hgood ⟨hcodeMatches, hsame⟩]
        · rw [if_pos hcodeMatches]
      rw [hleft]
      simp only [hgood, EntryInside, hentry, hcode, false_and, false_implies, if_true, if_false, and_true]
    · rw [if_neg fun h => hinside h.1]
      by_cases hentry : 8 * i + 12 ≤ info.data.length
      · have hoffset : readWord info.data (4 * (i * 2 + 1)) = some (info.sliceOffset i) := if_pos (by omega)
        have hcode : info.frame.length < info.sliceOffset i + 4 :=
          not_le.mp fun hcode => hinside ⟨hentry, hcode⟩
        simp only [hoffset, if_pos hcode]
      · have hoffset : readWord info.data (4 * (i * 2 + 1)) = none := if_neg (by omega)
        rw [hoffset]

open Classical in
theorem sliceLoop_start (hmatches : info.SizeMatches) :
    info.sliceLoop info.numSlices 0 0 =
      if ∀ k < info.numSlices, (∀ j < k, info.Good j) → info.EntryInside k then
        some (if ∀ k < info.numSlices, info.Good k then some (info.totalBefore info.numSlices % 2 ^ 32)
          else none)
      else none := by
  have hsize : info.data.length % 8 = 4 := by
    unfold SizeMatches at hmatches
    omega
  have hloop := info.sliceLoop_eq hsize info.numSlices 0
  simp only [Nat.zero_add] at hloop
  exact hloop

/-! ### Blocks that are parsed exactly -/

theorem numSlices_eq (hheader : 4 ≤ info.data.length) : readWord info.data 0 = some info.numSlices :=
  if_pos hheader

open Classical in
theorem parseSliceinfo_eq (hinside : info.ReadsInside) :
    info.parseSliceinfo = some (if info.SizeMatches ∧ (∀ k < info.numSlices, info.Good k) ∧
      info.totalBefore info.numSlices % 2 ^ 32 = info.frame.length then 0 else -1) := by
  obtain ⟨hheader, hslices⟩ := hinside
  rw [parseSliceinfo, info.numSlices_eq hheader]
  dsimp only
  rw [Nat.mul_comm info.numSlices 8]
  by_cases hmatches : info.SizeMatches
  · have hmatched : (4 + 8 * info.numSlices) % 2 ^ 32 = info.data.length := hmatches
    rw [if_neg (not_not.mpr hmatched), info.sliceLoop_start hmatches, if_pos (hslices hmatches)]
    by_cases hgood : ∀ k < info.numSlices, info.Good k
    · rw [if_pos hgood]
      by_cases htotal : info.totalBefore info.numSlices % 2 ^ 32 = info.frame.length
      · rw [if_pos ⟨hmatches, hgood, htotal⟩]
        exact if_neg (not_not.mpr htotal.symm)
      · rw [if_neg fun h => htotal h.2.2]
        exact if_pos (Ne.symm htotal)
    · rw [if_neg hgood, if_neg fun h => hgood h.2.1]
  · have hdiffers : (4 + 8 * info.numSlices) % 2 ^ 32 ≠ info.data.length := hmatches
    rw [if_pos hdiffers, if_neg fun h => hmatches h.1]

theorem parseSliceinfo_of_outside (hinside : ¬ info.ReadsInside) : info.parseSliceinfo = none := by
  rw [parseSliceinfo]
  by_cases hheader : 4 ≤ info.data.length
  · obtain ⟨hmatches, hslices⟩ := Classical.not_imp.mp fun h => hinside ⟨hheader, h⟩
    have hmatched : (4 + 8 * info.numSlices) % 2 ^ 32 = info.data.length := hmatches
    rw [info.numSlices_eq hheader]
    dsimp only
    rw [Nat.mul_comm info.numSlices 8, if_neg (not_not.mpr hmatched), info.sliceLoop_start hmatches,
      if_neg hslices]
  · rw [readWord, if_neg hheader]

theorem accepted_of_tiles (htiles : info.Tiles) :
    info.SizeMatches ∧ (∀ k < info.numSlices, info.Good k) ∧
      info.totalBefore info.numSlices % 2 ^ 32 = info.frame.length := by
  have hdata := info.data_lt
  have hframe := info.frame_lt
  have htotal := htiles.total
  refine ⟨?_, fun k hk => ⟨htiles.startCode k hk, ?_⟩, ?_⟩
  · rw [SizeMatches, ← htiles.dataSize, Nat.mod_eq_of_lt hdata]
  · have hle := info.totalBefore_mono hk.le
    rw [htiles.offset k hk, Nat.mod_eq_of_lt (by omega)]
  · rw [htotal, Nat.mod_eq_of_lt hframe]

theorem tiles_iff_of_accepted (hinside : info.ReadsInside) (hmatches : info.SizeMatches)
    (hgood : ∀ k < info.numSlices, info.Good k)
    (htotal : info.totalBefore info.numSlices % 2 ^ 32 = info.frame.length) :
    info.Tiles ↔ info.totalBefore info.numSlices < 2 ^ 32 := by
  constructor
  · intro htiles
    exact htiles.total ▸ info.frame_lt
  · intro hfits
    refine ⟨?_, fun k hk => ?_, fun k hk => (hgood k hk).1, ?_⟩
    · -- the last entry is read inside
      have hdata := info.data_lt
      have hentry := hinside.2 hmatches
      unfold SizeMatches at hmatches
      rcases Nat.eq_zero_or_pos info.numSlices with hnone | hsome
      · rw [hnone] at hmatches ⊢
        exact hmatches.symm
      · have hlast := (hentry (info.numSlices - 1) (by omega) fun j hj => hgood j (by omega)).1
        omega
    · have hle := info.totalBefore_mono hk.le
      rw [(hgood k hk).2, Nat.mod_eq_of_lt (by omega)]
    · rwa [Nat.mod_eq_of_lt hfits] at htotal

/-- A block is parsed exactly where each slice that is come to lies in the table and in the frame, and the sizes
of good slices do not wrap. -/
theorem parsesExactly_iff : info.ParsesExactly ↔ info.ReadsInside ∧ info.SizesFit := by
  by_cases hinside : info.ReadsInside
  · rw [ParsesExactly, info.parseSliceinfo_eq hinside, and_iff_right hinside]
    by_cases haccepted : info.SizeMatches ∧ (∀ k < info.numSlices, info.Good k) ∧
        info.totalBefore info.numSlices % 2 ^ 32 = info.frame.length
    · obtain ⟨hmatches, hgood, htotal⟩ := haccepted
      have htiles := info.tiles_iff_of_accepted hinside hmatches hgood htotal
      rw [if_pos ⟨hmatches, hgood, htotal⟩, SizesFit]
      simp only [Option.some.injEq, exists_eq_left', true_iff, htiles]
      exact ⟨fun hfits _ _ _ => hfits, fun hfits => hfits hmatches hgood htotal⟩
    · have htiles : ¬ info.Tiles := fun htiles => haccepted (info.accepted_of_tiles htiles)
      rw [if_neg haccepted]
      refine iff_of_true ⟨-1, rfl, iff_of_false (by decide) htiles⟩ fun hmatches hgood htotal => ?_
      exact absurd ⟨hmatches, hgood, htotal⟩ haccepted
  · refine iff_of_false ?_ fun h => hinside h.1
    rintro ⟨status, hstatus, -⟩
    rw [info.parseSliceinfo_of_outside hinside] at hstatus
    exact absurd hstatus (by simp)

def behindFrame : SliceInfo :=
  ⟨[1, 0, 0, 0, 8, 0, 0, 0, 8, 0, 0, 0], [0, 0, 0, 1, 0x65, 0, 0, 0], by decide, by decide⟩

def wrapping : SliceInfo :=
  ⟨[3, 0, 0, 0, 0, 0, 0, 0, 4, 0, 0, 0, 4, 0, 0, 0, 0xFC, 0xFF, 0xFF, 0xFF, 0, 0, 0, 0, 8, 0, 0, 0],
    [0, 0, 0, 1, 0, 0, 0, 1], by decide, by decide⟩

/-- The first block is read outside of the frame, the second one is accepted. -/
theorem parseSliceinfo_counterexample :
    (behindFrame.parseSliceinfo = none ∧ ¬ behindFrame.ParsesExactly) ∧
      wrapping.parseSliceinfo = some 0 ∧ ¬ wrapping.ParsesExactly := by
  have hnone : behindFrame.parseSliceinfo = none := by decide
  have haccepted : wrapping.parseSliceinfo = some 0 := by decide
  refine ⟨⟨hnone, ?_⟩, haccepted, ?_⟩
  · rintro ⟨status, hstatus, -⟩
    rw [hnone] at hstatus
    exact absurd hstatus (by simp)
  · rintro ⟨status, hstatus, hexact⟩
    rw [haccepted] at hstatus
    have htiles := hexact.mp (Option.some.inj hstatus).symm
    exact absurd (htiles.offset 2 (by decide)) (by decide)

end SliceInfo

end Nozomi
