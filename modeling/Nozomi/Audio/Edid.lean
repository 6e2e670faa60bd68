import Mathlib.Data.List.TakeWhile
import Nozomi.Base.Access
import Nozomi.Base.Extremes

/-!
# The channels that an HDMI sink supports

`platform_edid_get_max_channels` of the msm8660 platform, which reads the short audio descriptors of the
sink from a file. `int` and `size_t` have 32 bits, and words are stored with the low byte first. What a
short file leaves unread in the two variables is what the stack held before.
-/

namespace Nozomi

abbrev sadBytes : Nat := 30

/-- What the stack holds where the two variables are put. -/
structure EdidStack where
  header : Nat → BitVec 8
  block : Nat → BitVec 8

def isLpcm (first : BitVec 8) : Bool := first >>> 3 = 1

def lpcmChannels (first : BitVec 8) : Nat := (first &&& 7).toNat + 1

namespace EdidStack

variable (stack : EdidStack) (file : List (BitVec 8))

def fileLength : Int :=
  let byte := fun i => file.getD i (stack.header i)
  (byte 7 ++ byte 6 ++ byte 5 ++ byte 4 : BitVec 32).toInt

def length : Int := if stack.fileLength file > sadBytes then sadBytes else stack.fileLength file

def stored : List (BitVec 8) := (file.drop 8).take (BitVec.ofInt 32 (stack.length file)).toNat

def blockByte (i : Nat) : BitVec 8 := (stack.stored file).getD i (stack.block i)

def maxChannelsLoop (block : Nat → BitVec 8) : Nat → Nat → Nat → Nat
  | 0, _, maxChannels => maxChannels
  | rounds + 1, sad, maxChannels =>
    -- a descriptor in another format is not passed
    if !isLpcm (block sad) then maxChannelsLoop block rounds sad maxChannels
    else maxChannelsLoop block rounds (sad + 3) (max maxChannels (lpcmChannels (block sad)))

def loopReads (block : Nat → BitVec 8) : Nat → Nat → List (Access Unit)
  | 0, _ => []
  | rounds + 1, sad =>
    ⟨(), sad⟩ :: if !isLpcm (block sad) then loopReads block rounds sad else loopReads block rounds (sad + 3)

def numAudioBlocks : Nat := ((stack.length file).tdiv 3).toNat

def getMaxChannels : Option (List (BitVec 8)) → Nat
  | none => 0
  | some file => maxChannelsLoop (stack.blockByte file) (stack.numAudioBlocks file) 0 0

def blockAccesses : Option (List (BitVec 8)) → List (Access Unit)
  | none => []
  | some file => (List.range (stack.stored file).length).map (fun i => ⟨(), i⟩) ++
      loopReads (stack.blockByte file) (stack.numAudioBlocks file) 0

end EdidStack

/-! ### Descriptors -/

def greatestLpcm (firsts : List (BitVec 8)) : Nat :=
  (firsts.filter isLpcm).foldl (fun greatest first => max greatest (lpcmChannels first)) 0

/-- The descriptors in LPCM behind the first one in another format have no more channels than one before. -/
def EarlyGreatest (firsts : List (BitVec 8)) : Prop :=
  ∀ late ∈ firsts.dropWhile isLpcm, isLpcm late → ∃ early ∈ firsts.takeWhile isLpcm,
    lpcmChannels late ≤ lpcmChannels early

theorem filter_eq_takeWhile_append {α : Type*} (keep : α → Bool) (items : List α) :
    items.filter keep = items.takeWhile keep ++ (items.dropWhile keep).filter keep := by
  have hall : (items.takeWhile keep).filter keep = items.takeWhile keep :=
    List.filter_eq_self.mpr fun _ hmem => List.mem_takeWhile_imp hmem
  have hsplit := congrArg (List.filter keep) (List.takeWhile_append_dropWhile (p := keep) (l := items))
  rw [← hsplit, List.filter_append, hall]

theorem foldl_takeWhile_eq_iff (firsts : List (BitVec 8)) :
    (firsts.takeWhile isLpcm).foldl (fun greatest first => max greatest (lpcmChannels first)) 0 =
      greatestLpcm firsts ↔ EarlyGreatest firsts := by
  rw [greatestLpcm, filter_eq_takeWhile_append, List.foldl_append, eq_comm, foldl_max_eq_start_iff]
  simp only [le_foldl_max_iff, List.mem_filter, and_imp, EarlyGreatest]
  have hpos (first : BitVec 8) : ¬lpcmChannels first ≤ 0 := by simp [lpcmChannels]
  simp only [hpos, false_or]

namespace EdidStack

def firstsFrom (block : Nat → BitVec 8) (sad count : Nat) : List (BitVec 8) :=
  (List.range count).map fun i => block (sad + 3 * i)

variable (block : Nat → BitVec 8)

theorem firstsFrom_succ (sad count : Nat) :
    firstsFrom block sad (count + 1) = block sad :: firstsFrom block (sad + 3) count := by
  rw [firstsFrom, List.range_succ_eq_map, List.map_cons, List.map_map]
  congr 1
  refine List.map_congr_left fun i _ => congrArg block ?_
  omega

theorem maxChannelsLoop_of_not_isLpcm {block : Nat → BitVec 8} {sad : Nat} (hother : isLpcm (block sad) = false)
    (rounds maxChannels : Nat) : maxChannelsLoop block rounds sad maxChannels = maxChannels := by
  induction rounds with
  | zero => rfl
  | succ rounds ih => simp [maxChannelsLoop, hother, ih]

theorem maxChannelsLoop_eq (rounds sad maxChannels : Nat) :
    maxChannelsLoop block rounds sad maxChannels =
      ((firstsFrom block sad rounds).takeWhile isLpcm).foldl
        (fun greatest first => max greatest (lpcmChannels first)) maxChannels := by
  induction rounds generalizing sad maxChannels with
  | zero => rfl
  | succ rounds ih =>
    rw [firstsFrom_succ]
    cases hfirst : isLpcm (block sad) with
    | false => simp [maxChannelsLoop_of_not_isLpcm hfirst, hfirst]
    | true => simp [maxChannelsLoop, hfirst, ih]

theorem loopReads_inBounds (rounds sad : Nat) (hroom : sad + 3 * rounds ≤ sadBytes) :
    InBounds (fun _ => sadBytes) (loopReads block rounds sad) := by
  induction rounds generalizing sad with
  | zero => exact inBounds_nil
  | succ rounds ih =>
    rw [loopReads, inBounds_cons]
    have hindex : (sad : Int) < sadBytes := by omega
    refine ⟨⟨Int.natCast_nonneg sad, hindex⟩, ?_⟩
    split
    · exact ih _ (by omega)
    · exact ih _ (by omega)

variable (stack : EdidStack) (file : List (BitVec 8))

theorem numAudioBlocks_eq : stack.numAudioBlocks file = (stack.length file).toNat / 3 := by
  unfold numAudioBlocks
  cases stack.length file with
  | ofNat size => rfl
  | negSucc size =>
    -- the quotient is the negated quotient of the numbers
    have hquotient : (Int.negSucc size).tdiv 3 = -(((size + 1) / 3 : Nat) : Int) := rfl
    rw [hquotient]
    simp only [Int.toNat_negSucc]
    omega

theorem length_le : stack.length file ≤ sadBytes := by
  unfold length
  split <;> omega

theorem blockAccesses_inBounds_iff : InBounds (fun _ => sadBytes) (stack.blockAccesses (some file)) ↔
    ¬(stack.fileLength file < 0 ∧ 8 + sadBytes < file.length) := by
  have hbytes : sadBytes = 30 := rfl
  have hle := stack.length_le file
  have hrounds := stack.numAudioBlocks_eq file
  have hreads := loopReads_inBounds (stack.blockByte file) (stack.numAudioBlocks file) 0 (by omega)
  have hwrites : InBounds (fun _ => sadBytes)
      ((List.range (stack.stored file).length).map fun (i : Nat) => (⟨(), (i : Int)⟩ : Access Unit)) ↔
      (stack.stored file).length ≤ sadBytes := by
    simp only [InBounds, List.forall_mem_map, List.mem_range]
    constructor
    · intro hall
      by_contra hmore
      have hlast := (hall sadBytes (by omega)).2
      omega
    · intro hle i hi
      omega
  rw [blockAccesses, inBounds_append, hwrites, and_iff_left hreads, stored, List.length_take,
    List.length_drop, BitVec.toNat_ofInt]
  have hlower : -2 ^ 31 ≤ stack.fileLength file := BitVec.le_toInt _
  unfold length at hle ⊢
  split at hle <;> omega

def HoldsDescriptors (count : Nat) : Prop :=
  stack.fileLength file = 3 * count ∧ 8 + 3 * count ≤ file.length

instance (count : Nat) : Decidable (stack.HoldsDescriptors file count) :=
  inferInstanceAs (Decidable (stack.fileLength file = 3 * count ∧ 8 + 3 * count ≤ file.length))

def descriptorFirsts (file : List (BitVec 8)) (count : Nat) : List (BitVec 8) :=
  (List.range count).map fun i => file.getD (8 + 3 * i) 0

theorem getMaxChannels_of_holds {count : Nat} (hcount : count ≤ 10)
    (hholds : stack.HoldsDescriptors file count) :
    stack.getMaxChannels (some file) = ((descriptorFirsts file count).takeWhile isLpcm).foldl
      (fun greatest first => max greatest (lpcmChannels first)) 0 := by
  obtain ⟨hlength, hroom⟩ := hholds
  have hclamped : stack.length file = 3 * count := by
    have hbytes : sadBytes = 30 := rfl
    rw [length, if_neg (by omega), hlength]
  have hrounds : stack.numAudioBlocks file = count := by
    rw [numAudioBlocks_eq, hclamped]
    omega
  have hword : (BitVec.ofInt 32 (stack.length file)).toNat = 3 * count := by
    rw [BitVec.toNat_ofInt, hclamped]
    omega
  have hfirsts : firstsFrom (stack.blockByte file) 0 count = descriptorFirsts file count := by
    refine List.map_congr_left fun i hi => ?_
    have hlt := List.mem_range.mp hi
    have hread : (stack.stored file)[0 + 3 * i]? = file[8 + 3 * i]? := by
      rw [stored, hword, List.getElem?_take_of_lt (by omega), List.getElem?_drop, Nat.zero_add]
    rw [blockByte, List.getD_eq_getElem?_getD, hread, List.getD_eq_getElem?_getD,
      List.getElem?_eq_getElem (by omega)]
    rfl
  rw [getMaxChannels, maxChannelsLoop_eq, hrounds, hfirsts]

/-- The function stays in `block`, and finds the greatest number of channels of a file with up to ten
descriptors, if and only if no negative length comes with more bytes than `block` has, and the greatest
number stands before the first descriptor in another format. -/
theorem getMaxChannels_iff :
    (InBounds (fun _ => sadBytes) (stack.blockAccesses (some file)) ∧
      ∀ count ≤ 10, stack.HoldsDescriptors file count →
        stack.getMaxChannels (some file) = greatestLpcm (descriptorFirsts file count)) ↔
    ¬(stack.fileLength file < 0 ∧ 8 + sadBytes < file.length) ∧
      ∀ count ≤ 10, stack.HoldsDescriptors file count → EarlyGreatest (descriptorFirsts file count) := by
  rw [blockAccesses_inBounds_iff]
  refine and_congr_right fun _ => forall_congr' fun count => forall_congr' fun hcount =>
    forall_congr' fun hholds => ?_
  rw [stack.getMaxChannels_of_holds file hcount hholds, foldl_takeWhile_eq_iff]

def zero : EdidStack := ⟨fun _ => 0, fun _ => 0⟩

def ac3First : List (BitVec 8) := [0, 0, 0, 0, 6, 0, 0, 0, 0x15, 7, 80, 0x09, 7, 7]

def negativeLength : List (BitVec 8) := [0, 0, 0, 0, 0xFF, 0xFF, 0xFF, 0xFF] ++ List.replicate 31 0

/-- The loop does not come past the first descriptor: it finds no channels where there are two. -/
theorem ac3First_missed : zero.HoldsDescriptors ac3First 2 ∧ zero.getMaxChannels (some ac3First) = 0 ∧
    greatestLpcm (descriptorFirsts ac3First 2) = 2 ∧
    ¬InBounds (fun _ => sadBytes) (zero.blockAccesses (some negativeLength)) := by
  refine ⟨by decide, by decide, by decide, ?_⟩
  rw [blockAccesses_inBounds_iff]
  decide

end EdidStack

end Nozomi
