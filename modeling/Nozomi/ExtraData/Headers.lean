import Nozomi.Vdec.Component.ExtradataWalk

/-!
# The headers of the extra data

The loop of `parse_extra_data` of `extra_data_handler.cpp` goes from header to header by their `nSize`, in the
memory of the encoder's output buffer. `OMX_BUFFERFLAG_EXTRADATA`, which says that there are any, is given.
-/

namespace Nozomi

namespace ExtradataBuffer

variable (buffer : ExtradataBuffer) (memory : ExtradataMemory)

/-- A header is looked at: the address is not null and in front of the end of the buffer. -/
def LooksAt (header : BitVec 32) : Prop := header ≠ 0 ∧ header < buffer.bound

instance : DecidablePred buffer.LooksAt := fun _ => inferInstanceAs (Decidable (_ ∧ _))

def goesOn (header : BitVec 32) : Bool := buffer.LooksAt header ∧ memory.eType header ≠ vdecExtradataNone

def headers (fuel : Nat) : List (BitVec 32) :=
  whileStates (buffer.goesOn memory) memory.next fuel buffer.first

/-- The loop ends, each iteration advances the pointer, and each header that is looked at is in the buffer. -/
structure WalksForward : Prop where
  ends : ∃ fuel, buffer.goesOn memory (whileLoop (buffer.goesOn memory) memory.next fuel buffer.first) = false
  advances : ∀ fuel, ∀ header ∈ buffer.headers memory fuel, buffer.goesOn memory header = true →
    header.toNat < (memory.next header).toNat
  inside : ∀ fuel, ∀ header ∈ buffer.headers memory fuel, buffer.LooksAt header →
    buffer.pBuffer.toNat ≤ header.toNat ∧ header.toNat < buffer.pBuffer.toNat + buffer.nAllocLen.toNat

def HasExtraData (flagExtradata : BitVec 32) : Prop := buffer.nFlags &&& flagExtradata ≠ 0

instance (flagExtradata : BitVec 32) : Decidable (buffer.HasExtraData flagExtradata) :=
  inferInstanceAs (Decidable (_ ≠ _))

/-- The first header, if it is looked at, is not in front of the buffer. -/
def StartsInside : Prop := buffer.LooksAt buffer.first → buffer.pBuffer.toNat ≤ buffer.first.toNat

/-- A header has a size, which does not carry its address past the end of the memory. -/
def SizeAdvances (header : BitVec 32) : Prop :=
  0 < (memory.nSize header).toNat ∧ header.toNat + (memory.nSize header).toNat < 2 ^ 32

variable {buffer memory}

theorem next_gt_iff {header : BitVec 32} :
    header.toNat < (memory.next header).toNat ↔ SizeAdvances memory header := by
  have hheader := header.isLt
  have hsize := (memory.nSize header).isLt
  rw [SizeAdvances, ExtradataMemory.next, BitVec.toNat_add]
  omega

theorem walksForward_iff :
    buffer.WalksForward memory ↔ buffer.StartsInside ∧
      ∀ fuel, ∀ header ∈ buffer.headers memory fuel, buffer.goesOn memory header = true →
        SizeAdvances memory header := by
  constructor
  · intro hforward
    refine ⟨fun hlooks => (hforward.inside 0 _ List.mem_cons_self hlooks).1, ?_⟩
    intro fuel header hheader hgoesOn
    exact next_gt_iff.mp (hforward.advances fuel header hheader hgoesOn)
  · rintro ⟨hfirst, hadvances⟩
    have hless : ∀ fuel, ∀ header ∈ buffer.headers memory fuel, buffer.goesOn memory header = true →
        header.toNat < (memory.next header).toNat :=
      fun fuel header hheader hgoesOn => next_gt_iff.mpr (hadvances fuel header hheader hgoesOn)
    refine ⟨?_, hless, ?_⟩
    · refine whileLoop_ends_of_visited (fun header => 2 ^ 32 - header.toNat) ?_
      intro fuel header hheader hgoesOn
      have hnext := hless fuel header hheader hgoesOn
      have hlt := (memory.next header).isLt
      omega
    · intro fuel header hheader hlooks
      have hstart : buffer.first.toNat ≤ header.toNat := by
        refine @whileStates_of_visited _ (buffer.goesOn memory) memory.next
          (fun header => buffer.first.toNat ≤ header.toNat) fuel buffer.first le_rfl ?_ header hheader
        intro later visited hvisited hgoesOn hle
        exact hle.trans (hless later visited hvisited hgoesOn).le
      have hend := BitVec.lt_def.mp hlooks.2
      have hbound : buffer.bound.toNat ≤ buffer.pBuffer.toNat + buffer.nAllocLen.toNat := by
        rw [ExtradataBuffer.bound, BitVec.toNat_add]
        exact Nat.mod_le _ _
      -- from a null pointer the loop does not go on
      have hnotNull : buffer.first ≠ 0 := by
        intro hnull
        have hstops : buffer.goesOn memory buffer.first = false := by simp [goesOn, LooksAt, hnull]
        rw [headers, whileStates_of_not hstops, List.mem_singleton] at hheader
        exact hlooks.1 (hheader.trans hnull)
      have hbefore : buffer.first < buffer.bound := BitVec.lt_def.mpr (hstart.trans_lt hend)
      have hlow := hfirst ⟨hnotNull, hbefore⟩
      omega

def emptyOutput : ExtradataBuffer := ⟨0x40000000, 0, 0, 0x10000, 0x40⟩

end ExtradataBuffer

end Nozomi
