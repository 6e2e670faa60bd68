import Mathlib.Data.Multiset.AddSub
import Mathlib.Tactic.Ring

/-!
# A counter of what is under way

A counter is raised when a value sets out and lowered when the value arrives. Beside it stands the multiset of
the values that were counted and did not arrive. As long as it covers the values that are still expected, the
counter is its size.
-/

namespace Nozomi

variable {α : Type*}

/-- The counter is the number of the counted values, and these cover the expected ones. -/
def Balanced (counter : Int) (counted expected : Multiset α) : Prop :=
  counter = counted.card ∧ expected ≤ counted

namespace Balanced

variable {counter : Int} {counted expected : Multiset α}

theorem zero : Balanced 0 (0 : Multiset α) 0 := ⟨rfl, le_refl 0⟩

theorem nonneg (hbalanced : Balanced counter counted expected) : 0 ≤ counter := by
  rw [hbalanced.1]
  exact Int.natCast_nonneg _

theorem raise (hbalanced : Balanced counter counted expected) (value : α) :
    Balanced (counter + 1) (value ::ₘ counted) (value ::ₘ expected) := by
  constructor
  · rw [hbalanced.1, Multiset.card_cons]
    omega
  · exact Multiset.cons_le_cons value hbalanced.2

theorem lower [DecidableEq α] {value : α} (hbalanced : Balanced counter counted (value ::ₘ expected)) :
    Balanced (counter - 1) (counted.erase value) expected := by
  have hmem : value ∈ counted := Multiset.mem_of_le hbalanced.2 (Multiset.mem_cons_self value expected)
  constructor
  · have hcard := Multiset.card_erase_add_one hmem
    rw [hbalanced.1]
    omega
  · have herase := Multiset.erase_le_erase value hbalanced.2
    rwa [Multiset.erase_cons_head] at herase

theorem mono {fewer : Multiset α} (hbalanced : Balanced counter counted expected) (hle : fewer ≤ expected) :
    Balanced counter counted fewer :=
  ⟨hbalanced.1, hle.trans hbalanced.2⟩

theorem raise_lower (hbalanced : Balanced counter counted expected) :
    Balanced (counter + 1 - 1) counted expected := by
  rwa [Int.add_sub_cancel]

end Balanced

end Nozomi
