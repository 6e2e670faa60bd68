import Mathlib.Order.MinMax
import Mathlib.Tactic.Ring

/-!
# Least and greatest in a fold

A loop that keeps the least or the greatest value it has met, from a first one on.
-/

namespace Nozomi

variable {ι α : Type*} [LinearOrder α] (value : ι → α) (items : List ι) (start bound : α)

theorem foldl_min_le_iff : items.foldl (fun least item => min least (value item)) start ≤ bound ↔
    start ≤ bound ∨ ∃ item ∈ items, value item ≤ bound := by
  induction items generalizing start with
  | nil => simp
  | cons item items ih =>
    rw [List.foldl_cons, ih, min_le_iff, or_assoc]
    simp only [List.mem_cons, exists_eq_or_imp]

theorem le_foldl_max_iff : bound ≤ items.foldl (fun greatest item => max greatest (value item)) start ↔
    bound ≤ start ∨ ∃ item ∈ items, bound ≤ value item := by
  induction items generalizing start with
  | nil => simp
  | cons item items ih =>
    rw [List.foldl_cons, ih, le_max_iff, or_assoc]
    simp only [List.mem_cons, exists_eq_or_imp]

theorem foldl_max_eq_start_iff :
    items.foldl (fun greatest item => max greatest (value item)) start = start ↔
      ∀ item ∈ items, value item ≤ start := by
  constructor
  · intro hstart item hitem
    rw [← hstart, le_foldl_max_iff]
    exact .inr ⟨item, hitem, le_refl _⟩
  · intro hle
    apply le_antisymm
    · rcases (le_foldl_max_iff value items start _).mp (le_refl _) with hfirst | ⟨item, hitem, hreach⟩
      · exact hfirst
      · exact hreach.trans (hle item hitem)
    · exact (le_foldl_max_iff value items start start).mpr (.inl (le_refl _))

end Nozomi
