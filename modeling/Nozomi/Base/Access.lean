import Mathlib.Data.List.Basic
import Mathlib.Tactic.Ring

/-!
# Accesses to arrays

What a function does to arrays of fixed length, as the list of its accesses, each with the index it uses.
The lists of the steps of a function are put together with the operations of lists, and so are the proofs
that they stay in bounds.
-/

namespace Nozomi

universe u v

structure Access (arrays : Type u) where
  array : arrays
  index : Int

section

variable {arrays : Type u} (size : arrays → Nat)

def InBounds (accesses : List (Access arrays)) : Prop :=
  ∀ access ∈ accesses, 0 ≤ access.index ∧ access.index < size access.array

instance (accesses : List (Access arrays)) : Decidable (InBounds size accesses) :=
  inferInstanceAs (Decidable (∀ access ∈ accesses, 0 ≤ access.index ∧ access.index < size access.array))

variable {size}

@[simp] theorem inBounds_nil : InBounds size ([] : List (Access arrays)) := by
  intro access haccess
  cases haccess

@[simp] theorem inBounds_cons (access : Access arrays) (accesses : List (Access arrays)) :
    InBounds size (access :: accesses) ↔
      (0 ≤ access.index ∧ access.index < size access.array) ∧ InBounds size accesses :=
  List.forall_mem_cons

@[simp] theorem inBounds_append (first second : List (Access arrays)) :
    InBounds size (first ++ second) ↔ InBounds size first ∧ InBounds size second :=
  List.forall_mem_append

@[simp] theorem inBounds_flatMap {α : Type v} (steps : List α) (accesses : α → List (Access arrays)) :
    InBounds size (steps.flatMap accesses) ↔ ∀ step ∈ steps, InBounds size (accesses step) :=
  List.forall_mem_flatMap

@[simp] theorem inBounds_ite (condition : Prop) [Decidable condition]
    (first second : List (Access arrays)) :
    InBounds size (if condition then first else second) ↔
      (condition → InBounds size first) ∧ (¬condition → InBounds size second) := by
  split <;> simp [*]

end

end Nozomi
