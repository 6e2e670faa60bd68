import Mathlib.Data.Multiset.Fold
import Mathlib.Order.Lattice
import Mathlib.Tactic.Ring

/-!
# Queues of multisets

A queue whose places hold multisets: values are added at its last place, a new place is opened behind
it, and the least value of the first place that has one is removed.
-/

namespace Nozomi

variable {α : Type*}

def addLast (queue : List (Multiset α)) (value : α) : List (Multiset α) :=
  queue.dropLast ++ [value ::ₘ queue.getLastD 0]

def openLast (queue : List (Multiset α)) : List (Multiset α) := queue ++ [0]

theorem addLast_concat (queue : List (Multiset α)) (values : Multiset α) (value : α) :
    addLast (queue ++ [values]) value = queue ++ [value ::ₘ values] := by
  simp [addLast]

variable [LinearOrder α]

def leastOf (values : Multiset α) : Option α :=
  (values.map some).fold (Option.merge min) none

@[simp] theorem leastOf_zero : leastOf (0 : Multiset α) = none := rfl

theorem leastOf_cons (value : α) (values : Multiset α) :
    leastOf (value ::ₘ values) = Option.merge min (some value) (leastOf values) := by
  rw [leastOf, Multiset.map_cons, Multiset.fold_cons_left]
  rfl

theorem leastOf_eq_none_iff {values : Multiset α} : leastOf values = none ↔ values = 0 := by
  induction values using Multiset.induction_on with
  | empty => simp
  | cons value values ih =>
    rw [leastOf_cons]
    cases leastOf values <;> simp [Option.merge]

theorem leastOf_eq_some_iff {values : Multiset α} {least : α} :
    leastOf values = some least ↔ least ∈ values ∧ ∀ value ∈ values, least ≤ value := by
  induction values using Multiset.induction_on generalizing least with
  | empty => simp
  | cons head values ih =>
    rw [leastOf_cons]
    cases hrest : leastOf values with
    | none =>
      obtain rfl := leastOf_eq_none_iff.mp hrest
      simp only [Option.merge, Option.some.injEq, Multiset.cons_zero, Multiset.mem_singleton,
        forall_eq]
      constructor
      · rintro rfl
        exact ⟨rfl, le_refl _⟩
      · exact fun hleast => hleast.1.symm
    | some first =>
      obtain ⟨hmem, hle⟩ := ih.mp hrest
      simp only [Option.merge, Option.some.injEq, Multiset.mem_cons, forall_eq_or_imp]
      constructor
      · rintro rfl
        refine ⟨?_, min_le_left _ _, fun value hvalue => (min_le_right _ _).trans (hle value hvalue)⟩
        rcases min_choice head first with hmin | hmin
        · exact .inl hmin
        · exact .inr (by rwa [hmin])
      · rintro ⟨hleast | hleast, hhead, hall⟩
        · rw [hleast]
          exact min_eq_left (hleast ▸ hall first hmem)
        · rw [min_eq_right ((hle least hleast).trans hhead)]
          exact le_antisymm (hle least hleast) (hall first hmem)

def removeLeast : List (Multiset α) → List (Multiset α) × Option α
  | [] => ([], none)
  | values :: queue =>
    match leastOf values with
    | some least => (values.erase least :: queue, some least)
    | none => (values :: (removeLeast queue).1, (removeLeast queue).2)

theorem removeLeast_zeros (count : Nat) (queue : List (Multiset α)) :
    removeLeast (List.replicate count 0 ++ queue) =
      (List.replicate count 0 ++ (removeLeast queue).1, (removeLeast queue).2) := by
  induction count with
  | zero => rfl
  | succ count ih =>
    rw [List.replicate_succ, List.cons_append, removeLeast, leastOf_zero, ih]
    rfl

theorem removeLeast_of_zeros {queue : List (Multiset α)} (hzeros : ∀ values ∈ queue, values = 0) :
    removeLeast queue = (queue, none) := by
  rw [List.eq_replicate_of_mem hzeros]
  have hstep := removeLeast_zeros queue.length ([] : List (Multiset α))
  rwa [List.append_nil, removeLeast, List.append_nil] at hstep

theorem removeLeast_eq_none_iff {queue : List (Multiset α)} :
    (removeLeast queue).2 = none ↔ ∀ values ∈ queue, values = 0 := by
  induction queue with
  | nil => simp [removeLeast]
  | cons values queue ih =>
    rw [removeLeast]
    cases hleast : leastOf values with
    | none => simp [ih, leastOf_eq_none_iff.mp hleast]
    | some least =>
      have hne : values ≠ 0 := by
        rintro rfl
        simp at hleast
      simp [hne]

end Nozomi
