import Mathlib.Data.List.Basic
import Mathlib.Data.List.GetD
import Mathlib.Logic.Function.Basic
import Mathlib.Tactic.Ring

/-!
# Recorders

A ring of cells that is overwritten in turn, so that it keeps the last elements that were recorded. The index
of the next cell may be left behind the last cell, and wraps when the next element is recorded.
-/

namespace Nozomi

universe u

/-- The cells of a ring and the index of the next one. -/
structure Recorder (α : Type u) where
  cells : Nat → α
  next : Nat

namespace Recorder

variable {α : Type u} {capacity : Nat} {filling : α} {recorder : Recorder α} {history : List α}

def record (capacity : Nat) (recorder : Recorder α) (element : α) : Recorder α :=
  let next := if capacity ≤ recorder.next then 0 else recorder.next
  ⟨Function.update recorder.cells next element, next + 1⟩

def recent (filling : α) (history : List α) (age : Nat) : α := history.reverse.getD age filling

def lastElements (filling : α) (count : Nat) (history : List α) : List α :=
  (List.replicate count filling ++ history).drop history.length

def age (capacity next cell : Nat) : Nat := if cell < next then next - 1 - cell else next + capacity - 1 - cell

/-- The cells hold the last elements of a history. -/
structure Keeps (capacity : Nat) (filling : α) (recorder : Recorder α) (history : List α) : Prop where
  next_le : recorder.next ≤ capacity
  cells_eq : ∀ cell < capacity, recorder.cells cell = recent filling history (age capacity recorder.next cell)

theorem recent_append_zero (element : α) : recent filling (history ++ [element]) 0 = element := by
  simp [recent]

theorem recent_append_succ (element : α) (age : Nat) :
    recent filling (history ++ [element]) (age + 1) = recent filling history age := by
  simp [recent]

theorem lastElements_eq (count : Nat) :
    lastElements filling count history =
      (List.range count).map fun i => recent filling history (count - 1 - i) := by
  unfold lastElements
  apply List.ext_getElem
  · simp
  intro i hi _
  have hcount : i < count := by simpa using hi
  rw [List.getElem_map, List.getElem_range, recent, List.getElem_drop]
  by_cases hold : history.length + i < count
  · rw [List.getElem_append_left (by simpa using hold), List.getElem_replicate,
      List.getD_eq_default _ _ (by rw [List.length_reverse]; omega)]
  · have hage : count - 1 - i < history.reverse.length := by rw [List.length_reverse]; omega
    rw [List.getElem_append_right (by simpa using hold), List.getD_eq_getElem _ _ hage, List.getElem_reverse]
    congr 1
    rw [List.length_replicate]
    omega

theorem Keeps.empty (capacity : Nat) (filling : α) : Keeps capacity filling ⟨fun _ => filling, 0⟩ [] :=
  ⟨Nat.zero_le capacity, fun _ _ => by simp [recent]⟩

theorem Keeps.record (hpos : 0 < capacity) (hkeeps : recorder.Keeps capacity filling history) (element : α) :
    (recorder.record capacity element).Keeps capacity filling (history ++ [element]) := by
  obtain ⟨hnext, hcells⟩ := hkeeps
  unfold Recorder.record
  dsimp only
  generalize hindex : (if capacity ≤ recorder.next then 0 else recorder.next) = index
  have hlt : index < capacity := by
    rw [← hindex]
    split <;> omega
  refine ⟨hlt, fun cell hcell => ?_⟩
  show Function.update recorder.cells index element cell =
    recent filling (history ++ [element]) (age capacity (index + 1) cell)
  by_cases hsame : cell = index
  · subst hsame
    rw [Function.update_self, age, if_pos (Nat.lt_succ_self cell), Nat.add_sub_cancel, Nat.sub_self,
      recent_append_zero]
  · -- an older element: its age was one less before
    have hage : age capacity (index + 1) cell = age capacity recorder.next cell + 1 := by
      unfold age
      split at hindex <;> split <;> split <;> omega
    rw [Function.update_of_ne hsame, hcells cell hcell, hage, recent_append_succ]

theorem Keeps.recordAll (hpos : 0 < capacity) (elements : List α) :
    ∀ (recorder : Recorder α) (history : List α), recorder.Keeps capacity filling history →
      (elements.foldl (Recorder.record capacity) recorder).Keeps capacity filling (history ++ elements) := by
  induction elements with
  | nil =>
    intro recorder history hkeeps
    rwa [List.append_nil]
  | cons element elements ih =>
    intro recorder history hkeeps
    rw [List.foldl_cons, ← List.singleton_append, ← List.append_assoc]
    exact ih _ _ (hkeeps.record hpos element)

end Recorder

end Nozomi
