import Mathlib.Data.List.FinRange
import Mathlib.Logic.Function.Basic
import Mathlib.Tactic.Ring

/-!
# Tables filled from the front

A table of cells in which an element is stored in the first free cell, unless a cell before it holds the
element already. As long as only the last element is taken out, the cells hold a list from the front.
-/

namespace Nozomi.Slots

variable {n : Nat} {α : Type*} [DecidableEq α] {cells : Fin n → Option α} {element : α}

def store (element : α) (cells : Fin n → Option α) : (Fin n → Option α) × Option (Fin n) :=
  match (List.finRange n).find? fun i => cells i == some element || cells i == none with
  | none => (cells, none)
  | some i => if cells i = none then (Function.update cells i (some element), some i) else (cells, none)

def contents (cells : Fin n → Option α) : List α := (List.finRange n).filterMap cells

end Nozomi.Slots
