import Mathlib.Data.List.Basic
import Mathlib.Data.List.Range
import Mathlib.Tactic.Ring

/-!
# Scans

A scan walks over the positions of an input from the front, collects the positions with a property and
jumps over those behind a hit that cannot have it. What it has collected at a position is the filter of
the positions before.
-/

namespace Nozomi

variable {p : Nat → Bool} {position stride : Nat}

theorem filter_range_skip (hskip : ∀ other, position ≤ other → other < position + stride →
      p other = false) :
    (List.range (position + stride)).filter p = (List.range position).filter p := by
  have hnone : ((List.range stride).map (position + ·)).filter p = [] := by
    rw [List.filter_eq_nil_iff]
    intro other hother
    obtain ⟨step, hstep, rfl⟩ := List.mem_map.mp hother
    have := List.mem_range.mp hstep
    rw [hskip (position + step) (by omega) (by omega)]
    exact Bool.false_ne_true
  rw [List.range_add, List.filter_append, hnone, List.append_nil]

theorem filter_range_hit (hstride : 0 < stride) (hhit : p position = true)
    (hskip : ∀ other, position < other → other < position + stride → p other = false) :
    (List.range (position + stride)).filter p = (List.range position).filter p ++ [position] := by
  have hsplit : position + stride = position + 1 + (stride - 1) := by omega
  rw [hsplit, filter_range_skip (fun other hleft hright => hskip other (by omega) (by omega)),
    List.range_succ, List.filter_append]
  simp [hhit]

theorem find?_later {before after : List Nat} {current : Nat}
    (hordered : (before ++ current :: after).Pairwise (· < ·)) :
    (before ++ current :: after).find? (current < ·) = after.head? := by
  obtain ⟨-, hafter, hbefore⟩ := List.pairwise_append.mp hordered
  have hnone : before.find? (current < ·) = none := by
    rw [List.find?_eq_none]
    intro other hother
    have := hbefore other hother current List.mem_cons_self
    simp only [decide_eq_true_eq]
    omega
  rw [List.find?_append, hnone, Option.none_or, List.find?_cons_of_neg (by simp)]
  cases after with
  | nil => rfl
  | cons next after =>
    have hnext := (List.pairwise_cons.mp hafter).1 next List.mem_cons_self
    rw [List.find?_cons_of_pos (by simpa using hnext), List.head?_cons]

end Nozomi
