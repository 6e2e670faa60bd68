import Mathlib.Tactic.Ring

/-!
# Loops

A `while` loop, run for a number of iterations at most, with the two rules its uses need: an invariant
of the body holds at the end, and with a measure that the body lowers the test fails there. The states
in which the test is made are a list.
-/

namespace Nozomi

universe u

variable {σ : Type u} {test : σ → Bool} {body : σ → σ}

def whileLoop (test : σ → Bool) (body : σ → σ) : Nat → σ → σ
  | 0, state => state
  | fuel + 1, state => if test state then whileLoop test body fuel (body state) else state

variable {state : σ} {invariant : σ → Prop}

theorem whileLoop_of_not (htest : test state = false) (fuel : Nat) : whileLoop test body fuel state = state := by
  cases fuel with
  | zero => rfl
  | succ fuel => rw [whileLoop, htest, if_neg Bool.false_ne_true]

theorem whileLoop_invariant (hbody : ∀ state, invariant state → test state = true → invariant (body state))
    (fuel : Nat) : ∀ state, invariant state → invariant (whileLoop test body fuel state) := by
  induction fuel with
  | zero => exact fun state hstate => hstate
  | succ fuel ih =>
    intro state hstate
    rw [whileLoop]
    split
    · exact ih _ (hbody state hstate ‹_›)
    · exact hstate

theorem whileLoop_exit (measure : σ → Nat)
    (hbody : ∀ state, invariant state → test state = true → invariant (body state))
    (hless : ∀ state, invariant state → test state = true → measure (body state) < measure state) (fuel : Nat) :
    ∀ state, invariant state → measure state < fuel →
      test (whileLoop test body fuel state) = false := by
  induction fuel with
  | zero => exact fun state _ hfuel => absurd hfuel (Nat.not_lt_zero _)
  | succ fuel ih =>
    intro state hstate hfuel
    rw [whileLoop]
    split
    · have htest : test state = true := ‹_›
      have := hless state hstate htest
      exact ih _ (hbody state hstate htest) (by omega)
    · exact Bool.eq_false_iff.mpr ‹_›

theorem whileLoop_related {τ : Type*} {otherTest : τ → Bool} {otherBody : τ → τ} {relation : σ → τ → Prop}
    (htest : ∀ state other, relation state other → otherTest other = test state)
    (hbody : ∀ state other, relation state other → test state = true →
      relation (body state) (otherBody other)) (fuel : Nat) :
    ∀ state other, relation state other →
      relation (whileLoop test body fuel state) (whileLoop otherTest otherBody fuel other) := by
  induction fuel with
  | zero => exact fun state other hrelated => hrelated
  | succ fuel ih =>
    intro state other hrelated
    rw [whileLoop, whileLoop, htest state other hrelated]
    by_cases hrunning : test state = true
    · rw [if_pos hrunning, if_pos hrunning]
      exact ih _ _ (hbody state other hrelated hrunning)
    · rw [if_neg hrunning, if_neg hrunning]
      exact hrelated

def whileStates (test : σ → Bool) (body : σ → σ) : Nat → σ → List σ
  | 0, state => [state]
  | fuel + 1, state => state :: if test state then whileStates test body fuel (body state) else []

theorem whileStates_of_not (htest : test state = false) (fuel : Nat) :
    whileStates test body fuel state = [state] := by
  cases fuel with
  | zero => rfl
  | succ fuel => rw [whileStates, htest, if_neg Bool.false_ne_true]

theorem whileStates_invariant (hbody : ∀ state, invariant state → test state = true → invariant (body state))
    (fuel : Nat) : ∀ state, invariant state → ∀ visited ∈ whileStates test body fuel state, invariant visited := by
  induction fuel with
  | zero =>
    intro state hstate visited hvisited
    rw [whileStates, List.mem_singleton] at hvisited
    exact hvisited ▸ hstate
  | succ fuel ih =>
    intro state hstate visited hvisited
    rw [whileStates, List.mem_cons] at hvisited
    rcases hvisited with rfl | hvisited
    · exact hstate
    · split at hvisited
      · exact ih _ (hbody state hstate ‹_›) visited hvisited
      · cases hvisited

theorem mem_whileStates_of_body {fuel : Nat} {visited : σ} (htest : test state = true)
    (hvisited : visited ∈ whileStates test body fuel (body state)) :
    visited ∈ whileStates test body (fuel + 1) state := by
  rw [whileStates, if_pos htest]
  exact List.mem_cons_of_mem _ hvisited

theorem forall_whileStates_iff (htest : test state = true) :
    (∀ fuel, ∀ visited ∈ whileStates test body fuel state, invariant visited) ↔
      invariant state ∧ ∀ fuel, ∀ visited ∈ whileStates test body fuel (body state), invariant visited := by
  constructor
  · intro hall
    exact ⟨hall 0 state List.mem_cons_self, fun fuel visited hvisited =>
      hall (fuel + 1) visited (mem_whileStates_of_body htest hvisited)⟩
  · rintro ⟨hstate, hlater⟩ fuel visited hvisited
    cases fuel with
    | zero =>
      rw [whileStates, List.mem_singleton] at hvisited
      exact hvisited ▸ hstate
    | succ fuel =>
      rw [whileStates, if_pos htest, List.mem_cons] at hvisited
      rcases hvisited with rfl | hvisited
      · exact hstate
      · exact hlater fuel visited hvisited

theorem whileStates_of_visited (fuel : Nat) :
    ∀ state, invariant state →
      (∀ fuel, ∀ visited ∈ whileStates test body fuel state, test visited = true → invariant visited →
        invariant (body visited)) →
      ∀ visited ∈ whileStates test body fuel state, invariant visited := by
  induction fuel with
  | zero =>
    intro state hstate _ visited hvisited
    rw [whileStates, List.mem_singleton] at hvisited
    exact hvisited ▸ hstate
  | succ fuel ih =>
    intro state hstate hbody visited hvisited
    rw [whileStates, List.mem_cons] at hvisited
    rcases hvisited with rfl | hvisited
    · exact hstate
    · split at hvisited
      · have htest : test state = true := ‹_›
        refine ih (body state) (hbody 0 state List.mem_cons_self htest hstate) ?_ visited hvisited
        intro later other hother
        exact hbody (later + 1) other (mem_whileStates_of_body htest hother)
      · cases hvisited

/-! ### Loops that end -/

theorem whileLoop_ends_of_visited (measure : σ → Nat)
    (hless : ∀ fuel, ∀ visited ∈ whileStates test body fuel state, test visited = true →
      measure (body visited) < measure visited) : ∃ fuel, test (whileLoop test body fuel state) = false := by
  have hexit := whileLoop_exit measure
    (fun state (hless : ∀ fuel, ∀ visited ∈ whileStates test body fuel state, test visited = true →
        measure (body visited) < measure visited) htest fuel visited hvisited =>
      hless (fuel + 1) visited (mem_whileStates_of_body htest hvisited))
    (fun state hless htest => hless 0 state List.mem_cons_self htest)
  exact ⟨_, hexit _ state hless (Nat.lt_succ_self _)⟩

def ExitsAfter (test : σ → Bool) (body : σ → σ) : Nat → σ → Prop
  | 0, state => test state = false
  | count + 1, state => test state = true ∧ ExitsAfter test body count (body state)

theorem ExitsAfter.exists_iff_of_test (htest : test state = true) :
    (∃ count, ExitsAfter test body count state) ↔ ∃ count, ExitsAfter test body count (body state) := by
  constructor
  · rintro ⟨count, hexits⟩
    cases count with
    | zero => exact absurd (hexits.symm.trans htest) Bool.false_ne_true
    | succ count => exact ⟨count, hexits.2⟩
  · rintro ⟨count, hexits⟩
    exact ⟨count + 1, htest, hexits⟩

theorem exists_exitsAfter_iff :
    (∃ count, ExitsAfter test body count state) ↔
      ∃ fuel, test (whileLoop test body fuel state) = false := by
  constructor
  · rintro ⟨count, hexits⟩
    refine ⟨count, ?_⟩
    induction count generalizing state with
    | zero => exact hexits
    | succ count ih =>
      rw [whileLoop, if_pos hexits.1]
      exact ih hexits.2
  · rintro ⟨fuel, hfalse⟩
    induction fuel generalizing state with
    | zero => exact ⟨0, hfalse⟩
    | succ fuel ih =>
      rw [whileLoop] at hfalse
      split at hfalse
      · obtain ⟨count, hexits⟩ := ih hfalse
        exact ⟨count + 1, ‹_›, hexits⟩
      · exact ⟨0, hfalse⟩

end Nozomi
