import Mathlib.Logic.Function.Basic
import Nozomi.Base.Run

/-!
# Threads on a shared state

Threads with a control point each take steps in any order. Every control point is annotated with a statement about
the shared state. The assertions hold throughout a run when each step establishes the one at its end and gives a
guarantee to the other threads, under which theirs are stable.
-/

namespace Nozomi

variable {ι : Type} {Control : ι → Type} {Shared Input : Type}

/-- The control points of all threads, and the state that they share. -/
structure Interleaved {ι : Type} (Control : ι → Type) (Shared : Type) where
  control : ∀ thread, Control thread
  shared : Shared

namespace Interleaved

abbrev Code (Control : ι → Type) (Shared Input : Type) :=
  ∀ thread, Control thread → Shared → Input → Option (Control thread × Shared)

variable [DecidableEq ι] {code : Code Control Shared Input}

def step (code : Code Control Shared Input) (state : Interleaved Control Shared) (action : ι × Input) :
    Option (Interleaved Control Shared) :=
  (code action.1 (state.control action.1) state.shared action.2).map fun result =>
    ⟨Function.update state.control action.1 result.1, result.2⟩

theorem step_cases {state next : Interleaved Control Shared} {action : ι × Input}
    (hstep : step code state action = some next) :
    ∃ control, code action.1 (state.control action.1) state.shared action.2 = some (control, next.shared) ∧
      next.control = Function.update state.control action.1 control := by
  obtain ⟨⟨control, shared⟩, hcode, rfl⟩ := Option.map_eq_some_iff.mp hstep
  exact ⟨control, hcode, rfl⟩

/-- A statement about the shared state holds, and so does every thread's assertion. -/
structure Annotated (whole : Shared → Prop) (assertion : ∀ thread, Control thread → Shared → Prop)
    (state : Interleaved Control Shared) : Prop where
  whole : whole state.shared
  thread : ∀ thread, assertion thread (state.control thread) state.shared

theorem Annotated.step {whole : Shared → Prop} {assertion : ∀ thread, Control thread → Shared → Prop}
    (guarantee : ι → Shared → Shared → Prop) {state next : Interleaved Control Shared} {action : ι × Input}
    (hannotated : state.Annotated whole assertion) (hstep : step code state action = some next)
    (hown : ∀ control, code action.1 (state.control action.1) state.shared action.2 = some (control, next.shared) →
      whole next.shared ∧ assertion action.1 control next.shared ∧ guarantee action.1 state.shared next.shared)
    (hstable : ∀ other, other ≠ action.1 → guarantee action.1 state.shared next.shared →
      assertion other (state.control other) state.shared → assertion other (state.control other) next.shared) :
    next.Annotated whole assertion := by
  obtain ⟨control, hcode, hcontrol⟩ := step_cases hstep
  obtain ⟨hwhole, hestablished, hguarantee⟩ := hown control hcode
  refine ⟨hwhole, fun thread => ?_⟩
  rw [hcontrol]
  by_cases hsame : thread = action.1
  · subst hsame
    rw [Function.update_self]
    exact hestablished
  · rw [Function.update_of_ne hsame]
    exact hstable thread hsame hguarantee (hannotated.thread thread)

end Interleaved

/-! ### Mutexes -/

/-- What a step of a thread does to a mutex, whose owner is kept, with whether the thread holds it before and behind
the step. -/
inductive MutexStep (thread : ι) : (holds holds' : Bool) → (owner owner' : Option ι) → Prop where
  | same {holds owner} : MutexStep thread holds holds owner owner
  | takes {holds} : MutexStep thread holds true none (some thread)
  | frees {owner} : MutexStep thread true false owner none

namespace MutexStep

variable {thread other : ι} {holds holds' : Bool} {owner owner' : Option ι}

theorem own (hstep : MutexStep thread holds holds' owner owner') (hholds : owner = some thread ↔ holds = true) :
    owner' = some thread ↔ holds' = true := by
  cases hstep with
  | same => exact hholds
  | takes => simp
  | frees => simp

theorem others (hstep : MutexStep thread holds holds' owner owner') (hholds : owner = some thread ↔ holds = true)
    (hother : other ≠ thread) : owner' = some other ↔ owner = some other := by
  cases hstep with
  | same => exact Iff.rfl
  | takes =>
    rw [Option.some.injEq]
    exact iff_of_false hother.symm nofun
  | frees =>
    rw [hholds.mpr rfl, Option.some.injEq]
    exact iff_of_false nofun hother.symm

end MutexStep

end Nozomi
