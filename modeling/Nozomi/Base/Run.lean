import Mathlib.Tactic.Ring

/-!
# Runs of a step function

A system that takes one step for each action of a list, or stops at an action that is not possible. An
invariant may speak of the actions still to come.
-/

namespace Nozomi

section

variable {σ α : Type*} (step : σ → α → Option σ)

def runSteps : σ → List α → Option σ
  | state, [] => some state
  | state, action :: actions =>
    match step state action with
    | some state => runSteps state actions
    | none => none

/-- Every step of the run is taken from a state and by an action that meet a condition. -/
def RunMeets (condition : σ → α → Prop) : σ → List α → Prop
  | _, [] => True
  | state, action :: actions =>
    condition state action ∧ ∀ next, step state action = some next → RunMeets condition next actions

variable {step}

instance instDecidableRunMeets (condition : σ → α → Prop)
    [∀ state action, Decidable (condition state action)] :
    ∀ state actions, Decidable (RunMeets step condition state actions)
  | _, [] => isTrue trivial
  | state, action :: actions =>
    match hstep : step state action with
    | none => decidable_of_iff (condition state action) (by simp [RunMeets, hstep])
    | some next =>
      have := instDecidableRunMeets condition next actions
      decidable_of_iff (condition state action ∧ RunMeets step condition next actions)
        (by simp [RunMeets, hstep])

theorem runSteps_total {next : σ → α → σ} (actions : List α) :
    ∀ state, runSteps (fun state action => some (next state action)) state actions =
      some (actions.foldl next state) := by
  induction actions with
  | nil => exact fun _ => rfl
  | cons action actions ih => exact fun state => ih (next state action)

theorem runSteps_cons {state last : σ} {action : α} {actions : List α}
    (hrun : runSteps step state (action :: actions) = some last) :
    ∃ next, step state action = some next ∧ runSteps step next actions = some last := by
  rw [runSteps] at hrun
  cases hstep : step state action with
  | none => simp [hstep] at hrun
  | some next => exact ⟨next, rfl, by simpa [hstep] using hrun⟩

theorem runSteps_exists {invariant : σ → Prop}
    (hstep : ∀ state action, invariant state → ∃ next, step state action = some next ∧ invariant next)
    (actions : List α) :
    ∀ state, invariant state → ∃ last, runSteps step state actions = some last ∧ invariant last := by
  induction actions with
  | nil => exact fun state hstate => ⟨state, rfl, hstate⟩
  | cons action actions ih =>
    intro state hstate
    obtain ⟨next, hnext, hkept⟩ := hstep state action hstate
    rw [runSteps, hnext]
    exact ih next hkept

theorem runSteps_invariant_of_meets {condition : σ → α → Prop} {invariant : σ → List α → Prop}
    (hstep : ∀ state action actions next, condition state action →
      invariant state (action :: actions) → step state action = some next → invariant next actions)
    (actions rest : List α) :
    ∀ state last, RunMeets step condition state actions → invariant state (actions ++ rest) →
      runSteps step state actions = some last → invariant last rest := by
  induction actions with
  | nil =>
    intro state last _ hstate hrun
    obtain rfl := Option.some.inj hrun
    exact hstate
  | cons action actions ih =>
    rintro state last ⟨hcondition, hmeets⟩ hstate hrun
    obtain ⟨next, hnext, hlast⟩ := runSteps_cons hrun
    exact ih next last (hmeets next hnext)
      (hstep state action (actions ++ rest) next hcondition hstate hnext) hlast

theorem runSteps_state_of_meets {condition : σ → α → Prop} (invariant : σ → Prop)
    (hstep : ∀ state action next, condition state action → invariant state →
      step state action = some next → invariant next)
    {actions : List α} {state last : σ} (hmeets : RunMeets step condition state actions)
    (hstate : invariant state) (hrun : runSteps step state actions = some last) : invariant last :=
  @runSteps_invariant_of_meets σ α step condition (fun state _ => invariant state)
    (fun state action _ next => hstep state action next) actions [] state last hmeets hstate hrun

theorem runMeets_congr_of_meets {first second : σ → α → Prop} (invariant : σ → Prop)
    (hstep : ∀ state action next, second state action → invariant state → step state action = some next →
      invariant next)
    (hagree : ∀ state action next, invariant state → step state action = some next →
      (first state action ↔ second state action)) {actions : List α} {last : σ} :
    ∀ state, invariant state → runSteps step state actions = some last →
      (RunMeets step first state actions ↔ RunMeets step second state actions) := by
  induction actions with
  | nil => exact fun _ _ _ => Iff.rfl
  | cons action actions ih =>
    intro state hstate hrun
    obtain ⟨next, hnext, hlast⟩ := runSteps_cons hrun
    have hsame := hagree state action next hstate hnext
    simp only [RunMeets, hnext, Option.some.injEq, forall_eq', hsame]
    apply and_congr_right
    intro hmeets
    exact ih next (hstep state action next hmeets hstate hnext) hlast

theorem runMeets_congr {first second : σ → α → Prop} (invariant : σ → Prop)
    (hstep : ∀ state action next, invariant state → step state action = some next → invariant next)
    (hagree : ∀ state action next, invariant state → step state action = some next →
      (first state action ↔ second state action)) {actions : List α} {last : σ} (state : σ)
    (hstate : invariant state) (hrun : runSteps step state actions = some last) :
    RunMeets step first state actions ↔ RunMeets step second state actions :=
  runMeets_congr_of_meets invariant (fun state action next _ => hstep state action next) hagree state hstate
    hrun

theorem RunMeets.imp_of_meets {first second : σ → α → Prop} (invariant : σ → Prop)
    (hstep : ∀ state action next, first state action → invariant state → step state action = some next →
      invariant next)
    (himp : ∀ state action, invariant state → first state action → second state action)
    {actions : List α} :
    ∀ state, invariant state → RunMeets step first state actions →
      RunMeets step second state actions := by
  induction actions with
  | nil => exact fun _ _ _ => trivial
  | cons action actions ih =>
    rintro state hstate ⟨hfirst, hrest⟩
    exact ⟨himp state action hstate hfirst,
      fun next hnext => ih next (hstep state action next hfirst hstate hnext) (hrest next hnext)⟩

theorem RunMeets.imp_of_invariant {first second : σ → α → Prop} (invariant : σ → Prop)
    (hstep : ∀ state action next, invariant state → step state action = some next → invariant next)
    (himp : ∀ state action, invariant state → first state action → second state action)
    {actions : List α} (state : σ) (hstate : invariant state) (hmeets : RunMeets step first state actions) :
    RunMeets step second state actions :=
  RunMeets.imp_of_meets invariant (fun state action next _ => hstep state action next) himp state hstate hmeets

theorem RunMeets.and {first second : σ → α → Prop} {actions : List α} :
    ∀ state, RunMeets step first state actions → RunMeets step second state actions →
      RunMeets step (fun state action => first state action ∧ second state action) state actions := by
  induction actions with
  | nil => exact fun _ _ _ => trivial
  | cons action actions ih =>
    rintro state ⟨hfirst, hfirstRest⟩ ⟨hsecond, hsecondRest⟩
    exact ⟨⟨hfirst, hsecond⟩, fun next hnext => ih next (hfirstRest next hnext) (hsecondRest next hnext)⟩

theorem RunMeets.of_append {condition : σ → α → Prop} {before after : List α} :
    ∀ state, RunMeets step condition state (before ++ after) → RunMeets step condition state before := by
  induction before with
  | nil => exact fun _ _ => trivial
  | cons action before ih =>
    rintro state ⟨hcondition, hmeets⟩
    exact ⟨hcondition, fun next hnext => ih next (hmeets next hnext)⟩

theorem runMeets_true (actions : List α) :
    ∀ state, RunMeets step (fun _ _ => True) state actions := by
  induction actions with
  | nil => exact fun _ => trivial
  | cons action actions ih => exact fun state => ⟨trivial, fun next _ => ih next⟩

theorem runSteps_invariant {invariant : σ → List α → Prop}
    (hstep : ∀ state action actions next, invariant state (action :: actions) →
      step state action = some next → invariant next actions)
    {actions rest : List α} {state last : σ} (hstate : invariant state (actions ++ rest))
    (hrun : runSteps step state actions = some last) : invariant last rest :=
  runSteps_invariant_of_meets
    (fun state action actions next _ => hstep state action actions next) actions rest state last
    (runMeets_true actions state) hstate hrun

end

/-! ### Calls that answer -/

section

variable {σ τ α ρ : Type*}

def answers (step : σ → α → σ × ρ) : σ → List α → σ × List ρ
  | state, [] => (state, [])
  | state, call :: calls =>
    let (next, answer) := step state call
    let (last, rest) := answers step next calls
    (last, answer :: rest)

/-- What one call preserves of two systems that answer the same, a run does. -/
theorem answers_simulate {step : σ → α → σ × ρ} {spec : τ → α → τ × ρ} {related : σ → τ → Prop}
    (hstep : ∀ state model call, related state model →
      related (step state call).1 (spec model call).1 ∧ (step state call).2 = (spec model call).2)
    (calls : List α) : ∀ state model, related state model →
      related (answers step state calls).1 (answers spec model calls).1 ∧
        (answers step state calls).2 = (answers spec model calls).2 := by
  induction calls with
  | nil => exact fun state model hrelated => ⟨hrelated, rfl⟩
  | cons call calls ih =>
    intro state model hrelated
    obtain ⟨hnext, hanswer⟩ := hstep state model call hrelated
    obtain ⟨hlast, hrest⟩ := ih _ _ hnext
    exact ⟨hlast, congrArg₂ List.cons hanswer hrest⟩

end

end Nozomi
