import Mathlib.Tactic.Ring

/-!
# Code that may leave early

Rules for what a state-passing computation with early exits guarantees: one condition on the value and the
state where it runs to its end, another one on the exit and the state where it leaves early.
-/

namespace Nozomi

section

universe u

variable {ε σ α β : Type u} {post : α → σ → Prop} {exit : ε → σ → Prop} {state : σ}

def Ends (code : EStateM ε σ α) (post : α → σ → Prop) (exit : ε → σ → Prop) (state : σ) : Prop :=
  match code state with
  | .ok value next => post value next
  | .error reason next => exit reason next

@[simp] theorem ends_pure (value : α) : Ends (pure value) post exit state ↔ post value state := Iff.rfl

@[simp] theorem ends_throw (reason : ε) :
    Ends (throw reason : EStateM ε σ α) post exit state ↔ exit reason state := Iff.rfl

@[simp] theorem ends_get {post : σ → σ → Prop} :
    Ends (get : EStateM ε σ σ) post exit state ↔ post state state := Iff.rfl

@[simp] theorem ends_set {post : PUnit → σ → Prop} (next : σ) :
    Ends (set next : EStateM ε σ PUnit) post exit state ↔ post ⟨⟩ next := Iff.rfl

@[simp] theorem ends_modify {post : PUnit → σ → Prop} (change : σ → σ) :
    Ends (modify change : EStateM ε σ PUnit) post exit state ↔ post ⟨⟩ (change state) := Iff.rfl

@[simp] theorem ends_modifyGet (change : σ → α × σ) :
    Ends (modifyGet change : EStateM ε σ α) post exit state ↔
      post (change state).1 (change state).2 := Iff.rfl

@[simp] theorem ends_bind {post : β → σ → Prop} (code : EStateM ε σ α) (rest : α → EStateM ε σ β) :
    Ends (code >>= rest) post exit state ↔
      Ends code (fun value => Ends (rest value) post exit) exit state := by
  unfold Ends
  show (match EStateM.bind code rest state with
    | .ok value next => post value next
    | .error reason next => exit reason next) ↔ _
  unfold EStateM.bind
  cases code state <;> rfl

@[simp] theorem ends_ite {condition : Prop} [Decidable condition] (first second : EStateM ε σ α) :
    Ends (if condition then first else second) post exit state ↔
      (condition → Ends first post exit state) ∧ (¬ condition → Ends second post exit state) := by
  by_cases h : condition <;> simp [h]

variable {code : EStateM ε σ α} {rest : σ → EStateM ε σ β}

theorem Ends.imp {post' : α → σ → Prop} {exit' : ε → σ → Prop} (hends : Ends code post exit state)
    (hpost : ∀ value next, post value next → post' value next)
    (hexit : ∀ reason next, exit reason next → exit' reason next) : Ends code post' exit' state := by
  unfold Ends at *
  cases hcode : code state with
  | ok value next =>
    rw [hcode] at hends
    exact hpost value next hends
  | error reason next =>
    rw [hcode] at hends
    exact hexit reason next hends

/-! ### Triples -/

variable {before middle : σ → Prop} {after : α → σ → Prop} {last : β → σ → Prop}

/-- Begun where one condition holds, a computation that runs to its end leaves another one. Of its early exits
nothing is said, or that they meet a condition too. -/
def Establishes (before : σ → Prop) (code : EStateM ε σ α) (after : α → σ → Prop)
    (exit : ε → σ → Prop := fun _ _ => True) : Prop :=
  ∀ state, before state → Ends code after exit state

theorem establishes_pure {value : α} (hafter : ∀ state, before state → after value state) :
    Establishes before (pure value : EStateM ε σ α) after exit :=
  hafter

theorem establishes_throw (reason : ε) : Establishes before (throw reason : EStateM ε σ α) after :=
  fun _ _ => trivial

theorem establishes_exit {reason : ε} (hexit : ∀ state, before state → exit reason state) :
    Establishes before (throw reason : EStateM ε σ α) after exit :=
  hexit

theorem establishes_modify {after : PUnit → σ → Prop} {change : σ → σ}
    (hafter : ∀ state, before state → after ⟨⟩ (change state)) :
    Establishes before (modify change : EStateM ε σ PUnit) after exit :=
  hafter

theorem Establishes.bind {rest : α → EStateM ε σ β} (hcode : Establishes before code after exit)
    (hrest : ∀ value, Establishes (after value) (rest value) last exit) :
    Establishes before (code >>= rest) last exit := by
  intro state hstate
  rw [ends_bind]
  exact (hcode state hstate).imp (fun value next hnext => hrest value next hnext) fun _ _ hexit => hexit

theorem establishes_change (middle : σ → Prop) {change : σ → σ} {rest : PUnit → EStateM ε σ β}
    (hchange : ∀ state, before state → middle (change state))
    (hrest : ∀ value, Establishes middle (rest value) last exit) :
    Establishes before (modify change >>= rest) last exit :=
  fun state hstate => hrest ⟨⟩ (change state) (hchange state hstate)

theorem establishes_get
    (hrest : ∀ state, Establishes (fun now => before now ∧ now = state) (rest state) last exit) :
    Establishes before (get >>= rest) last exit :=
  fun state hstate => hrest state state ⟨hstate, rfl⟩

theorem establishes_get_of (fact : σ → Prop) (hfact : ∀ state, before state → fact state)
    (hrest : ∀ state, fact state → Establishes before (rest state) last exit) :
    Establishes before (get >>= rest) last exit :=
  fun state hstate => hrest state (hfact state hstate) state hstate

theorem establishes_look (hrest : ∀ state, Establishes before (rest state) last exit) :
    Establishes before (get >>= rest) last exit :=
  fun state hstate => hrest state state hstate

theorem establishes_ite {condition : Prop} [Decidable condition] {first second : EStateM ε σ α}
    (hfirst : condition → Establishes before first after exit)
    (hsecond : ¬ condition → Establishes before second after exit) :
    Establishes before (if condition then first else second) after exit := by
  by_cases h : condition
  · rw [if_pos h]
    exact hfirst h
  · rw [if_neg h]
    exact hsecond h

theorem establishes_of {fact : Prop} (hcode : fact → Establishes before code after exit) :
    Establishes (fun state => fact ∧ before state) code after exit :=
  fun state hstate => hcode hstate.1 state hstate.2

theorem Establishes.imp {before' : σ → Prop} {after' : α → σ → Prop} (hcode : Establishes before code after exit)
    (hbefore : ∀ state, before' state → before state)
    (hafter : ∀ value next, after value next → after' value next) : Establishes before' code after' exit :=
  fun state hstate => (hcode state (hbefore state hstate)).imp hafter fun _ _ hexit => hexit

end

end Nozomi
