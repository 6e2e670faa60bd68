import Nozomi.Base.Calls

/-!
# Computations with marks

A computation may pass marks between its calls, which change nothing: without them it is a computation over the same
interface. A run gives the states in which the marks are passed.
-/

namespace Nozomi

universe u v w

abbrev Marked {Op : Type u} (Result : Op → Type v) (Mark : Type u) :=
  Calls (Sum.elim Result fun _ : Mark => PUnit)

namespace Marked

variable {Op Mark : Type u} {Result : Op → Type v} {α β σ : Type w}

def mark (mark : Mark) : Marked Result Mark PUnit := .call (.inr mark) fun _ => .pure ⟨⟩

def lift : Calls Result α → Marked Result Mark α
  | .pure value => .pure value
  | .call op rest => .call (.inl op) fun result => lift (rest result)

def erase : Marked Result Mark α → Calls Result α
  | .pure value => .pure value
  | .call (.inl op) rest => .call op fun result => erase (rest result)
  | .call (.inr _) rest => erase (rest ⟨⟩)

@[simp] theorem erase_pure (value : α) : erase (pure value : Marked Result Mark α) = pure value := rfl

@[simp] theorem erase_mark (mark : Mark) : erase (Marked.mark mark : Marked Result Mark PUnit) = pure ⟨⟩ := rfl

@[simp] theorem erase_lift (program : Calls Result α) : erase (lift program : Marked Result Mark α) = program := by
  induction program with
  | pure value => rfl
  | call op rest ih => exact congrArg (Calls.call op) (funext ih)

@[simp] theorem erase_bind (program : Marked Result Mark α) (next : α → Marked Result Mark β) :
    erase (program >>= next) = erase program >>= fun value => erase (next value) := by
  induction program with
  | pure value => rfl
  | call op rest ih =>
    cases op with
    | inl op => exact congrArg (Calls.call op) (funext ih)
    | inr mark => exact ih ⟨⟩

@[simp] theorem erase_ite (condition : Prop) [Decidable condition] (first second : Marked Result Mark α) :
    erase (if condition then first else second) = if condition then erase first else erase second := by
  split <;> rfl

variable (step : (op : Op) → σ → Result op × σ)

def passed : Marked Result Mark α → σ → List (Mark × σ)
  | .pure _, _ => []
  | .call (.inl op) rest, state => passed (rest (step op state).1) (step op state).2
  | .call (.inr mark) rest, state => (mark, state) :: passed (rest ⟨⟩) state

@[simp] theorem passed_pure (value : α) (state : σ) : passed step (pure value : Marked Result Mark α) state = [] := rfl

@[simp] theorem passed_lift (program : Calls Result α) (state : σ) :
    passed step (lift program : Marked Result Mark α) state = [] := by
  induction program generalizing state with
  | pure value => rfl
  | call op rest ih => exact ih _ _

@[simp] theorem passed_bind (program : Marked Result Mark α) (next : α → Marked Result Mark β) (state : σ) :
    passed step (program >>= next) state = passed step program state ++
      passed step (next ((erase program).run step state).1) ((erase program).run step state).2 := by
  induction program generalizing state with
  | pure value => rfl
  | call op rest ih =>
    cases op with
    | inl op => exact ih _ _
    | inr mark => exact congrArg (List.cons (mark, state)) (ih ⟨⟩ state)

@[simp] theorem passed_mark (mark : Mark) (state : σ) :
    passed step (Marked.mark mark : Marked Result Mark PUnit) state = [(mark, state)] := rfl

/-! ### Where marks are passed -/

def PassedIn (ok : σ → Prop) (program : Marked Result Mark α) (state : σ) : Prop :=
  ∀ start ∈ passed step program state, ok start.2

section

variable {step} {ok : σ → Prop}

theorem passedIn_pure (value : α) (state : σ) : PassedIn step ok (pure value : Marked Result Mark α) state := nofun

theorem passedIn_lift (program : Calls Result α) (state : σ) :
    PassedIn step ok (lift program : Marked Result Mark α) state := by
  rw [PassedIn, passed_lift]
  exact nofun

theorem passedIn_mark (mark : Mark) (state : σ) :
    PassedIn step ok (Marked.mark mark : Marked Result Mark PUnit) state ↔ ok state := by
  rw [PassedIn, passed_mark, List.forall_mem_singleton]

theorem passedIn_bind (program : Marked Result Mark α) (next : α → Marked Result Mark β) (state : σ) :
    PassedIn step ok (program >>= next) state ↔ PassedIn step ok program state ∧
      PassedIn step ok (next ((erase program).run step state).1) ((erase program).run step state).2 := by
  rw [PassedIn, passed_bind, List.forall_mem_append]
  rfl

theorem passedIn_lift_bind (program : Calls Result α) (next : α → Marked Result Mark β) (state : σ) :
    PassedIn step ok (lift program >>= next) state ↔
      PassedIn step ok (next (program.run step state).1) (program.run step state).2 := by
  rw [passedIn_bind, erase_lift, and_iff_right (passedIn_lift program state)]

variable {next : α → Marked Result Mark β} {condition : Prop} {first second : Marked Result Mark α}

theorem passedIn_bind_of_forall (program : Marked Result Mark α) (state : σ)
    (hnext : ∀ value state, PassedIn step ok (next value) state) :
    PassedIn step ok (program >>= next) state ↔ PassedIn step ok program state := by
  rw [passedIn_bind]
  exact and_iff_left (hnext _ _)

theorem passedIn_ite_bind [Decidable condition] {state : σ} (hfirst : PassedIn step ok first state)
    (hsecond : PassedIn step ok second state) (hnext : ∀ value state, PassedIn step ok (next value) state) :
    PassedIn step ok (if condition then first >>= next else second >>= next) state := by
  split
  · exact (passedIn_bind_of_forall first state hnext).mpr hfirst
  · exact (passedIn_bind_of_forall second state hnext).mpr hsecond

/-! ### How often marks are passed -/

/-- A run that passes its marks in states of one kind takes one from a potential for each mark that is paid. -/
def Pays (step : (op : Op) → σ → Result op × σ) (ok : σ → Prop) (paid : Mark → Bool) (potential : σ → Nat)
    (program : Marked Result Mark α) : Prop :=
  ∀ state, PassedIn step ok program state →
    (passed step program state).countP (fun start => paid start.1) +
      potential ((erase program).run step state).2 ≤ potential state

variable {paid : Mark → Bool} {potential : σ → Nat}

theorem pays_pure (value : α) : Pays step ok paid potential (pure value : Marked Result Mark α) := by
  intro state _
  rw [passed_pure, List.countP_nil, Nat.zero_add]
  exact Nat.le_refl _

theorem pays_lift {program : Calls Result α} (hle : ∀ state, potential (program.run step state).2 ≤ potential state) :
    Pays step ok paid potential (lift program : Marked Result Mark α) := by
  intro state _
  rw [passed_lift, List.countP_nil, Nat.zero_add, erase_lift]
  exact hle state

theorem Pays.bind {program : Marked Result Mark α} (hprogram : Pays step ok paid potential program)
    (hnext : ∀ value, Pays step ok paid potential (next value)) :
    Pays step ok paid potential (program >>= next) := by
  intro state hpassed
  obtain ⟨hfirst, hsecond⟩ := (passedIn_bind program next state).mp hpassed
  have hpaid := hprogram state hfirst
  have hpaid' := hnext _ _ hsecond
  rw [passed_bind, List.countP_append, erase_bind, Calls.run_bind]
  omega

theorem pays_mark {mark : Mark} (hfree : paid mark = false) :
    Pays step ok paid potential (Marked.mark mark : Marked Result Mark PUnit) := by
  intro state _
  rw [passed_mark, List.countP_singleton, hfree, erase_mark]
  exact Nat.le_of_eq (Nat.zero_add _)

theorem pays_mark_bind {mark : Mark} {program : Calls Result α}
    (htakes : ∀ state, ok state → potential (program.run step state).2 < potential state)
    (hnext : ∀ value, Pays step ok paid potential (next value)) :
    Pays step ok paid potential (Marked.mark mark >>= fun _ => lift program >>= next) := by
  intro state hpassed
  rw [passedIn_bind, passedIn_mark, passedIn_bind] at hpassed
  obtain ⟨hstate, -, hlater⟩ := hpassed
  have htaken := htakes state hstate
  rw [erase_lift] at hlater
  have hpaid := hnext _ _ hlater
  have hone : [(mark, state)].countP (fun start => paid start.1) ≤ 1 := List.countP_le_length
  simp only [passed_bind, passed_mark, passed_lift, List.countP_append, List.countP_nil, erase_bind, erase_mark,
    erase_lift, Calls.run_bind, Calls.run_pure] at hpaid ⊢
  change potential (program.run step state).2 < potential state at htaken
  omega

theorem Pays.ite [Decidable condition] (hfirst : Pays step ok paid potential first)
    (hsecond : Pays step ok paid potential second) :
    Pays step ok paid potential (if condition then first else second) := by
  split
  · exact hfirst
  · exact hsecond

theorem Pays.ite_bind [Decidable condition] (hfirst : Pays step ok paid potential first)
    (hsecond : Pays step ok paid potential second) (hnext : ∀ value, Pays step ok paid potential (next value)) :
    Pays step ok paid potential (if condition then first >>= next else second >>= next) :=
  Pays.ite (hfirst.bind hnext) (hsecond.bind hnext)

theorem Pays.when_bind [Decidable condition] {first : Marked Result Mark PUnit}
    {next : PUnit → Marked Result Mark β} (hfirst : Pays step ok paid potential first)
    (hnext : ∀ value, Pays step ok paid potential (next value)) :
    Pays step ok paid potential (if condition then first >>= next else next ⟨⟩) :=
  Pays.ite (hfirst.bind hnext) (hnext ⟨⟩)

end

end Marked

end Nozomi
