import Mathlib.Tactic.Ring

/-!
# Computations that call operations

A computation over an interface either has a value or calls an operation and goes on with its result. It is
run by a step function for the operations. What every operation does to the state, every computation does.
-/

namespace Nozomi

universe u v w

/-- A computation that calls operations, each with a type of results. -/
inductive Calls {Op : Type u} (Result : Op → Type v) (α : Type w) : Type (max u v w)
  | pure (value : α)
  | call (op : Op) (rest : Result op → Calls Result α)

namespace Calls

variable {Op : Type u} {Result : Op → Type v} {α β : Type w}

protected def bind : Calls Result α → (α → Calls Result β) → Calls Result β
  | pure value, next => next value
  | call op rest, next => call op fun result => (rest result).bind next

instance : Monad (Calls Result) where
  pure := pure
  bind := Calls.bind

section

variable {σ : Type w} (step : (op : Op) → σ → Result op × σ)

def run : Calls Result α → σ → α × σ
  | pure value, state => (value, state)
  | call op rest, state => run (rest (step op state).1) (step op state).2

@[simp] theorem run_pure (value : α) (state : σ) :
    run step (Pure.pure value : Calls Result α) state = (value, state) := rfl

@[simp] theorem run_bind (program : Calls Result α) (next : α → Calls Result β) (state : σ) :
    run step (program >>= next) state =
      run step (next (run step program state).1) (run step program state).2 := by
  induction program generalizing state with
  | pure value => rfl
  | call op rest ih => exact ih (step op state).1 (step op state).2

variable {step}

theorem run_related {related : σ → σ → Prop} (hrefl : ∀ state, related state state)
    (htrans : ∀ {first second third}, related first second → related second third → related first third)
    (hstep : ∀ op state, related state (step op state).2) (program : Calls Result α) (state : σ) :
    related state (program.run step state).2 := by
  induction program generalizing state with
  | pure value => exact hrefl state
  | call op rest ih => exact htrans (hstep op state) (ih _ (step op state).2)

end

/-! ### Postconditions -/

/-- The value of the computation meets a condition, whatever its calls give. -/
def Ensures (post : α → Prop) : Calls Result α → Prop
  | pure value => post value
  | call _ rest => ∀ result, (rest result).Ensures post

theorem ensures_pure {post : α → Prop} {value : α} (hpost : post value) :
    (Pure.pure value : Calls Result α).Ensures post := hpost

theorem Ensures.bind {mid : α → Prop} {post : β → Prop} {program : Calls Result α} {next : α → Calls Result β}
    (hprogram : program.Ensures mid) (hnext : ∀ value, mid value → (next value).Ensures post) :
    (program >>= next).Ensures post := by
  induction program with
  | pure value => exact hnext value hprogram
  | call op rest ih => exact fun result => ih result (hprogram result)

theorem Ensures.mono {mid post : α → Prop} {program : Calls Result α} (hprogram : program.Ensures mid)
    (himp : ∀ value, mid value → post value) : program.Ensures post := by
  induction program with
  | pure value => exact himp value hprogram
  | call op rest ih => exact fun result => ih result (hprogram result)

theorem ensures_trivial (program : Calls Result α) : program.Ensures fun _ => True := by
  induction program with
  | pure value => trivial
  | call op rest ih => exact ih

theorem ensures_bind {post : β → Prop} (program : Calls Result α) {next : α → Calls Result β}
    (hnext : ∀ value, (next value).Ensures post) : (program >>= next).Ensures post :=
  program.ensures_trivial.bind fun value _ => hnext value

theorem Ensures.ite_bind {mid : α → Prop} {post : β → Prop} {condition : Prop} [Decidable condition]
    {first second : Calls Result α} {next : α → Calls Result β} (hfirst : condition → first.Ensures mid)
    (hsecond : ¬condition → second.Ensures mid) (hnext : ∀ value, mid value → (next value).Ensures post) :
    (if condition then first >>= next else second >>= next).Ensures post := by
  split
  · exact (hfirst ‹_›).bind hnext
  · exact (hsecond ‹_›).bind hnext

theorem ensures_ite_bind {post : β → Prop} {condition : Prop} [Decidable condition]
    (first second : Calls Result α) {next : α → Calls Result β} (hnext : ∀ value, (next value).Ensures post) :
    (if condition then first >>= next else second >>= next).Ensures post :=
  Ensures.ite_bind (fun _ => first.ensures_trivial) (fun _ => second.ensures_trivial) fun value _ => hnext value

theorem ensures_when_bind {post : β → Prop} {condition : Prop} [Decidable condition] (first : Calls Result α)
    {next : Calls Result β} (hnext : next.Ensures post) :
    (if condition then first >>= fun _ => next else next).Ensures post := by
  split
  · exact ensures_bind first fun _ => hnext
  · exact hnext

theorem Ensures.run {σ : Type w} {post : α → Prop} {program : Calls Result α} (hprogram : program.Ensures post)
    (step : (op : Op) → σ → Result op × σ) (state : σ) : post (program.run step state).1 := by
  induction program generalizing state with
  | pure value => exact hprogram
  | call op rest ih => exact ih _ (hprogram _) (step op state).2

/-! ### Kinds of operations -/

def Only (allowed : Op → Prop) : Calls Result α → Prop
  | pure _ => True
  | call op rest => allowed op ∧ ∀ result, (rest result).Only allowed

section

variable {allowed : Op → Prop} {σ : Type w} {step : (op : Op) → σ → Result op × σ}

theorem only_pure (value : α) : (Pure.pure value : Calls Result α).Only allowed := trivial

theorem Only.bind {program : Calls Result α} {next : α → Calls Result β} (hprogram : program.Only allowed)
    (hnext : ∀ value, (next value).Only allowed) : (program >>= next).Only allowed := by
  induction program with
  | pure value => exact hnext value
  | call op rest ih => exact ⟨hprogram.1, fun result => ih result (hprogram.2 result)⟩

theorem Only.run_le {potential : σ → Nat}
    (hstep : ∀ op, allowed op → ∀ state, potential (step op state).2 ≤ potential state) {program : Calls Result α}
    (honly : program.Only allowed) (state : σ) : potential (program.run step state).2 ≤ potential state := by
  induction program generalizing state with
  | pure value => exact Nat.le_refl _
  | call op rest ih => exact Nat.le_trans (ih _ (honly.2 _) _) (hstep op honly.1 state)

end

end Calls

end Nozomi
