import Mathlib.Tactic.Common
import Nozomi.Base.Access

/-!
# Programs that access arrays

A program on a state that tells which accesses it makes. It is safe in a state when all of them are in
bounds, and a sequence of programs is safe when each is, in the state that the ones before leave.
-/

namespace Nozomi

variable {arrays σ : Type} {ι α β : Type}

def Traced (arrays σ α : Type) : Type := σ → (α × σ) × List (Access arrays)

namespace Traced

def value (program : Traced arrays σ α) (state : σ) : α := (program state).1.1

def after (program : Traced arrays σ α) (state : σ) : σ := (program state).1.2

def trace (program : Traced arrays σ α) (state : σ) : List (Access arrays) := (program state).2

instance : Monad (Traced arrays σ) where
  pure result := fun state => ((result, state), [])
  bind program next := fun state =>
    (next (program.value state) (program.after state)).map id (program.trace state ++ ·)

def get : Traced arrays σ σ := fun state => ((state, state), [])

def modify (change : σ → σ) : Traced arrays σ Unit := fun state => (((), change state), [])

def touch (accesses : List (Access arrays)) : Traced arrays σ Unit := fun state => (((), state), accesses)

def loop (body : ι → Traced arrays σ Unit) : List ι → Traced arrays σ Unit
  | [] => pure ()
  | item :: items => do
    body item
    loop body items

section Values

variable (state : σ) (result : α) (program : Traced arrays σ α) (next : α → Traced arrays σ β)

@[simp] theorem value_pure : (pure result : Traced arrays σ α).value state = result := rfl
@[simp] theorem after_pure : (pure result : Traced arrays σ α).after state = state := rfl
@[simp] theorem value_bind :
    (program >>= next).value state = (next (program.value state)).value (program.after state) := rfl
@[simp] theorem after_bind :
    (program >>= next).after state = (next (program.value state)).after (program.after state) := rfl
@[simp] theorem value_get : (get : Traced arrays σ σ).value state = state := rfl
@[simp] theorem after_get : (get : Traced arrays σ σ).after state = state := rfl
@[simp] theorem after_modify (change : σ → σ) : (modify change : Traced arrays σ Unit).after state = change state := rfl
@[simp] theorem after_touch (accesses : List (Access arrays)) :
    (touch accesses : Traced arrays σ Unit).after state = state := rfl

end Values

/-! ### Safety -/

def Safe (size : arrays → Nat) (program : Traced arrays σ α) (state : σ) : Prop :=
  InBounds size (program.trace state)

instance (size : arrays → Nat) (program : Traced arrays σ α) (state : σ) : Decidable (Safe size program state) :=
  inferInstanceAs (Decidable (InBounds size (program.trace state)))

section Rules

variable {size : arrays → Nat} {state : σ}

@[simp] theorem safe_pure (result : α) : Safe size (pure result : Traced arrays σ α) state :=
  inBounds_nil

@[simp] theorem safe_bind (program : Traced arrays σ α) (next : α → Traced arrays σ β) :
    Safe size (program >>= next) state ↔
      Safe size program state ∧ Safe size (next (program.value state)) (program.after state) :=
  inBounds_append _ _

@[simp] theorem safe_get : Safe size (get : Traced arrays σ σ) state := inBounds_nil

@[simp] theorem safe_modify (change : σ → σ) : Safe size (modify change : Traced arrays σ Unit) state :=
  inBounds_nil

@[simp] theorem safe_touch (accesses : List (Access arrays)) :
    Safe size (touch accesses : Traced arrays σ Unit) state ↔ InBounds size accesses := Iff.rfl

@[simp] theorem safe_ite {condition : Prop} [Decidable condition] (first second : Traced arrays σ α) :
    Safe size (if condition then first else second) state ↔
      (condition → Safe size first state) ∧ (¬condition → Safe size second state) := by
  split <;> simp [*]

theorem safe_loop {body : ι → Traced arrays σ Unit} (safe : ι → Prop)
    (hbody : ∀ item state, Safe size (body item) state ↔ safe item) (items : List ι) :
    ∀ state, Safe size (loop body items) state ↔ ∀ item ∈ items, safe item := by
  induction items with
  | nil =>
    intro state
    simp [loop]
  | cons item items ih =>
    intro state
    rw [loop, safe_bind, hbody, ih, List.forall_mem_cons]

end Rules

/-! ### Stretches of an array -/

def span (array : arrays) (start : Int) (length : Nat) : List (Access arrays) :=
  (List.range length).map fun (i : Nat) => ⟨array, start + i⟩

theorem inBounds_span {size : arrays → Nat} (array : arrays) (start : Int) (length : Nat) :
    InBounds size (span array start length) ↔ length = 0 ∨ 0 ≤ start ∧ start + length ≤ size array := by
  simp only [InBounds, span, List.forall_mem_map, List.mem_range]
  constructor
  · intro hall
    rcases Nat.eq_zero_or_pos length with hzero | hpos
    · exact .inl hzero
    · have hfirst := hall 0 hpos
      have hlast := hall (length - 1) (by omega)
      right
      omega
  · intro hinside i hi
    omega

end Traced

end Nozomi
