import Mathlib.Tactic.Ring

/-!
# File descriptors

The descriptors of a process, named in the order of their creation, so that a name is never used for a
second descriptor. A close of a descriptor that is closed already shows in the log, and so does every
descriptor that stays open.
-/

namespace Nozomi

/-- How many descriptors were created, and which were closed. -/
structure Descriptors where
  next : Nat
  closes : List Int
  closes_lt : ∀ fd ∈ closes, fd < next

namespace Descriptors

variable (fds : Descriptors)

def IsOpen (fd : Int) : Prop := 0 ≤ fd ∧ fd < fds.next ∧ fd ∉ fds.closes

instance (fd : Int) : Decidable (fds.IsOpen fd) :=
  inferInstanceAs (Decidable (0 ≤ fd ∧ fd < fds.next ∧ fd ∉ fds.closes))

def create : Descriptors × Int :=
  ({ fds with
      next := fds.next + 1
      closes_lt := fun fd hfd => by have := fds.closes_lt fd hfd; omega }, fds.next)

def dup (fd : Int) : Descriptors × Int := if fds.IsOpen fd then fds.create else (fds, -1)

def close (fd : Int) : Descriptors :=
  if h : 0 ≤ fd ∧ fd < fds.next then
    { fds with
      closes := fds.closes ++ [fd]
      closes_lt := by
        intro other hother
        rcases List.mem_append.mp hother with hold | hnew
        · exact fds.closes_lt other hold
        · rw [List.mem_singleton.mp hnew]
          exact h.2 }
  else fds

variable {fds}

@[simp] theorem close_next (fd : Int) : (fds.close fd).next = fds.next := by
  rw [close]
  split <;> rfl

theorem mem_close {fd other : Int} (hother : other ∈ (fds.close fd).closes) :
    other ∈ fds.closes ∨ other = fd := by
  rw [close] at hother
  split at hother
  · rcases List.mem_append.mp hother with hold | hnew
    · exact .inl hold
    · exact .inr (List.mem_singleton.mp hnew)
  · exact .inl hother

theorem count_close (fd : Int) {other : Int} (hpos : 0 ≤ other) (hother : other < fds.next) :
    (fds.close fd).closes.count other = fds.closes.count other + if fd = other then 1 else 0 := by
  rw [close]
  split
  · rw [List.count_append, List.count_singleton]
    simp
  next hout =>
    have hne : fd ≠ other := fun heq => hout (heq ▸ ⟨hpos, hother⟩)
    simp [hne]

theorem IsOpen.close {fd other : Int} (hopen : fds.IsOpen other) (hne : other ≠ fd) :
    (fds.close fd).IsOpen other := by
  obtain ⟨hpos, hlt, hclosed⟩ := hopen
  refine ⟨hpos, by rwa [close_next], fun hmem => ?_⟩
  rcases mem_close hmem with hold | heq
  · exact hclosed hold
  · exact hne heq

theorem isOpen_create (fds : Descriptors) : fds.create.1.IsOpen fds.create.2 := by
  refine ⟨Int.natCast_nonneg _, ?_, fun hmem => ?_⟩
  · show (fds.next : Int) < (fds.next + 1 : Nat)
    omega
  · have hlt : (fds.next : Int) < fds.next := fds.closes_lt _ hmem
    omega

theorem IsOpen.create {other : Int} (hopen : fds.IsOpen other) : fds.create.1.IsOpen other := by
  obtain ⟨hpos, hlt, hclosed⟩ := hopen
  refine ⟨hpos, ?_, hclosed⟩
  show other < (fds.next + 1 : Nat)
  omega

theorem dup_cases (fds : Descriptors) (fd : Int) :
    fds.dup fd = fds.create ∨ fds.dup fd = (fds, -1) := by
  rw [dup]
  split
  · exact .inl rfl
  · exact .inr rfl

@[simp] theorem dup_closes (fd : Int) : (fds.dup fd).1.closes = fds.closes := by
  rcases fds.dup_cases fd with heq | heq
  · rw [heq]
    rfl
  · rw [heq]

theorem dup_next_le (fds : Descriptors) (fd : Int) : fds.next ≤ (fds.dup fd).1.next := by
  rcases fds.dup_cases fd with heq | heq
  · rw [heq]
    exact Nat.le_succ _
  · exact Nat.le_of_eq (by rw [heq])

theorem IsOpen.dup {other : Int} (hopen : fds.IsOpen other) (fd : Int) : (fds.dup fd).1.IsOpen other := by
  rcases fds.dup_cases fd with heq | heq <;> rw [heq]
  · exact hopen.create
  · exact hopen

theorem dup_result (fds : Descriptors) (fd : Int) :
    (fds.dup fd).2 = -1 ∨ (fds.dup fd).2 = fds.next ∧ (fds.dup fd).1.IsOpen (fds.dup fd).2 := by
  rcases fds.dup_cases fd with heq | heq <;> rw [heq]
  · exact .inr ⟨rfl, fds.isOpen_create⟩
  · exact .inl rfl

end Descriptors

/-! ### A list that is mapped along a state -/

section

variable {σ α : Type*} (f : σ → α → σ × α)

def threadMap : σ → List α → σ × List α
  | state, [] => (state, [])
  | state, entry :: entries =>
    let (state, entry) := f state entry
    let (state, entries) := threadMap state entries
    (state, entry :: entries)

variable {f}

theorem threadMap_cons (state : σ) (entry : α) (entries : List α) :
    threadMap f state (entry :: entries) =
      ((threadMap f (f state entry).1 entries).1,
        (f state entry).2 :: (threadMap f (f state entry).1 entries).2) := rfl

theorem threadMap_map {β : Type*} {view : α → β} (hview : ∀ state entry, view (f state entry).2 = view entry)
    (entries : List α) : ∀ state, (threadMap f state entries).2.map view = entries.map view := by
  induction entries with
  | nil => intro state; rfl
  | cons entry entries ih =>
    intro state
    rw [threadMap_cons, List.map_cons, hview, ih, List.map_cons]

end

end Nozomi
