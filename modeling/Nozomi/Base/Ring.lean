import Mathlib.Data.List.Basic
import Mathlib.Logic.Function.Basic
import Mathlib.Tactic.Ring

/-!
# Ring buffers

An array whose cells are used in turn: elements are written behind the last one and read at the first
one, and both indices wrap at the end of the array. A ring that is full takes no element.
-/

namespace Nozomi

universe u

structure Ring (α : Type u) (capacity : Nat) where
  cells : Nat → α
  read : Nat
  write : Nat
  size : Nat
  read_lt : read < capacity
  write_eq : write = (read + size) % capacity
  size_le : size ≤ capacity

namespace Ring

variable {α : Type u} {capacity : Nat}

def nextIndex (capacity index : Nat) : Nat := if capacity ≤ index + 1 then 0 else index + 1

theorem nextIndex_eq {index : Nat} (hindex : index < capacity) :
    nextIndex capacity index = (index + 1) % capacity := by
  rw [nextIndex]
  split
  next hwrap =>
    have hend : index + 1 = capacity := by omega
    rw [hend, Nat.mod_self]
  next hstay => rw [Nat.mod_eq_of_lt (by omega)]

def empty (filling : α) (hpos : 0 < capacity) : Ring α capacity where
  cells := fun _ => filling
  read := 0
  write := 0
  size := 0
  read_lt := hpos
  write_eq := (Nat.zero_mod capacity).symm
  size_le := Nat.zero_le capacity

variable (ring : Ring α capacity)

def insert (element : α) : Ring α capacity × Bool :=
  if hroom : ring.size < capacity then
    ({ cells := Function.update ring.cells ring.write element
       read := ring.read
       write := nextIndex capacity ring.write
       size := ring.size + 1
       read_lt := ring.read_lt
       write_eq := by
        have hwrite : ring.write < capacity := ring.write_eq ▸ Nat.mod_lt _ (by omega)
        rw [nextIndex_eq hwrite, ring.write_eq, Nat.mod_add_mod, Nat.add_assoc]
       size_le := hroom }, true)
  else (ring, false)

def pop : Ring α capacity × Option α :=
  if hsome : 0 < ring.size then
    ({ cells := ring.cells
       read := nextIndex capacity ring.read
       write := ring.write
       size := ring.size - 1
       read_lt := by
        rw [nextIndex_eq ring.read_lt]
        exact Nat.mod_lt _ (Nat.zero_lt_of_lt ring.read_lt)
       write_eq := by
        have hsum : ring.read + 1 + (ring.size - 1) = ring.read + ring.size := by omega
        rw [nextIndex_eq ring.read_lt, Nat.mod_add_mod, hsum, ring.write_eq]
       size_le := Nat.le_trans (Nat.sub_le ring.size 1) ring.size_le }, some (ring.cells ring.read))
  else (ring, none)

def drainFor : Nat → Ring α capacity → Ring α capacity × List α
  | 0, ring => (ring, [])
  | fuel + 1, ring =>
    match ring.pop with
    | (ring, none) => (ring, [])
    | (ring, some element) => ((drainFor fuel ring).1, element :: (drainFor fuel ring).2)

def drain : Ring α capacity × List α := ring.drainFor ring.size

def insertAll (elements : List α) : Ring α capacity :=
  elements.foldl (fun ring element => (ring.insert element).1) ring

def contents : List α :=
  (List.range ring.size).map fun i => ring.cells ((ring.read + i) % capacity)

@[simp] theorem length_contents : ring.contents.length = ring.size := by
  rw [contents, List.length_map, List.length_range]

@[simp] theorem contents_empty (filling : α) (hpos : 0 < capacity) :
    (empty filling hpos).contents = [] := rfl

variable {ring}

theorem index_ne_write (hroom : ring.size < capacity) {i : Nat} (hi : i < ring.size) :
    (ring.read + i) % capacity ≠ ring.write := by
  rw [ring.write_eq]
  intro hsame
  have hdvd := Nat.dvd_of_mod_eq_zero (Nat.sub_mod_eq_zero_of_mod_eq hsame.symm)
  have hle := Nat.le_of_dvd (by omega) hdvd
  omega

theorem contents_insert {element : α} (hroom : ring.size < capacity) :
    (ring.insert element).1.contents = ring.contents ++ [element] := by
  have hcells : ∀ i, (ring.insert element).1.cells i = Function.update ring.cells ring.write element i := by
    intro i
    rw [insert, dif_pos hroom]
  have hread : (ring.insert element).1.read = ring.read := by rw [insert, dif_pos hroom]
  have hsize : (ring.insert element).1.size = ring.size + 1 := by rw [insert, dif_pos hroom]
  rw [contents, hsize, hread, List.range_succ, List.map_append, List.map_singleton, hcells,
    ← ring.write_eq, Function.update_self, contents]
  refine congrArg (· ++ [element]) (List.map_congr_left fun i hi => ?_)
  rw [hcells]
  exact Function.update_of_ne (index_ne_write hroom (List.mem_range.mp hi)) _ _

theorem insert_of_full {element : α} (hfull : ¬ring.size < capacity) :
    ring.insert element = (ring, false) := by
  rw [insert, dif_neg hfull]

theorem contents_insert_eq_take (element : α) :
    (ring.insert element).1.contents = (ring.contents ++ [element]).take capacity := by
  by_cases hroom : ring.size < capacity
  · rw [contents_insert hroom, List.take_of_length_le]
    rw [List.length_append, length_contents, List.length_singleton]
    exact hroom
  · have hsize : ring.contents.length = capacity := by
      have := ring.size_le
      rw [length_contents]
      omega
    rw [insert_of_full hroom, List.take_left' hsize]

theorem contents_insertAll (elements : List α) :
    (ring.insertAll elements).contents = (ring.contents ++ elements).take capacity := by
  induction elements generalizing ring with
  | nil =>
    rw [List.append_nil, List.take_of_length_le]
    · rfl
    · rw [length_contents]
      exact ring.size_le
  | cons element elements ih =>
    have hstep := @ih (ring.insert element).1
    rw [contents_insert_eq_take] at hstep
    rw [insertAll, List.foldl_cons]
    refine hstep.trans ?_
    by_cases hroom : ring.size < capacity
    · have hlength : (ring.contents ++ [element]).length ≤ capacity := by
        rw [List.length_append, length_contents, List.length_singleton]
        exact hroom
      rw [List.take_of_length_le hlength, List.append_assoc, List.singleton_append]
    · have hsize : ring.contents.length = capacity := by
        have := ring.size_le
        rw [length_contents]
        omega
      rw [List.take_left' hsize, List.take_left' hsize, List.take_left' hsize]

theorem contents_insertAll_of_le {elements : List α}
    (hroom : ring.contents.length + elements.length ≤ capacity) :
    (ring.insertAll elements).contents = ring.contents ++ elements := by
  rw [contents_insertAll, List.take_of_length_le]
  rw [List.length_append]
  exact hroom

theorem pop_of_nil (hnil : ring.contents = []) : ring.pop = (ring, none) := by
  have hsize : ring.size = 0 := by rw [← length_contents, hnil, List.length_nil]
  rw [pop, dif_neg (by omega)]

theorem pop_of_cons {element : α} {rest : List α} (hcons : ring.contents = element :: rest) :
    ∃ next, ring.pop = (next, some element) ∧ next.contents = rest := by
  have hsize : ring.size = rest.length + 1 := by rw [← length_contents, hcons, List.length_cons]
  rw [contents, hsize, List.range_succ_eq_map, List.map_cons, List.map_map] at hcons
  obtain ⟨hfirst, hrest⟩ := List.cons_eq_cons.mp hcons
  rw [Nat.add_zero, Nat.mod_eq_of_lt ring.read_lt] at hfirst
  rw [pop, dif_pos (by omega)]
  refine ⟨_, Prod.ext rfl (congrArg some hfirst), ?_⟩
  change (List.range (ring.size - 1)).map
    (fun i => ring.cells ((nextIndex capacity ring.read + i) % capacity)) = rest
  rw [hsize, Nat.add_sub_cancel]
  refine Eq.trans (List.map_congr_left fun i _ => ?_) hrest
  rw [Function.comp_apply, nextIndex_eq ring.read_lt, Nat.mod_add_mod, Nat.succ_eq_add_one,
    Nat.add_assoc, Nat.add_comm 1 i]

theorem drainFor_eq (fuel : Nat) :
    ∀ ring : Ring α capacity, ring.size ≤ fuel →
      ∃ next, ring.drainFor fuel = (next, ring.contents) ∧ next.contents = [] := by
  induction fuel with
  | zero =>
    intro ring hfuel
    have hnil : ring.contents = [] := List.eq_nil_of_length_eq_zero (by rw [length_contents]; omega)
    exact ⟨ring, by rw [hnil]; rfl, hnil⟩
  | succ fuel ih =>
    intro ring hfuel
    rw [drainFor]
    cases hcontents : ring.contents with
    | nil => exact ⟨ring, by rw [pop_of_nil hcontents], hcontents⟩
    | cons element rest =>
      obtain ⟨next, hpop, hnext⟩ := pop_of_cons hcontents
      have hsize : ring.size = next.size + 1 := by
        rw [← length_contents, hcontents, List.length_cons, ← hnext, length_contents]
      obtain ⟨last, hlast, hnil⟩ := ih next (by omega)
      exact ⟨last, by simp only [hpop, hlast, hnext], hnil⟩

theorem drain_eq (ring : Ring α capacity) :
    ∃ next, ring.drain = (next, ring.contents) ∧ next.contents = [] :=
  drainFor_eq ring.size ring (Nat.le_refl _)

end Ring

end Nozomi
