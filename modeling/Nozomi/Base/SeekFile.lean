import Mathlib.Data.List.TakeDrop
import Mathlib.Tactic.Ring

/-!
# Files that are written at positions

A file is the list of its bytes. To write behind the end leaves a gap that reads as zeros, and to seek there
without writing leaves the file as it is.
-/

namespace Nozomi

def writeAt (file : List UInt8) (position : Nat) (data : List UInt8) : List UInt8 :=
  if data = [] then file
  else
    file.take position ++ List.replicate (position - file.length) 0 ++ data ++
      file.drop (position + data.length)

def readAt (file : List UInt8) (position count : Nat) : List UInt8 := (file.drop position).take count

variable {file data : List UInt8} {position : Nat}

@[simp] theorem writeAt_nil : writeAt file position [] = file := if_pos rfl

theorem writeAt_length (hdata : data ≠ []) :
    (writeAt file position data).length = max file.length (position + data.length) := by
  rw [writeAt, if_neg hdata]
  simp only [List.length_append, List.length_take, List.length_replicate, List.length_drop]
  omega

theorem length_le_writeAt : file.length ≤ (writeAt file position data).length := by
  by_cases hdata : data = []
  · exact Nat.le_of_eq (by rw [hdata, writeAt_nil])
  · rw [writeAt_length hdata]
    omega

theorem readAt_append_right {front back : List UInt8} (count : Nat) (hfront : front.length = position) :
    readAt (front ++ back) position count = back.take count := by
  rw [readAt, List.drop_left' hfront]

theorem readAt_writeAt_self : readAt (writeAt file position data) position data.length = data := by
  by_cases hdata : data = []
  · rw [hdata, readAt, List.length_nil, List.take_zero]
  · have hfront : (file.take position ++ List.replicate (position - file.length) (0 : UInt8)).length =
        position := by
      rw [List.length_append, List.length_take, List.length_replicate]
      omega
    rw [writeAt, if_neg hdata, List.append_assoc _ data, readAt_append_right _ hfront, List.take_left]

theorem take_writeAt {bound : Nat} (hposition : bound ≤ position) (hbound : bound ≤ file.length) :
    (writeAt file position data).take bound = file.take bound := by
  by_cases hdata : data = []
  · rw [hdata, writeAt_nil]
  · rw [writeAt, if_neg hdata, List.append_assoc, List.append_assoc, List.take_append_of_le_length,
      List.take_take, Nat.min_eq_left hposition]
    rw [List.length_take]
    omega

theorem readAt_take {bound count : Nat} (hbound : position + count ≤ bound) :
    readAt (file.take bound) position count = readAt file position count := by
  rw [readAt, readAt, List.drop_take, List.take_take, Nat.min_eq_left (by omega)]

end Nozomi
