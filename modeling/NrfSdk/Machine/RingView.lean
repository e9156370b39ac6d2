import Mathlib.Data.Nat.ModEq
import Mathlib.Logic.Function.Basic
import Mathlib.Data.List.GetD

/-!
The contents of a circular buffer: `count` cells of a memory read from a `start` index on, wrapping at
`size`, and the distance from a read index forward to a write index. Filling the cell after the view
appends to it, and advancing the read index drops its front. What such a buffer implements is a bounded
FIFO, `fifoPut` and `fifoTake`.
-/

namespace Machine

section RingView

variable {α : Type}

/-- The `count` cells from `start` on, wrapping at `size`. -/
def ringView (cells : Nat → α) (start count size : Nat) : List α :=
  (List.range count).map fun k => cells ((start + k) % size)

def ringDistance (start stop size : Nat) : Nat := (stop + size - start) % size

@[simp] theorem length_ringView (cells : Nat → α) (start count size : Nat) :
    (ringView cells start count size).length = count := by
  simp [ringView]

@[simp] theorem ringView_zero (cells : Nat → α) (start size : Nat) : ringView cells start 0 size = [] := rfl

theorem ringView_succ (cells : Nat → α) (start count size : Nat) :
    ringView cells start (count + 1) size = ringView cells start count size ++ [cells ((start + count) % size)] := by
  simp [ringView, List.range_succ]

theorem add_mod_ne_of_lt {start a b size : Nat} (lt : a < b) (inside : b < size) :
    (start + a) % size ≠ (start + b) % size := by
  intro same
  have congruent : a % size = b % size := Nat.ModEq.add_left_cancel' start same
  rw [Nat.mod_eq_of_lt (by omega), Nat.mod_eq_of_lt inside] at congruent
  omega

theorem ringView_update_succ (cells : Nat → α) (value : α) {start count size : Nat} (inside : count < size) :
    ringView (Function.update cells ((start + count) % size) value) start (count + 1) size =
      ringView cells start count size ++ [value] := by
  have kept : ringView (Function.update cells ((start + count) % size) value) start count size =
      ringView cells start count size := by
    apply List.map_congr_left
    intro k member
    exact Function.update_of_ne (add_mod_ne_of_lt (List.mem_range.mp member) inside) _ _
  rw [ringView_succ, kept, Function.update_self]

theorem ringView_advance (cells : Nat → α) (start count size : Nat) :
    ringView cells start (count + 1) size = cells (start % size) :: ringView cells ((start + 1) % size) count size := by
  simp only [ringView, List.range_succ_eq_map, List.map_cons, List.map_map, Nat.add_zero]
  congr 1
  apply List.map_congr_left
  intro k _
  simp only [Function.comp, Nat.mod_add_mod, Nat.add_assoc, Nat.add_comm 1 k]

end RingView

section RingDistance

variable {start stop count size : Nat}

theorem ringDistance_lt (positive : 0 < size) : ringDistance start stop size < size := Nat.mod_lt _ positive

theorem add_ringDistance (startInside : start < size) (stopInside : stop < size) :
    (start + ringDistance start stop size) % size = stop := by
  have around : start + (stop + size - start) = stop + size := by omega
  rw [ringDistance, Nat.add_mod_mod, around, Nat.add_mod_right, Nat.mod_eq_of_lt stopInside]

theorem ringDistance_add (startInside : start < size) (inside : count < size) :
    ringDistance start ((start + count) % size) size = count := by
  unfold ringDistance
  by_cases wraps : size ≤ start + count
  · -- one turn past the end of the array
    have once : (start + count) % size = start + count - size := by
      rw [Nat.mod_eq_sub_mod wraps, Nat.mod_eq_of_lt (by omega)]
    rw [once, show start + count - size + size - start = count by omega, Nat.mod_eq_of_lt inside]
  · have within : (start + count) % size = start + count := Nat.mod_eq_of_lt (by omega)
    rw [within, show start + count + size - start = count + size by omega, Nat.add_mod_right,
      Nat.mod_eq_of_lt inside]

end RingDistance

section Fifo

variable {α : Type}

def fifoPut (capacity : Nat) (queue batch : List α) : List α × Nat :=
  (queue ++ batch.take (min batch.length (capacity - queue.length)), min batch.length (capacity - queue.length))

def fifoTake (queue : List α) (count : Nat) : List α × List α := (queue.take count, queue.drop count)

theorem map_range_getD {l : List α} {m : Nat} (d : α) (within : m ≤ l.length) :
    (List.range m).map (fun i => l.getD i d) = l.take m := by
  apply List.ext_getElem (by simp; omega)
  intro i inMap inTake
  simp only [List.getElem_map, List.getElem_range, List.getElem_take]
  exact List.getD_eq_getElem _ _ _

end Fifo

end Machine
