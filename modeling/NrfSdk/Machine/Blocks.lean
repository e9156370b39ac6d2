import NrfSdk.Machine.Word
import NrfSdk.Machine.Memory

namespace Machine

open Finset

section Blocks

variable (size : Nat → Nat)

def blockSum (index count : Nat) : Nat := ∑ k ∈ range count, size (index + k)

@[simp] theorem blockSum_zero (index : Nat) : blockSum size index 0 = 0 := by
  simp [blockSum]

theorem blockSum_succ (index count : Nat) :
    blockSum size index (count + 1) = size index + blockSum size (index + 1) count := by
  simp only [blockSum, sum_range_succ', Nat.add_zero]
  rw [Nat.add_comm]
  congr 1
  refine sum_congr rfl fun k _ => ?_
  rw [Nat.add_assoc, Nat.add_comm 1 k]

theorem blockSum_succ_right (index count : Nat) :
    blockSum size index (count + 1) = blockSum size index count + size (index + count) := by
  simp only [blockSum, sum_range_succ]

theorem blockSum_mono (index : Nat) {fewer more : Nat} (le : fewer ≤ more) :
    blockSum size index fewer ≤ blockSum size index more := by
  induction more with
  | zero => simp_all
  | succ more ih =>
    rcases Nat.lt_or_eq_of_le le with lt | rfl
    · rw [blockSum_succ_right]
      have := ih (by omega)
      omega
    · rfl

def peelFor : Nat → Nat → Nat → Nat × Nat
  | 0, index, count => (index, count)
  | fuel + 1, index, count =>
    if size index > count then (index, count) else peelFor fuel (index + 1) (count - size index)

/-- Whole blocks taken off a count, from block `index` on, while the next block fits: the index of
the first block that does not fit and what remains. With positive sizes every round lowers the
count, so `count + 1` rounds always reach that block. -/
def peel (index count : Nat) : Nat × Nat := peelFor size (count + 1) index count

variable {size}

theorem peelFor_of_blockSum {fuel index taken rest : Nat} (enough : taken < fuel)
    (fits : rest < size (index + taken)) :
    peelFor size fuel index (blockSum size index taken + rest) = (index + taken, rest) := by
  induction taken generalizing fuel index with
  | zero =>
    obtain ⟨fuel, rfl⟩ : ∃ f, fuel = f + 1 := ⟨fuel - 1, by omega⟩
    simp_all [peelFor]
  | succ taken ih =>
    obtain ⟨fuel, rfl⟩ : ∃ f, fuel = f + 1 := ⟨fuel - 1, by omega⟩
    have shifted : index + 1 + taken = index + (taken + 1) := by omega
    have next := ih (show taken < fuel by omega) (show rest < size (index + 1 + taken) by rwa [shifted])
    rw [blockSum_succ, peelFor, if_neg (by omega)]
    rw [show size index + blockSum size (index + 1) taken + rest - size index =
      blockSum size (index + 1) taken + rest by omega, next, shifted]

section Positive

variable (positive : ∀ index, 0 < size index)
include positive

theorem le_blockSum (index count : Nat) : count ≤ blockSum size index count := by
  induction count with
  | zero => simp
  | succ count ih =>
    rw [blockSum_succ_right]
    have := positive (index + count)
    omega

theorem peel_of_blockSum {index taken rest : Nat} (fits : rest < size (index + taken)) :
    peel size index (blockSum size index taken + rest) = (index + taken, rest) := by
  have bound := le_blockSum positive index taken
  exact peelFor_of_blockSum (by omega) fits

theorem peelFor_spec {fuel : Nat} (index count : Nat) (enough : count < fuel) :
    ∃ taken, peelFor size fuel index count = (index + taken, count - blockSum size index taken) ∧
      blockSum size index taken ≤ count ∧ count - blockSum size index taken < size (index + taken) := by
  induction fuel generalizing index count with
  | zero => omega
  | succ fuel ih =>
    by_cases stop : size index > count
    · exact ⟨0, by simp [peelFor, stop]⟩
    · have smaller := positive index
      obtain ⟨taken, result, within, fits⟩ := ih (index + 1) (count - size index) (by omega)
      refine ⟨taken + 1, ?_, ?_, ?_⟩
      · rw [peelFor, if_neg stop, result, blockSum_succ]
        congr 1
        · omega
        · omega
      · rw [blockSum_succ]
        omega
      · rw [blockSum_succ, show index + (taken + 1) = index + 1 + taken by omega]
        omega

/-- What `peel` returns: some whole blocks that fit, and a rest smaller than the next block. -/
theorem peel_spec (index count : Nat) :
    ∃ taken, peel size index count = (index + taken, count - blockSum size index taken) ∧
      blockSum size index taken ≤ count ∧ count - blockSum size index taken < size (index + taken) :=
  peelFor_spec positive index count (by omega)

end Positive

end Blocks

section Lists

def peelList : List Nat → Nat → Nat → Nat × Nat
  | [], index, count => (index, count)
  | size :: sizes, index, count =>
    if size ≤ count then peelList sizes (index + 1) (count - size) else (index, count)

theorem blockSum_getD_cons (size : Nat) (sizes : List Nat) (count : Nat) :
    blockSum (fun k => (size :: sizes).getD k 0) 0 (count + 1) =
      size + blockSum (fun k => sizes.getD k 0) 0 count := by
  rw [blockSum_succ]
  simp [blockSum, Nat.add_comm 1]

theorem peelList_of_blockSum {sizes : List Nat} {index taken rest : Nat} (inside : taken < sizes.length)
    (fits : rest < sizes.getD taken 0) :
    peelList sizes index (blockSum (fun k => sizes.getD k 0) 0 taken + rest) = (index + taken, rest) := by
  induction sizes generalizing index taken with
  | nil => simp at inside
  | cons size sizes ih =>
    cases taken with
    | zero => simp_all [peelList]
    | succ taken =>
      simp only [List.length_cons, List.getD_cons_succ] at inside fits
      rw [blockSum_getD_cons, peelList, if_pos (by omega),
        show size + blockSum (fun k => sizes.getD k 0) 0 taken + rest - size =
          blockSum (fun k => sizes.getD k 0) 0 taken + rest by omega,
        ih (by omega) fits]
      congr 1
      omega

theorem peelList_spec (sizes : List Nat) (index count : Nat) :
    ∃ taken ≤ sizes.length,
      peelList sizes index count = (index + taken, count - blockSum (fun k => sizes.getD k 0) 0 taken) ∧
      blockSum (fun k => sizes.getD k 0) 0 taken ≤ count ∧
      (taken < sizes.length → count - blockSum (fun k => sizes.getD k 0) 0 taken < sizes.getD taken 0) := by
  induction sizes generalizing index count with
  | nil => exact ⟨0, le_refl _, by simp [peelList]⟩
  | cons size sizes ih =>
    by_cases fits : size ≤ count
    · obtain ⟨taken, inside, result, within, rest⟩ := ih (index + 1) (count - size)
      refine ⟨taken + 1, by simpa using inside, ?_, ?_, ?_⟩
      · rw [peelList, if_pos fits, result, blockSum_getD_cons]
        congr 1
        · omega
        · omega
      · rw [blockSum_getD_cons]
        omega
      · intro inside'
        rw [blockSum_getD_cons, List.getD_cons_succ]
        have := rest (by simpa using inside')
        omega
    · exact ⟨0, by simp, by simp [peelList, fits], by simp, by simp; omega⟩

end Lists

section Accumulate

theorem forRange_wrap_add (width : Nat) (term : Nat → Nat) (count start : Nat)
    (fits : start + ∑ k ∈ range count, term k < 2 ^ width) :
    forRange count (fun k total => wrap width ((total : Int) + term k)) start =
      start + ∑ k ∈ range count, term k := by
  induction count with
  | zero => simp
  | succ count ih =>
    rw [sum_range_succ] at fits
    rw [forRange_succ, ih (by omega), sum_range_succ, ← Nat.add_assoc, ← Nat.cast_add]
    exact wrap_natCast_of_lt (by omega)

end Accumulate

end Machine
