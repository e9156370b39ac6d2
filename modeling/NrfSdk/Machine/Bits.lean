import Mathlib.Tactic
import Mathlib.Data.Nat.Bitwise
import Mathlib.Data.Int.Bitwise

namespace Machine

def popcount (width mask : Nat) : Nat := ((List.range width).filter fun bit => mask.testBit bit).length

def walkMask {σ : Type} (body : Nat → σ → σ) : Nat → Nat → Nat → σ → σ
  | 0, _, _, state => state
  | fuel + 1, mask, count, state =>
    if mask = 0 then state
    else if mask % 2 = 1 then walkMask body fuel (mask / 2) (count + 1) (body count state)
    else walkMask body fuel (mask / 2) count state

theorem or_shiftLeft_of_lt {low high k : Nat} (fits : low < 2 ^ k) : low ||| high <<< k = low + high * 2 ^ k := by
  rw [Nat.or_comm, ← Nat.shiftLeft_add_eq_or_of_lt fits, Nat.shiftLeft_eq, Nat.add_comm]

theorem and_two_pow_of_lt {n k : Nat} (small : n < 2 ^ k) : n &&& 2 ^ k = 0 := by
  apply Nat.eq_of_testBit_eq
  intro i
  rw [Nat.testBit_and, Nat.testBit_two_pow, Nat.zero_testBit]
  by_cases same : k = i
  · subst same
    rw [Nat.testBit_lt_two_pow small, Bool.false_and]
  · simp [same]

theorem popcount_succ (width mask : Nat) : popcount (width + 1) mask = mask % 2 + popcount width (mask / 2) := by
  have low : mask.testBit 0 = decide (mask % 2 = 1) := Nat.testBit_zero mask
  have high : (fun bit => mask.testBit bit) ∘ Nat.succ = fun bit => (mask / 2).testBit bit := by
    funext bit
    exact Nat.testBit_succ mask bit
  simp only [popcount, List.range_succ_eq_map, List.filter_cons, low, List.filter_map, high]
  rcases Nat.mod_two_eq_zero_or_one mask with even | odd
  · simp [even]
  · simp only [odd, decide_true, if_true, List.length_cons, List.length_map]
    omega

@[simp] theorem popcount_zero (width : Nat) : popcount width 0 = 0 := by
  simp [popcount]

theorem popcount_le (width mask : Nat) : popcount width mask ≤ width := by
  calc popcount width mask ≤ (List.range width).length := List.length_filter_le _ _
    _ = width := List.length_range

theorem popcount_pos {width mask : Nat} (nonzero : mask ≠ 0) (fits : mask < 2 ^ width) : 0 < popcount width mask := by
  induction width generalizing mask with
  | zero => simp at fits; omega
  | succ width ih =>
    rw [popcount_succ]
    rcases Nat.mod_two_eq_zero_or_one mask with even | odd
    · have rest : mask / 2 < 2 ^ width := by
        rw [Nat.pow_succ] at fits
        omega
      have pos := ih (by omega) rest
      omega
    · omega

theorem popcount_land_le (width mask other : Nat) : popcount width (mask &&& other) ≤ popcount width mask := by
  apply List.Sublist.length_le
  apply List.monotone_filter_right
  intro bit set
  rw [Nat.testBit_land, Bool.and_eq_true] at set
  exact set.1

theorem walkMask_eq {σ : Type} (body : Nat → σ → σ) (fuel mask count : Nat) (state : σ)
    (fits : mask < 2 ^ fuel) :
    walkMask body fuel mask count state =
      (List.range (popcount fuel mask)).foldl (fun state i => body (count + i) state) state := by
  induction fuel generalizing mask count state with
  | zero =>
    have empty : mask = 0 := by simpa using fits
    subst empty
    rfl
  | succ fuel ih =>
    have rest : mask / 2 < 2 ^ fuel := by
      rw [Nat.pow_succ] at fits
      omega
    rw [walkMask, popcount_succ]
    by_cases empty : mask = 0
    · subst empty
      simp
    rcases Nat.mod_two_eq_zero_or_one mask with even | odd
    · rw [if_neg empty, if_neg (by omega), ih _ _ _ rest, even, Nat.zero_add]
    · rw [if_neg empty, if_pos odd, ih _ _ _ rest, odd, Nat.add_comm 1, List.range_succ_eq_map, List.foldl_cons,
        List.foldl_map, Nat.add_zero]
      congr 1
      funext state i
      rw [Nat.add_right_comm, Nat.add_assoc]

def binaryDigits : Nat → Nat → List Char
  | 0, _ => []
  | width + 1, n => (if n.testBit width then '1' else '0') :: binaryDigits width n

def binaryValue (digits : List Char) : Nat :=
  digits.foldl (fun value c => 2 * value + (c.toNat - '0'.toNat)) 0

section Binary

theorem length_binaryDigits (width n : Nat) : (binaryDigits width n).length = width := by
  induction width with
  | zero => rfl
  | succ width ih => rw [binaryDigits, List.length_cons, ih]

theorem isBinary_of_mem_binaryDigits {width n : Nat} {c : Char} (member : c ∈ binaryDigits width n) :
    c = '0' ∨ c = '1' := by
  induction width with
  | zero => cases member
  | succ width ih =>
    rcases List.mem_cons.mp member with first | later
    · subst first
      split <;> simp
    · exact ih later

theorem foldl_binary (digits : List Char) (start : Nat) :
    digits.foldl (fun value c => 2 * value + (c.toNat - '0'.toNat)) start =
      start * 2 ^ digits.length + binaryValue digits := by
  induction digits generalizing start with
  | nil => simp [binaryValue]
  | cons c digits ih =>
    rw [binaryValue, List.foldl_cons, List.foldl_cons, ih, ih, List.length_cons, Nat.pow_succ]
    ring

theorem binaryValue_cons (c : Char) (digits : List Char) :
    binaryValue (c :: digits) = (c.toNat - '0'.toNat) * 2 ^ digits.length + binaryValue digits := by
  rw [binaryValue, List.foldl_cons, foldl_binary, Nat.mul_zero, Nat.zero_add]

theorem binaryValue_binaryDigits (width n : Nat) : binaryValue (binaryDigits width n) = n % 2 ^ width := by
  induction width with
  | zero => simp [binaryDigits, binaryValue, Nat.mod_one]
  | succ width ih =>
    rw [binaryDigits, binaryValue_cons, length_binaryDigits, ih, Nat.mod_pow_succ]
    by_cases set : n.testBit width = true
    · have digit : n / 2 ^ width % 2 = 1 := by
        rwa [Nat.testBit_eq_decide_div_mod_eq, decide_eq_true_eq] at set
      have one : '1'.toNat - '0'.toNat = 1 := rfl
      rw [if_pos set, one, digit]
      ring
    · have digit : n / 2 ^ width % 2 = 0 := by
        rw [Nat.testBit_eq_decide_div_mod_eq, decide_eq_true_eq] at set
        omega
      have zero : '0'.toNat - '0'.toNat = 0 := rfl
      rw [if_neg set, zero, digit]
      ring

theorem binaryDigits_add (high low n : Nat) :
    binaryDigits (high + low) n = binaryDigits high (n / 2 ^ low) ++ binaryDigits low n := by
  induction high with
  | zero => rw [Nat.zero_add]; rfl
  | succ high ih =>
    rw [Nat.add_right_comm, binaryDigits, ih, binaryDigits, Nat.testBit_div_two_pow, List.cons_append]

theorem and_two_pow_ne_zero_iff (n k : Nat) : n &&& 2 ^ k ≠ 0 ↔ n.testBit k = true := by
  rw [Nat.and_two_pow]
  cases n.testBit k <;> simp

end Binary

section Lor

/-! The C `|=` on int status codes: or-ing in a zero or the same code changes nothing. -/

theorem ldiff_zero_right (n : Nat) : Nat.ldiff n 0 = n :=
  Nat.eq_of_testBit_eq fun k => by rw [Nat.testBit_ldiff, Nat.zero_testBit, Bool.not_false, Bool.and_true]

theorem lor_zero_right (x : Int) : Int.lor x 0 = x := by
  cases x with
  | ofNat m => exact congrArg Int.ofNat (Nat.or_zero m)
  | negSucc m => exact congrArg Int.negSucc (ldiff_zero_right m)

theorem lor_zero_left (x : Int) : Int.lor 0 x = x := by
  cases x with
  | ofNat m => exact congrArg Int.ofNat (Nat.zero_or m)
  | negSucc m => exact congrArg Int.negSucc (ldiff_zero_right m)

theorem lor_self (x : Int) : Int.lor x x = x := by
  cases x with
  | ofNat m => exact congrArg Int.ofNat (Nat.or_self m)
  | negSucc m => exact congrArg Int.negSucc (Nat.and_self m)

end Lor

end Machine
