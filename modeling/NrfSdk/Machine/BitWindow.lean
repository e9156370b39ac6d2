import Mathlib.Data.Nat.Digits.Defs
import Mathlib.Tactic.Ring

/-!
A stream of `w`-bit digits read as one number, least significant digit first, as `Nat.ofDigits (2 ^ w)`
reads it, and the windows of it that a bit packer cuts: the digit at an index, a window of `t` bits
starting `s` bits into a digit (that digit shifted down, the next one shifted up above it), and the
chunks of a number in another width, which give the number back below their total width.
-/

namespace Machine

section BitWindow

variable {w : Nat} {digits : List Nat}

theorem getD_drop_zero (digits : List Nat) (k : Nat) : (digits.drop k).getD 0 0 = digits.getD k 0 := by
  rw [List.getD_eq_getElem?_getD, List.getD_eq_getElem?_getD, List.getElem?_drop, Nat.add_zero]

theorem getD_drop_one (digits : List Nat) (k : Nat) : (digits.drop k).getD 1 0 = digits.getD (k + 1) 0 := by
  rw [List.getD_eq_getElem?_getD, List.getD_eq_getElem?_getD, List.getElem?_drop]

theorem getD_lt (small : ∀ d ∈ digits, d < 2 ^ w) (k : Nat) : digits.getD k 0 < 2 ^ w := by
  rw [List.getD_eq_getElem?_getD]
  cases lookup : digits[k]? with
  | none => exact Nat.two_pow_pos w
  | some d => exact small d (List.mem_of_getElem? lookup)

theorem ofDigits_eq_getD (b : Nat) (digits : List Nat) :
    Nat.ofDigits b digits = digits.getD 0 0 + b * (digits.getD 1 0 + b * Nat.ofDigits b (digits.drop 2)) := by
  match digits with
  | [] => simp
  | [a] => simp [Nat.ofDigits]
  | a :: b :: rest => simp [Nat.ofDigits]

theorem ofDigits_shiftRight (k : Nat) (small : ∀ d ∈ digits, d < 2 ^ w) :
    Nat.ofDigits (2 ^ w) digits >>> (w * k) = Nat.ofDigits (2 ^ w) (digits.drop k) := by
  rw [Nat.shiftRight_eq_div_pow, Nat.pow_mul,
    Nat.ofDigits_div_pow_eq_ofDigits_drop k (Nat.two_pow_pos w) digits small]

theorem ofDigits_shiftRight_mod (k : Nat) (small : ∀ d ∈ digits, d < 2 ^ w) :
    (Nat.ofDigits (2 ^ w) digits >>> (w * k)) % 2 ^ w = digits.getD k 0 := by
  rw [ofDigits_shiftRight k small, ofDigits_eq_getD, Nat.add_mul_mod_self_left, getD_drop_zero,
    Nat.mod_eq_of_lt (getD_lt small k)]

theorem window_two_digits {s t a : Nat} (b rest : Nat) (small : a < 2 ^ w) (within : s ≤ w)
    (narrow : t + s ≤ 2 * w) :
    ((a + 2 ^ w * (b + 2 ^ w * rest)) >>> s) % 2 ^ t = ((a >>> s) ||| (b <<< (w - s))) % 2 ^ t := by
  have split : 2 ^ w = 2 ^ s * 2 ^ (w - s) := by rw [← Nat.pow_add, Nat.add_sub_cancel' within]
  have splitTwice : 2 ^ w * 2 ^ w = 2 ^ s * (2 ^ t * 2 ^ (2 * w - s - t)) := by
    rw [← Nat.pow_add, ← Nat.pow_add, ← Nat.pow_add]
    congr 1
    omega
  have low : a >>> s < 2 ^ (w - s) := by
    rw [Nat.shiftRight_eq_div_pow]
    exact Nat.div_lt_of_lt_mul (split ▸ small)
  -- 2^w and 2^(2w) both carry the factor 2^s that the shift removes
  have factored : a + 2 ^ w * (b + 2 ^ w * rest) =
      a + 2 ^ s * (2 ^ (w - s) * b + 2 ^ t * (2 ^ (2 * w - s - t) * rest)) := by
    calc a + 2 ^ w * (b + 2 ^ w * rest) = a + 2 ^ w * b + 2 ^ w * 2 ^ w * rest := by ring
      _ = a + 2 ^ s * (2 ^ (w - s) * b + 2 ^ t * (2 ^ (2 * w - s - t) * rest)) := by
        rw [splitTwice, split]
        ring
  rw [Nat.shiftRight_eq_div_pow, factored, Nat.add_mul_div_left _ _ (Nat.two_pow_pos s), ← Nat.add_assoc,
    Nat.add_mul_mod_self_left, Nat.or_comm, ← Nat.shiftLeft_add_eq_or_of_lt low, Nat.shiftLeft_eq,
    Nat.shiftRight_eq_div_pow, Nat.add_comm (b * _), Nat.mul_comm b]

theorem ofDigits_window (k : Nat) {s t : Nat} (small : ∀ d ∈ digits, d < 2 ^ w) (within : s ≤ w)
    (narrow : t + s ≤ 2 * w) :
    (Nat.ofDigits (2 ^ w) digits >>> (w * k + s)) % 2 ^ t =
      ((digits.getD k 0 >>> s) ||| (digits.getD (k + 1) 0 <<< (w - s))) % 2 ^ t := by
  have first : (digits.drop k).getD 0 0 < 2 ^ w := getD_lt (fun d member => small d (List.mem_of_mem_drop member)) 0
  rw [Nat.shiftRight_add, ofDigits_shiftRight k small, ofDigits_eq_getD, window_two_digits _ _ first within narrow,
    getD_drop_zero, getD_drop_one]

theorem ofDigits_chunks (w m x : Nat) :
    Nat.ofDigits (2 ^ w) ((List.range m).map fun i => (x >>> (w * i)) % 2 ^ w) = x % 2 ^ (w * m) := by
  induction m with
  | zero => simp [Nat.mod_one]
  | succ m ih =>
    rw [List.range_succ, List.map_append, List.map_singleton, Nat.ofDigits_append, ih, Nat.ofDigits_singleton,
      List.length_map, List.length_range, ← Nat.pow_mul, Nat.shiftRight_eq_div_pow, Nat.mul_succ, Nat.pow_add,
      Nat.mod_mul]

theorem ofDigits_mod_pow (wide : 0 < w) (m : Nat) (small : ∀ d ∈ digits, d < 2 ^ w) :
    Nat.ofDigits (2 ^ w) digits % 2 ^ (w * m) = Nat.ofDigits (2 ^ w) (digits.take m) := by
  have below : Nat.ofDigits (2 ^ w) (digits.take m) < 2 ^ (w * m) := by
    calc Nat.ofDigits (2 ^ w) (digits.take m) < (2 ^ w) ^ (digits.take m).length :=
          Nat.ofDigits_lt_base_pow_length (Nat.one_lt_two_pow (by omega))
            (fun d member => small d (List.mem_of_mem_take member))
      _ ≤ 2 ^ (w * m) := by
        rw [← Nat.pow_mul]
        exact Nat.pow_le_pow_right (by decide) (Nat.mul_le_mul_left w (List.length_take_le m digits))
  conv_lhs => rw [← List.take_append_drop m digits]
  rw [Nat.ofDigits_append]
  by_cases short : m ≤ digits.length
  · rw [List.length_take_of_le short, ← Nat.pow_mul, Nat.add_mul_mod_self_left, Nat.mod_eq_of_lt below]
  · rw [List.drop_eq_nil_of_le (by omega), Nat.ofDigits_nil, Nat.mul_zero, Nat.add_zero, Nat.mod_eq_of_lt below]

theorem shiftRight_mod_of_le {x a t c : Nat} (le : a + t ≤ c) : ((x % 2 ^ c) >>> a) % 2 ^ t = (x >>> a) % 2 ^ t := by
  rw [Nat.shiftRight_eq_div_pow, Nat.shiftRight_eq_div_pow, ← Nat.mod_mul_right_div_self,
    ← Nat.mod_mul_right_div_self, ← Nat.pow_add, Nat.mod_mod_of_dvd _ (Nat.pow_dvd_pow 2 le)]

end BitWindow

end Machine
