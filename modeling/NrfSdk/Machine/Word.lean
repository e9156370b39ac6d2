import Mathlib.Tactic

namespace Machine

inductive Errno where
  | EPERM
  | ESRCH
  | EIO
  | EAGAIN
  | ENOMEM
  | EFAULT
  | EINVAL
  | ERANGE
  | E2BIG
  | EMSGSIZE
  | ENODATA
  | EBADMSG
  | EOPNOTSUPP
  | ENOTSUP
  | ENOSR
  | ECONNRESET
  | EMLINK
  deriving DecidableEq, Repr

def wrap (width : Nat) (value : Int) : Nat := (value % (2 ^ width : Nat)).toNat

def u8 (value : Int) : Nat := wrap 8 value
def u16 (value : Int) : Nat := wrap 16 value
def u32 (value : Int) : Nat := wrap 32 value

theorem wrap_lt (width : Nat) (value : Int) : wrap width value < 2 ^ width := by
  have positive : (0 : Int) < (2 ^ width : Nat) := by exact_mod_cast Nat.two_pow_pos width
  have bound := Int.emod_lt_of_pos value positive
  have nonneg := Int.emod_nonneg value positive.ne'
  unfold wrap
  omega

def bits (width : Nat) (value : Int) : Fin (2 ^ width) := ⟨wrap width value, wrap_lt width value⟩

def signed (width : Nat) (value : Int) : Int :=
  if wrap width value < 2 ^ (width - 1) then wrap width value else (wrap width value : Int) - 2 ^ width

theorem wrap_of_bounds {width : Nat} {value : Int} (low : 0 ≤ value) (high : value < (2 ^ width : Nat)) :
    wrap width value = value.toNat := by
  unfold wrap
  rw [Int.emod_eq_of_lt low high]

@[simp] theorem wrap_natCast_of_lt {width n : Nat} (high : n < 2 ^ width) : wrap width n = n := by
  rw [wrap_of_bounds (by omega) (by exact_mod_cast high)]
  simp

theorem wrap_natCast (width n : Nat) : wrap width n = n % 2 ^ width := by
  unfold wrap
  rw [← Int.natCast_mod, Int.toNat_natCast]

theorem u8_natCast_add_one (count : Nat) : u8 ((count : Int) + 1) = (count + 1) % 256 := by
  rw [show (count : Int) + 1 = ((count + 1 : Nat) : Int) by push_cast; rfl, u8, wrap_natCast]
  rfl

theorem wrap_natCast_le (width n : Nat) : wrap width n ≤ n := by
  rw [wrap_natCast]
  exact Nat.mod_le n _

@[simp] theorem bits_natCast_of_lt {width n : Nat} (high : n < 2 ^ width) : (bits width n).val = n :=
  wrap_natCast_of_lt high

theorem signed_of_bounds {width : Nat} {value : Int} (low : 0 ≤ value) (high : value < (2 ^ (width - 1) : Nat)) :
    signed width value = value := by
  have within : (2 ^ (width - 1) : Nat) ≤ 2 ^ width := Nat.pow_le_pow_right two_pos (Nat.sub_le width 1)
  unfold signed
  rw [wrap_of_bounds low (by omega), if_pos (by omega)]
  omega

theorem wrap_wrap_add (width : Nat) (value more : Int) :
    wrap width ((wrap width value : Int) + more) = wrap width (value + more) := by
  have positive : (0 : Int) < (2 ^ width : Nat) := by exact_mod_cast Nat.two_pow_pos width
  have stored : ((wrap width value : Nat) : Int) = value % (2 ^ width : Nat) :=
    Int.toNat_of_nonneg (Int.emod_nonneg value positive.ne')
  rw [stored]
  unfold wrap
  rw [Int.emod_add_emod value _ more]

theorem signed_of_neg_bounds {width : Nat} {value : Int} (wide : 0 < width)
    (low : -((2 ^ (width - 1) : Nat) : Int) ≤ value) (high : value < 0) : signed width value = value := by
  have half : 2 ^ width = 2 * 2 ^ (width - 1) := by
    rw [← pow_succ']
    congr 1
    omega
  have power : ((2 ^ width : Nat) : Int) = 2 ^ width := by push_cast; rfl
  have halfCast : ((2 ^ width : Nat) : Int) = 2 * ((2 ^ (width - 1) : Nat) : Int) := by exact_mod_cast half
  have stored : wrap width value = (value + (2 ^ width : Nat)).toNat := by
    unfold wrap
    rw [Int.emod_eq_add_self_emod, Int.emod_eq_of_lt (by omega) (by omega)]
  unfold signed
  rw [stored, if_neg (by omega)]
  omega

theorem signed_congr {width : Nat} {a b : Int} (same : a % (2 ^ width : Nat) = b % (2 ^ width : Nat)) :
    signed width a = signed width b := by
  unfold signed wrap
  rw [same]

theorem signed_emod (width : Nat) (value : Int) :
    signed width value % (2 ^ width : Nat) = value % (2 ^ width : Nat) := by
  have positive : (0 : Int) < (2 ^ width : Nat) := by exact_mod_cast Nat.two_pow_pos width
  have stored : ((wrap width value : Nat) : Int) = value % (2 ^ width : Nat) :=
    Int.toNat_of_nonneg (Int.emod_nonneg value positive.ne')
  unfold signed
  split
  · rw [stored, Int.emod_emod]
  · have power : ((2 ^ width : Nat) : Int) = 2 ^ width := by push_cast; rfl
    rw [stored, power, Int.sub_emod_right, Int.emod_emod]

theorem signed_signed_mul_add (width : Nat) (value factor more : Int) :
    signed width (signed width value * factor + more) = signed width (value * factor + more) := by
  apply signed_congr
  rw [Int.add_emod, Int.mul_emod, signed_emod, ← Int.mul_emod, ← Int.add_emod]

theorem natCast_wrap (width : Nat) (value : Int) : ((wrap width value : Nat) : Int) = value % (2 ^ width : Nat) := by
  have positive : (0 : Int) < (2 ^ width : Nat) := by exact_mod_cast Nat.two_pow_pos width
  exact Int.toNat_of_nonneg (Int.emod_nonneg value positive.ne')

theorem wrap_mod_two_pow {k width : Nat} (le : k ≤ width) (value : Int) :
    wrap width value % 2 ^ k = wrap k value := by
  have dvd : ((2 ^ k : Nat) : Int) ∣ ((2 ^ width : Nat) : Int) := by exact_mod_cast Nat.pow_dvd_pow 2 le
  apply Int.natCast_inj.mp
  rw [Int.natCast_mod, natCast_wrap, natCast_wrap, Int.emod_emod_of_dvd _ dvd]

theorem wrap_of_neg {width : Nat} {value : Int} (low : -((2 ^ width : Nat) : Int) ≤ value) (high : value < 0) :
    wrap width value = (value + (2 ^ width : Nat)).toNat := by
  unfold wrap
  rw [Int.emod_eq_add_self_emod, Int.emod_eq_of_lt (by omega) (by omega)]

theorem signed_wrap (width : Nat) (value : Int) : signed width (wrap width value) = signed width value := by
  apply signed_congr
  rw [natCast_wrap, Int.emod_emod]

theorem signed_of_range {width : Nat} {value : Int} (wide : 0 < width)
    (low : -((2 ^ (width - 1) : Nat) : Int) ≤ value) (high : value < (2 ^ (width - 1) : Nat)) :
    signed width value = value := by
  rcases lt_or_ge value 0 with negative | nonnegative
  · exact signed_of_neg_bounds wide low negative
  · exact signed_of_bounds nonnegative high

theorem natCast_wrap_of_bounds {width : Nat} {value : Int} (low : 0 ≤ value) (high : value < (2 ^ width : Nat)) :
    (wrap width value : Int) = value := by
  rw [wrap_of_bounds low high, Int.toNat_of_nonneg low]

end Machine
