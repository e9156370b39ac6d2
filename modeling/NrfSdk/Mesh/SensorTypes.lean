import NrfSdk.Machine.LittleEndian
import NrfSdk.Machine.Bits

/-!
The scalar sensor formats of sensor_types.c: a value of one to four bytes, signed or unsigned, whose
numeric range, "unknown" code and "invalid" code come from the flags of its representation.
-/

namespace Mesh

open Machine (u8 u16 u32 wrap leValue sysGetLe16 sysGetLe24 sysGetLe32 sysPutLe16 sysPutLe24 sysPutLe32 Errno)

-- enum scalar_repr_flags
namespace ScalarReprFlags

def unsigned : Nat := 0
def signed : Nat := 0x2
def hasUndefined : Nat := 0x8
def hasHigherThan : Nat := 0x10
def hasInvalid : Nat := 0x20
def hasMax : Nat := 0x40
def hasMin : Nat := 0x80
def hasUndefinedMin : Nat := 0x100
def hasUndefinedMaxMinus1 : Nat := 0x200
def hasLowerThan : Nat := 0x400

end ScalarReprFlags

open ScalarReprFlags

/-- struct scalar_repr without the scale factor, which only the conversions to and from numbers with a
unit read. -/
structure ScalarRepr where
  flags : Nat
  min : Int
  max : Nat
  deriving DecidableEq, Repr

/-- A scalar struct bt_mesh_sensor_format: its size in bytes and its representation. -/
structure ScalarFormat where
  size : Nat
  repr : ScalarRepr
  deriving DecidableEq, Repr

def ScalarRepr.has (repr : ScalarRepr) (flag : Nat) : Bool := repr.flags &&& flag != 0

/-- enum bt_mesh_sensor_value_status. -/
inductive BtMeshSensorValueStatus where
  | number
  | conversionError
  | clamped
  | unknown
  | invalid
  | maxOrGreater
  | minOrLess
  | totalDeviceLife
  deriving DecidableEq, Repr

/-! The range of a format -/

/-- BIT64(8 * size - 1) - 1 or BIT64(8 * size) - 1, returned as a uint32_t. -/
def scalarTypeMax (format : ScalarFormat) : Nat :=
  u32 (if format.repr.has signed then 2 ^ (8 * format.size - 1) - 1 else 2 ^ (8 * format.size) - 1 : Nat)

def scalarTypeMin (format : ScalarFormat) : Int :=
  if format.repr.has signed then Machine.signed 32 (-((2 ^ (8 * format.size - 1) : Nat) : Int)) else 0

def scalarMax (format : ScalarFormat) : Int :=
  if format.repr.has hasMax then format.repr.max
  else if format.repr.has hasInvalid then u32 (scalarTypeMax format - 2)
  else if format.repr.has hasUndefined then u32 (scalarTypeMax format - 1)
  else scalarTypeMax format

def scalarMin (format : ScalarFormat) : Int :=
  if format.repr.has hasMin then format.repr.min
  else if format.repr.has hasUndefinedMin then scalarTypeMin format + 1
  else scalarTypeMin format

/-! The codec -/

/-- scalar_decode_raw; none is -ERANGE. The three byte case extends the sign from bit 24 with the byte
above it, as the source does. -/
def scalarDecodeRaw (format : ScalarFormat) (src : List UInt8) : Option Int :=
  match format.size with
  | 1 => some (if format.repr.has signed then Machine.signed 8 (leValue (src.take 1)) else leValue (src.take 1))
  | 2 => some (if format.repr.has signed then Machine.signed 16 (sysGetLe16 src) else sysGetLe16 src)
  | 3 =>
    let raw := sysGetLe24 src
    some (if format.repr.has signed ∧ raw &&& 2 ^ 24 ≠ 0 then raw ||| 0xFF <<< 24 else raw)
  | 4 => some (sysGetLe32 src)
  | _ => none

/-- scalar_encode_raw: the value in the byte, or in the uint16_t or uint32_t parameter of sys_put_le;
none is -EIO. -/
def scalarEncodeRaw (format : ScalarFormat) (raw : Int) : Option (List UInt8) :=
  match format.size with
  | 1 => some [(u8 raw).toUInt8]
  | 2 => some (sysPutLe16 (u16 raw))
  | 3 => some (sysPutLe24 (u32 raw))
  | 4 => some (sysPutLe32 (u32 raw))
  | _ => none

/-! The special values -/

def scalarUnknownRaw (format : ScalarFormat) : Option Int :=
  if format.repr.has hasUndefined then some (scalarTypeMax format)
  else if format.repr.has hasUndefinedMin then some (scalarTypeMin format)
  else if format.repr.has hasUndefinedMaxMinus1 then some (u32 (scalarTypeMax format - 1))
  else none

def scalarInvalidRaw (format : ScalarFormat) : Option Int :=
  if format.repr.has hasInvalid then
    some ((u32 (scalarTypeMax format - 1) : Int) + if format.repr.has hasUndefinedMaxMinus1 then 1 else 0)
  else none

def scalarClassify (format : ScalarFormat) (val : Int) : BtMeshSensorValueStatus :=
  if val = scalarMax format ∧ format.repr.has hasHigherThan then .maxOrGreater
  else if val = scalarMin format ∧ format.repr.has hasLowerThan then .minOrLess
  else if scalarMin format ≤ val ∧ val ≤ scalarMax format then .number
  else if scalarUnknownRaw format = some val then .unknown
  else if scalarInvalidRaw format = some val then .invalid
  else .conversionError

/-- scalar_to_raw: the status and the decoded value it writes, none when decoding fails. -/
def scalarToRaw (format : ScalarFormat) (raw : List UInt8) : BtMeshSensorValueStatus × Option Int :=
  match scalarDecodeRaw format raw with
  | none => (.conversionError, none)
  | some val => (scalarClassify format val, some val)

def clamp (val low high : Int) : Int := if val ≤ low then low else min val high

/-- scalar_from_raw: the bytes written and whether the value was clamped (-ERANGE); none is -EIO. -/
def scalarFromRaw (format : ScalarFormat) (val : Int) : Option (List UInt8 × Bool) :=
  let clamped := clamp val (scalarMin format) (scalarMax format)
  (scalarEncodeRaw format clamped).map fun raw => (raw, decide (clamped ≠ val))

/-- The raw value scalar_from_special_status picks for a status, none where it returns -ERANGE. -/
def specialStatusRaw (format : ScalarFormat) : BtMeshSensorValueStatus → Option Int
  | .unknown => scalarUnknownRaw format
  | .invalid => scalarInvalidRaw format
  | .maxOrGreater => if format.repr.has hasHigherThan then some (scalarMax format) else none
  | .minOrLess => if format.repr.has hasLowerThan then some (scalarMin format) else none
  | _ => none

def scalarFromSpecialStatus (format : ScalarFormat) (status : BtMeshSensorValueStatus) : Except Errno (List UInt8) :=
  match specialStatusRaw format status with
  | none => .error .ERANGE
  | some raw =>
    match scalarEncodeRaw format raw with
    | none => .error Errno.EIO
    | some bytes => .ok bytes

/-! The codec reads back what it writes -/

def ScalarFormat.Sized (format : ScalarFormat) : Prop := 1 ≤ format.size ∧ format.size ≤ 4

/-- The formats whose sign scalar_decode_raw restores: one or two bytes, or unsigned. -/
def ScalarFormat.SignRestored (format : ScalarFormat) : Prop := format.size ≤ 2 ∨ format.repr.has signed = false

instance (format : ScalarFormat) : Decidable format.Sized := inferInstanceAs (Decidable (_ ∧ _))

instance (format : ScalarFormat) : Decidable format.SignRestored := inferInstanceAs (Decidable (_ ∨ _))

def ScalarFormat.InTypeRange (format : ScalarFormat) (raw : Int) : Prop :=
  scalarTypeMin format ≤ raw ∧ raw ≤ scalarTypeMax format

section Codec

variable {format : ScalarFormat} {raw : Int}

theorem ScalarFormat.Sized.cases (sized : format.Sized) :
    format.size = 1 ∨ format.size = 2 ∨ format.size = 3 ∨ format.size = 4 := by
  obtain ⟨low, high⟩ := sized
  omega

theorem ScalarFormat.Sized.pow_le (sized : format.Sized) : 2 ^ (8 * format.size) ≤ 2 ^ 32 :=
  Nat.pow_le_pow_right two_pos (by obtain ⟨_, high⟩ := sized; omega)

theorem scalarTypeMax_of_signed (sized : format.Sized) (isSigned : format.repr.has signed = true) :
    scalarTypeMax format = 2 ^ (8 * format.size - 1) - 1 := by
  have half : 2 ^ (8 * format.size - 1) ≤ 2 ^ (8 * format.size) := Nat.pow_le_pow_right two_pos (by omega)
  have fits := sized.pow_le
  rw [scalarTypeMax, if_pos isSigned, u32, Machine.wrap_natCast_of_lt (by omega)]

theorem scalarTypeMax_of_unsigned (sized : format.Sized) (isUnsigned : format.repr.has signed = false) :
    scalarTypeMax format = 2 ^ (8 * format.size) - 1 := by
  have fits := sized.pow_le
  rw [scalarTypeMax, if_neg (by simp [isUnsigned]), u32, Machine.wrap_natCast_of_lt (by omega)]

theorem scalarTypeMin_of_signed (sized : format.Sized) (isSigned : format.repr.has signed = true) :
    scalarTypeMin format = -((2 ^ (8 * format.size - 1) : Nat) : Int) := by
  have half : 2 ^ (8 * format.size - 1) ≤ 2 ^ 31 := Nat.pow_le_pow_right two_pos (by obtain ⟨_, high⟩ := sized; omega)
  have positive := Nat.two_pow_pos (8 * format.size - 1)
  rw [scalarTypeMin, if_pos isSigned]
  generalize 2 ^ (8 * format.size - 1) = bound at half positive ⊢
  exact Machine.signed_of_range (by norm_num) (by norm_num; omega) (by norm_num; omega)

theorem scalarTypeMin_of_unsigned (isUnsigned : format.repr.has signed = false) : scalarTypeMin format = 0 := by
  rw [scalarTypeMin, if_neg (by simp [isUnsigned])]

theorem scalarTypeMax_bounds (sized : format.Sized) : 127 ≤ scalarTypeMax format ∧ scalarTypeMax format < 2 ^ 32 := by
  have seven : 2 ^ 7 ≤ 2 ^ (8 * format.size - 1) := Nat.pow_le_pow_right two_pos (by obtain ⟨one, _⟩ := sized; omega)
  have half : 2 ^ (8 * format.size - 1) ≤ 2 ^ (8 * format.size) := Nat.pow_le_pow_right two_pos (by omega)
  refine ⟨?_, by unfold scalarTypeMax u32; exact Machine.wrap_lt 32 _⟩
  cases isSigned : format.repr.has signed
  · rw [scalarTypeMax_of_unsigned sized isSigned]
    omega
  · rw [scalarTypeMax_of_signed sized isSigned]
    omega

theorem scalarTypeMin_nonpos (sized : format.Sized) : scalarTypeMin format ≤ 0 := by
  cases isSigned : format.repr.has signed
  · rw [scalarTypeMin_of_unsigned isSigned]
  · rw [scalarTypeMin_of_signed sized isSigned]
    exact neg_nonpos.mpr (Int.natCast_nonneg _)

theorem readBack_wrap (sized : format.Sized) (inRange : format.InTypeRange raw) :
    (if format.repr.has signed then Machine.signed (8 * format.size) (wrap (8 * format.size) raw)
      else (wrap (8 * format.size) raw : Int)) = raw := by
  obtain ⟨low, high⟩ := inRange
  cases isSigned : format.repr.has signed
  · rw [scalarTypeMin_of_unsigned isSigned] at low
    rw [scalarTypeMax_of_unsigned sized isSigned] at high
    have positive := Nat.two_pow_pos (8 * format.size)
    have below : raw < ((2 ^ (8 * format.size) : Nat) : Int) := by
      generalize 2 ^ (8 * format.size) = bound at high positive ⊢
      omega
    rw [if_neg (by simp), Machine.wrap_of_bounds low below, Int.toNat_of_nonneg low]
  · rw [scalarTypeMin_of_signed sized isSigned] at low
    rw [scalarTypeMax_of_signed sized isSigned] at high
    have positive := Nat.two_pow_pos (8 * format.size - 1)
    have wide : 0 < 8 * format.size := by obtain ⟨one, _⟩ := sized; omega
    have below : raw < ((2 ^ (8 * format.size - 1) : Nat) : Int) := by
      generalize 2 ^ (8 * format.size - 1) = bound at high positive ⊢
      omega
    rw [if_pos rfl, Machine.signed_wrap, Machine.signed_of_range wide low below]

theorem leValue_u8 (raw : Int) : leValue ([(u8 raw).toUInt8].take 1) = wrap 8 raw := by
  have small := Machine.wrap_lt 8 raw
  simp only [List.take_succ_cons, List.take_zero, leValue, u8]
  simp only [Nat.toUInt8_eq, UInt8.toNat_ofNat', Nat.mul_zero, Nat.add_zero]
  exact Nat.mod_eq_of_lt small

theorem sysGetLe_wrap {count width : Nat} (le : 8 * count ≤ width) (raw : Int) :
    Machine.sysGetLe count (Machine.leBytes count (wrap width raw)) = wrap (8 * count) raw := by
  rw [Machine.sysGetLe_leBytes, Machine.wrap_mod_two_pow le]

theorem scalarEncodeRaw_bind_decodeRaw (sized : format.Sized) (restored : format.SignRestored)
    (inRange : format.InTypeRange raw) :
    (scalarEncodeRaw format raw).bind (scalarDecodeRaw format) = some raw := by
  have readBack := readBack_wrap sized inRange
  rcases sized.cases with size | size | size | size <;>
    simp only [scalarEncodeRaw, scalarDecodeRaw, size, Option.bind_some] at readBack ⊢
  · rw [leValue_u8, readBack]
  · rw [sysGetLe16, sysPutLe16, u16, sysGetLe_wrap le_rfl, readBack]
  · -- three bytes: unsigned, so the test of bit 24 is not reached
    have isUnsigned : format.repr.has signed = false := by rcases restored with small | unsigned <;> omega
    rw [sysGetLe24, sysPutLe24, u32, sysGetLe_wrap (by norm_num)]
    simp only [isUnsigned, Bool.false_eq_true, false_and, if_false] at readBack ⊢
    rw [readBack]
  · have isUnsigned : format.repr.has signed = false := by rcases restored with small | unsigned <;> omega
    rw [sysGetLe32, sysPutLe32, u32, sysGetLe_wrap le_rfl]
    simp only [isUnsigned, Bool.false_eq_true, if_false] at readBack
    rw [readBack]

theorem scalarEncodeRaw_bind_decodeRaw_of_neg (wide : format.size = 3 ∨ format.size = 4)
    (low : -((2 ^ (8 * format.size - 1) : Nat) : Int) ≤ raw) (negative : raw < 0) :
    (scalarEncodeRaw format raw).bind (scalarDecodeRaw format) = some (raw + 2 ^ (8 * format.size)) := by
  rcases wide with size | size <;> rw [size] at low ⊢ <;>
    simp only [scalarEncodeRaw, scalarDecodeRaw, size, Option.bind_some]
  · have stored : wrap 24 raw = (raw + (2 ^ 24 : Nat)).toNat := Machine.wrap_of_neg (by norm_num at low ⊢; omega) negative
    have noBit : wrap 24 raw &&& 2 ^ 24 = 0 := Machine.and_two_pow_of_lt (Machine.wrap_lt 24 raw)
    rw [sysGetLe24, sysPutLe24, u32, sysGetLe_wrap (by norm_num), noBit, if_neg (by simp), stored]
    norm_num
    omega
  · have stored : wrap 32 raw = (raw + (2 ^ 32 : Nat)).toNat := Machine.wrap_of_neg (by norm_num at low ⊢; omega) negative
    rw [sysGetLe32, sysPutLe32, u32, sysGetLe_wrap le_rfl, stored]
    norm_num
    omega

end Codec

/-! The statuses -/

/-- What makes the statuses of a format well defined: its numeric range lies in the type's, and its special
codes lie outside that range and differ. -/
structure ScalarFormat.Consistent (format : ScalarFormat) : Prop where
  minInType : scalarTypeMin format ≤ scalarMin format
  minBelowMax : scalarMin format < scalarMax format
  maxInType : scalarMax format ≤ scalarTypeMax format
  unknownOutside : ∀ code ∈ scalarUnknownRaw format, code < scalarMin format ∨ scalarMax format < code
  invalidOutside : ∀ code ∈ scalarInvalidRaw format, code < scalarMin format ∨ scalarMax format < code
  invalidNotUnknown : ∀ code ∈ scalarInvalidRaw format, scalarUnknownRaw format ≠ some code

instance (format : ScalarFormat) : Decidable format.Consistent :=
  decidable_of_iff (scalarTypeMin format ≤ scalarMin format ∧ scalarMin format < scalarMax format ∧
      scalarMax format ≤ scalarTypeMax format ∧
      (∀ code ∈ scalarUnknownRaw format, code < scalarMin format ∨ scalarMax format < code) ∧
      (∀ code ∈ scalarInvalidRaw format, code < scalarMin format ∨ scalarMax format < code) ∧
      ∀ code ∈ scalarInvalidRaw format, scalarUnknownRaw format ≠ some code)
    ⟨fun ⟨a, b, c, d, e, f⟩ => ⟨a, b, c, d, e, f⟩, fun ⟨a, b, c, d, e, f⟩ => ⟨a, b, c, d, e, f⟩⟩

/-- The values each status stands for: a number in the range, except a bound flagged as open; the unknown
and the invalid code; and what is left. -/
def ScalarClass (format : ScalarFormat) (val : Int) : BtMeshSensorValueStatus → Prop
  | .maxOrGreater => val = scalarMax format ∧ format.repr.has hasHigherThan
  | .minOrLess => val = scalarMin format ∧ format.repr.has hasLowerThan
  | .number => (scalarMin format ≤ val ∧ val ≤ scalarMax format) ∧
      ¬(val = scalarMax format ∧ format.repr.has hasHigherThan) ∧ ¬(val = scalarMin format ∧ format.repr.has hasLowerThan)
  | .unknown => scalarUnknownRaw format = some val
  | .invalid => scalarInvalidRaw format = some val
  | .conversionError => ¬(scalarMin format ≤ val ∧ val ≤ scalarMax format) ∧ scalarUnknownRaw format ≠ some val ∧
      scalarInvalidRaw format ≠ some val
  | .clamped | .totalDeviceLife => False

section Statuses

variable {format : ScalarFormat}

theorem scalarClass_scalarClassify (val : Int) : ScalarClass format val (scalarClassify format val) := by
  unfold scalarClassify
  split_ifs with atMax atMin inRange unknown invalid
  · exact atMax
  · exact atMin
  · exact ⟨inRange, atMax, atMin⟩
  · exact unknown
  · exact invalid
  · exact ⟨inRange, unknown, invalid⟩

theorem scalarClassify_eq_iff (consistent : format.Consistent) (val : Int) (status : BtMeshSensorValueStatus) :
    scalarClassify format val = status ↔ ScalarClass format val status := by
  have ordered := consistent.minBelowMax
  constructor
  · rintro rfl
    exact scalarClass_scalarClassify val
  · unfold scalarClassify
    cases status with
    | maxOrGreater =>
      intro (atMax : val = scalarMax format ∧ format.repr.has hasHigherThan)
      rw [if_pos atMax]
    | minOrLess =>
      rintro ⟨atMin, lower⟩
      rw [if_neg (fun ⟨atMax, _⟩ => by omega), if_pos ⟨atMin, lower⟩]
    | number =>
      rintro ⟨inRange, notMax, notMin⟩
      rw [if_neg notMax, if_neg notMin, if_pos inRange]
    | unknown =>
      intro (unknown : scalarUnknownRaw format = some val)
      have outside := consistent.unknownOutside val (Option.mem_def.mpr unknown)
      rw [if_neg (fun ⟨atMax, _⟩ => by omega), if_neg (fun ⟨atMin, _⟩ => by omega), if_neg (by omega),
        if_pos unknown]
    | invalid =>
      intro (invalid : scalarInvalidRaw format = some val)
      have outside := consistent.invalidOutside val (Option.mem_def.mpr invalid)
      rw [if_neg (fun ⟨atMax, _⟩ => by omega), if_neg (fun ⟨atMin, _⟩ => by omega), if_neg (by omega),
        if_neg (consistent.invalidNotUnknown val (Option.mem_def.mpr invalid)), if_pos invalid]
    | conversionError =>
      rintro ⟨outside, notUnknown, notInvalid⟩
      rw [if_neg (fun ⟨atMax, _⟩ => outside ⟨by omega, by omega⟩), if_neg (fun ⟨atMin, _⟩ => outside ⟨by omega, by omega⟩),
        if_neg outside, if_neg notUnknown, if_neg notInvalid]
    | clamped | totalDeviceLife => exact False.elim

theorem ScalarClass.unique (consistent : format.Consistent) {val : Int} {status other : BtMeshSensorValueStatus}
    (first : ScalarClass format val status) (second : ScalarClass format val other) : status = other := by
  rw [← scalarClassify_eq_iff consistent] at first second
  rw [← first, second]

end Statuses

/-! The special statuses -/

section Special

variable {format : ScalarFormat} {status : BtMeshSensorValueStatus} {raw : Int}

theorem u32_scalarTypeMax_sub (sized : format.Sized) {k : Int} (nonneg : 0 ≤ k) (small : k ≤ 2) :
    (u32 (scalarTypeMax format - k) : Int) = scalarTypeMax format - k := by
  obtain ⟨low, high⟩ := scalarTypeMax_bounds sized
  exact Machine.natCast_wrap_of_bounds (by omega) (by push_cast; omega)

theorem specialStatusRaw_class (picked : specialStatusRaw format status = some raw) :
    ScalarClass format raw status := by
  cases status with
  | unknown => exact picked
  | invalid => exact picked
  | maxOrGreater =>
    simp only [specialStatusRaw, Option.ite_none_right_eq_some, Option.some.injEq] at picked
    exact ⟨picked.2.symm, picked.1⟩
  | minOrLess =>
    simp only [specialStatusRaw, Option.ite_none_right_eq_some, Option.some.injEq] at picked
    exact ⟨picked.2.symm, picked.1⟩
  | number | conversionError | clamped | totalDeviceLife => exact absurd picked (by simp [specialStatusRaw])

theorem specialStatusRaw_inTypeRange (sized : format.Sized) (consistent : format.Consistent)
    (picked : specialStatusRaw format status = some raw) : format.InTypeRange raw := by
  obtain ⟨atLeast, below⟩ := scalarTypeMax_bounds sized
  have nonpos := scalarTypeMin_nonpos sized
  have ordered := consistent.minBelowMax
  have minIn := consistent.minInType
  have maxIn := consistent.maxInType
  have classified := specialStatusRaw_class picked
  cases status with
  | unknown =>
    change scalarUnknownRaw format = some raw at classified
    unfold scalarUnknownRaw at classified
    split_ifs at classified <;> rw [Option.some.injEq] at classified <;> subst classified
    · exact ⟨by omega, le_rfl⟩
    · exact ⟨le_rfl, by omega⟩
    · rw [u32_scalarTypeMax_sub sized (by norm_num) (by norm_num)]
      exact ⟨by omega, by omega⟩
  | invalid =>
    change scalarInvalidRaw format = some raw at classified
    unfold scalarInvalidRaw at classified
    split_ifs at classified with flagged <;> rw [Option.some.injEq] at classified <;> subst classified
    all_goals
      rw [u32_scalarTypeMax_sub sized (by norm_num) (by norm_num)]
      constructor <;> omega
  | maxOrGreater =>
    obtain ⟨atMax, _⟩ := classified
    exact ⟨by omega, by omega⟩
  | minOrLess =>
    obtain ⟨atMin, _⟩ := classified
    exact ⟨by omega, by omega⟩
  | number | conversionError | clamped | totalDeviceLife => exact absurd picked (by simp [specialStatusRaw])

theorem scalarFromSpecialStatus_scalarToRaw (sized : format.Sized) (restored : format.SignRestored)
    (consistent : format.Consistent) (picked : specialStatusRaw format status = some raw) :
    ∃ bytes, scalarFromSpecialStatus format status = .ok bytes ∧ scalarToRaw format bytes = (status, some raw) := by
  have readBack := scalarEncodeRaw_bind_decodeRaw sized restored (specialStatusRaw_inTypeRange sized consistent picked)
  obtain ⟨bytes, encoded, decoded⟩ := Option.bind_eq_some_iff.mp readBack
  refine ⟨bytes, by simp [scalarFromSpecialStatus, picked, encoded], ?_⟩
  simp only [scalarToRaw, decoded]
  rw [(scalarClassify_eq_iff consistent raw status).mpr (specialStatusRaw_class picked)]

theorem scalarToRaw_of_neg (sized : format.Sized) (consistent : format.Consistent)
    (isSigned : format.repr.has signed = true) (wide : format.size = 3 ∨ format.size = 4)
    (low : scalarTypeMin format ≤ raw) (negative : raw < 0) :
    ∃ bytes, scalarEncodeRaw format raw = some bytes ∧
      scalarToRaw format bytes = (.conversionError, some (raw + 2 ^ (8 * format.size))) := by
  rw [scalarTypeMin_of_signed sized isSigned] at low
  obtain ⟨bytes, encoded, decoded⟩ := Option.bind_eq_some_iff.mp (scalarEncodeRaw_bind_decodeRaw_of_neg wide low negative)
  have typeMax := scalarTypeMax_of_signed sized isSigned
  have typeMin := scalarTypeMin_of_signed sized isSigned
  have maxIn := consistent.maxInType
  have half : 2 ^ (8 * format.size) = 2 * 2 ^ (8 * format.size - 1) := by
    rw [← pow_succ']
    congr 1
    omega
  -- the value read is above the type's maximum, and so above the range and every special code
  have above : (scalarTypeMax format : Int) < raw + 2 ^ (8 * format.size) := by
    have halfInt : (2 : Int) ^ (8 * format.size) = 2 * 2 ^ (8 * format.size - 1) := by exact_mod_cast half
    rw [typeMax, halfInt]
    push_cast [Nat.one_le_two_pow] at low ⊢
    omega
  have outside : ¬(scalarMin format ≤ raw + 2 ^ (8 * format.size) ∧ raw + 2 ^ (8 * format.size) ≤ scalarMax format) :=
    fun ⟨_, atMost⟩ => by omega
  have notUnknown : scalarUnknownRaw format ≠ some (raw + 2 ^ (8 * format.size)) := by
    intro unknown
    obtain ⟨_, atMost⟩ := @specialStatusRaw_inTypeRange _ .unknown _ sized consistent unknown
    omega
  have notInvalid : scalarInvalidRaw format ≠ some (raw + 2 ^ (8 * format.size)) := by
    intro invalid
    obtain ⟨_, atMost⟩ := @specialStatusRaw_inTypeRange _ .invalid _ sized consistent invalid
    omega
  refine ⟨bytes, encoded, ?_⟩
  simp only [scalarToRaw, decoded]
  rw [(scalarClassify_eq_iff consistent _ .conversionError).mpr ⟨outside, notUnknown, notInvalid⟩]

end Special

/-! The formats of sensor_types.c -/

def scalarFormatMinMax (size flags : Nat) (min : Int) (max : Nat) : ScalarFormat :=
  ⟨size, ⟨flags ||| hasMin ||| hasMax, min, max⟩⟩

def scalarFormatMax (size flags max : Nat) : ScalarFormat := ⟨size, ⟨flags ||| hasMax, 0, max⟩⟩

def scalarFormatMin (size flags : Nat) (min : Int) : ScalarFormat := ⟨size, ⟨flags ||| hasMin, min, 0⟩⟩

def scalarFormat (size flags : Nat) : ScalarFormat := ⟨size, ⟨flags, 0, 0⟩⟩

namespace BtMeshSensorFormat

def percentage8 := scalarFormatMax 1 (unsigned ||| hasUndefined) 200
def percentage16 := scalarFormatMax 2 (unsigned ||| hasUndefined) 10000
def percentageDeltaTrigger := scalarFormat 2 unsigned
def temp8 := scalarFormat 1 (signed ||| hasUndefined)
def temp := scalarFormatMin 2 (signed ||| hasUndefinedMin) (-27315)
def co2Concentration := scalarFormatMax 2 (unsigned ||| hasHigherThan ||| hasUndefined) 65534
def noise := scalarFormatMax 1 (unsigned ||| hasHigherThan ||| hasUndefined) 254
def vocConcentration := scalarFormatMax 2 (unsigned ||| hasHigherThan ||| hasUndefined) 65534
def windSpeed := scalarFormat 2 unsigned
def temp8Wide := scalarFormat 1 signed
def gustFactor := scalarFormat 1 unsigned
def magneticFluxDensity := scalarFormat 2 signed
def pollenConcentration := scalarFormat 3 unsigned
def pressure := scalarFormat 4 unsigned
def rainfall := scalarFormat 2 unsigned
def uvIndex := scalarFormat 1 unsigned
def timeDecihour8 := scalarFormatMax 1 (unsigned ||| hasUndefined) 239
def timeHour24 := scalarFormat 3 (unsigned ||| hasUndefined)
def timeSecond16 := scalarFormat 2 (unsigned ||| hasUndefined)
def timeMillisecond24 := scalarFormat 3 (unsigned ||| hasUndefined)
def electricCurrent := scalarFormatMax 2 (unsigned ||| hasUndefined) 65534
def voltage := scalarFormatMax 2 (unsigned ||| hasUndefined ||| hasHigherThan ||| hasLowerThan) 65408
def energy32 := scalarFormat 4 (unsigned ||| hasInvalid ||| hasUndefined)
def apparentEnergy32 := scalarFormat 4 (unsigned ||| hasInvalid ||| hasUndefined)
def apparentPower := scalarFormat 3 (unsigned ||| hasInvalid ||| hasUndefined)
def power := scalarFormat 3 (unsigned ||| hasUndefined)
def energy := scalarFormat 3 (unsigned ||| hasUndefined)
def chromaticDistance := scalarFormatMinMax 2 (signed ||| hasInvalid ||| hasUndefinedMaxMinus1) (-5000) 5000
def chromaticityCoordinate := scalarFormat 2 unsigned
def correlatedColorTemp := scalarFormatMinMax 2 (unsigned ||| hasUndefined) 800 65534
def illuminance := scalarFormat 3 (unsigned ||| hasUndefined)
def luminousEfficacy := scalarFormatMax 2 (unsigned ||| hasUndefined) 18000
def luminousEnergy := scalarFormat 3 (unsigned ||| hasUndefined)
def luminousExposure := scalarFormat 3 (unsigned ||| hasUndefined)
def luminousFlux := scalarFormat 2 (unsigned ||| hasUndefined)
def perceivedLightness := scalarFormat 2 unsigned
def direction16 := scalarFormatMax 2 unsigned 35999
def count16 := scalarFormat 2 (unsigned ||| hasUndefined)
def genLvl := scalarFormat 2 unsigned
def cosOfTheAngle := scalarFormatMinMax 1 (signed ||| hasUndefined) (-100) 100

end BtMeshSensorFormat

open BtMeshSensorFormat in
def sensorScalarFormats : List ScalarFormat :=
  [percentage8, percentage16, percentageDeltaTrigger, temp8, temp, co2Concentration, noise, vocConcentration,
    windSpeed, temp8Wide, gustFactor, magneticFluxDensity, pollenConcentration, pressure, rainfall, uvIndex,
    timeDecihour8, timeHour24, timeSecond16, timeMillisecond24, electricCurrent, voltage, energy32,
    apparentEnergy32, apparentPower, power, energy, chromaticDistance, chromaticityCoordinate,
    correlatedColorTemp, illuminance, luminousEfficacy, luminousEnergy, luminousExposure, luminousFlux,
    perceivedLightness, direction16, count16, genLvl, cosOfTheAngle]

theorem sensorScalarFormats_wellFormed :
    ∀ format ∈ sensorScalarFormats, format.Sized ∧ format.SignRestored ∧ format.Consistent :=
  @of_decide_eq_true _ (List.decidableBAll _ _) rfl

/-- For every scalar format of sensor_types.c: every value of its type's range is written and read back,
and scalar_to_raw gives it the status of its class; the classes are disjoint; and every special status the
format supports reads back as itself. -/
theorem sensorScalarFormats_codec {format : ScalarFormat} (member : format ∈ sensorScalarFormats) :
    (∀ raw, format.InTypeRange raw → ∃ bytes, scalarEncodeRaw format raw = some bytes ∧
        scalarDecodeRaw format bytes = some raw ∧
        ∀ status, (scalarToRaw format bytes).1 = status ↔ ScalarClass format raw status) ∧
      (∀ val status other, ScalarClass format val status → ScalarClass format val other → status = other) ∧
      ∀ status raw, specialStatusRaw format status = some raw →
        ∃ bytes, scalarFromSpecialStatus format status = .ok bytes ∧ scalarToRaw format bytes = (status, some raw) := by
  obtain ⟨sized, restored, consistent⟩ := sensorScalarFormats_wellFormed format member
  refine ⟨fun raw inRange => ?_, fun _ _ _ first second => first.unique consistent second,
    fun _ _ picked => scalarFromSpecialStatus_scalarToRaw sized restored consistent picked⟩
  obtain ⟨bytes, encoded, decoded⟩ := Option.bind_eq_some_iff.mp (scalarEncodeRaw_bind_decodeRaw sized restored inRange)
  refine ⟨bytes, encoded, decoded, fun status => ?_⟩
  simp only [scalarToRaw, decoded]
  exact scalarClassify_eq_iff consistent raw status

theorem sensorScalarFormats_codec_temp :
    BtMeshSensorFormat.temp ∈ sensorScalarFormats ∧
      (∀ raw, BtMeshSensorFormat.temp.InTypeRange raw → ∃ bytes, scalarEncodeRaw BtMeshSensorFormat.temp raw = some bytes ∧
          scalarDecodeRaw BtMeshSensorFormat.temp bytes = some raw ∧
          ∀ status, (scalarToRaw BtMeshSensorFormat.temp bytes).1 = status ↔ ScalarClass BtMeshSensorFormat.temp raw status) ∧
        (∀ val status other, ScalarClass BtMeshSensorFormat.temp val status →
          ScalarClass BtMeshSensorFormat.temp val other → status = other) ∧
        ∀ status raw, specialStatusRaw BtMeshSensorFormat.temp status = some raw →
          ∃ bytes, scalarFromSpecialStatus BtMeshSensorFormat.temp status = .ok bytes ∧
            scalarToRaw BtMeshSensorFormat.temp bytes = (status, some raw) := by
  have member : BtMeshSensorFormat.temp ∈ sensorScalarFormats := by decide
  exact ⟨member, sensorScalarFormats_codec member⟩

theorem scalarToRaw_signed_three_four_bytes_loses_sign :
    scalarMin (scalarFormat 3 signed) ≤ -1 ∧ -1 ≤ scalarMax (scalarFormat 3 signed) ∧
      scalarEncodeRaw (scalarFormat 3 signed) (-1) = some [255, 255, 255] ∧
      scalarToRaw (scalarFormat 3 signed) [255, 255, 255] = (.conversionError, some 16777215) ∧
      scalarMin (scalarFormat 4 signed) ≤ -1 ∧ -1 ≤ scalarMax (scalarFormat 4 signed) ∧
      scalarEncodeRaw (scalarFormat 4 signed) (-1) = some [255, 255, 255, 255] ∧
      scalarToRaw (scalarFormat 4 signed) [255, 255, 255, 255] = (.conversionError, some 4294967295) := by
  -- both are cases of every negative value of such a format
  obtain ⟨bytes3, encoded3, read3⟩ := @scalarToRaw_of_neg (scalarFormat 3 signed) (-1)
    (by decide) (by decide) (by decide) (.inl rfl) (by decide) (by decide)
  obtain ⟨bytes4, encoded4, read4⟩ := @scalarToRaw_of_neg (scalarFormat 4 signed) (-1)
    (by decide) (by decide) (by decide) (.inr rfl) (by decide) (by decide)
  have written3 : scalarEncodeRaw (scalarFormat 3 signed) (-1) = some [255, 255, 255] := by decide
  have written4 : scalarEncodeRaw (scalarFormat 4 signed) (-1) = some [255, 255, 255, 255] := by decide
  rw [written3, Option.some_inj] at encoded3
  rw [written4, Option.some_inj] at encoded4
  subst encoded3 encoded4
  exact ⟨by decide, by decide, written3, read3.trans rfl, by decide, by decide, written4, read4.trans rfl⟩

end Mesh
