import NrfSdk.LteLc.PsmTimer
import Mathlib.Data.List.TakeWhile

namespace LteLc

open Machine

/-! psm_parse reads back what psm_encode_timer writes, and the reading is the least one covering the
request. -/

theorem byteToBinaryStringArgs_eq_binaryDigits (byte : Nat) : byteToBinaryStringArgs byte = binaryDigits 8 byte := by
  simp only [byteToBinaryStringArgs, List.map_cons, List.map_nil, binaryDigits, ← and_two_pow_ne_zero_iff,
    Nat.reducePow]

theorem length_byteToBinaryStringArgs (byte : Nat) : (byteToBinaryStringArgs byte).length = 8 := rfl

theorem strtoulBase2_of_binary {digits : List Char} (binary : ∀ c ∈ digits, c = '0' ∨ c = '1')
    (small : binaryValue digits < 2 ^ 32) : strtoulBase2 digits = binaryValue digits := by
  have dropped : digits.dropWhile isSpace = digits := by
    cases digits with
    | nil => rfl
    | cons c rest =>
      apply List.dropWhile_cons_of_neg
      rcases binary c List.mem_cons_self with rfl | rfl <;> decide
  have kept : digits.takeWhile (fun c => c = '0' || c = '1') = digits :=
    List.takeWhile_eq_self_iff.mpr fun c member => by simpa using binary c member
  unfold strtoulBase2
  rw [dropped]
  dsimp only
  split
  · -- a sign is not a binary digit
    have := binary '-' List.mem_cons_self
    simp at this
  · have := binary '+' List.mem_cons_self
    simp at this
  · dsimp only
    rw [kept, if_neg (by omega), if_neg (by simp)]

theorem strtoulBase2_binaryDigits {width : Nat} (n : Nat) (narrow : width ≤ 32) :
    strtoulBase2 (binaryDigits width n) = n % 2 ^ width := by
  have fits : n % 2 ^ width < 2 ^ 32 :=
    lt_of_lt_of_le (Nat.mod_lt n (Nat.two_pow_pos width)) (Nat.pow_le_pow_right two_pos narrow)
  rw [strtoulBase2_of_binary (fun c member => isBinary_of_mem_binaryDigits member)
    (by rw [binaryValue_binaryDigits]; exact fits), binaryValue_binaryDigits]

theorem strtoulBase2_encoded {index value : Nat} (unitIndex : index < 8) (timerValue : value < 32) :
    strtoulBase2 ((byteToBinaryStringArgs (index * 32 + value)).take 3) = index ∧
      strtoulBase2 ((byteToBinaryStringArgs (index * 32 + value)).drop 3) = value := by
  rw [byteToBinaryStringArgs_eq_binaryDigits, show 8 = 3 + 5 from rfl, binaryDigits_add,
    List.take_left' (length_binaryDigits 3 _), List.drop_left' (length_binaryDigits 3 _),
    strtoulBase2_binaryDigits _ (by decide), strtoulBase2_binaryDigits _ (by decide)]
  constructor <;> norm_num <;> omega

theorem timerSeconds_of_pos {timerUnit timerValue : Nat} (positive : 0 < timerUnit)
    (small : timerUnit * timerValue < 2 ^ 31) : timerSeconds timerUnit timerValue = (timerUnit * timerValue : Nat) := by
  rw [timerSeconds, if_pos (by omega), signed_of_bounds (by omega) (by exact_mod_cast small)]

theorem t3412ExtLookup_units : ∀ i < 7, 0 < t3412ExtLookup.getD i 0 ∧ t3412ExtLookup.getD i 0 ≤ 1152000 := by
  decide

theorem t3324Lookup_units : ∀ i < 3, 0 < t3324Lookup.getD i 0 ∧ t3324Lookup.getD i 0 ≤ 360 := by
  decide

theorem psmParse_encoded {activeIndex activeValue tauIndex tauValue : Nat} (activeUnit : activeIndex < 3)
    (activeRoom : activeValue ≤ 31) (tauUnit : tauIndex < 7) (tauRoom : tauValue ≤ 31) (psmCfg : LteLcPsmCfg) :
    psmParse (byteToBinaryStringArgs (activeIndex * 32 + activeValue))
        (byteToBinaryStringArgs (tauIndex * 32 + tauValue)) none psmCfg =
      (.ok (), ⟨(t3412ExtLookup.getD tauIndex 0 * tauValue : Nat), (t3324Lookup.getD activeIndex 0 * activeValue : Nat)⟩) := by
  obtain ⟨tauPositive, tauBound⟩ := t3412ExtLookup_units tauIndex tauUnit
  obtain ⟨activePositive, activeBound⟩ := t3324Lookup_units activeIndex activeUnit
  obtain ⟨tauUnitRead, tauValueRead⟩ := strtoulBase2_encoded (by omega : tauIndex < 8) (by omega : tauValue < 32)
  obtain ⟨activeUnitRead, activeValueRead⟩ :=
    strtoulBase2_encoded (by omega : activeIndex < 8) (by omega : activeValue < 32)
  have tauSmall : t3412ExtLookup.getD tauIndex 0 * tauValue < 2 ^ 31 :=
    lt_of_le_of_lt (Nat.mul_le_mul tauBound tauRoom) (by norm_num)
  have activeSmall : t3324Lookup.getD activeIndex 0 * activeValue < 2 ^ 31 :=
    lt_of_le_of_lt (Nat.mul_le_mul activeBound activeRoom) (by norm_num)
  unfold psmParse
  rw [if_neg (by simp [length_byteToBinaryStringArgs])]
  dsimp only
  rw [tauUnitRead, tauValueRead, activeUnitRead, activeValueRead, timerSeconds_of_pos tauPositive tauSmall,
    timerSeconds_of_pos activePositive activeSmall]

theorem isLeast_timerReadingsAtLeast {lookupTable : List Nat} {size valueMax requestedValue index : Nat}
    (positive : ∀ j < size, 0 < lookupTable.getD j 0) (early : index < size)
    (room : requestedValue ⌈/⌉ lookupTable.getD index 0 ≤ valueMax)
    (least : ∀ j < size, requestedValue ⌈/⌉ lookupTable.getD j 0 ≤ valueMax →
      lookupTable.getD index 0 * (requestedValue ⌈/⌉ lookupTable.getD index 0) ≤
        lookupTable.getD j 0 * (requestedValue ⌈/⌉ lookupTable.getD j 0)) :
    IsLeast (timerReadingsAtLeast (lookupTable.take size) valueMax requestedValue)
      (lookupTable.getD index 0 * (requestedValue ⌈/⌉ lookupTable.getD index 0)) := by
  -- a unit of the first size entries is an entry below size, and a positive one
  have entry : ∀ {unit}, unit ∈ lookupTable.take size → ∃ j < size, lookupTable.getD j 0 = unit := by
    intro unit member
    obtain ⟨j, bound, rfl⟩ := List.mem_iff_getElem.mp member
    have inside : j < size ∧ j < lookupTable.length := by simpa using bound
    exact ⟨j, inside.1, by rw [List.getD_eq_getElem _ _ inside.2, List.getElem_take]⟩
  refine ⟨⟨le_smul_ceilDiv (positive index early), lookupTable.getD index 0, ?_, _, room, rfl⟩, ?_⟩
  · have inside : index < lookupTable.length := by
      by_contra outside
      have := positive index early
      rw [List.getD_eq_default _ _ (by omega)] at this
      omega
    rw [List.getD_eq_getElem _ _ inside]
    exact List.mem_iff_getElem.mpr ⟨index, by simp; omega, by simp⟩
  · rintro reading ⟨atLeast, unit, member, value, bounded, rfl⟩
    obtain ⟨j, later, rfl⟩ := entry member
    have rounded : requestedValue ⌈/⌉ lookupTable.getD j 0 ≤ value :=
      (ceilDiv_le_iff_le_mul (positive j later)).mpr atLeast
    calc lookupTable.getD index 0 * (requestedValue ⌈/⌉ lookupTable.getD index 0)
        ≤ lookupTable.getD j 0 * (requestedValue ⌈/⌉ lookupTable.getD j 0) := least j later (rounded.trans bounded)
      _ ≤ lookupTable.getD j 0 * value := Nat.mul_le_mul_left _ rounded

section Tables

theorem t3412ExtLookup_usable : UsableUnits t3412ExtLookup t3412ExtLookupDifferentValues := by
  unfold UsableUnits
  decide

theorem t3324Lookup_usable : UsableUnits t3324Lookup t3324LookupDifferentValues := by
  unfold UsableUnits
  decide

theorem exists_room {lookupTable : List Nat} {size requestedValue index unit : Nat} (early : index < size)
    (entry : lookupTable.getD index 0 = unit) (positive : 0 < unit) (small : requestedValue ≤ timerValueMax * unit) :
    ∃ i < size, requestedValue ⌈/⌉ lookupTable.getD i 0 ≤ timerValueMax :=
  ⟨index, early, by rw [entry, ceilDiv_le_iff_le_mul positive, Nat.mul_comm]; exact small⟩

theorem noRoomBelow_of_lt {lookupTable : List Nat} {size requestedValue largest : Nat}
    (units : ∀ i < size, 0 < lookupTable.getD i 0 ∧ lookupTable.getD i 0 ≤ largest)
    (large : timerValueMax * largest < requestedValue) : NoRoomBelow requestedValue lookupTable size := by
  intro i early
  obtain ⟨positive, bound⟩ := units i early
  by_contra fits
  have covered := (ceilDiv_le_iff_le_mul positive).mp (Nat.le_of_not_lt fits)
  have capped : lookupTable.getD i 0 * timerValueMax ≤ timerValueMax * largest := by
    rw [Nat.mul_comm]
    exact Nat.mul_le_mul_left _ bound
  omega

theorem psmEncodeTimer_fst (encodedTimerStr : List Char) (requestedValue : Nat) (lookupTable : List Nat)
    (lookupTableSize : Nat) :
    (psmEncodeTimer encodedTimerStr requestedValue lookupTable lookupTableSize).1 = 0 ∨
      (psmEncodeTimer encodedTimerStr requestedValue lookupTable lookupTableSize).1 = -22 := by
  unfold psmEncodeTimer
  dsimp only
  split
  · exact .inl rfl
  · exact .inr rfl

end Tables

theorem psmEncode_fst_of_no_room {tauExtStr activeTimeStr : List Char} {rptau rat : Int}
    (beyond : 31 * 1152000 < rptau ∨ 31 * 360 < rat) : (psmEncode tauExtStr activeTimeStr rptau rat).1 = -22 := by
  have tauFails : 31 * 1152000 < rptau →
      (psmEncodeTimer tauExtStr rptau.toNat t3412ExtLookup t3412ExtLookupDifferentValues).1 = -22 := fun large =>
    by rw [psmEncodeTimer_of_no_room t3412ExtLookup_usable (noRoomBelow_of_lt t3412ExtLookup_units (by
      unfold timerValueMax; omega))]
  have ratFails : 31 * 360 < rat →
      (psmEncodeTimer activeTimeStr rat.toNat t3324Lookup t3324LookupDifferentValues).1 = -22 := fun large =>
    by rw [psmEncodeTimer_of_no_room t3324Lookup_usable (noRoomBelow_of_lt t3324Lookup_units (by
      unfold timerValueMax; omega))]
  have tauRet := psmEncodeTimer_fst tauExtStr rptau.toNat t3412ExtLookup t3412ExtLookupDifferentValues
  have ratRet := psmEncodeTimer_fst activeTimeStr rat.toNat t3324Lookup t3324LookupDifferentValues
  unfold psmEncode
  generalize psmEncodeTimer tauExtStr rptau.toNat t3412ExtLookup t3412ExtLookupDifferentValues = tau
    at tauFails tauRet
  generalize psmEncodeTimer activeTimeStr rat.toNat t3324Lookup t3324LookupDifferentValues = active
    at ratFails ratRet
  obtain ⟨tauStatus, tauStr⟩ := tau
  obtain ⟨activeStatus, activeStr⟩ := active
  dsimp only at tauFails tauRet ratFails ratRet ⊢
  -- the sign tests pick which statuses are or-ed together
  by_cases tauSign : rptau ≥ 0 <;> by_cases ratSign : rat ≥ 0 <;> simp only [tauSign, ratSign, if_true, if_false]
  · rcases beyond with large | large
    · rw [tauFails large]
      rcases ratRet with rfl | rfl
      · exact lor_zero_right _
      · exact lor_self _
    · rw [ratFails large]
      rcases tauRet with rfl | rfl
      · exact lor_zero_left _
      · exact lor_self _
  · rcases beyond with large | large
    · exact tauFails large
    · omega
  · rcases beyond with large | large
    · omega
    · rw [ratFails large]
      exact lor_zero_left _
  · omega

def StoresLeastTimers (params : PsmParams) (psmCfg : LteLcPsmCfg) (rptau rat : Int) : Prop :=
  let result := psmParamSetSeconds params rptau rat
  result.1 = 0 ∧ result.2.rptau.length = 8 ∧ result.2.rat.length = 8 ∧
    (∀ c ∈ result.2.rptau ++ result.2.rat, c = '0' ∨ c = '1') ∧
    ∃ tau activeTime : Nat,
      psmParse result.2.rat result.2.rptau none psmCfg = (.ok (), ⟨tau, activeTime⟩) ∧
      IsLeast (timerReadingsAtLeast (t3412ExtLookup.take 7) 31 rptau.toNat) tau ∧
      IsLeast (timerReadingsAtLeast (t3324Lookup.take 3) 31 rat.toNat) activeTime

/-- psm_param_set_seconds is an optimal round trip through psm_parse for every TAU up to 31 * 1152000 s
and every active time up to 31 * 360 s; beyond either it fails and clears both strings. -/
theorem psmParamSetSeconds_roundTrip (params : PsmParams) (psmCfg : LteLcPsmCfg) (rptau rat : Int) :
    (0 ≤ rptau → rptau ≤ 31 * 1152000 → 0 ≤ rat → rat ≤ 31 * 360 → StoresLeastTimers params psmCfg rptau rat) ∧
      (31 * 1152000 < rptau ∨ 31 * 360 < rat → psmParamSetSeconds params rptau rat = (-22, ⟨[], []⟩)) := by
  constructor
  · intro tauLow tauHigh ratLow ratHigh
    -- the largest unit of each table has room for every request in range
    obtain ⟨tauIndex, tauEarly, tauRoom, tauLeast, tauEncoded⟩ :=
      psmEncodeTimer_of_room t3412ExtLookup_usable (by decide)
        (@exists_room t3412ExtLookup t3412ExtLookupDifferentValues rptau.toNat 6 1152000 (by decide) rfl
          (by decide) (by unfold timerValueMax; omega)) params.rptau
    obtain ⟨ratIndex, ratEarly, ratRoom, ratLeast, ratEncoded⟩ :=
      psmEncodeTimer_of_room t3324Lookup_usable (by decide)
        (@exists_room t3324Lookup t3324LookupDifferentValues rat.toNat 2 360 (by decide) rfl
          (by decide) (by unfold timerValueMax; omega)) params.rat
    have stored : psmParamSetSeconds params rptau rat =
        (0, ⟨byteToBinaryStringArgs (tauIndex * 32 + rptau.toNat ⌈/⌉ t3412ExtLookup.getD tauIndex 0),
          byteToBinaryStringArgs (ratIndex * 32 + rat.toNat ⌈/⌉ t3324Lookup.getD ratIndex 0)⟩) := by
      unfold psmParamSetSeconds psmEncode
      rw [if_pos (show rptau ≥ 0 from tauLow), tauEncoded]
      dsimp only
      rw [if_pos (show rat ≥ 0 from ratLow), ratEncoded]
      dsimp only
      rw [lor_zero_right, if_neg (not_not.mpr rfl)]
    unfold StoresLeastTimers
    rw [stored]
    dsimp only
    refine ⟨rfl, length_byteToBinaryStringArgs _, length_byteToBinaryStringArgs _, fun c member => ?_, _, _,
      psmParse_encoded ratEarly ratRoom tauEarly tauRoom psmCfg,
      isLeast_timerReadingsAtLeast (fun j early => (t3412ExtLookup_usable j early).1) tauEarly tauRoom tauLeast,
      isLeast_timerReadingsAtLeast (fun j early => (t3324Lookup_usable j early).1) ratEarly ratRoom ratLeast⟩
    rw [List.mem_append, byteToBinaryStringArgs_eq_binaryDigits, byteToBinaryStringArgs_eq_binaryDigits] at member
    rcases member with member | member <;> exact isBinary_of_mem_binaryDigits member
  · intro beyond
    have failed : (psmEncode params.rptau params.rat rptau rat).1 = -22 := psmEncode_fst_of_no_room beyond
    unfold psmParamSetSeconds
    generalize psmEncode params.rptau params.rat rptau rat = encoded at failed
    obtain ⟨ret, rptauStr, ratStr⟩ := encoded
    dsimp only at failed ⊢
    rw [failed]
    rfl

/-- An hour of TAU and a minute of active time round-trip; 31 * 1152000 + 1 s of TAU fails. -/
theorem psmParamSetSeconds_roundTrip_hour :
    StoresLeastTimers ⟨[], []⟩ ⟨0, 0⟩ 3600 60 ∧
      psmParamSetSeconds ⟨[], []⟩ (31 * 1152000 + 1) 60 = (-22, ⟨[], []⟩) :=
  ⟨(psmParamSetSeconds_roundTrip ⟨[], []⟩ ⟨0, 0⟩ 3600 60).1 (by decide) (by decide) (by decide) (by decide),
    (psmParamSetSeconds_roundTrip ⟨[], []⟩ ⟨0, 0⟩ (31 * 1152000 + 1) 60).2 (.inl (by decide))⟩

end LteLc
