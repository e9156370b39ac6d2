import Mathlib.Data.List.GetD
import NrfSdk.Machine.Rounding
import NrfSdk.Mesh.TimeSrv

/-!
Transition times of the mesh models (model_utils.c). An encoded transition time is a 6-bit step count
and a 2-bit resolution of 100 ms, 1 s, 10 s or 10 min. model_transition_encode picks the resolution by
four switch-over limits and rounds the step count half up; each limit lies midway between the last
time of one resolution and the next time of the coarser one, so the time it encodes is a nearest
representable one.
-/

namespace Mesh

open Machine

/-- Zephyr's SYS_FOREVER_MS. -/
def sysForeverMs : Int := -1

def transitionTimeUnknown : Nat := 0x3F

def modelTransitionRes : List Nat := [100, 1 * msecPerSec, 10 * msecPerSec, 60 * 10 * msecPerSec]

def modelTransitionDecode (encodedTransition : Fin (2 ^ 8)) : Int :=
  let steps := encodedTransition.val &&& 0x3f
  let res := encodedTransition.val >>> 6
  -- at most 600000 * 62: neither the uint32 product nor the int32 result wraps
  if steps = transitionTimeUnknown then sysForeverMs else (modelTransitionRes.getD res 0 * steps : Nat)

def transitionLimits : List Int := [6600, 66 * msecPerSec, 910 * msecPerSec, 60 * 620 * msecPerSec]

def modelTransitionEncodeFrom (transitionTime : Int) (i : Nat) : List (Int × Nat) → Fin (2 ^ 8)
  | [] => bits 8 transitionTimeUnknown
  | (limit, res) :: rest =>
    if transitionTime > limit then modelTransitionEncodeFrom transitionTime (i + 1) rest
    else
      -- the int32 time plus the uint32 half resolution is a uint32 sum; the quotient goes to a uint8
      let steps := u8 (u32 (transitionTime + (res / 2 : Nat)) / res)
      let steps := max 1 steps
      let steps := min 0x3e steps
      bits 8 (i <<< 6 ||| steps)

def modelTransitionEncode (transitionTime : Int) : Fin (2 ^ 8) :=
  if transitionTime = 0 then bits 8 0
  else if transitionTime = sysForeverMs then bits 8 transitionTimeUnknown
  else modelTransitionEncodeFrom transitionTime 0 (transitionLimits.zip modelTransitionRes)

/-! The specification: the times an encoding holds, and the nearest one of each resolution. -/

def TransitionRepresentable (value : Int) : Prop :=
  ∃ steps ∈ List.range' 1 62, ∃ res ∈ modelTransitionRes, value = (steps * res : Nat)

instance (value : Int) : Decidable (TransitionRepresentable value) :=
  List.decidableBEx _ _

def nearestSteps (res : Nat) (transitionTime : Int) : Int := clampSteps 1 62 (roundHalfUp res transitionTime)

def transitionResolutionOf (transitionTime : Int) : Nat :=
  if transitionTime ≤ 6600 then 100
  else if transitionTime ≤ 66000 then 1000
  else if transitionTime ≤ 910000 then 10000
  else 600000

theorem modelTransitionRes_eq : modelTransitionRes = [100, 1000, 10000, 600000] := rfl

theorem transitionLimits_zip :
    transitionLimits.zip modelTransitionRes = [(6600, 100), (66000, 1000), (910000, 10000), (37200000, 600000)] :=
  rfl

/-! Decoding -/

theorem pack_steps (i steps : Nat) (fits : steps < 64) : i <<< 6 ||| steps = i * 64 + steps := by
  rw [← Nat.shiftLeft_add_eq_or_of_lt fits, Nat.shiftLeft_eq]

theorem modelTransitionDecode_pack {i steps : Nat} (index : i < 4) (low : 1 ≤ steps) (high : steps ≤ 62) :
    modelTransitionDecode (bits 8 (i <<< 6 ||| steps)) = (modelTransitionRes.getD i 0 * steps : Nat) := by
  have packed : (bits 8 (i <<< 6 ||| steps : Nat)).val = i * 64 + steps := by
    rw [pack_steps i steps (by omega), bits_natCast_of_lt (by omega)]
  have stepsOf : (i * 64 + steps) &&& 0x3f = steps := by
    rw [show (0x3f : Nat) = 2 ^ 6 - 1 from rfl, Nat.and_two_pow_sub_one_eq_mod]
    omega
  have resOf : (i * 64 + steps) >>> 6 = i := by
    rw [Nat.shiftRight_eq_div_pow]
    omega
  simp only [modelTransitionDecode, packed, stepsOf, resOf, transitionTimeUnknown]
  rw [if_neg (by omega)]

theorem modelTransitionDecode_of_steps (encoded : Fin (2 ^ 8)) (low : 1 ≤ encoded.val &&& 0x3f)
    (high : encoded.val &&& 0x3f ≤ 62) :
    TransitionRepresentable (modelTransitionDecode encoded) ∧
      1 ≤ modelTransitionDecode encoded ∧ modelTransitionDecode encoded ≤ 37200000 := by
  have index : encoded.val >>> 6 < 4 := by
    rw [Nat.shiftRight_eq_div_pow]
    have := encoded.isLt
    omega
  have decoded : modelTransitionDecode encoded =
      (modelTransitionRes.getD (encoded.val >>> 6) 0 * (encoded.val &&& 0x3f) : Nat) := by
    simp only [modelTransitionDecode]
    exact if_neg (by unfold transitionTimeUnknown; omega)
  have chosen : modelTransitionRes.getD (encoded.val >>> 6) 0 ∈ modelTransitionRes := by
    rw [List.getD_eq_getElem _ _ (by simpa [modelTransitionRes_eq] using index)]
    exact List.getElem_mem _
  have range : modelTransitionRes.getD (encoded.val >>> 6) 0 ≤ 600000 ∧
      100 ≤ modelTransitionRes.getD (encoded.val >>> 6) 0 := by
    rw [modelTransitionRes_eq] at chosen ⊢
    simp only [List.mem_cons, List.not_mem_nil, or_false] at chosen
    rcases chosen with same | same | same | same <;> rw [same] <;> omega
  refine ⟨⟨encoded.val &&& 0x3f, by simp only [List.mem_range'_1]; omega, _, chosen, by rw [decoded, Nat.mul_comm]⟩,
    ?_, ?_⟩
  · rw [decoded]
    have := Nat.mul_le_mul range.2 low
    omega
  · rw [decoded]
    have := Nat.mul_le_mul range.1 high
    omega

/-! Encoding -/

theorem modelTransitionDecode_encodeFrom_of_le {transitionTime limit : Int} {i res : Nat}
    (rest : List (Int × Nat)) (index : i < 4) (resolution : res = modelTransitionRes.getD i 0)
    (positive : 0 < res) (nonneg : 0 ≤ transitionTime) (within : transitionTime ≤ limit)
    (fitsWord : limit + (res / 2 : Nat) < 2 ^ 32) (fitsByte : (limit + (res / 2 : Nat)) / res < 256) :
    modelTransitionDecode (modelTransitionEncodeFrom transitionTime i ((limit, res) :: rest)) =
      nearestSteps res transitionTime * res := by
  have sum : u32 (transitionTime + (res / 2 : Nat)) = (transitionTime + (res / 2 : Nat)).toNat :=
    wrap_of_bounds (by omega) (by push_cast; omega)
  have quotient : (((transitionTime + (res / 2 : Nat)).toNat / res : Nat) : Int) = roundHalfUp res transitionTime := by
    rw [Int.natCast_ediv, Int.toNat_of_nonneg (by omega)]
    rfl
  have below : roundHalfUp res transitionTime ≤ (limit + (res / 2 : Nat)) / res :=
    Int.ediv_le_ediv (by omega) (by omega)
  have stored : u8 ((transitionTime + (res / 2 : Nat)).toNat / res) = (transitionTime + (res / 2 : Nat)).toNat / res :=
    wrap_natCast_of_lt (by omega)
  have steps : ((min 0x3e (max 1 ((transitionTime + (res / 2 : Nat)).toNat / res)) : Nat) : Int) =
      nearestSteps res transitionTime := by
    rw [Nat.cast_min, Nat.cast_max, quotient]
    rfl
  rw [modelTransitionEncodeFrom, if_neg (not_lt.mpr within)]
  simp only [sum, stored]
  rw [modelTransitionDecode_pack index (by omega) (by omega), Nat.cast_mul, steps, ← resolution, Int.mul_comm]

theorem modelTransitionEncode_of_ne {transitionTime : Int} (nonzero : transitionTime ≠ 0)
    (known : transitionTime ≠ sysForeverMs) :
    modelTransitionEncode transitionTime =
      modelTransitionEncodeFrom transitionTime 0 [(6600, 100), (66000, 1000), (910000, 10000), (37200000, 600000)] := by
  rw [modelTransitionEncode, if_neg nonzero, if_neg known, transitionLimits_zip]

theorem modelTransitionDecode_encode {transitionTime : Int} (pos : 1 ≤ transitionTime)
    (le : transitionTime ≤ 37200000) :
    modelTransitionDecode (modelTransitionEncode transitionTime) =
      nearestSteps (transitionResolutionOf transitionTime) transitionTime * transitionResolutionOf transitionTime := by
  rw [modelTransitionEncode_of_ne (by omega) (by simp only [sysForeverMs]; omega)]
  unfold transitionResolutionOf
  -- each switch-over limit the time exceeds skips one round of the loop
  by_cases first : transitionTime ≤ 6600
  · rw [if_pos first]
    exact modelTransitionDecode_encodeFrom_of_le _ (by omega) rfl (by omega) (by omega) first (by omega) (by omega)
  rw [if_neg first, modelTransitionEncodeFrom, if_pos (by omega)]
  by_cases second : transitionTime ≤ 66000
  · rw [if_pos second]
    exact modelTransitionDecode_encodeFrom_of_le _ (by omega) rfl (by omega) (by omega) second (by omega) (by omega)
  rw [if_neg second, modelTransitionEncodeFrom, if_pos (by omega)]
  by_cases third : transitionTime ≤ 910000
  · rw [if_pos third]
    exact modelTransitionDecode_encodeFrom_of_le _ (by omega) rfl (by omega) (by omega) third (by omega) (by omega)
  rw [if_neg third, modelTransitionEncodeFrom, if_pos (by omega)]
  exact modelTransitionDecode_encodeFrom_of_le _ (by omega) rfl (by omega) (by omega) le (by omega) (by omega)

theorem modelTransitionEncode_of_gt {transitionTime : Int} (beyond : 37200000 < transitionTime)
    (known : transitionTime ≠ sysForeverMs) :
    modelTransitionEncode transitionTime = bits 8 transitionTimeUnknown := by
  rw [modelTransitionEncode_of_ne (by omega) known]
  simp only [modelTransitionEncodeFrom]
  rw [if_pos (by omega), if_pos (by omega), if_pos (by omega), if_pos (by omega)]

/-! Nearness -/

theorem nearestSteps_resolutionOf_le {transitionTime : Int} (pos : 1 ≤ transitionTime)
    (le : transitionTime ≤ 37200000) {other : Nat} (mem : other ∈ modelTransitionRes) :
    |nearestSteps (transitionResolutionOf transitionTime) transitionTime * transitionResolutionOf transitionTime -
        transitionTime| ≤
      |nearestSteps other transitionTime * other - transitionTime| := by
  rw [modelTransitionRes_eq] at mem
  simp only [List.mem_cons, List.not_mem_nil, or_false] at mem
  unfold transitionResolutionOf
  rcases mem with rfl | rfl | rfl | rfl <;>
    simp only [nearestSteps, clampSteps, roundHalfUp, abs_eq_max_neg, Nat.cast_ofNat] <;>
    split_ifs <;> omega

theorem nearestSteps_le_of_representable {value : Int} (representable : TransitionRepresentable value)
    (transitionTime : Int) :
    ∃ res ∈ modelTransitionRes,
      |nearestSteps res transitionTime * res - transitionTime| ≤ |value - transitionTime| := by
  obtain ⟨steps, range, res, mem, rfl⟩ := representable
  rw [List.mem_range'_1] at range
  have positive : (0 : Int) < res := by
    rw [modelTransitionRes_eq] at mem
    simp only [List.mem_cons, List.not_mem_nil, or_false] at mem
    rcases mem with rfl | rfl | rfl | rfl <;> decide
  refine ⟨res, mem, ?_⟩
  rw [Nat.cast_mul]
  exact abs_sub_clampSteps_le positive transitionTime (by omega) (by omega)

theorem transitionRepresentable_nearestSteps {res : Nat} (mem : res ∈ modelTransitionRes) (transitionTime : Int) :
    TransitionRepresentable (nearestSteps res transitionTime * res) := by
  obtain ⟨low, high⟩ := clampSteps_bounds (by decide : (1 : Int) ≤ 62) (roundHalfUp res transitionTime)
  refine ⟨(nearestSteps res transitionTime).toNat, ?_, res, mem, ?_⟩
  · rw [List.mem_range'_1]
    unfold nearestSteps
    omega
  · rw [Nat.cast_mul, Int.toNat_of_nonneg (by unfold nearestSteps; omega)]

/-- model_transition_encode: from 1 ms to 62 times ten minutes the decoded time is representable and
nearest to the time among all representable ones; beyond that every time but SYS_FOREVER_MS is encoded as
unknown; an encoded value with 1 to 62 steps re-encodes to itself up to its decoded time. -/
theorem modelTransitionEncode_nearest :
    (∀ transitionTime : Int, 1 ≤ transitionTime → transitionTime ≤ 37200000 →
      TransitionRepresentable (modelTransitionDecode (modelTransitionEncode transitionTime)) ∧
      ∀ value, TransitionRepresentable value →
        |modelTransitionDecode (modelTransitionEncode transitionTime) - transitionTime| ≤ |value - transitionTime|) ∧
    (∀ transitionTime : Int, 37200000 < transitionTime → transitionTime ≠ sysForeverMs →
      modelTransitionEncode transitionTime = bits 8 transitionTimeUnknown) ∧
    (∀ encoded : Fin (2 ^ 8), 1 ≤ encoded.val &&& 0x3f → encoded.val &&& 0x3f ≤ 62 →
      modelTransitionDecode (modelTransitionEncode (modelTransitionDecode encoded)) =
        modelTransitionDecode encoded) := by
  have nearest : ∀ transitionTime : Int, 1 ≤ transitionTime → transitionTime ≤ 37200000 →
      ∀ value, TransitionRepresentable value →
        |modelTransitionDecode (modelTransitionEncode transitionTime) - transitionTime| ≤
          |value - transitionTime| := by
    intro transitionTime pos le value representable
    obtain ⟨res, mem, closer⟩ := nearestSteps_le_of_representable representable transitionTime
    rw [modelTransitionDecode_encode pos le]
    exact (nearestSteps_resolutionOf_le pos le mem).trans closer
  refine ⟨fun transitionTime pos le => ⟨?_, nearest transitionTime pos le⟩,
    fun _ beyond known => modelTransitionEncode_of_gt beyond known, ?_⟩
  · have chosen : transitionResolutionOf transitionTime ∈ modelTransitionRes := by
      unfold transitionResolutionOf
      rw [modelTransitionRes_eq]
      split_ifs <;> simp
    rw [modelTransitionDecode_encode pos le]
    exact transitionRepresentable_nearestSteps chosen transitionTime
  · -- a representable time is at distance zero from itself, so the nearest one is the time itself
    intro encoded low high
    obtain ⟨representable, pos, le⟩ := modelTransitionDecode_of_steps encoded low high
    have closest := nearest _ pos le _ representable
    rw [sub_self, abs_zero] at closest
    exact sub_eq_zero.mp (abs_nonpos_iff.mp closest)

end Mesh
