import NrfSdk.PcmMix.Mix

namespace PcmMix

open Machine

theorem hardLimiter_bounds (pcm : Int) : -32768 ≤ hardLimiter pcm ∧ hardLimiter pcm ≤ 32767 := by
  unfold hardLimiter
  split_ifs <;> omega

theorem hardLimiter_stored (pcm : Int) : (Int16.ofInt (hardLimiter pcm)).toInt = hardLimiter pcm := by
  obtain ⟨low, high⟩ := hardLimiter_bounds pcm
  exact Int16.toInt_ofInt_of_le (by omega) (by omega)

section Loop

variable {target source : Nat → Nat} {pcmA pcmB : Samples}

theorem mixLoop_succ (count : Nat) :
    mixLoop (count + 1) target source pcmA pcmB =
      mixStep target source pcmB count (mixLoop count target source pcmA pcmB) := rfl

theorem mixLoop_untouched {count j : Nat} (miss : ∀ i < count, target i ≠ j) :
    (mixLoop count target source pcmA pcmB).pcmA j = pcmA j := by
  induction count with
  | zero => rfl
  | succ count ih =>
    rw [mixLoop_succ]
    simp only [mixStep]
    rw [Function.update_of_ne (Ne.symm (miss count (Nat.lt_succ_self count)))]
    exact ih (fun i bound => miss i (Nat.lt_succ_of_lt bound))

theorem mixLoop_mixed (injective : Function.Injective target) {count i : Nat} (bound : i < count) :
    (mixLoop count target source pcmA pcmB).pcmA (target i) =
      Int16.ofInt (hardLimiter ((pcmA (target i)).toInt + (pcmB (source i)).toInt)) := by
  induction count with
  | zero => omega
  | succ count ih =>
    rw [mixLoop_succ]
    simp only [mixStep]
    by_cases last : i = count
    · subst last
      have fresh : (mixLoop i target source pcmA pcmB).pcmA (target i) = pcmA (target i) :=
        mixLoop_untouched (fun k lower same => by have := injective same; omega)
      rw [fresh, Function.update_self]
    · have earlier : i < count := by omega
      rw [Function.update_of_ne (fun same => last (injective same)), ih earlier]

theorem mixLoop_trace_mem {count : Nat} {access : Access Buffer}
    (member : access ∈ (mixLoop count target source pcmA pcmB).trace) :
    ∃ i < count, access = sampleAccess .pcmA (target i) .read ∨
      access = sampleAccess .pcmB (source i) .read ∨ access = sampleAccess .pcmA (target i) .write := by
  induction count with
  | zero => cases member
  | succ count ih =>
    rw [mixLoop_succ] at member
    simp only [mixStep, List.mem_append, List.mem_cons, List.not_mem_nil, or_false] at member
    rcases member with earlier | current
    · obtain ⟨i, bound, shape⟩ := ih earlier
      exact ⟨i, Nat.lt_succ_of_lt bound, shape⟩
    · exact ⟨count, Nat.lt_succ_self count, current⟩

theorem mixLoop_traceWithin {count sizeA sizeB : Nat}
    (targetFits : ∀ i < count, 2 * target i + 2 ≤ sizeA) (sourceFits : ∀ i < count, 2 * source i + 2 ≤ sizeB) :
    TraceWithin (bufferSize sizeA sizeB) (mixLoop count target source pcmA pcmB).trace := by
  intro access member
  obtain ⟨i, bound, shape | shape | shape⟩ := mixLoop_trace_mem member <;> subst shape
  · exact targetFits i bound
  · exact sourceFits i bound
  · exact targetFits i bound

end Loop

def mixedSample (mode : PcmMixMode) (sizeB : Nat) (pcmB : Samples) (k : Nat) : Option Int16 :=
  match mode with
  | .bStereoIntoAStereo | .bMonoIntoAMono => if k < sizeB / 2 then some (pcmB k) else none
  | .bMonoIntoAStereoLr => if k / 2 < sizeB / 2 then some (pcmB (k / 2)) else none
  | .bMonoIntoAStereoL => if k % 2 = 0 ∧ k / 2 < sizeB / 2 then some (pcmB (k / 2)) else none
  | .bMonoIntoAStereoR => if k % 2 = 1 ∧ k / 2 < sizeB / 2 then some (pcmB (k / 2)) else none

def MixedAsSpecified (mode : PcmMixMode) (sizeB : Nat) (pcmA pcmB result : Samples) : Prop :=
  ∀ k, match mixedSample mode sizeB pcmB k with
    | some sample => (result k).toInt = hardLimiter ((pcmA k).toInt + sample.toInt)
    | none => result k = pcmA k

theorem mixLoop_as_specified {target source : Nat → Nat} {pcmA pcmB : Samples} {mode : PcmMixMode}
    {count sizeB : Nat} (injective : Function.Injective target)
    (hit : ∀ k sample, mixedSample mode sizeB pcmB k = some sample →
      ∃ i < count, target i = k ∧ pcmB (source i) = sample)
    (miss : ∀ k, mixedSample mode sizeB pcmB k = none → ∀ i < count, target i ≠ k) :
    MixedAsSpecified mode sizeB pcmA pcmB (mixLoop count target source pcmA pcmB).pcmA := by
  intro k
  cases mixed : mixedSample mode sizeB pcmB k with
  | none => exact mixLoop_untouched (miss k mixed)
  | some sample =>
    obtain ⟨i, bound, rfl, rfl⟩ := hit k sample mixed
    simp only [mixLoop_mixed injective bound, hardLimiter_stored]

theorem pcmMixIdentical_as_specified (mode : PcmMixMode)
    (identical : mode = .bStereoIntoAStereo ∨ mode = .bMonoIntoAMono) (pcmA pcmB : Samples) (sizeB : Nat) :
    MixedAsSpecified mode sizeB pcmA pcmB (pcmMixIdentical pcmA pcmB sizeB).pcmA := by
  apply mixLoop_as_specified Function.injective_id
  all_goals rcases identical with rfl | rfl
  all_goals simp only [mixedSample]
  all_goals intro k
  · intro sample mixed
    split at mixed
    · cases mixed
      exact ⟨k, by omega, rfl, rfl⟩
    · cases mixed
  · intro sample mixed
    split at mixed
    · cases mixed
      exact ⟨k, by omega, rfl, rfl⟩
    · cases mixed
  · intro mixed i bound same
    split at mixed
    · cases mixed
    · simp only [id] at same
      omega
  · intro mixed i bound same
    split at mixed
    · cases mixed
    · simp only [id] at same
      omega

theorem pcmMixBMonoIntoAStereoLr_as_specified (pcmA pcmB : Samples) {sizeB : Nat} (even : Even sizeB) :
    MixedAsSpecified .bMonoIntoAStereoLr sizeB pcmA pcmB (pcmMixBMonoIntoAStereoLr pcmA pcmB sizeB).pcmA := by
  obtain ⟨half, rfl⟩ := even
  apply mixLoop_as_specified Function.injective_id
  all_goals simp only [mixedSample]
  · intro k sample mixed
    split at mixed
    · cases mixed
      exact ⟨k, by omega, rfl, rfl⟩
    · cases mixed
  · intro k mixed i bound same
    split at mixed
    · cases mixed
    · simp only [id] at same
      omega

theorem pcmMixBMonoIntoAStereoL_as_specified (pcmA pcmB : Samples) (sizeB : Nat) :
    MixedAsSpecified .bMonoIntoAStereoL sizeB pcmA pcmB (pcmMixBMonoIntoAStereoL pcmA pcmB sizeB).pcmA := by
  have injective : Function.Injective (fun i : Nat => i * 2) := fun x y same => by simp only at same; omega
  apply mixLoop_as_specified injective
  all_goals simp only [mixedSample]
  · intro k sample mixed
    split at mixed
    · cases mixed
      exact ⟨k / 2, by omega, by omega, rfl⟩
    · cases mixed
  · intro k mixed i bound same
    split at mixed
    · cases mixed
    · omega

theorem pcmMixBMonoIntoAStereoR_as_specified (pcmA pcmB : Samples) (sizeB : Nat) :
    MixedAsSpecified .bMonoIntoAStereoR sizeB pcmA pcmB (pcmMixBMonoIntoAStereoR pcmA pcmB sizeB).pcmA := by
  have injective : Function.Injective (fun i : Nat => i * 2 + 1) := fun x y same => by simp only at same; omega
  apply mixLoop_as_specified injective
  all_goals simp only [mixedSample]
  · intro k sample mixed
    split at mixed
    · cases mixed
      exact ⟨k / 2, by omega, by omega, rfl⟩
    · cases mixed
  · intro k mixed i bound same
    split at mixed
    · cases mixed
    · omega

@[simp] theorem mixedSample_empty (mode : PcmMixMode) (pcmB : Samples) (k : Nat) :
    mixedSample mode 0 pcmB k = none := by
  cases mode <;> simp [mixedSample]

theorem pcmMix_ok_mixed {mode : PcmMixMode} {pcmA pcmB : Samples} {sizeA sizeB : Nat}
    (even : Even sizeB) (ok : (pcmMix (some pcmA) sizeA (some pcmB) sizeB mode).status = .ok ()) :
    ∃ result, (pcmMix (some pcmA) sizeA (some pcmB) sizeB mode).pcmA = some result ∧
      MixedAsSpecified mode sizeB pcmA pcmB result := by
  by_cases emptyA : sizeA = 0
  · simp [pcmMix, emptyA] at ok
  by_cases emptyB : sizeB = 0
  · subst emptyB
    exact ⟨pcmA, by simp [pcmMix, emptyA], fun k => by simp⟩
  cases mode with
  | bStereoIntoAStereo =>
    by_cases oversized : sizeB > sizeA
    · simp [pcmMix, emptyA, emptyB, oversized] at ok
    · exact ⟨_, by simp [pcmMix, emptyA, emptyB, oversized, finished],
        pcmMixIdentical_as_specified _ (.inl rfl) pcmA pcmB sizeB⟩
  | bMonoIntoAMono =>
    by_cases oversized : sizeB > sizeA
    · simp [pcmMix, emptyA, emptyB, oversized] at ok
    · exact ⟨_, by simp [pcmMix, emptyA, emptyB, oversized, finished],
        pcmMixIdentical_as_specified _ (.inr rfl) pcmA pcmB sizeB⟩
  | bMonoIntoAStereoLr =>
    by_cases oversized : sizeB > sizeA / 2
    · simp [pcmMix, emptyA, emptyB, oversized] at ok
    · exact ⟨_, by simp [pcmMix, emptyA, emptyB, oversized, finished],
        pcmMixBMonoIntoAStereoLr_as_specified pcmA pcmB even⟩
  | bMonoIntoAStereoL =>
    by_cases oversized : sizeB > sizeA / 2
    · simp [pcmMix, emptyA, emptyB, oversized, finished] at ok
    · exact ⟨_, by simp [pcmMix, emptyA, emptyB, oversized, finished],
        pcmMixBMonoIntoAStereoL_as_specified pcmA pcmB sizeB⟩
  | bMonoIntoAStereoR =>
    by_cases oversized : sizeB > sizeA / 2
    · simp [pcmMix, emptyA, emptyB, oversized, finished] at ok
    · exact ⟨_, by simp [pcmMix, emptyA, emptyB, oversized, finished],
        pcmMixBMonoIntoAStereoR_as_specified pcmA pcmB sizeB⟩

theorem pcmMix_checked_error_unchanged {mode : PcmMixMode} {pcmA : Samples} {pcmB : Option Samples}
    {sizeA sizeB : Nat} (checked : mode ≠ .bMonoIntoAStereoL ∧ mode ≠ .bMonoIntoAStereoR)
    (failed : (pcmMix (some pcmA) sizeA pcmB sizeB mode).status ≠ .ok ()) :
    (pcmMix (some pcmA) sizeA pcmB sizeB mode).pcmA = some pcmA := by
  obtain ⟨notL, notR⟩ := checked
  cases pcmB with
  | none => simp only [pcmMix]; split <;> rfl
  | some pcmB =>
    by_cases emptyA : sizeA = 0
    · simp [pcmMix, emptyA]
    by_cases emptyB : sizeB = 0
    · simp [pcmMix, emptyA, emptyB]
    cases mode with
    | bStereoIntoAStereo | bMonoIntoAMono =>
      by_cases oversized : sizeB > sizeA
      · simp [pcmMix, emptyA, emptyB, oversized]
      · simp [pcmMix, emptyA, emptyB, oversized, finished] at failed
    | bMonoIntoAStereoLr =>
      by_cases oversized : sizeB > sizeA / 2
      · simp [pcmMix, emptyA, emptyB, oversized]
      · simp [pcmMix, emptyA, emptyB, oversized, finished] at failed
    | bMonoIntoAStereoL => exact absurd rfl notL
    | bMonoIntoAStereoR => exact absurd rfl notR

theorem pcmMix_traceWithin {mode : PcmMixMode} {pcmA pcmB : Samples} {sizeA sizeB : Nat} (even : Even sizeB)
    (fits : mode = .bMonoIntoAStereoL ∨ mode = .bMonoIntoAStereoR → sizeB ≤ sizeA / 2) :
    TraceWithin (bufferSize sizeA sizeB) (pcmMix (some pcmA) sizeA (some pcmB) sizeB mode).trace := by
  obtain ⟨half, rfl⟩ := even
  by_cases emptyA : sizeA = 0
  · simp [pcmMix, emptyA]
  by_cases emptyB : half = 0
  · simp [pcmMix, emptyA, emptyB]
  have nonempty : ¬ half + half = 0 := by omega
  cases mode with
  | bStereoIntoAStereo | bMonoIntoAMono =>
    by_cases oversized : half + half > sizeA
    · simp [pcmMix, emptyA, emptyB, oversized]
    · simp only [pcmMix, emptyA, nonempty, oversized, if_false, finished, pcmMixIdentical]
      apply mixLoop_traceWithin <;> intro i bound <;> (try simp only [id]) <;> omega
  | bMonoIntoAStereoLr =>
    by_cases oversized : half + half > sizeA / 2
    · simp [pcmMix, emptyA, emptyB, oversized]
    · simp only [pcmMix, emptyA, nonempty, oversized, if_false, finished, pcmMixBMonoIntoAStereoLr]
      apply mixLoop_traceWithin <;> intro i bound <;> (try simp only [id]) <;> omega
  | bMonoIntoAStereoL =>
    have oversized : ¬ half + half > sizeA / 2 := by have := fits (.inl rfl); omega
    simp only [pcmMix, emptyA, nonempty, oversized, if_false, finished, pcmMixBMonoIntoAStereoL]
    apply mixLoop_traceWithin <;> intro i bound <;> (try simp only [id]) <;> omega
  | bMonoIntoAStereoR =>
    have oversized : ¬ half + half > sizeA / 2 := by have := fits (.inr rfl); omega
    simp only [pcmMix, emptyA, nonempty, oversized, if_false, finished, pcmMixBMonoIntoAStereoR]
    apply mixLoop_traceWithin <;> intro i bound <;> (try simp only [id]) <;> omega

theorem pcmMix_ok_fits {mode : PcmMixMode} {pcmA pcmB : Samples} {sizeA sizeB : Nat}
    (ok : (pcmMix (some pcmA) sizeA (some pcmB) sizeB mode).status = .ok ()) :
    mode = .bMonoIntoAStereoL ∨ mode = .bMonoIntoAStereoR → sizeB ≤ sizeA / 2 := by
  intro lr
  by_contra big
  have tooLarge : sizeA / 2 < sizeB := by omega
  have nonempty : sizeB ≠ 0 := by omega
  by_cases emptyA : sizeA = 0
  · simp [pcmMix, emptyA] at ok
  rcases lr with rfl | rfl <;> simp [pcmMix, emptyA, nonempty, tooLarge, finished] at ok

/-- pcm_mix returns 0 only with every sample of A mixed as its mode says and every access inside the two
buffers; in the modes that check the sizes before mixing, an error leaves A as it was. -/
theorem pcmMix_ok_as_specified {mode : PcmMixMode} {pcmA pcmB : Samples} {sizeA sizeB : Nat} (even : Even sizeB) :
    ((pcmMix (some pcmA) sizeA (some pcmB) sizeB mode).status = .ok () →
      ∃ result, (pcmMix (some pcmA) sizeA (some pcmB) sizeB mode).pcmA = some result ∧
        MixedAsSpecified mode sizeB pcmA pcmB result ∧
        TraceWithin (bufferSize sizeA sizeB) (pcmMix (some pcmA) sizeA (some pcmB) sizeB mode).trace) ∧
      (mode ≠ .bMonoIntoAStereoL ∧ mode ≠ .bMonoIntoAStereoR →
        (pcmMix (some pcmA) sizeA (some pcmB) sizeB mode).status ≠ .ok () →
        (pcmMix (some pcmA) sizeA (some pcmB) sizeB mode).pcmA = some pcmA) := by
  refine ⟨fun ok => ?_, fun checked failed => pcmMix_checked_error_unchanged checked failed⟩
  obtain ⟨result, written, mixed⟩ := pcmMix_ok_mixed even ok
  exact ⟨result, written, mixed, pcmMix_traceWithin even (pcmMix_ok_fits ok)⟩

theorem pcmMix_ok_as_specified_mono :
    Even 4 ∧
      (((pcmMix (some fun _ => 1000) 8 (some fun _ => 32000) 4 .bMonoIntoAMono).status = .ok () →
        ∃ result, (pcmMix (some fun _ => 1000) 8 (some fun _ => 32000) 4 .bMonoIntoAMono).pcmA = some result ∧
          MixedAsSpecified .bMonoIntoAMono 4 (fun _ => 1000) (fun _ => 32000) result ∧
          TraceWithin (bufferSize 8 4) (pcmMix (some fun _ => 1000) 8 (some fun _ => 32000) 4 .bMonoIntoAMono).trace) ∧
        (PcmMixMode.bMonoIntoAMono ≠ .bMonoIntoAStereoL ∧ PcmMixMode.bMonoIntoAMono ≠ .bMonoIntoAStereoR →
          (pcmMix (some fun _ => 1000) 8 (some fun _ => 32000) 4 .bMonoIntoAMono).status ≠ .ok () →
          (pcmMix (some fun _ => 1000) 8 (some fun _ => 32000) 4 .bMonoIntoAMono).pcmA = some fun _ => 1000)) :=
  ⟨⟨2, rfl⟩, pcmMix_ok_as_specified ⟨2, rfl⟩⟩

theorem pcmMix_stereo_l_mixes_before_check :
    (pcmMix (some fun _ => 0) 2 (some fun _ => 1) 4 .bMonoIntoAStereoL).status = .error .EPERM ∧
      (pcmMix (some fun _ => 0) 2 (some fun _ => 1) 4 .bMonoIntoAStereoL).pcmA ≠ some (fun _ => 0) ∧
      ¬ TraceWithin (bufferSize 2 4) (pcmMix (some fun _ => 0) 2 (some fun _ => 1) 4 .bMonoIntoAStereoL).trace := by
  refine ⟨rfl, ?_, ?_⟩
  · intro unchanged
    have first := congrFun (Option.some.inj unchanged) 0
    revert first
    decide
  · intro within
    have overrun := within ⟨.pcmA, 4, 2, .write⟩ (by decide)
    revert overrun
    decide

end PcmMix
