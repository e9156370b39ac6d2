import NrfSdk.Pscm.Interleave

namespace Pscm

open Machine

section Pairs

variable {source destination bytesPerSample inputStride outputStride rounds : Nat}

theorem mem_roundPairs {pair : Nat × Nat} :
    pair ∈ roundPairs source destination bytesPerSample inputStride outputStride rounds ↔
      ∃ k < rounds, ∃ j < bytesPerSample,
        pair = (source + k * inputStride + j, destination + k * outputStride + j) := by
  simp only [roundPairs, samplePairs, List.mem_flatMap, List.mem_map, List.mem_range]
  constructor
  · rintro ⟨k, early, j, inside, rfl⟩
    exact ⟨k, early, j, inside, rfl⟩
  · rintro ⟨k, early, j, inside, rfl⟩
    exact ⟨k, early, j, inside, rfl⟩

theorem copyAccesses_within_iff {sizes : Buffer → Nat} {pairs : List (Nat × Nat)} :
    TraceWithin sizes (copyAccesses pairs) ↔ ∀ pair ∈ pairs, pair.1 < sizes .input ∧ pair.2 < sizes .output := by
  simp only [TraceWithin, copyAccesses, List.mem_flatMap, List.mem_cons, List.not_mem_nil, or_false]
  constructor
  · intro within pair member
    exact ⟨within _ ⟨pair, member, .inl rfl⟩, within _ ⟨pair, member, .inr rfl⟩⟩
  · rintro within access ⟨pair, member, rfl | rfl⟩
    · exact (within pair member).1
    · exact (within pair member).2

theorem roundPairs_within_iff {inputSize outputSize : Nat} (nonempty : 0 < rounds)
    (positive : 0 < bytesPerSample) :
    (∀ pair ∈ roundPairs source destination bytesPerSample inputStride outputStride rounds,
        pair.1 < inputSize ∧ pair.2 < outputSize) ↔
      source + (rounds - 1) * inputStride + bytesPerSample ≤ inputSize ∧
        destination + (rounds - 1) * outputStride + bytesPerSample ≤ outputSize := by
  simp only [mem_roundPairs]
  constructor
  · intro within
    have last := within _ ⟨rounds - 1, by omega, bytesPerSample - 1, by omega, rfl⟩
    dsimp only at last
    omega
  · rintro ⟨reads, writes⟩ pair ⟨k, early, j, inside, rfl⟩
    have readsBefore : k * inputStride ≤ (rounds - 1) * inputStride := Nat.mul_le_mul_right _ (by omega)
    have writesBefore : k * outputStride ≤ (rounds - 1) * outputStride := Nat.mul_le_mul_right _ (by omega)
    exact ⟨by dsimp only; omega, by dsimp only; omega⟩

end Pairs

theorem pred_mul_add_self {rounds : Nat} (stride : Nat) (nonempty : 0 < rounds) :
    (rounds - 1) * stride + stride = rounds * stride := by
  have once : stride ≤ rounds * stride := Nat.le_mul_of_pos_left stride nonempty
  rw [Nat.sub_one_mul]
  omega

theorem interleave_bounds_iff {inputSize outputSize bytesPerSample channel channels : Nat}
    (positive : 0 < bytesPerSample) (nonempty : 0 < inputSize) (inside : channel < channels)
    (room : inputSize * channels ≤ outputSize) :
    (0 + (inputSize ⌈/⌉ bytesPerSample - 1) * bytesPerSample + bytesPerSample ≤ inputSize ∧
        bytesPerSample * channel + (inputSize ⌈/⌉ bytesPerSample - 1) * (bytesPerSample * channels) +
          bytesPerSample ≤ outputSize) ↔
      bytesPerSample ∣ inputSize := by
  have rounds := ceilDiv_pos positive nonempty
  have reads := pred_mul_add_self bytesPerSample rounds
  rw [← ceilDiv_mul_le_iff_dvd positive]
  constructor
  · rintro ⟨within, -⟩
    omega
  · intro within
    have cover : inputSize ≤ bytesPerSample * (inputSize ⌈/⌉ bytesPerSample) := le_smul_ceilDiv positive
    have exact : inputSize ⌈/⌉ bytesPerSample * bytesPerSample = inputSize := by
      rw [Nat.mul_comm] at within
      rw [Nat.mul_comm]
      omega
    have frames := pred_mul_add_self (bytesPerSample * channels) rounds
    have total : inputSize ⌈/⌉ bytesPerSample * (bytesPerSample * channels) = inputSize * channels := by
      rw [← Nat.mul_assoc, exact]
    have channelRoom : bytesPerSample * channel + bytesPerSample ≤ bytesPerSample * channels := by
      rw [← Nat.mul_succ]
      exact Nat.mul_le_mul_left bytesPerSample inside
    exact ⟨by omega, by omega⟩

section Calls

variable {input output : Nat → UInt8}

theorem pscmInterleave_traceWithin_iff {inputSize channel pcmBitDepth outputSize outputChannels : Nat}
    {inPlace : Bool}
    (accepted : (pscmInterleave input inputSize channel pcmBitDepth output outputSize outputChannels
      inPlace).status = .ok ()) :
    TraceWithin (bufferSize inputSize outputSize)
        (pscmInterleave input inputSize channel pcmBitDepth output outputSize outputChannels inPlace).trace ↔
      pcmBitDepth / 8 ∣ inputSize := by
  obtain ⟨-, positive, inside, carrier, room⟩ := pscmInterleave_status_eq_ok.mp accepted
  have rounds := ceilDiv_pos carrier.bytes_pos positive
  rw [pscmInterleave_of_ok accepted, copyAccesses_within_iff, interleavePairs,
    roundPairs_within_iff rounds carrier.bytes_pos]
  exact interleave_bounds_iff carrier.bytes_pos positive inside room

theorem pscmInterleave_traceWithin {inputSize channel pcmBitDepth outputSize outputChannels : Nat}
    {inPlace : Bool}
    (accepted : (pscmInterleave input inputSize channel pcmBitDepth output outputSize outputChannels
      inPlace).status = .ok ())
    (whole : pcmBitDepth / 8 ∣ inputSize) :
    TraceWithin (bufferSize inputSize outputSize)
      (pscmInterleave input inputSize channel pcmBitDepth output outputSize outputChannels inPlace).trace :=
  (pscmInterleave_traceWithin_iff accepted).mpr whole

theorem pscmDeinterleave_traceWithin_iff {inputSize inputChannels channel pcmBitDepth outputSize : Nat}
    (accepted : (pscmDeinterleave input inputSize inputChannels channel pcmBitDepth output
      outputSize).status = .ok ()) :
    TraceWithin (bufferSize inputSize outputSize)
        (pscmDeinterleave input inputSize inputChannels channel pcmBitDepth output outputSize).trace ↔
      pcmBitDepth / 8 * channel +
            (inputSize ⌈/⌉ (pcmBitDepth / 8 * inputChannels) - 1) * (pcmBitDepth / 8 * inputChannels) +
          pcmBitDepth / 8 ≤ inputSize ∧
        inputSize ⌈/⌉ (pcmBitDepth / 8 * inputChannels) * (pcmBitDepth / 8) ≤ outputSize := by
  obtain ⟨positive, inside, carrier, -, -⟩ := pscmDeinterleave_status_eq_ok.mp accepted
  have rounds := ceilDiv_pos (Nat.mul_pos carrier.bytes_pos (show 0 < inputChannels by omega)) positive
  rw [pscmDeinterleave_of_ok accepted, copyAccesses_within_iff, deinterleavePairs,
    roundPairs_within_iff rounds carrier.bytes_pos, Nat.zero_add, pred_mul_add_self _ rounds]
  rfl

theorem pscmDeinterleave_traceWithin {inputSize inputChannels channel pcmBitDepth outputSize : Nat}
    (accepted : (pscmDeinterleave input inputSize inputChannels channel pcmBitDepth output
      outputSize).status = .ok ())
    (whole : pcmBitDepth / 8 * inputChannels ∣ inputSize) :
    TraceWithin (bufferSize inputSize outputSize)
      (pscmDeinterleave input inputSize inputChannels channel pcmBitDepth output outputSize).trace := by
  obtain ⟨positive, inside, carrier, room, -⟩ := pscmDeinterleave_status_eq_ok.mp accepted
  have frame : 0 < pcmBitDepth / 8 * inputChannels := Nat.mul_pos carrier.bytes_pos (by omega)
  rw [pscmDeinterleave_traceWithin_iff accepted]
  obtain ⟨frames, rfl⟩ := whole
  have nonempty : 0 < frames := Nat.pos_of_mul_pos_left positive
  rw [mul_ceilDiv_cancel_left frame]
  have reads := pred_mul_add_self (pcmBitDepth / 8 * inputChannels) nonempty
  have channelRoom : pcmBitDepth / 8 * channel + pcmBitDepth / 8 ≤ pcmBitDepth / 8 * inputChannels := by
    rw [← Nat.mul_succ]
    exact Nat.mul_le_mul_left _ inside
  -- what fits the output: inputSize / inputChannels samples of the channel
  have samples : pcmBitDepth / 8 * inputChannels * frames / inputChannels = frames * (pcmBitDepth / 8) := by
    rw [Nat.mul_comm (pcmBitDepth / 8) inputChannels, Nat.mul_assoc,
      Nat.mul_div_cancel_left _ (show 0 < inputChannels by omega), Nat.mul_comm]
  rw [samples] at room
  exact ⟨by rw [Nat.mul_comm frames] at reads; omega, room⟩

/-- pscm_interleave of 3 bytes of 16-bit samples into a 3-byte mono buffer is accepted, and its second
round copies in[2..4) to out[2..4): it reads in[3] and writes out[3]. pscm_deinterleave of channel 1
from 3 bytes of 8-bit stereo into a 1-byte output (3 / 2 = 1) is accepted, and its second round copies
in[3] to out[1]. -/
theorem pscmInterleave_partial_sample_overruns (input output : Nat → UInt8) :
    (pscmInterleave input 3 0 16 output 3 1 false).status = .ok () ∧
      byteAccess .input 3 .read ∈ (pscmInterleave input 3 0 16 output 3 1 false).trace ∧
      byteAccess .output 3 .write ∈ (pscmInterleave input 3 0 16 output 3 1 false).trace ∧
      (pscmDeinterleave input 3 2 1 8 output 1).status = .ok () ∧
      byteAccess .input 3 .read ∈ (pscmDeinterleave input 3 2 1 8 output 1).trace ∧
      byteAccess .output 1 .write ∈ (pscmDeinterleave input 3 2 1 8 output 1).trace := by
  have interleaved : (pscmInterleave input 3 0 16 output 3 1 false).status = .ok () :=
    pscmInterleave_status_eq_ok.mpr ⟨rfl, by decide, by decide, by decide, by decide⟩
  have deinterleaved : (pscmDeinterleave input 3 2 1 8 output 1).status = .ok () :=
    pscmDeinterleave_status_eq_ok.mpr ⟨by decide, by decide, by decide, by decide, by decide⟩
  have pastInput : byteAccess .input 3 .read ∈ copyAccesses (interleavePairs 3 0 (16 / 8) 1) := by decide
  have pastOutput : byteAccess .output 3 .write ∈ copyAccesses (interleavePairs 3 0 (16 / 8) 1) := by decide
  have pastFrames : byteAccess .input 3 .read ∈ copyAccesses (deinterleavePairs 3 2 1 (8 / 8)) := by decide
  have pastSamples : byteAccess .output 1 .write ∈ copyAccesses (deinterleavePairs 3 2 1 (8 / 8)) := by decide
  rw [pscmInterleave_of_ok interleaved, pscmDeinterleave_of_ok deinterleaved]
  exact ⟨rfl, pastInput, pastOutput, rfl, pastFrames, pastSamples⟩

end Calls

end Pscm
