import NrfSdk.Pscm.Safety

namespace Pscm

open Machine

def interleaveChannels (inputs : Nat → Nat → UInt8) (inputSize pcmBitDepth : Nat) (output : Nat → UInt8)
    (outputSize outputChannels : Nat) : Nat → UInt8 :=
  (List.range outputChannels).foldl
    (fun buffer channel =>
      (pscmInterleave (inputs channel) inputSize channel pcmBitDepth buffer outputSize outputChannels
        false).output)
    output

section Writes

variable {memory input : Nat → UInt8} {pairs : List (Nat × Nat)}

theorem applyWrites_copyWrites_of_mem {source destination : Nat} (distinct : (pairs.map Prod.snd).Nodup)
    (member : (source, destination) ∈ pairs) :
    applyWrites memory (copyWrites input pairs) destination = input source := by
  have written : (destination, input source) ∈ copyWrites input pairs := List.mem_map.mpr ⟨_, member, rfl⟩
  apply applyWrites_of_mem _ written
  simpa [copyWrites, Function.comp_def] using distinct

theorem applyWrites_copyWrites_of_not_mem {address : Nat} (untouched : ∀ pair ∈ pairs, pair.2 ≠ address) :
    applyWrites memory (copyWrites input pairs) address = memory address := by
  apply applyWrites_of_not_mem
  simp only [copyWrites, List.map_map, Function.comp_def, List.mem_map, not_exists, not_and]
  exact untouched

theorem roundPairs_writes_nodup {source destination bytesPerSample inputStride outputStride rounds : Nat}
    (spread : bytesPerSample ≤ outputStride) :
    ((roundPairs source destination bytesPerSample inputStride outputStride rounds).map Prod.snd).Nodup := by
  simp only [roundPairs, samplePairs, List.map_flatMap, List.map_map, Function.comp_def]
  rw [List.nodup_flatMap]
  constructor
  · intro k _
    exact List.nodup_range.map fun j j' same => by simpa using same
  · refine List.pairwise_lt_range.imp fun {k k'} before => ?_
    rw [Function.onFun, List.disjoint_left]
    simp only [List.mem_map, List.mem_range, not_exists, not_and]
    rintro _ ⟨j, inside, rfl⟩ j' inside' same
    -- round k ends before round k' starts
    have apart : (k + 1) * outputStride ≤ k' * outputStride := Nat.mul_le_mul_right _ before
    rw [Nat.succ_mul] at apart
    omega

end Writes

theorem eq_of_add_mul_eq {s x y q q' : Nat} (hx : x < s) (hy : y < s) (same : x + s * q = y + s * q') :
    x = y ∧ q = q' := by
  have positive : 0 < s := by omega
  have first := (@Nat.div_mod_unique s (x + s * q) q x positive).mpr ⟨rfl, hx⟩
  have second := (@Nat.div_mod_unique s (y + s * q') q' y positive).mpr ⟨rfl, hy⟩
  rw [same] at first
  exact ⟨first.2.symm.trans second.2, first.1.symm.trans second.1⟩

theorem interleaved_channel_eq {bytesPerSample channels channel channel' k k' j j' : Nat}
    (inside : channel < channels) (inside' : channel' < channels) (byte : j < bytesPerSample)
    (byte' : j' < bytesPerSample)
    (same : bytesPerSample * channel + k * (bytesPerSample * channels) + j =
      bytesPerSample * channel' + k' * (bytesPerSample * channels) + j') :
    channel = channel' := by
  have slot : bytesPerSample * channel + bytesPerSample ≤ bytesPerSample * channels := by
    rw [← Nat.mul_succ]
    exact Nat.mul_le_mul_left _ inside
  have slot' : bytesPerSample * channel' + bytesPerSample ≤ bytesPerSample * channels := by
    rw [← Nat.mul_succ]
    exact Nat.mul_le_mul_left _ inside'
  -- first the frame offset, then the channel within the frame
  have inFrame := (@eq_of_add_mul_eq _ _ _ k k'
    (show j + bytesPerSample * channel < bytesPerSample * channels by omega)
    (show j' + bytesPerSample * channel' < bytesPerSample * channels by omega)
    (by rw [Nat.mul_comm _ k, Nat.mul_comm _ k']; omega)).1
  exact (eq_of_add_mul_eq byte byte' inFrame).2

section Samples

variable {input output : Nat → UInt8}

theorem pscmInterleave_output_sample {inputSize channel pcmBitDepth outputSize outputChannels k j : Nat}
    {inPlace : Bool}
    (accepted : (pscmInterleave input inputSize channel pcmBitDepth output outputSize outputChannels
      inPlace).status = .ok ())
    (early : k < inputSize ⌈/⌉ (pcmBitDepth / 8)) (byte : j < pcmBitDepth / 8) :
    (pscmInterleave input inputSize channel pcmBitDepth output outputSize outputChannels inPlace).output
        (pcmBitDepth / 8 * channel + k * (pcmBitDepth / 8 * outputChannels) + j) =
      input (k * (pcmBitDepth / 8) + j) := by
  obtain ⟨-, -, inside, -, -⟩ := pscmInterleave_status_eq_ok.mp accepted
  have spread : pcmBitDepth / 8 ≤ pcmBitDepth / 8 * outputChannels :=
    Nat.le_mul_of_pos_right _ (by omega)
  rw [pscmInterleave_of_ok accepted]
  apply applyWrites_copyWrites_of_mem (roundPairs_writes_nodup spread)
  rw [← Nat.zero_add (k * (pcmBitDepth / 8))]
  exact mem_roundPairs.mpr ⟨k, early, j, byte, rfl⟩

theorem pscmInterleave_output_of_not_sample {inputSize channel pcmBitDepth outputSize outputChannels address : Nat}
    {inPlace : Bool}
    (accepted : (pscmInterleave input inputSize channel pcmBitDepth output outputSize outputChannels
      inPlace).status = .ok ())
    (other : ∀ k < inputSize ⌈/⌉ (pcmBitDepth / 8), ∀ j < pcmBitDepth / 8,
      pcmBitDepth / 8 * channel + k * (pcmBitDepth / 8 * outputChannels) + j ≠ address) :
    (pscmInterleave input inputSize channel pcmBitDepth output outputSize outputChannels inPlace).output
        address = output address := by
  rw [pscmInterleave_of_ok accepted]
  apply applyWrites_copyWrites_of_not_mem
  intro pair member
  obtain ⟨k, early, j, byte, rfl⟩ := mem_roundPairs.mp member
  exact other k early j byte

theorem pscmDeinterleave_output_sample {inputSize inputChannels channel pcmBitDepth outputSize k j : Nat}
    (accepted : (pscmDeinterleave input inputSize inputChannels channel pcmBitDepth output
      outputSize).status = .ok ())
    (early : k < inputSize ⌈/⌉ (pcmBitDepth / 8 * inputChannels)) (byte : j < pcmBitDepth / 8) :
    (pscmDeinterleave input inputSize inputChannels channel pcmBitDepth output outputSize).output
        (k * (pcmBitDepth / 8) + j) =
      input (pcmBitDepth / 8 * channel + k * (pcmBitDepth / 8 * inputChannels) + j) := by
  rw [pscmDeinterleave_of_ok accepted]
  apply applyWrites_copyWrites_of_mem (roundPairs_writes_nodup le_rfl)
  rw [← Nat.zero_add (k * (pcmBitDepth / 8))]
  exact mem_roundPairs.mpr ⟨k, early, j, byte, rfl⟩

end Samples

section Channels

variable {inputs : Nat → Nat → UInt8} {inputSize pcmBitDepth outputSize outputChannels : Nat}

theorem foldl_interleave_sample (carrier : IsCarrierBitDepth pcmBitDepth) (positive : 0 < inputSize)
    (room : inputSize * outputChannels ≤ outputSize) (output : Nat → UInt8) {count : Nat}
    (within : count ≤ outputChannels) {channel k j : Nat} (done : channel < count)
    (early : k < inputSize ⌈/⌉ (pcmBitDepth / 8)) (byte : j < pcmBitDepth / 8) :
    ((List.range count).foldl
        (fun buffer channel =>
          (pscmInterleave (inputs channel) inputSize channel pcmBitDepth buffer outputSize outputChannels
            false).output)
        output) (pcmBitDepth / 8 * channel + k * (pcmBitDepth / 8 * outputChannels) + j) =
      inputs channel (k * (pcmBitDepth / 8) + j) := by
  induction count with
  | zero => omega
  | succ count ih =>
    rw [List.range_succ, List.foldl_append, List.foldl_cons, List.foldl_nil]
    have accepted : ∀ buffer, (pscmInterleave (inputs count) inputSize count pcmBitDepth buffer outputSize
        outputChannels false).status = .ok () := fun _ =>
      pscmInterleave_status_eq_ok.mpr ⟨rfl, positive, by omega, carrier, room⟩
    by_cases last : channel = count
    · subst last
      exact pscmInterleave_output_sample (accepted _) early byte
    · rw [pscmInterleave_output_of_not_sample (accepted _)
        (fun k' _ j' byte' same => last (interleaved_channel_eq (by omega) (by omega) byte byte' same.symm))]
      exact ih (by omega) (by omega)

/-- Interleaving outputChannels mono buffers of inputSize bytes, a whole number of samples, into one
buffer and de-interleaving channel channel of the inputSize * outputChannels interleaved bytes gives
back mono buffer channel. Every call on the way is accepted and stays inside its buffers. -/
theorem pscmDeinterleave_interleaveChannels (output result : Nat → UInt8) {channel resultSize : Nat}
    (carrier : IsCarrierBitDepth pcmBitDepth) (positive : 0 < inputSize)
    (whole : pcmBitDepth / 8 ∣ inputSize) (inside : channel < outputChannels)
    (room : inputSize * outputChannels ≤ outputSize) (resultRoom : inputSize ≤ resultSize) :
    (∀ k < outputChannels, ∀ buffer : Nat → UInt8,
        (pscmInterleave (inputs k) inputSize k pcmBitDepth buffer outputSize outputChannels false).status =
          .ok () ∧
        TraceWithin (bufferSize inputSize outputSize)
          (pscmInterleave (inputs k) inputSize k pcmBitDepth buffer outputSize outputChannels false).trace) ∧
      (pscmDeinterleave (interleaveChannels inputs inputSize pcmBitDepth output outputSize outputChannels)
          (inputSize * outputChannels) outputChannels channel pcmBitDepth result resultSize).status = .ok () ∧
      TraceWithin (bufferSize (inputSize * outputChannels) resultSize)
        (pscmDeinterleave (interleaveChannels inputs inputSize pcmBitDepth output outputSize outputChannels)
          (inputSize * outputChannels) outputChannels channel pcmBitDepth result resultSize).trace ∧
      ∀ a < inputSize,
        (pscmDeinterleave (interleaveChannels inputs inputSize pcmBitDepth output outputSize outputChannels)
          (inputSize * outputChannels) outputChannels channel pcmBitDepth result resultSize).output a =
          inputs channel a := by
  have bytes := carrier.bytes_pos
  have channels : 0 < outputChannels := by omega
  have frame : 0 < pcmBitDepth / 8 * outputChannels := Nat.mul_pos bytes channels
  have samples : inputSize * outputChannels / outputChannels = inputSize := Nat.mul_div_cancel _ channels
  have accepted : (pscmDeinterleave (interleaveChannels inputs inputSize pcmBitDepth output outputSize
      outputChannels) (inputSize * outputChannels) outputChannels channel pcmBitDepth result
      resultSize).status = .ok () :=
    pscmDeinterleave_status_eq_ok.mpr ⟨Nat.mul_pos positive channels, inside, carrier, by omega, by omega⟩
  -- the de-interleaver runs over as many frames as the interleaver ran over samples
  have rounds : inputSize * outputChannels ⌈/⌉ (pcmBitDepth / 8 * outputChannels) =
      inputSize ⌈/⌉ (pcmBitDepth / 8) := by
    rw [ceilDiv_of_dvd bytes whole, ceilDiv_of_dvd frame (Nat.mul_dvd_mul_right whole _),
      Nat.mul_div_mul_right _ _ channels]
  refine ⟨fun k early buffer => ?_, accepted, pscmDeinterleave_traceWithin accepted (Nat.mul_dvd_mul_right whole _),
    fun a early => ?_⟩
  · have interleaved : (pscmInterleave (inputs k) inputSize k pcmBitDepth buffer outputSize outputChannels
        false).status = .ok () := pscmInterleave_status_eq_ok.mpr ⟨rfl, positive, early, carrier, room⟩
    exact ⟨interleaved, pscmInterleave_traceWithin interleaved whole⟩
  have sample : a / (pcmBitDepth / 8) < inputSize ⌈/⌉ (pcmBitDepth / 8) := by
    rw [ceilDiv_of_dvd bytes whole]
    exact Nat.div_lt_div_of_lt_of_dvd whole early
  have byte : a % (pcmBitDepth / 8) < pcmBitDepth / 8 := Nat.mod_lt a bytes
  calc (pscmDeinterleave (interleaveChannels inputs inputSize pcmBitDepth output outputSize outputChannels)
          (inputSize * outputChannels) outputChannels channel pcmBitDepth result resultSize).output a
      = (pscmDeinterleave (interleaveChannels inputs inputSize pcmBitDepth output outputSize outputChannels)
          (inputSize * outputChannels) outputChannels channel pcmBitDepth result resultSize).output
          (a / (pcmBitDepth / 8) * (pcmBitDepth / 8) + a % (pcmBitDepth / 8)) := by
        rw [Nat.div_add_mod']
    _ = interleaveChannels inputs inputSize pcmBitDepth output outputSize outputChannels
          (pcmBitDepth / 8 * channel + a / (pcmBitDepth / 8) * (pcmBitDepth / 8 * outputChannels) +
            a % (pcmBitDepth / 8)) :=
        pscmDeinterleave_output_sample accepted (by rw [rounds]; exact sample) byte
    _ = inputs channel (a / (pcmBitDepth / 8) * (pcmBitDepth / 8) + a % (pcmBitDepth / 8)) :=
        foldl_interleave_sample carrier positive room output le_rfl inside sample byte
    _ = inputs channel a := by rw [Nat.div_add_mod']

end Channels

def twoMonoBuffers : Nat → Nat → UInt8 := fun k a => (16 * k + a).toUInt8

theorem pscmDeinterleave_interleaveChannels_stereo :
    IsCarrierBitDepth 16 ∧ 0 < 4 ∧ 16 / 8 ∣ 4 ∧ 1 < 2 ∧ 4 * 2 ≤ 8 ∧ 4 ≤ 4 ∧
      (∀ k < 2, ∀ buffer : Nat → UInt8,
          (pscmInterleave (twoMonoBuffers k) 4 k 16 buffer 8 2 false).status = .ok () ∧
          TraceWithin (bufferSize 4 8) (pscmInterleave (twoMonoBuffers k) 4 k 16 buffer 8 2 false).trace) ∧
        (pscmDeinterleave (interleaveChannels twoMonoBuffers 4 16 (fun _ => 0) 8 2) (4 * 2) 2 1 16 (fun _ => 0) 4).status =
          .ok () ∧
        TraceWithin (bufferSize (4 * 2) 4)
          (pscmDeinterleave (interleaveChannels twoMonoBuffers 4 16 (fun _ => 0) 8 2) (4 * 2) 2 1 16 (fun _ => 0) 4).trace ∧
        ∀ a < 4,
          (pscmDeinterleave (interleaveChannels twoMonoBuffers 4 16 (fun _ => 0) 8 2) (4 * 2) 2 1 16 (fun _ => 0) 4).output a =
            twoMonoBuffers 1 a := by
  have carrier : IsCarrierBitDepth 16 := by decide
  have whole : 16 / 8 ∣ 4 := by decide
  exact ⟨carrier, by decide, whole, by decide, by decide, by decide,
    pscmDeinterleave_interleaveChannels (fun _ => 0) (fun _ => 0) carrier (by decide) whole (by decide) (by decide)
      (by decide)⟩

end Pscm
