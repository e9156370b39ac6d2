import NrfSdk.ContinArray.BufCreate

namespace ContinArray

open Machine

/-- The writes of copy_samples into one channel: `samples` samples of `carrierBytes` bytes from `output` on,
`step` bytes apart, read from the finite array from `finitePos` on and wrapping at its end. -/
def sampleWrites (pcmFinite : List UInt8) (pcmFiniteSize output finitePos step carrierBytes samples : Nat) :
    List (Nat × UInt8) :=
  (List.range samples).flatMap fun sample => (List.range carrierBytes).map fun byte =>
    (output + sample * (carrierBytes + step) + byte,
      pcmFinite.getD ((finitePos + sample * carrierBytes + byte) % pcmFiniteSize) 0)

def samplesOf (metaContin : AudioMetadata) : Nat :=
  (metaContin.bytesPerLocation + carrierBytesOf metaContin - 1) / carrierBytesOf metaContin

def channelWrites (pcmFinite : List UInt8) (pcmFiniteSize : Nat) (metaContin : AudioMetadata)
    (finitePos channels : Nat) : List (Nat × UInt8) :=
  (List.range channels).flatMap fun channel =>
    sampleWrites pcmFinite pcmFiniteSize (frameBytesOf metaContin * channel) finitePos (stepOf metaContin)
      (carrierBytesOf metaContin) (samplesOf metaContin)

section Copy

variable {pcmFinite : List UInt8} {pcmFiniteSize : Nat}

theorem copyByte_eq (small : pcmFiniteSize < 2 ^ 16) {state : CopyState} (inside : state.finitePos < pcmFiniteSize) :
    copyByte pcmFinite pcmFiniteSize state =
      ⟨Function.update state.data state.output (pcmFinite.getD state.finitePos 0), state.output + 1,
        (state.finitePos + 1) % pcmFiniteSize⟩ := by
  have stored : u16 (state.finitePos + 1 : Nat) = state.finitePos + 1 := by
    unfold u16
    exact wrap_natCast_of_lt (by omega)
  simp only [copyByte, stored]
  congr 1
  split_ifs with wraps
  · rw [show state.finitePos + 1 = pcmFiniteSize by omega, Nat.mod_self]
  · rw [Nat.mod_eq_of_lt (by omega)]

theorem forRange_copyByte (small : pcmFiniteSize < 2 ^ 16) (count : Nat) {data : Nat → UInt8} {output finitePos : Nat}
    (inside : finitePos < pcmFiniteSize) :
    forRange count (fun _ => copyByte pcmFinite pcmFiniteSize) ⟨data, output, finitePos⟩ =
      ⟨applyWrites data ((List.range count).map fun byte =>
          (output + byte, pcmFinite.getD ((finitePos + byte) % pcmFiniteSize) 0)),
        output + count, (finitePos + count) % pcmFiniteSize⟩ := by
  induction count with
  | zero => simp [Nat.mod_eq_of_lt inside]
  | succ count ih =>
    rw [forRange_succ, ih, copyByte_eq small (Nat.mod_lt _ (by omega))]
    simp only [List.range_succ, List.map_append, List.map_singleton, applyWrites_append, Nat.mod_add_mod]
    rfl

theorem copySamples_eq (small : pcmFiniteSize < 2 ^ 16) (pcmContinSize step carrierBytes : Nat) {data : Nat → UInt8}
    {output finitePos : Nat} (inside : finitePos < pcmFiniteSize) :
    copySamples pcmContinSize pcmFinite pcmFiniteSize step carrierBytes ⟨data, output, finitePos⟩ =
      ⟨applyWrites data (sampleWrites pcmFinite pcmFiniteSize output finitePos step carrierBytes
          ((pcmContinSize + carrierBytes - 1) / carrierBytes)),
        output + (pcmContinSize + carrierBytes - 1) / carrierBytes * (carrierBytes + step),
        (finitePos + (pcmContinSize + carrierBytes - 1) / carrierBytes * carrierBytes) % pcmFiniteSize⟩ := by
  unfold copySamples
  generalize (pcmContinSize + carrierBytes - 1) / carrierBytes = samples
  -- the outer loop, sample by sample
  induction samples with
  | zero => simp [sampleWrites, Nat.mod_eq_of_lt inside]
  | succ samples ih =>
    rw [forRange_succ, ih]
    dsimp only
    rw [forRange_copyByte small carrierBytes (Nat.mod_lt _ (by omega))]
    simp only [sampleWrites, List.range_succ, List.flatMap_append, List.flatMap_singleton, applyWrites_append,
      Nat.mod_add_mod]
    congr 1
    · rw [Nat.succ_mul]
      omega
    · rw [Nat.succ_mul, Nat.add_assoc]

end Copy

theorem foldl_copySamples (pcmFinite : List UInt8) {pcmFiniteSize : Nat} (metaContin : AudioMetadata)
    (small : pcmFiniteSize < 2 ^ 16) {finitePos : Nat} (inside : finitePos < pcmFiniteSize)
    (channels : Nat) (data : Nat → UInt8) :
    ((List.range channels).foldl (fun state countCh =>
        copySamples metaContin.bytesPerLocation pcmFinite pcmFiniteSize (stepOf metaContin)
          (carrierBytesOf metaContin) ⟨state.data, frameBytesOf metaContin * (0 + countCh), finitePos⟩)
        ⟨data, 0, finitePos⟩).data =
      applyWrites data (channelWrites pcmFinite pcmFiniteSize metaContin finitePos channels) ∧
    (0 < channels →
      ((List.range channels).foldl (fun state countCh =>
        copySamples metaContin.bytesPerLocation pcmFinite pcmFiniteSize (stepOf metaContin)
          (carrierBytesOf metaContin) ⟨state.data, frameBytesOf metaContin * (0 + countCh), finitePos⟩)
        ⟨data, 0, finitePos⟩).finitePos =
      (finitePos + samplesOf metaContin * carrierBytesOf metaContin) % pcmFiniteSize) := by
  induction channels with
  | zero => exact ⟨rfl, fun empty => absurd empty (Nat.lt_irrefl 0)⟩
  | succ channels ih =>
    rw [List.range_succ, List.foldl_append, List.foldl_cons, List.foldl_nil, copySamples_eq small _ _ _ inside]
    refine ⟨?_, fun _ => rfl⟩
    rw [ih.1]
    simp only [channelWrites, List.range_succ, List.flatMap_append, List.flatMap_singleton, applyWrites_append,
      Nat.zero_add]
    rfl

section Create

variable {pcmFinite : List UInt8} {pcmFiniteSize : Nat} {pcmContin : NetBuf} {locations finitePos : Nat}

theorem continArrayBufCreate_eq (sized : pcmContin.size ≠ 0) (small : pcmFiniteSize < 2 ^ 16)
    (inside : finitePos < pcmFiniteSize) (common : outLocations pcmContin.metadata locations ≠ 0)
    (masks : outLocations pcmContin.metadata locations < 2 ^ 32)
    (carrier : pcmContin.metadata.carriedBitsPerSample ∈ [8, 16, 24, 32]) :
    continArrayBufCreate pcmContin pcmFinite pcmFiniteSize locations finitePos =
      .ok ({ (if pcmContin.len = 0 then
              netBufAddZeroed pcmContin
                (u32 (pcmContin.metadata.bytesPerLocation * audioMetadataNumLocGet pcmContin.metadata : Nat))
            else pcmContin) with
          data := applyWrites
            (if pcmContin.len = 0 then
              netBufAddZeroed pcmContin
                (u32 (pcmContin.metadata.bytesPerLocation * audioMetadataNumLocGet pcmContin.metadata : Nat))
            else pcmContin).data
            (channelWrites pcmFinite pcmFiniteSize pcmContin.metadata finitePos
              (popcount 32 (outLocations pcmContin.metadata locations))) },
        (finitePos + samplesOf pcmContin.metadata * carrierBytesOf pcmContin.metadata) % pcmFiniteSize) := by
  have checked : ¬(pcmContin.metadata.carriedBitsPerSample = 0 ∨
      pcmContin.metadata.carriedBitsPerSample > pcmContMaxCarrierBitDepth ∨
      pcmContin.metadata.carriedBitsPerSample % 8 ≠ 0) := by
    simp only [List.mem_cons, List.not_mem_nil, or_false] at carrier
    simp only [pcmContMaxCarrierBitDepth]
    omega
  have walked := foldl_copySamples pcmFinite pcmContin.metadata small inside
  rw [continArrayBufCreate, if_neg (by omega), if_neg common, if_neg checked]
  dsimp only
  rw [walkMask_eq _ _ _ _ _ masks]
  obtain ⟨data, position⟩ := walked (popcount 32 (outLocations pcmContin.metadata locations))
    (if pcmContin.len = 0 then
      netBufAddZeroed pcmContin
        (u32 (pcmContin.metadata.bytesPerLocation * audioMetadataNumLocGet pcmContin.metadata : Nat))
    else pcmContin).data
  split_ifs at data position ⊢ <;> rw [data, position (popcount_pos common masks)]

theorem samplesOf_mul_carrierBytesOf {metaContin : AudioMetadata}
    (carrier : metaContin.carriedBitsPerSample ∈ [8, 16, 24, 32])
    (whole : metaContin.bytesPerLocation % carrierBytesOf metaContin = 0) :
    samplesOf metaContin * carrierBytesOf metaContin = metaContin.bytesPerLocation := by
  simp only [List.mem_cons, List.not_mem_nil, or_false] at carrier
  simp only [samplesOf, carrierBytesOf] at whole ⊢
  rcases carrier with bits | bits | bits | bits <;> rw [bits] at whole ⊢ <;> omega

theorem channelWrites_lt {pcmFinite : List UInt8} {pcmFiniteSize : Nat} {metaContin : AudioMetadata}
    {finitePos channels : Nat} (carrier : metaContin.carriedBitsPerSample ∈ [8, 16, 24, 32])
    (whole : metaContin.bytesPerLocation % carrierBytesOf metaContin = 0)
    (fewer : channels ≤ audioMetadataNumLocGet metaContin) (few : audioMetadataNumLocGet metaContin ≤ 32)
    {write : Nat × UInt8} (written : write ∈ channelWrites pcmFinite pcmFiniteSize metaContin finitePos channels) :
    write.1 < audioMetadataNumLocGet metaContin * metaContin.bytesPerLocation := by
  simp only [channelWrites, sampleWrites, List.mem_flatMap, List.mem_range, List.mem_map] at written
  obtain ⟨channel, channelLt, sample, sampleLt, byte, byteLt, rfl⟩ := written
  have samples := samplesOf_mul_carrierBytesOf carrier whole
  have bytes : carrierBytesOf metaContin ≤ 4 := by
    simp only [List.mem_cons, List.not_mem_nil, or_false] at carrier
    simp only [carrierBytesOf]
    omega
  -- the sample ends before the next sample of the lowest channel starts
  have sampleEnd : (sample + 1) * carrierBytesOf metaContin ≤ metaContin.bytesPerLocation := by
    rw [← samples]
    exact Nat.mul_le_mul_right _ sampleLt
  cases layout : metaContin.interleaved
  · have frame : frameBytesOf metaContin ≤ metaContin.bytesPerLocation := by
      simp only [frameBytesOf, layout, Bool.false_eq_true, if_false, u16]
      exact wrap_natCast_le 16 _
    have channelStart : frameBytesOf metaContin * channel ≤ metaContin.bytesPerLocation * channel :=
      Nat.mul_le_mul_right _ frame
    have lastChannel : metaContin.bytesPerLocation * (channel + 1) ≤
        metaContin.bytesPerLocation * audioMetadataNumLocGet metaContin :=
      Nat.mul_le_mul_left _ (by omega)
    simp only [stepOf, layout, Bool.false_eq_true, if_false, Nat.add_zero]
    rw [Nat.mul_succ] at lastChannel
    rw [Nat.succ_mul] at sampleEnd
    rw [Nat.mul_comm (audioMetadataNumLocGet metaContin)]
    omega
  · have step : stepOf metaContin = carrierBytesOf metaContin * (audioMetadataNumLocGet metaContin - 1) := by
      simp only [stepOf, layout, if_true, u16]
      exact wrap_natCast_of_lt (lt_of_le_of_lt (Nat.mul_le_mul bytes (Nat.sub_le_sub_right few 1)) (by norm_num))
    have stride : carrierBytesOf metaContin + stepOf metaContin =
        carrierBytesOf metaContin * audioMetadataNumLocGet metaContin := by
      rw [step, Nat.add_comm, ← Nat.mul_succ]
      congr 1
      omega
    have firstPart : carrierBytesOf metaContin * channel + carrierBytesOf metaContin ≤
        carrierBytesOf metaContin * audioMetadataNumLocGet metaContin := by
      rw [← Nat.mul_succ]
      exact Nat.mul_le_mul_left _ (by omega)
    have lastSample : (sample + 1) * (carrierBytesOf metaContin * audioMetadataNumLocGet metaContin) ≤
        samplesOf metaContin * (carrierBytesOf metaContin * audioMetadataNumLocGet metaContin) :=
      Nat.mul_le_mul_right _ sampleLt
    have total : samplesOf metaContin * (carrierBytesOf metaContin * audioMetadataNumLocGet metaContin) =
        audioMetadataNumLocGet metaContin * metaContin.bytesPerLocation := by
      rw [← samples]
      ring
    simp only [frameBytesOf, layout, if_true]
    rw [stride]
    rw [Nat.succ_mul] at lastSample
    omega

theorem popcount_outLocations_le (metaContin : AudioMetadata) (locations : Nat) :
    popcount 32 (outLocations metaContin locations) ≤ audioMetadataNumLocGet metaContin := by
  unfold outLocations audioMetadataNumLocGet
  by_cases mono : metaContin.locations = 0
  · by_cases alsoMono : locations = 0
    · simp only [mono, alsoMono, and_self, if_true]
      decide
    · simp [mono, alsoMono]
  · simp only [mono, false_and, if_false]
    exact popcount_land_le 32 _ _

/-- No byte past the buffer's `num_loc` locations is written. -/
theorem continArrayBufCreate_within (sized : pcmContin.size ≠ 0) (small : pcmFiniteSize < 2 ^ 16)
    (inside : finitePos < pcmFiniteSize) (common : outLocations pcmContin.metadata locations ≠ 0)
    (masks : outLocations pcmContin.metadata locations < 2 ^ 32)
    (carrier : pcmContin.metadata.carriedBitsPerSample ∈ [8, 16, 24, 32])
    (whole : pcmContin.metadata.bytesPerLocation % carrierBytesOf pcmContin.metadata = 0) :
    ∃ buf pos, continArrayBufCreate pcmContin pcmFinite pcmFiniteSize locations finitePos = .ok (buf, pos) ∧
      ∀ address, audioMetadataNumLocGet pcmContin.metadata * pcmContin.metadata.bytesPerLocation ≤ address →
        buf.data address = pcmContin.data address := by
  have channels := popcount_outLocations_le pcmContin.metadata locations
  have few : audioMetadataNumLocGet pcmContin.metadata ≤ 32 := by
    unfold audioMetadataNumLocGet
    split_ifs
    · omega
    · exact popcount_le 32 _
  rw [continArrayBufCreate_eq sized small inside common masks carrier]
  refine ⟨_, _, rfl, fun address outside => ?_⟩
  have untouched : address ∉ (channelWrites pcmFinite pcmFiniteSize pcmContin.metadata finitePos
      (popcount 32 (outLocations pcmContin.metadata locations))).map Prod.fst := by
    intro written
    obtain ⟨write, member, rfl⟩ := List.mem_map.mp written
    have bound := channelWrites_lt carrier whole channels few member
    omega
  dsimp only
  rw [applyWrites_of_not_mem untouched]
  split_ifs
  · have zeroed := wrap_natCast_le 32
      (pcmContin.metadata.bytesPerLocation * audioMetadataNumLocGet pcmContin.metadata)
    have kept : ¬address <
        wrap 32 (pcmContin.metadata.bytesPerLocation * audioMetadataNumLocGet pcmContin.metadata : Nat) := by
      rw [Nat.mul_comm] at outside
      omega
    simp only [netBufAddZeroed, u32, kept, if_false]
  · rfl

end Create

def stereoContin : NetBuf := ⟨fun _ => 0, 0, 8, ⟨16, 4, true, 3⟩⟩

theorem continArrayBufCreate_within_stereo :
    stereoContin.size ≠ 0 ∧ 4 < 2 ^ 16 ∧ 0 < 4 ∧ outLocations stereoContin.metadata 2 ≠ 0 ∧
      outLocations stereoContin.metadata 2 < 2 ^ 32 ∧ stereoContin.metadata.carriedBitsPerSample ∈ [8, 16, 24, 32] ∧
      stereoContin.metadata.bytesPerLocation % carrierBytesOf stereoContin.metadata = 0 ∧
      ∃ buf pos, continArrayBufCreate stereoContin [1, 2, 3, 4] 4 2 0 = .ok (buf, pos) ∧
        ∀ address, audioMetadataNumLocGet stereoContin.metadata * stereoContin.metadata.bytesPerLocation ≤ address →
          buf.data address = stereoContin.data address := by
  have sized : stereoContin.size ≠ 0 := by decide
  have common : outLocations stereoContin.metadata 2 ≠ 0 := by decide
  have masks : outLocations stereoContin.metadata 2 < 2 ^ 32 := by decide
  have carrier : stereoContin.metadata.carriedBitsPerSample ∈ [8, 16, 24, 32] := by decide
  have whole : stereoContin.metadata.bytesPerLocation % carrierBytesOf stereoContin.metadata = 0 := by decide
  exact ⟨sized, by decide, by decide, common, masks, carrier, whole,
    continArrayBufCreate_within sized (by decide) (by decide) common masks carrier whole⟩

def locationOffset (metaContin : AudioMetadata) (channel i : Nat) : Nat :=
  if metaContin.interleaved then
    i / carrierBytesOf metaContin * (audioMetadataNumLocGet metaContin * carrierBytesOf metaContin) +
      channel * carrierBytesOf metaContin + i % carrierBytesOf metaContin
  else channel * metaContin.bytesPerLocation + i

theorem continArrayBufCreate_writes_rank_in_locations :
    ∃ buf pos, continArrayBufCreate ⟨fun _ => 0, 0, 8, ⟨16, 4, true, 3⟩⟩ [1, 2, 3, 4] 4 2 0 = .ok (buf, pos) ∧
      (∀ i < 4, buf.data (locationOffset ⟨16, 4, true, 3⟩ (popcount 1 3) i) = 0) ∧
      (∀ i < 4, buf.data (locationOffset ⟨16, 4, true, 3⟩ 0 i) = [1, 2, 3, 4].getD i 0) := by
  refine ⟨_, _, rfl, ?_, ?_⟩ <;> decide

end ContinArray
