import NrfSdk.Machine.Memory

namespace Pscm

open Machine

def pscmMaxCarrierBitDepth : Nat := 32

inductive Buffer where
  | input
  | output
  deriving DecidableEq, Repr

def bufferSize (inputSize outputSize : Nat) : Buffer → Nat
  | .input => inputSize
  | .output => outputSize

def byteAccess (buffer : Buffer) (offset : Nat) (kind : AccessKind) : Access Buffer :=
  ⟨buffer, offset, 1, kind⟩

/-- The two pointers of the copy loops as offsets into their buffers, the output buffer, and every
byte access made so far. -/
structure CopyState where
  pointerInput : Nat
  pointerOutput : Nat
  output : Nat → UInt8
  trace : List (Access Buffer)

def copyByte (input : Nat → UInt8) (state : CopyState) : CopyState :=
  { pointerInput := state.pointerInput + 1
    pointerOutput := state.pointerOutput + 1
    output := Function.update state.output state.pointerOutput (input state.pointerInput)
    trace := state.trace ++
      [byteAccess .input state.pointerInput .read, byteAccess .output state.pointerOutput .write] }

def copyRound (bytesPerSample inputSkip outputSkip : Nat) (input : Nat → UInt8) (state : CopyState) :
    CopyState :=
  let copied := forRange bytesPerSample (fun _ => copyByte input) state
  { copied with
    pointerInput := copied.pointerInput + inputSkip
    pointerOutput := copied.pointerOutput + outputSkip }

structure PscmResult where
  status : Except Errno Unit
  output : Nat → UInt8
  trace : List (Access Buffer)

/-- pscm_interleave; inPlace stands for input == output. -/
def pscmInterleave (input : Nat → UInt8) (inputSize channel pcmBitDepth : Nat) (output : Nat → UInt8)
    (outputSize outputChannels : Nat) (inPlace : Bool) : PscmResult :=
  if inPlace ∨ inputSize = 0 ∨ channel ≥ outputChannels ∨ pcmBitDepth = 0 ∨
      pcmBitDepth > pscmMaxCarrierBitDepth ∨ pcmBitDepth % 8 ≠ 0 ∨ outputSize = 0 ∨ outputChannels = 0 then
    ⟨.error .EINVAL, output, []⟩
  else if outputSize < inputSize * outputChannels then ⟨.error .EINVAL, output, []⟩
  else
    let bytesPerSample := pcmBitDepth / 8
    let step := bytesPerSample * (outputChannels - 1)
    let final := forStride inputSize bytesPerSample (copyRound bytesPerSample 0 step input) 0
      ⟨0, bytesPerSample * channel, output, []⟩
    ⟨.ok (), final.output, final.trace⟩

/-- pscm_deinterleave. Unlike pscm_interleave it does not compare the two pointers. -/
def pscmDeinterleave (input : Nat → UInt8) (inputSize inputChannels channel pcmBitDepth : Nat)
    (output : Nat → UInt8) (outputSize : Nat) : PscmResult :=
  if inputSize = 0 ∨ channel ≥ inputChannels ∨ pcmBitDepth = 0 ∨ pcmBitDepth % 8 ≠ 0 ∨ outputSize = 0 ∨
      pcmBitDepth > pscmMaxCarrierBitDepth ∨ inputChannels = 0 then
    ⟨.error .EINVAL, output, []⟩
  else if outputSize < inputSize / inputChannels then ⟨.error .EINVAL, output, []⟩
  else
    let bytesPerSample := pcmBitDepth / 8
    let step := bytesPerSample * (inputChannels - 1)
    let final := forStride inputSize (step + bytesPerSample) (copyRound bytesPerSample step 0 input) 0
      ⟨bytesPerSample * channel, 0, output, []⟩
    ⟨.ok (), final.output, final.trace⟩

/-! What the loops do, stated as the list of (read, write) offset pairs they copy along. -/

def samplePairs (source destination count : Nat) : List (Nat × Nat) :=
  (List.range count).map fun j => (source + j, destination + j)

def roundPairs (source destination bytesPerSample inputStride outputStride rounds : Nat) :
    List (Nat × Nat) :=
  (List.range rounds).flatMap fun k =>
    samplePairs (source + k * inputStride) (destination + k * outputStride) bytesPerSample

def copyAccesses (pairs : List (Nat × Nat)) : List (Access Buffer) :=
  pairs.flatMap fun pair => [byteAccess .input pair.1 .read, byteAccess .output pair.2 .write]

def copyWrites (input : Nat → UInt8) (pairs : List (Nat × Nat)) : List (Nat × UInt8) :=
  pairs.map fun pair => (pair.2, input pair.1)

def CopyState.along (state : CopyState) (input : Nat → UInt8) (pairs : List (Nat × Nat))
    (pointerInput pointerOutput : Nat) : CopyState :=
  ⟨pointerInput, pointerOutput, applyWrites state.output (copyWrites input pairs),
    state.trace ++ copyAccesses pairs⟩

def interleavePairs (inputSize channel bytesPerSample channels : Nat) : List (Nat × Nat) :=
  roundPairs 0 (bytesPerSample * channel) bytesPerSample bytesPerSample (bytesPerSample * channels)
    (inputSize ⌈/⌉ bytesPerSample)

def deinterleavePairs (inputSize channels channel bytesPerSample : Nat) : List (Nat × Nat) :=
  roundPairs (bytesPerSample * channel) 0 bytesPerSample (bytesPerSample * channels) bytesPerSample
    (inputSize ⌈/⌉ (bytesPerSample * channels))

/-- The carrier bit depths of whole bytes up to PSCM_MAX_CARRIER_BIT_DEPTH. -/
def IsCarrierBitDepth (pcmBitDepth : Nat) : Prop :=
  pcmBitDepth = 8 ∨ pcmBitDepth = 16 ∨ pcmBitDepth = 24 ∨ pcmBitDepth = 32

instance (pcmBitDepth : Nat) : Decidable (IsCarrierBitDepth pcmBitDepth) :=
  inferInstanceAs (Decidable (_ ∨ _))

section Copy

variable {input : Nat → UInt8}

@[simp] theorem CopyState.along_pointerInput (state : CopyState) (pairs : List (Nat × Nat)) (p q : Nat) :
    (state.along input pairs p q).pointerInput = p := rfl

@[simp] theorem CopyState.along_pointerOutput (state : CopyState) (pairs : List (Nat × Nat)) (p q : Nat) :
    (state.along input pairs p q).pointerOutput = q := rfl

theorem CopyState.along_nil (state : CopyState) :
    state.along input [] state.pointerInput state.pointerOutput = state := by
  simp [CopyState.along, copyWrites, copyAccesses]

theorem CopyState.along_along (state : CopyState) (pairs more : List (Nat × Nat)) (p q p' q' : Nat) :
    (state.along input pairs p q).along input more p' q' = state.along input (pairs ++ more) p' q' := by
  simp [CopyState.along, copyWrites, copyAccesses, applyWrites_append]

theorem copyByte_eq_along (state : CopyState) :
    copyByte input state = state.along input [(state.pointerInput, state.pointerOutput)]
      (state.pointerInput + 1) (state.pointerOutput + 1) := by
  simp [copyByte, CopyState.along, copyWrites, copyAccesses, applyWrites]

theorem samplePairs_succ (source destination count : Nat) :
    samplePairs source destination (count + 1) =
      samplePairs source destination count ++ [(source + count, destination + count)] := by
  simp [samplePairs, List.range_succ]

theorem roundPairs_succ (source destination bytesPerSample inputStride outputStride rounds : Nat) :
    roundPairs source destination bytesPerSample inputStride outputStride (rounds + 1) =
      roundPairs source destination bytesPerSample inputStride outputStride rounds ++
        samplePairs (source + rounds * inputStride) (destination + rounds * outputStride) bytesPerSample := by
  simp [roundPairs, List.range_succ]

theorem forRange_copyByte (count : Nat) (state : CopyState) :
    forRange count (fun _ => copyByte input) state =
      state.along input (samplePairs state.pointerInput state.pointerOutput count)
        (state.pointerInput + count) (state.pointerOutput + count) := by
  induction count with
  | zero => exact (CopyState.along_nil state).symm
  | succ count ih =>
    rw [forRange_succ, ih, copyByte_eq_along, CopyState.along_along, samplePairs_succ]
    rfl

theorem copyRound_eq_along (bytesPerSample inputSkip outputSkip : Nat) (state : CopyState) :
    copyRound bytesPerSample inputSkip outputSkip input state =
      state.along input (samplePairs state.pointerInput state.pointerOutput bytesPerSample)
        (state.pointerInput + bytesPerSample + inputSkip) (state.pointerOutput + bytesPerSample + outputSkip) := by
  rw [copyRound, forRange_copyByte]
  rfl

theorem iterate_copyRound (bytesPerSample inputSkip outputSkip rounds : Nat) (state : CopyState) :
    (copyRound bytesPerSample inputSkip outputSkip input)^[rounds] state =
      state.along input
        (roundPairs state.pointerInput state.pointerOutput bytesPerSample (bytesPerSample + inputSkip)
          (bytesPerSample + outputSkip) rounds)
        (state.pointerInput + rounds * (bytesPerSample + inputSkip))
        (state.pointerOutput + rounds * (bytesPerSample + outputSkip)) := by
  induction rounds with
  | zero => simpa [roundPairs] using (CopyState.along_nil state).symm
  | succ rounds ih =>
    rw [Function.iterate_succ_apply', ih, copyRound_eq_along, CopyState.along_along, roundPairs_succ]
    simp only [CopyState.along_pointerInput, CopyState.along_pointerOutput, Nat.succ_mul, Nat.add_assoc]

end Copy

theorem IsCarrierBitDepth.bytes_pos {pcmBitDepth : Nat} (carrier : IsCarrierBitDepth pcmBitDepth) :
    0 < pcmBitDepth / 8 := by
  unfold IsCarrierBitDepth at carrier
  omega

theorem mul_pred_add_self (bytesPerSample : Nat) {channels : Nat} (positive : 0 < channels) :
    bytesPerSample * (channels - 1) + bytesPerSample = bytesPerSample * channels := by
  obtain ⟨more, rfl⟩ : ∃ more, channels = more + 1 := ⟨channels - 1, by omega⟩
  rw [Nat.add_sub_cancel, Nat.mul_succ]

section Calls

variable {input output : Nat → UInt8}

theorem pscmInterleave_status_eq_ok {inputSize channel pcmBitDepth outputSize outputChannels : Nat}
    {inPlace : Bool} :
    (pscmInterleave input inputSize channel pcmBitDepth output outputSize outputChannels inPlace).status =
        .ok () ↔
      inPlace = false ∧ 0 < inputSize ∧ channel < outputChannels ∧ IsCarrierBitDepth pcmBitDepth ∧
        inputSize * outputChannels ≤ outputSize := by
  unfold pscmInterleave IsCarrierBitDepth pscmMaxCarrierBitDepth
  split_ifs with rejected small
  · simp only [false_iff, not_and]
    intro kept positive inside carrier room
    have filled : 0 < inputSize * outputChannels := Nat.mul_pos positive (by omega)
    subst kept
    simp only [Bool.false_eq_true, false_or] at rejected
    omega
  · simp only [false_iff, not_and]
    intro _ _ _ _ room
    omega
  · simp only [not_or, Bool.not_eq_true] at rejected
    obtain ⟨kept, nonempty, inside, depthZero, depthWide, depthBytes, -, -⟩ := rejected
    exact iff_of_true rfl ⟨kept, by omega, by omega, by omega, by omega⟩

theorem pscmDeinterleave_status_eq_ok {inputSize inputChannels channel pcmBitDepth outputSize : Nat} :
    (pscmDeinterleave input inputSize inputChannels channel pcmBitDepth output outputSize).status = .ok () ↔
      0 < inputSize ∧ channel < inputChannels ∧ IsCarrierBitDepth pcmBitDepth ∧
        inputSize / inputChannels ≤ outputSize ∧ 0 < outputSize := by
  unfold pscmDeinterleave IsCarrierBitDepth pscmMaxCarrierBitDepth
  split_ifs with rejected small
  · simp only [false_iff, not_and]
    intro positive inside carrier _ room
    omega
  · simp only [false_iff, not_and]
    intro _ _ _ room
    omega
  · simp only [not_or] at rejected
    obtain ⟨nonempty, inside, depthZero, depthBytes, room, depthWide, -⟩ := rejected
    exact iff_of_true rfl ⟨by omega, by omega, by omega, by omega, by omega⟩

theorem pscmInterleave_of_ok {inputSize channel pcmBitDepth outputSize outputChannels : Nat}
    {inPlace : Bool}
    (accepted : (pscmInterleave input inputSize channel pcmBitDepth output outputSize outputChannels
      inPlace).status = .ok ()) :
    pscmInterleave input inputSize channel pcmBitDepth output outputSize outputChannels inPlace =
      ⟨.ok (), applyWrites output (copyWrites input (interleavePairs inputSize channel (pcmBitDepth / 8)
          outputChannels)),
        copyAccesses (interleavePairs inputSize channel (pcmBitDepth / 8) outputChannels)⟩ := by
  obtain ⟨-, -, inside, carrier, -⟩ := pscmInterleave_status_eq_ok.mp accepted
  have frame := mul_pred_add_self (pcmBitDepth / 8) (show 0 < outputChannels by omega)
  have ahead : pcmBitDepth / 8 + pcmBitDepth / 8 * (outputChannels - 1) = pcmBitDepth / 8 * outputChannels := by
    rw [Nat.add_comm, frame]
  unfold pscmInterleave
  split_ifs with rejected small
  · rw [pscmInterleave, if_pos rejected] at accepted
    cases accepted
  · rw [pscmInterleave, if_neg rejected, if_pos small] at accepted
    cases accepted
  · dsimp only
    rw [forStride_eq_iterate carrier.bytes_pos, iterate_copyRound]
    simp only [CopyState.along, List.nil_append, Nat.add_zero, Nat.sub_zero, ahead, interleavePairs]

theorem pscmDeinterleave_of_ok {inputSize inputChannels channel pcmBitDepth outputSize : Nat}
    (accepted : (pscmDeinterleave input inputSize inputChannels channel pcmBitDepth output
      outputSize).status = .ok ()) :
    pscmDeinterleave input inputSize inputChannels channel pcmBitDepth output outputSize =
      ⟨.ok (), applyWrites output (copyWrites input (deinterleavePairs inputSize inputChannels channel
          (pcmBitDepth / 8))),
        copyAccesses (deinterleavePairs inputSize inputChannels channel (pcmBitDepth / 8))⟩ := by
  obtain ⟨-, inside, carrier, -, -⟩ := pscmDeinterleave_status_eq_ok.mp accepted
  have frame := mul_pred_add_self (pcmBitDepth / 8) (show 0 < inputChannels by omega)
  have ahead : pcmBitDepth / 8 + pcmBitDepth / 8 * (inputChannels - 1) = pcmBitDepth / 8 * inputChannels := by
    rw [Nat.add_comm, frame]
  unfold pscmDeinterleave
  split_ifs with rejected small
  · rw [pscmDeinterleave, if_pos rejected] at accepted
    cases accepted
  · rw [pscmDeinterleave, if_neg rejected, if_pos small] at accepted
    cases accepted
  · dsimp only
    rw [forStride_eq_iterate (by rw [frame]; exact Nat.mul_pos carrier.bytes_pos (by omega)),
      iterate_copyRound]
    simp only [CopyState.along, List.nil_append, Nat.add_zero, Nat.sub_zero, ahead, frame, deinterleavePairs]

end Calls

end Pscm
