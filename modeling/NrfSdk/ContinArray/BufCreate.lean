import NrfSdk.Machine.Bits
import NrfSdk.Machine.Memory

namespace ContinArray

open Machine

def pcmContMaxCarrierBitDepth : Nat := 32

/-- The fields of struct audio_metadata that contin_array_buf_create reads. -/
structure AudioMetadata where
  carriedBitsPerSample : Nat
  bytesPerLocation : Nat
  interleaved : Bool
  locations : Nat

def audioMetadataNumLocGet (metadata : AudioMetadata) : Nat :=
  if metadata.locations = 0 then 1 else popcount 32 metadata.locations

/-- A net_buf with its audio metadata as user data; `data` is the buffer's whole data area. -/
structure NetBuf where
  data : Nat → UInt8
  len : Nat
  size : Nat
  metadata : AudioMetadata

structure CopyState where
  data : Nat → UInt8
  output : Nat
  finitePos : Nat

/-- One byte of copy_samples: `*pcm_contin++ = pcm_finite[(*_finite_pos)++]`, then the position wraps. -/
def copyByte (pcmFinite : List UInt8) (pcmFiniteSize : Nat) (state : CopyState) : CopyState :=
  let finitePos := u16 (state.finitePos + 1 : Nat)
  { data := Function.update state.data state.output (pcmFinite.getD state.finitePos 0)
    output := state.output + 1
    finitePos := if finitePos ≥ pcmFiniteSize then 0 else finitePos }

def copySamples (pcmContinSize : Nat) (pcmFinite : List UInt8) (pcmFiniteSize step carrierBytes : Nat)
    (state : CopyState) : CopyState :=
  -- for (j = 0; j < pcm_contin_size; j += carrier_bytes)
  forRange ((pcmContinSize + carrierBytes - 1) / carrierBytes) (fun _ state =>
    let state := forRange carrierBytes (fun _ => copyByte pcmFinite pcmFiniteSize) state
    { state with output := state.output + step }) state

def netBufAddZeroed (pcmContin : NetBuf) (count : Nat) : NetBuf :=
  { pcmContin with
    data := fun address => if address < count then 0 else pcmContin.data address
    len := pcmContin.len + count }

def outLocations (metaContin : AudioMetadata) (locations : Nat) : Nat :=
  if metaContin.locations = 0 ∧ locations = 0 then 1 else metaContin.locations &&& locations

def carrierBytesOf (metaContin : AudioMetadata) : Nat := metaContin.carriedBitsPerSample / 8

def stepOf (metaContin : AudioMetadata) : Nat :=
  if metaContin.interleaved then u16 (carrierBytesOf metaContin * (audioMetadataNumLocGet metaContin - 1) : Nat)
  else 0

def frameBytesOf (metaContin : AudioMetadata) : Nat :=
  if metaContin.interleaved then carrierBytesOf metaContin else u16 (metaContin.bytesPerLocation : Nat)

def continArrayBufCreate (pcmContin : NetBuf) (pcmFinite : List UInt8) (pcmFiniteSize locations finitePos : Nat) :
    Except Errno (NetBuf × Nat) :=
  if pcmContin.size = 0 ∨ pcmFiniteSize = 0 ∨ finitePos ≥ pcmFiniteSize then .error .EPERM
  else
    let metaContin := pcmContin.metadata
    let outLocs := outLocations metaContin locations
    if outLocs = 0 then .error .EPERM
    else if metaContin.carriedBitsPerSample = 0 ∨ metaContin.carriedBitsPerSample > pcmContMaxCarrierBitDepth ∨
        metaContin.carriedBitsPerSample % 8 ≠ 0 then .error .EINVAL
    else
      let pcmContin := if pcmContin.len = 0 then
          netBufAddZeroed pcmContin (u32 (metaContin.bytesPerLocation * audioMetadataNumLocGet metaContin : Nat))
        else pcmContin
      -- count_ch counts the set bits of out_locs met so far
      let copied := walkMask (fun countCh state =>
          copySamples metaContin.bytesPerLocation pcmFinite pcmFiniteSize (stepOf metaContin) (carrierBytesOf metaContin)
            ⟨state.data, frameBytesOf metaContin * countCh, finitePos⟩) 32 outLocs 0 ⟨pcmContin.data, 0, finitePos⟩
      .ok ({ pcmContin with data := copied.data }, copied.finitePos)

end ContinArray
