import NrfSdk.Machine.Memory

namespace PcmMix

open Machine

inductive PcmMixMode where
  | bStereoIntoAStereo
  | bMonoIntoAMono
  | bMonoIntoAStereoLr
  | bMonoIntoAStereoL
  | bMonoIntoAStereoR
  deriving DecidableEq, Repr

inductive Buffer where
  | pcmA
  | pcmB
  deriving DecidableEq, Repr

abbrev Samples := Nat → Int16

def hardLimiter (pcm : Int) : Int :=
  if pcm < -32768 then -32768 else if pcm > 32767 then 32767 else pcm

structure MixState where
  pcmA : Samples
  trace : List (Access Buffer)

def sampleAccess (buffer : Buffer) (index : Nat) (kind : AccessKind) : Access Buffer :=
  ⟨buffer, 2 * index, 2, kind⟩

def mixStep (target source : Nat → Nat) (pcmB : Samples) (i : Nat) (state : MixState) : MixState :=
  let res := (state.pcmA (target i)).toInt + (pcmB (source i)).toInt
  { pcmA := Function.update state.pcmA (target i) (Int16.ofInt (hardLimiter res))
    trace := state.trace ++ [sampleAccess .pcmA (target i) .read, sampleAccess .pcmB (source i) .read,
      sampleAccess .pcmA (target i) .write] }

def mixLoop (count : Nat) (target source : Nat → Nat) (pcmA pcmB : Samples) : MixState :=
  forRange count (mixStep target source pcmB) ⟨pcmA, []⟩

def pcmMixIdentical (pcmA : Samples) (pcmB : Samples) (sizeB : Nat) : MixState :=
  mixLoop (sizeB / 2) id id pcmA pcmB

def pcmMixBMonoIntoAStereoLr (pcmA : Samples) (pcmB : Samples) (sizeB : Nat) : MixState :=
  mixLoop sizeB id (fun i => i / 2) pcmA pcmB

def pcmMixBMonoIntoAStereoL (pcmA : Samples) (pcmB : Samples) (sizeB : Nat) : MixState :=
  mixLoop (sizeB / 2) (fun i => i * 2) id pcmA pcmB

def pcmMixBMonoIntoAStereoR (pcmA : Samples) (pcmB : Samples) (sizeB : Nat) : MixState :=
  mixLoop (sizeB / 2) (fun i => i * 2 + 1) id pcmA pcmB

structure MixResult where
  status : Except Errno Unit
  pcmA : Option Samples
  trace : List (Access Buffer)

def finished (status : Except Errno Unit) (state : MixState) : MixResult :=
  ⟨status, some state.pcmA, state.trace⟩

def pcmMix (pcmA : Option Samples) (sizeA : Nat) (pcmB : Option Samples) (sizeB : Nat)
    (mixMode : PcmMixMode) : MixResult :=
  match pcmA, pcmB with
  | none, _ => ⟨.error .EINVAL, none, []⟩
  | some a, none => if sizeA = 0 then ⟨.error .EINVAL, some a, []⟩ else ⟨.ok (), some a, []⟩
  | some a, some b =>
    if sizeA = 0 then ⟨.error .EINVAL, some a, []⟩
    else if sizeB = 0 then ⟨.ok (), some a, []⟩
    else
      match mixMode with
      | .bStereoIntoAStereo | .bMonoIntoAMono =>
        if sizeB > sizeA then ⟨.error .EPERM, some a, []⟩
        else finished (.ok ()) (pcmMixIdentical a b sizeB)
      | .bMonoIntoAStereoLr =>
        if sizeB > sizeA / 2 then ⟨.error .EPERM, some a, []⟩
        else finished (.ok ()) (pcmMixBMonoIntoAStereoLr a b sizeB)
      | .bMonoIntoAStereoL =>
        -- the L and R modes mix first and check the sizes afterwards
        let state := pcmMixBMonoIntoAStereoL a b sizeB
        if sizeB > sizeA / 2 then finished (.error .EPERM) state else finished (.ok ()) state
      | .bMonoIntoAStereoR =>
        let state := pcmMixBMonoIntoAStereoR a b sizeB
        if sizeB > sizeA / 2 then finished (.error .EPERM) state else finished (.ok ()) state

def bufferSize (sizeA sizeB : Nat) : Buffer → Nat
  | .pcmA => sizeA
  | .pcmB => sizeB

end PcmMix
