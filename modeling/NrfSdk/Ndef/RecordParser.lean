import NrfSdk.Machine.Memory

namespace Ndef

open Machine

inductive NfcNdefRecordTnf where
  | tnfEmpty
  | tnfWellKnown
  | tnfMediaType
  | tnfAbsoluteUri
  | tnfExternalType
  | tnfUnknownType
  | tnfUnchanged
  | tnfReserved
  deriving DecidableEq, Repr

def NfcNdefRecordTnf.ofBits (bits : Nat) : NfcNdefRecordTnf :=
  match bits with
  | 0 => .tnfEmpty
  | 1 => .tnfWellKnown
  | 2 => .tnfMediaType
  | 3 => .tnfAbsoluteUri
  | 4 => .tnfExternalType
  | 5 => .tnfUnknownType
  | 6 => .tnfUnchanged
  | _ => .tnfReserved

inductive NfcNdefRecordLocation where
  | ndefFirstRecord
  | ndefMiddleRecord
  | ndefLastRecord
  | ndefLoneRecord
  deriving DecidableEq, Repr

def NfcNdefRecordLocation.ofBits (bits : Nat) : NfcNdefRecordLocation :=
  match bits with
  | 0x80 => .ndefFirstRecord
  | 0x40 => .ndefLastRecord
  | 0xC0 => .ndefLoneRecord
  | _ => .ndefMiddleRecord

def ndefRecordTnfMask : Nat := 0x07
def ndefRecordIlMask : Nat := 0x08
def ndefRecordSrMask : Nat := 0x10
def ndefRecordLocationMask : Nat := 0xC0
def ndefRecordPayloadLenLongSize : Nat := 4
def ndefRecordPayloadLenShortSize : Nat := 1
def ndefRecordIdLenSize : Nat := 1
def ndefRecordBaseShortLen : Nat := 2 + ndefRecordPayloadLenShortSize

structure NfcNdefBinPayloadDesc where
  payload : Option Nat
  payloadLength : Nat
  deriving DecidableEq, Repr

structure NfcNdefRecordDesc where
  tnf : NfcNdefRecordTnf
  idLength : Nat
  id : Option Nat
  typeLength : Nat
  type : Option Nat
  payloadDescriptor : NfcNdefBinPayloadDesc
  deriving DecidableEq, Repr

def byteAt (data : List UInt8) (index : Nat) : Nat := (data.getD index 0).toNat

def sysGetBe32 (data : List UInt8) (index : Nat) : Nat :=
  byteAt data index * 2 ^ 24 + byteAt data (index + 1) * 2 ^ 16 + byteAt data (index + 2) * 2 ^ 8 +
    byteAt data (index + 3)

structure RecordHeader where
  flags : Nat
  typeLength : Nat
  payloadLength : Nat
  idLength : Option Nat
  headerSize : Nat
  expected : Nat

def readPayloadLength (data : List UInt8) (start nfcDataLen : Nat) (flags : Nat) :
    Except Errno (Nat × Nat × Nat) :=
  if flags &&& ndefRecordSrMask != 0 then .ok (ndefRecordBaseShortLen, byteAt data (start + 2), 3)
  else
    let expected := ndefRecordBaseShortLen + (ndefRecordPayloadLenLongSize - ndefRecordPayloadLenShortSize)
    if expected > nfcDataLen then .error .EINVAL else .ok (expected, sysGetBe32 data (start + 2), 6)

def readRecordHeader (data : List UInt8) (start nfcDataLen : Nat) : Except Errno RecordHeader :=
  let flags := byteAt data start
  let typeLength := byteAt data (start + 1)
  match readPayloadLength data start nfcDataLen flags with
  | .error err => .error err
  | .ok (expected, payloadLength, cursor) =>
    if flags &&& ndefRecordIlMask != 0 then
      if expected + ndefRecordIdLenSize > nfcDataLen then .error .EINVAL
      else .ok ⟨flags, typeLength, payloadLength, some (byteAt data (start + cursor)), cursor + 1,
        expected + ndefRecordIdLenSize⟩
    else .ok ⟨flags, typeLength, payloadLength, none, cursor, expected⟩

def nfcNdefRecordParse (binPayDesc : NfcNdefBinPayloadDesc) (recDesc : NfcNdefRecordDesc)
    (data : List UInt8) (start nfcDataLen : Nat) :
    Except Errno (NfcNdefRecordDesc × NfcNdefRecordLocation × Nat) :=
  -- the base short length is checked before the first byte is read
  if ndefRecordBaseShortLen > nfcDataLen then .error .EINVAL
  else
    match readRecordHeader data start nfcDataLen with
    | .error err => .error err
    | .ok header =>
      let idLength := header.idLength.getD 0
      let expectedRecSize := u32 (header.expected + header.typeLength + idLength + header.payloadLength)
      if expectedRecSize > nfcDataLen then .error .EINVAL
      else
        let typeStart := start + header.headerSize
        let idStart := typeStart + header.typeLength
        let payloadStart := idStart + idLength
        let tnf := match NfcNdefRecordTnf.ofBits (header.flags &&& ndefRecordTnfMask) with
          | .tnfReserved => .tnfUnknownType
          | tnf => tnf
        -- with the IL flag set and a zero ID length the ID pointer keeps its previous value
        let id := match header.idLength with
          | none => none
          | some length => if length > 0 then some idStart else recDesc.id
        let payload : NfcNdefBinPayloadDesc :=
          { binPayDesc with
            payload := if header.payloadLength = 0 then none else some payloadStart
            payloadLength := header.payloadLength }
        .ok (⟨tnf, idLength, id, header.typeLength, if header.typeLength > 0 then some typeStart else none,
            payload⟩,
          NfcNdefRecordLocation.ofBits (header.flags &&& ndefRecordLocationMask), expectedRecSize)

end Ndef
