import NrfSdk.Ndef.RecordParser
import NrfSdk.Machine.LittleEndian

/-!
The NDEF encoder of record.c and msg.c. A record descriptor is read through its pointers, so here it
carries the bytes they give; the payload constructor is nfc_ndef_bin_payload_memcopy. The encoder always
writes the long record format and back-patches the payload length once the payload is in place.
-/

namespace Ndef

open Machine

/-- struct nfc_ndef_bin_payload_desc as the encoder reads it. -/
structure NdefBinPayloadSource where
  payload : List UInt8
  payloadLength : Nat
  deriving DecidableEq, Repr

/-- struct nfc_ndef_record_desc as the encoder reads it: the uint8_t lengths and the bytes at the
pointers. -/
structure NdefRecordSource where
  tnf : NfcNdefRecordTnf
  idLength : Nat
  id : List UInt8
  typeLength : Nat
  type : List UInt8
  payloadDescriptor : NdefBinPayloadSource
  deriving DecidableEq, Repr

def NfcNdefRecordTnf.bits : NfcNdefRecordTnf → Nat
  | .tnfEmpty => 0x00
  | .tnfWellKnown => 0x01
  | .tnfMediaType => 0x02
  | .tnfAbsoluteUri => 0x03
  | .tnfExternalType => 0x04
  | .tnfUnknownType => 0x05
  | .tnfUnchanged => 0x06
  | .tnfReserved => 0x07

def NfcNdefRecordLocation.bits : NfcNdefRecordLocation → Nat
  | .ndefFirstRecord => 0x80
  | .ndefMiddleRecord => 0x00
  | .ndefLastRecord => 0x40
  | .ndefLoneRecord => 0xC0

def ndefRecordBaseLongSize : Nat := 2 + ndefRecordPayloadLenLongSize

/-- sys_cpu_to_be32 stored through a uint32_t pointer: the bytes most significant first. -/
def sysCpuToBe32 (value : Nat) : List UInt8 := (leBytes 4 value).reverse

def recordHeaderSizeCalc (desc : NdefRecordSource) : Nat :=
  let len := ndefRecordBaseLongSize + desc.idLength + desc.typeLength
  if desc.idLength > 0 then len + 1 else len

def nfcNdefBinPayloadMemcopy (payloadDescriptor : NdefBinPayloadSource) (buffer : Bool) (len : Nat) :
    Except Errno (List UInt8 × Nat) :=
  if buffer then
    if len < payloadDescriptor.payloadLength then .error .ENOSR
    else .ok (payloadDescriptor.payload.take payloadDescriptor.payloadLength, payloadDescriptor.payloadLength)
  else .ok ([], payloadDescriptor.payloadLength)

def nfcNdefRecordEncode (desc : NdefRecordSource) (recordLocation : NfcNdefRecordLocation) (buffer : Bool)
    (recordLen : Nat) : Except Errno (List UInt8 × Nat) :=
  let recordHeaderLen := recordHeaderSizeCalc desc
  if buffer ∧ recordLocation.bits &&& 0x3F ≠ 0 then .error .EINVAL
  else if buffer ∧ recordHeaderLen > recordLen then .error .ENOSR
  else
    let payload := if desc.tnf = .tnfEmpty then .ok ([], 0)
      else nfcNdefBinPayloadMemcopy desc.payloadDescriptor buffer (u32 (recordLen - recordHeaderLen))
    match payload with
    | .error err => .error err
    | .ok (payloadBytes, recordPayloadLen) =>
      let flags := recordLocation.bits ||| desc.tnf.bits ||| if desc.idLength > 0 then ndefRecordIlMask else 0
      let written :=
        if buffer then
          [(u8 flags).toUInt8, (u8 desc.typeLength).toUInt8] ++ sysCpuToBe32 (u32 recordPayloadLen) ++
            (if desc.idLength > 0 then [(u8 desc.idLength).toUInt8] else []) ++ desc.type.take desc.typeLength ++
            (if desc.idLength > 0 then desc.id.take desc.idLength else []) ++ payloadBytes
        else []
      .ok (written, u32 (recordHeaderLen + recordPayloadLen))

def recordLocationGet (index recordCount : Nat) : NfcNdefRecordLocation :=
  if index = 0 then
    if recordCount = 1 then .ndefLoneRecord else .ndefFirstRecord
  else if index = 0xFFFFFFFF ∨ recordCount = index + 1 then .ndefLastRecord
  else .ndefMiddleRecord

def msgEncodeFrom (recordCount msgLen : Nat) :
    List NdefRecordSource → Nat → Nat → Option (List UInt8) → Except Errno (Option (List UInt8) × Nat)
  | [], _, sumOfLen, msgBuffer => .ok (msgBuffer, sumOfLen)
  | desc :: rest, index, sumOfLen, msgBuffer =>
    match nfcNdefRecordEncode desc (recordLocationGet index recordCount) msgBuffer.isSome (u32 (msgLen - sumOfLen)) with
    | .error err => .error err
    | .ok (written, tempLen) =>
      msgEncodeFrom recordCount msgLen rest (index + 1) (u32 (sumOfLen + tempLen))
        (msgBuffer.map fun buf => storeBytes buf sumOfLen written)

/-- nfc_ndef_msg_encode: the buffer after encoding, none for the size query, and *msg_len. -/
def nfcNdefMsgEncode (records : List NdefRecordSource) (msgBuffer : Option (List UInt8)) (msgLen : Nat) :
    Except Errno (Option (List UInt8) × Nat) :=
  msgEncodeFrom records.length msgLen records 0 0 msgBuffer

end Ndef
