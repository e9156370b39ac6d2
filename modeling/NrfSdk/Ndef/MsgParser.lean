import NrfSdk.Ndef.RecordParser

namespace Ndef

open Machine

structure DescriptorLayout where
  msgDescSize : Nat
  pointerSize : Nat
  binPayloadDescSize : Nat
  recordDescSize : Nat
  deltaPositive : 0 < pointerSize + binPayloadDescSize + recordDescSize

def DescriptorLayout.msg1Size (layout : DescriptorLayout) : Nat :=
  layout.msgDescSize + layout.pointerSize + layout.binPayloadDescSize + layout.recordDescSize

def DescriptorLayout.nfcNdefMsgParserDelta (layout : DescriptorLayout) : Nat :=
  layout.pointerSize + layout.binPayloadDescSize + layout.recordDescSize

/-- NFC_NDEF_PARSER_REQUIRED_MEM, for one record or more: the result buffer that holds that many. -/
def DescriptorLayout.nfcNdefParserRequiredMem (layout : DescriptorLayout) (maxCountOfRecords : Nat) : Nat :=
  layout.msg1Size + layout.nfcNdefMsgParserDelta * (maxCountOfRecords - 1)

structure NfcNdefParserMemoDesc where
  maxRecordCount : Nat
  recordArray : Nat
  binPayDesc : Nat
  recDesc : Nat
  resultBufLen : Nat
  deriving DecidableEq, Repr

def nfcNdefMsgParserMemoResolve (layout : DescriptorLayout) (resultBufLen : Nat) :
    Except Errno NfcNdefParserMemoDesc :=
  if resultBufLen < layout.msg1Size then .error .ENOMEM
  else
    let memoryLast := resultBufLen - layout.msg1Size
    let maxRecNum := memoryLast / layout.nfcNdefMsgParserDelta + 1
    let recordArray := layout.msgDescSize
    let binPayDesc := recordArray + maxRecNum * layout.pointerSize
    let recDesc := binPayDesc + maxRecNum * layout.binPayloadDescSize
    .ok ⟨maxRecNum, recordArray, binPayDesc, recDesc, recDesc + maxRecNum * layout.recordDescSize⟩

def locationAllowed (recordCount : Nat) (location : NfcNdefRecordLocation) : Bool :=
  if recordCount = 0 then location = .ndefFirstRecord || location = .ndefLoneRecord
  else location = .ndefMiddleRecord || location = .ndefLastRecord

def isFinalLocation (location : NfcNdefRecordLocation) : Bool :=
  location = .ndefLastRecord || location = .ndefLoneRecord

def msgParserLoop (data : List UInt8) (previous : Nat → NfcNdefRecordDesc)
    (previousPayload : Nat → NfcNdefBinPayloadDesc) :
    Nat → Nat → Nat → Nat → Except Errno (List NfcNdefRecordDesc × Nat)
  | slotsLeft, recordCount, start, nfcDataLeft =>
    if nfcDataLeft = 0 then .error .EFAULT
    else
      match nfcNdefRecordParse (previousPayload recordCount) (previous recordCount) data start nfcDataLeft with
      | .error err => .error err
      | .ok (recDesc, recordLocation, tempNfcDataLen) =>
        if !locationAllowed recordCount recordLocation then .error .EFAULT
        else
          match slotsLeft with
          | 0 => .error .ENOSR
          | slotsLeft + 1 =>
            let nfcDataLeft := nfcDataLeft - tempNfcDataLen
            if isFinalLocation recordLocation then .ok ([recDesc], nfcDataLeft)
            else if slotsLeft = 0 then .error .ENOMEM
            else
              match msgParserLoop data previous previousPayload slotsLeft (recordCount + 1)
                  (start + tempNfcDataLen) nfcDataLeft with
              | .error err => .error err
              | .ok (records, left) => .ok (recDesc :: records, left)

structure ParsedMessage where
  records : List NfcNdefRecordDesc
  nfcDataLen : Nat
  deriving DecidableEq, Repr

def nfcNdefMsgParserInternal (data : List UInt8) (previous : Nat → NfcNdefRecordDesc)
    (previousPayload : Nat → NfcNdefBinPayloadDesc) (maxRecordCount nfcDataLen : Nat) :
    Except Errno ParsedMessage :=
  match msgParserLoop data previous previousPayload maxRecordCount 0 0 nfcDataLen with
  | .error err => .error err
  | .ok (records, nfcDataLeft) => .ok ⟨records, nfcDataLen - nfcDataLeft⟩

def nfcNdefMsgParse (layout : DescriptorLayout) (resultBufLen : Nat) (previous : Nat → NfcNdefRecordDesc)
    (previousPayload : Nat → NfcNdefBinPayloadDesc) (rawData : List UInt8) (rawDataLen : Nat) :
    Except Errno (NfcNdefParserMemoDesc × ParsedMessage) :=
  match nfcNdefMsgParserMemoResolve layout resultBufLen with
  | .error err => .error err
  | .ok memo =>
    match nfcNdefMsgParserInternal rawData previous previousPayload memo.maxRecordCount rawDataLen with
    | .error err => .error err
    | .ok message => .ok (memo, message)

end Ndef
