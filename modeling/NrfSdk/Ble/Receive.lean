import NrfSdk.Ble.PacketTrans

namespace Ble

open Machine

def bleFrameHeadLen : Nat := 2
def bleCmdHeadLen : Nat := 2
def bleGattFrameLenMin : Nat := bleFrameHeadLen + bleCmdHeadLen + bleCmdDataLenUnit
def bleDataPacketHead : Nat := 0x4254
def bleDataTypeFileTrans : Nat := 0x4605
def bleComuAppCode : Nat := 0xC2
def bleDfuPktConst : Nat := 0x7879

/-- s_rx_ble_buf and s_rx_ble_buf_index, and whether MY_MSG_BLE_RX was posted for them. -/
structure BleRx where
  buf : List UInt8
  index : Nat
  posted : Bool
  deriving DecidableEq, Repr

/-- BLE_DataInputBuffer: a GATT write is kept only while the buffer is free and its length is in range;
any other write is dropped. -/
def bleDataInputBuffer (rx : BleRx) (data : List UInt8) : BleRx :=
  if rx.index = 0 ∧ data.length ≤ bleSvcRxMaxLen ∧ data.length ≥ bleGattFrameLenMin then
    ⟨data, data.length, true⟩
  else rx

def be16At (data : List UInt8) (offset : Nat) : Nat :=
  (data.getD offset 0).toNat * 2 ^ 8 + (data.getD (offset + 1) 0).toNat

def le16At (data : List UInt8) (offset : Nat) : Nat :=
  (data.getD offset 0).toNat + (data.getD (offset + 1) 0).toNat * 2 ^ 8

/-- my_ble_dfu_file_trans_handle: the DFU command and content it hands to jimi_dfu_cmd_handler, if any.
`aesEcbDecrypt` stands for the AES-ECB decryption of the 16-byte aligned part. -/
def myBleDfuFileTransHandle (aesEcbDecrypt : List UInt8 → Option (List UInt8)) (data : List UInt8) :
    Option (Nat × List UInt8) :=
  let len := data.length
  let dataLen := if len % bleCmdDataLenUnit ≠ 0 then len - len % bleCmdDataLenUnit else len
  if dataLen > bleMtuDataLen then none
  else
    match aesEcbDecrypt (data.take dataLen) with
    | none => none
    | some plain =>
      let contentLen := le16At plain 4
      if be16At plain 0 ≠ bleDfuPktConst ∨ (plain.getD 2 0).toNat ≠ bleComuAppCode then none
      else if contentLen + 6 > dataLen then none
      else some ((plain.getD 3 0).toNat, (plain.drop 6).take contentLen)

def bleRxProcHandle (aesEcbDecrypt : List UInt8 → Option (List UInt8)) (rx : BleRx) :
    Option (Nat × List UInt8) × BleRx :=
  let dispatched :=
    if be16At rx.buf 0 = bleDataPacketHead ∧ be16At rx.buf 2 = bleDataTypeFileTrans then
      myBleDfuFileTransHandle aesEcbDecrypt ((rx.buf.take rx.index).drop 4)
    else none
  (dispatched, { rx with index := 0 })

end Ble
