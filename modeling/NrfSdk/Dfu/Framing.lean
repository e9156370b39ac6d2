import NrfSdk.Dfu.Steps
import NrfSdk.Ble.Receive

namespace Jimi

open Machine Ble

def dfuPlainCommand (cmd : Nat) (content : List UInt8) : List UInt8 :=
  let plain := [0x78, 0x79, (bleComuAppCode : Nat).toUInt8, cmd.toUInt8, content.length.toUInt8,
    (content.length / 2 ^ 8).toUInt8] ++ content
  plain ++ List.replicate ((bleCmdDataLenUnit - plain.length % bleCmdDataLenUnit) % bleCmdDataLenUnit) 0

def appDfuFrame (aesEcbEncrypt : List UInt8 → List UInt8) (cmd : Nat) (content : List UInt8) : List UInt8 :=
  [0x42, 0x54, 0x46, 0x05] ++ aesEcbEncrypt (dfuPlainCommand cmd content)

def dfuFrameLength (contentLen : Nat) : Nat :=
  bleFrameHeadLen + bleCmdHeadLen + (6 + contentLen + 15) / 16 * 16

section Frame

variable {aesEcbEncrypt : List UInt8 → List UInt8}

theorem length_dfuPlainCommand (cmd : Nat) (content : List UInt8) :
    (dfuPlainCommand cmd content).length = (6 + content.length + 15) / 16 * 16 := by
  simp only [dfuPlainCommand, List.length_append, List.length_cons, List.length_nil, List.length_replicate,
    bleCmdDataLenUnit]
  omega

theorem length_appDfuFrame (keeps : ∀ plain, (aesEcbEncrypt plain).length = plain.length) (cmd : Nat)
    (content : List UInt8) : (appDfuFrame aesEcbEncrypt cmd content).length = dfuFrameLength content.length := by
  simp only [appDfuFrame, List.length_append, keeps, length_dfuPlainCommand, List.length_cons, List.length_nil,
    dfuFrameLength, bleFrameHeadLen, bleCmdHeadLen]

theorem dfuPlainCommand_fields (cmd : Nat) (byte : cmd < 2 ^ 8) (content : List UInt8) (small : content.length < 2 ^ 16) :
    be16At (dfuPlainCommand cmd content) 0 = bleDfuPktConst ∧
      ((dfuPlainCommand cmd content).getD 2 0).toNat = bleComuAppCode ∧
      ((dfuPlainCommand cmd content).getD 3 0).toNat = cmd ∧
      le16At (dfuPlainCommand cmd content) 4 = content.length ∧
      ((dfuPlainCommand cmd content).drop 6).take content.length = content := by
  refine ⟨by simp [dfuPlainCommand, be16At, bleDfuPktConst], by simp [dfuPlainCommand, bleComuAppCode], ?_, ?_, ?_⟩
  · simp [dfuPlainCommand]
    omega
  · simp [dfuPlainCommand, le16At]
    omega
  · simp [dfuPlainCommand]

/-- A DFU command that fits BLE_DataInputBuffer's limit is buffered, passes the checks of
my_ble_dfu_file_trans_handle and reaches jimi_dfu_cmd_handler unchanged. -/
theorem bleRxProcHandle_appDfuFrame {aesEcbEncrypt : List UInt8 → List UInt8}
    {aesEcbDecrypt : List UInt8 → Option (List UInt8)}
    (keeps : ∀ plain, (aesEcbEncrypt plain).length = plain.length)
    (inverse : ∀ plain, plain.length % 16 = 0 → aesEcbDecrypt (aesEcbEncrypt plain) = some plain)
    {rx : BleRx} (free : rx.index = 0) {cmd : Nat} (byte : cmd < 2 ^ 8) {content : List UInt8}
    (fits : dfuFrameLength content.length ≤ bleSvcRxMaxLen) :
    (bleRxProcHandle aesEcbDecrypt (bleDataInputBuffer rx (appDfuFrame aesEcbEncrypt cmd content))).1 =
      some (cmd, content) := by
  have frameLength := length_appDfuFrame keeps cmd content
  have plainLength := length_dfuPlainCommand cmd content
  have accepted : bleDataInputBuffer rx (appDfuFrame aesEcbEncrypt cmd content) =
      ⟨appDfuFrame aesEcbEncrypt cmd content, (appDfuFrame aesEcbEncrypt cmd content).length, true⟩ := by
    rw [bleDataInputBuffer, if_pos]
    simp only [dfuFrameLength, bleFrameHeadLen, bleCmdHeadLen] at fits frameLength
    refine ⟨free, ?_, ?_⟩ <;> simp only [frameLength, bleGattFrameLenMin, bleFrameHeadLen, bleCmdHeadLen,
      bleCmdDataLenUnit] <;> omega
  have heads : be16At (appDfuFrame aesEcbEncrypt cmd content) 0 = bleDataPacketHead ∧
      be16At (appDfuFrame aesEcbEncrypt cmd content) 2 = bleDataTypeFileTrans := by
    simp [appDfuFrame, be16At, bleDataPacketHead, bleDataTypeFileTrans]
  have body : ((appDfuFrame aesEcbEncrypt cmd content).take (appDfuFrame aesEcbEncrypt cmd content).length).drop 4 =
      aesEcbEncrypt (dfuPlainCommand cmd content) := by
    simp [appDfuFrame]
  rw [accepted, bleRxProcHandle]
  dsimp only
  rw [if_pos heads, body, myBleDfuFileTransHandle]
  have cipherLength : (aesEcbEncrypt (dfuPlainCommand cmd content)).length = (6 + content.length + 15) / 16 * 16 := by
    rw [keeps, plainLength]
  simp only [dfuFrameLength, bleFrameHeadLen, bleCmdHeadLen, bleSvcRxMaxLen, bleServerMaxMtu] at fits
  have aligned : (6 + content.length + 15) / 16 * 16 % bleCmdDataLenUnit = 0 := by
    simp only [bleCmdDataLenUnit]
    omega
  have decrypted := inverse (dfuPlainCommand cmd content) (by rw [plainLength]; omega)
  simp only [cipherLength, aligned, ne_eq, not_true_eq_false, if_false,
    List.take_of_length_le (le_of_eq cipherLength), decrypted]
  rw [if_neg (by simp only [bleMtuDataLen]; omega)]
  obtain ⟨pktConst, code, cmdByte, lengthField, payload⟩ := dfuPlainCommand_fields cmd byte content (by omega)
  rw [if_neg (by rw [pktConst, code]; simp), lengthField, if_neg (by omega), cmdByte, payload]

end Frame

theorem bleRxProcHandle_appDfuFrame_fileSize :
    (∀ plain : List UInt8, (id plain).length = plain.length) ∧
      (∀ plain : List UInt8, plain.length % 16 = 0 → some (id plain) = some plain) ∧
      dfuFileSize < 2 ^ 8 ∧ dfuFrameLength 4 ≤ bleSvcRxMaxLen ∧
      (bleRxProcHandle some (bleDataInputBuffer ⟨[], 0, false⟩ (appDfuFrame id dfuFileSize [0, 16, 0, 0]))).1 =
        some (dfuFileSize, [0, 16, 0, 0]) :=
  ⟨fun _ => rfl, fun _ _ => rfl, by decide, by decide,
    bleRxProcHandle_appDfuFrame (fun _ => rfl) (fun _ _ => rfl) rfl (by decide) (by decide)⟩

def imageFrameLength (n : Nat) : Nat := dfuFrameLength (8 + n + 2)

theorem mtuPktSize_small {mtu : Nat} (small : mtu < 384) : mtuPktSize mtu = 128 := by
  unfold mtuPktSize
  simp only [ge_iff_le, Nat.not_le.mpr small, if_false]

theorem jimiDfuCalcPktSize_frame_exceeds_att_payload (mtu remain bufRemain : Nat) (low : 23 ≤ mtu)
    (high : mtu ≤ 150) (fullPacket : 128 ≤ remain) (room : 128 ≤ bufRemain) (units : bufRemain % 128 = 0) :
    jimiDfuCalcPktSize mtu remain bufRemain = 128 ∧ mtu - 3 < imageFrameLength 128 := by
  have tier := mtuPktSize_small (show mtu < 384 by omega)
  constructor
  · unfold jimiDfuCalcPktSize
    rw [tier]
    dsimp only
    split_ifs <;> omega
  · simp only [imageFrameLength, dfuFrameLength, bleFrameHeadLen, bleCmdHeadLen]
    omega

theorem jimiDfuCalcPktSize_frame_exceeds_att_payload_default_mtu :
    23 ≤ bleServerMinMtu ∧ bleServerMinMtu ≤ 150 ∧ 128 ≤ 4096 ∧ 128 ≤ dfuBufferSize ∧ dfuBufferSize % 128 = 0 ∧
      (jimiDfuCalcPktSize bleServerMinMtu 4096 dfuBufferSize = 128 ∧ bleServerMinMtu - 3 < imageFrameLength 128) :=
  ⟨by decide, by decide, by decide, by decide, by decide,
    jimiDfuCalcPktSize_frame_exceeds_att_payload bleServerMinMtu 4096 dfuBufferSize (by decide) (by decide)
      (by decide) (by decide) (by decide)⟩

end Jimi
