import NrfSdk.Dfu.Jimi

namespace Jimi

open Machine

/-! ## The CRC and the framing of image packets -/

theorem crcShift_lt {polynomial crc : Nat} (small : polynomial < 2 ^ 16) (bound : crc < 2 ^ 16) :
    crcShift polynomial crc < 2 ^ 16 := by
  have half : crc >>> 1 < 2 ^ 16 := by
    rw [Nat.shiftRight_eq_div_pow]
    omega
  unfold crcShift
  split
  · exact half
  · exact Nat.xor_lt_two_pow half small

theorem myCrc16Calc_lt (data : List UInt8) {polynomial : Nat} (small : polynomial < 2 ^ 16) :
    myCrc16Calc data polynomial < 2 ^ 16 := by
  suffices kept : ∀ crc < 2 ^ 16,
      data.foldl (fun crc byte => (crcShift polynomial)^[8] (crc ^^^ byte.toNat)) crc < 2 ^ 16 from
    kept 0 (by norm_num)
  induction data with
  | nil => exact fun crc bound => bound
  | cons byte data ih =>
    intro crc bound
    apply ih
    have mixed : crc ^^^ byte.toNat < 2 ^ 16 :=
      Nat.xor_lt_two_pow bound (lt_trans byte.toNat_lt (by norm_num))
    exact Function.Iterate.rec (fun crc => crc < 2 ^ 16) mixed (fun _ kept => crcShift_lt small kept) 8

theorem byteAt_append_right (pre rest : List UInt8) (index : Nat) :
    byteAt (pre ++ rest) (pre.length + index) = byteAt rest index := by
  simp [byteAt, List.getElem?_append_right]

theorem le32At_append (pre rest : List UInt8) {value : Nat} (small : value < 2 ^ 32) :
    le32At (pre ++ le32Bytes value ++ rest) pre.length = value := by
  simp [le32At, byteAt, le32Bytes]
  omega

theorem bytesAt_append (pre data rest : List UInt8) :
    bytesAt (pre ++ data ++ rest) pre.length data.length = data := by
  apply List.ext_getElem
  · simp [bytesAt]
  · intro i inWindow inData
    simp only [bytesAt, List.getElem_map, List.getElem_range, List.append_assoc]
    rw [List.getD_append_right _ _ _ _ (by omega), Nat.add_sub_cancel_left, List.getD_append _ _ _ _ inData,
      List.getD_eq_getElem _ _ inData]

theorem appImagePacket_fields (file : List UInt8) (request : Nat × Nat) (addrSmall : request.1 < 2 ^ 32)
    (lengthSmall : (requestFragment file request).length < 2 ^ 16) :
    le32At (appImagePacket file request) 0 = request.1 ∧
      le32At (appImagePacket file request) 4 = (requestFragment file request).length ∧
      (appImagePacket file request).length = (requestFragment file request).length + 10 ∧
      bytesAt (appImagePacket file request) 8 (requestFragment file request).length = requestFragment file request ∧
      byteAt (appImagePacket file request) (8 + (requestFragment file request).length) * 2 ^ 8 +
          byteAt (appImagePacket file request) (9 + (requestFragment file request).length) =
        myCrc16Calc (requestFragment file request) crc16Polynomial := by
  generalize fragmentDef : requestFragment file request = fragment at lengthSmall ⊢
  have crcSmall := myCrc16Calc_lt fragment (by simp [crc16Polynomial] : crc16Polynomial < 2 ^ 16)
  have header : (le32Bytes request.1 ++ le32Bytes fragment.length).length = 8 := by simp [le32Bytes]
  have packet : appImagePacket file request = le32Bytes request.1 ++ le32Bytes fragment.length ++ fragment ++
      [(myCrc16Calc fragment crc16Polynomial / 2 ^ 8).toUInt8, (myCrc16Calc fragment crc16Polynomial).toUInt8] := by
    simp only [appImagePacket, fragmentDef]
  rw [packet]
  refine ⟨?_, ?_, ?_, ?_, ?_⟩
  · simpa using le32At_append [] (le32Bytes fragment.length ++ fragment ++ _) addrSmall
  · simpa [le32Bytes] using le32At_append (le32Bytes request.1) (fragment ++ _)
      (lt_trans lengthSmall (by norm_num))
  · simp only [List.length_append, header, List.length_cons, List.length_nil]
    omega
  · simpa only [header] using bytesAt_append (le32Bytes request.1 ++ le32Bytes fragment.length) fragment _
  · have high := byteAt_append_right (le32Bytes request.1 ++ le32Bytes fragment.length ++ fragment)
      [(myCrc16Calc fragment crc16Polynomial / 2 ^ 8).toUInt8, (myCrc16Calc fragment crc16Polynomial).toUInt8] 0
    have low := byteAt_append_right (le32Bytes request.1 ++ le32Bytes fragment.length ++ fragment)
      [(myCrc16Calc fragment crc16Polynomial / 2 ^ 8).toUInt8, (myCrc16Calc fragment crc16Polynomial).toUInt8] 1
    simp only [List.length_append, header, Nat.add_zero] at high low
    rw [show 9 + fragment.length = 8 + fragment.length + 1 by omega, high, low]
    simp [byteAt]
    omega

theorem jimiDfuWriteImage_appImagePacket (env : DfuEnv) (file : List UInt8) (request : Nat × Nat) (s : DfuState)
    (addrSmall : request.1 < 2 ^ 32) (lengthSmall : (requestFragment file request).length < 2 ^ 16) :
    jimiDfuWriteImage env (appImagePacket file request) (appImagePacket file request).length s =
      if request.1 = s.reqFileAddr then
        jimiDfuStoreImage env request.1 (requestFragment file request).length (requestFragment file request)
          { s with waitTimer := false }
      else s := by
  obtain ⟨decodedAddr, decodedLength, packetLength, window, crc⟩ :=
    appImagePacket_fields file request addrSmall lengthSmall
  have lengthChecked : ((requestFragment file request).length + 10) % 2 ^ 32 =
      (requestFragment file request).length + 10 := Nat.mod_eq_of_lt (by omega)
  have windowSmall : (requestFragment file request).length % 2 ^ 16 = (requestFragment file request).length :=
    Nat.mod_eq_of_lt lengthSmall
  unfold jimiDfuWriteImage
  simp only [decodedAddr, decodedLength, packetLength, lengthChecked, windowSmall, window, crc, ne_eq,
    not_true_eq_false, if_false]
  by_cases requested : request.1 = s.reqFileAddr
  · simp [requested]
  · simp [requested]

theorem dfuStep_start (env : DfuEnv) (s : DfuState) (data : List UInt8) (running : s.rebooted = false) :
    dfuStep env s (.command dfuStart data) = jimiDfuStart s := by
  simp [dfuStep, running, jimiDfuCmdHandler, gJimiDfuHandlerTbl, dfuStart]

theorem dfuStep_fileSize (env : DfuEnv) (s : DfuState) (data : List UInt8) (running : s.rebooted = false) :
    dfuStep env s (.command dfuFileSize data) = jimiDfuRxFileSize env data s := by
  simp [dfuStep, running, jimiDfuCmdHandler, gJimiDfuHandlerTbl, dfuStart, dfuFileSize]

theorem dfuStep_fileImage (env : DfuEnv) (s : DfuState) (data : List UInt8) (running : s.rebooted = false) :
    dfuStep env s (.command dfuFileImage data) = jimiDfuWriteImage env data data.length s := by
  simp [dfuStep, running, jimiDfuCmdHandler, gJimiDfuHandlerTbl, dfuStart, dfuFileSize, dfuFileImage]

/-! ## The packet sizes -/

theorem mtuPktSize_units (mtu : Nat) : 128 ≤ mtuPktSize mtu ∧ mtuPktSize mtu ≤ 384 ∧ mtuPktSize mtu % 128 = 0 := by
  unfold mtuPktSize
  dsimp only
  split_ifs <;> omega

theorem jimiDfuCalcPktSize_fits (mtu remain bufRemain : Nat) (room : 128 ≤ bufRemain)
    (cacheBound : bufRemain ≤ dfuBufferSize) (units : bufRemain % 128 = 0) :
    jimiDfuCalcPktSize mtu remain bufRemain ≤ bufRemain ∧
      (remain ≤ jimiDfuCalcPktSize mtu remain bufRemain ∨
        jimiDfuCalcPktSize mtu remain bufRemain % 128 = 0 ∧ 0 < jimiDfuCalcPktSize mtu remain bufRemain) := by
  have tier := mtuPktSize_units mtu
  unfold jimiDfuCalcPktSize
  generalize mtuPktSize mtu = pktSize at tier ⊢
  simp only [dfuBufferSize] at cacheBound
  dsimp only
  split_ifs <;> omega

theorem jimiDfuCalcPktSize_lt (mtu remain bufRemain : Nat) : jimiDfuCalcPktSize mtu remain bufRemain < 2 ^ 16 := by
  have tier := mtuPktSize_units mtu
  unfold jimiDfuCalcPktSize
  generalize mtuPktSize mtu = pktSize at tier ⊢
  dsimp only
  split_ifs <;> omega

/-! ## Flash and the 1 KB cache -/

theorem flashBytes_flashProgram (flash : Nat → UInt8) (addr : Nat) (data : List UInt8) :
    flashBytes (flashProgram flash addr data) addr data.length = data := by
  apply List.ext_getElem
  · simp [flashBytes]
  · intro i inRead inData
    simp [flashBytes, flashProgram, inData]

theorem flashProgram_past (flash : Nat → UInt8) {addr offset : Nat} {data : List UInt8}
    (past : addr + data.length ≤ offset) : flashProgram flash addr data offset = flash offset := by
  simp only [flashProgram]
  rw [if_neg (by omega)]

theorem jimiDfuFlashEraseSectors_of_lawful {api : FlashApi} (lawful : api.Lawful) (sectors : List Nat)
    (s : DfuState) :
    jimiDfuFlashEraseSectors api sectors s =
      (0, { s with flash := sectors.foldl flashEraseSector s.flash, erased := s.erased ++ sectors }) := by
  induction sectors generalizing s with
  | nil => simp [jimiDfuFlashEraseSectors]
  | cons sector sectors ih =>
    rw [jimiDfuFlashEraseSectors, lawful.erase_sets]
    simp [ih]

theorem length_padBuffer (s : DfuState) (length : s.buffer.length = dfuBufferSize) :
    (padBuffer s).length = dfuBufferSize := by
  unfold padBuffer
  split
  · rw [length_storeBytes, length]
  · exact length

section Flush

variable {env : DfuEnv}

theorem jimiDfuFlushBuffer_of_nonempty (lawful : env.Lawful) (isLast : Bool) (s : DfuState)
    (length : s.buffer.length = dfuBufferSize)
    (nonempty : ¬(s.bufOffset = 0 ∧ isLast = false))
    (blank : ∀ i < dfuBufferSize, s.flash (s.blockAddr + i) = 0xFF) :
    jimiDfuFlushBuffer env isLast s =
      (0, nextBlock
        { s with
          buffer := padBuffer s
          flash := flashProgram s.flash s.blockAddr (padBuffer s)
          writes := s.writes ++ [(s.blockAddr, padBuffer s)] }) := by
  have padded := length_padBuffer s length
  have written := lawful.flash.write_erased s.flash s.blockAddr (padBuffer s) (by rw [padded]; exact blank)
  have readBack : env.flash.read (flashProgram s.flash s.blockAddr (padBuffer s)) s.blockAddr dfuBufferSize =
      (0, padBuffer s) := by
    rw [lawful.flash.read_holds, ← padded, flashBytes_flashProgram]
  simp [jimiDfuFlushBuffer, jimiDfuFlashWrite, jimiDfuFlashRead, nonempty, lawful.allocates, written, readBack]

theorem jimiDfuFlushBuffer_logs (isLast : Bool) {s : DfuState} (allocated : env.readBackAllocated s = true)
    (nonempty : ¬(s.bufOffset = 0 ∧ isLast = false)) :
    (jimiDfuFlushBuffer env isLast s).2.writes = s.writes ++ [(s.blockAddr, padBuffer s)] ∧
      (jimiDfuFlushBuffer env isLast s).2.sent = s.sent ∧
      (jimiDfuFlushBuffer env isLast s).2.endFlag = s.endFlag ∧
      (jimiDfuFlushBuffer env isLast s).2.erased = s.erased := by
  unfold jimiDfuFlushBuffer jimiDfuFlashWrite jimiDfuFlashRead
  rw [if_neg nonempty, allocated, Bool.not_true, if_neg Bool.false_ne_true]
  obtain ⟨writeRet, flash⟩ := env.flash.write s.flash s.blockAddr (padBuffer s)
  obtain ⟨readRet, readBytes⟩ := env.flash.read flash s.blockAddr dfuBufferSize
  -- flash_write fails, flash_read fails, the CRCs differ, or the block is done
  dsimp only
  split_ifs <;> exact ⟨rfl, rfl, rfl, rfl⟩

theorem jimiDfuRxFileSize_fits (lawful : env.Lawful) (data : List UInt8) (s : DfuState)
    (fits : le32At data 0 ≤ env.partitionSize) :
    jimiDfuRxFileSize env data s =
      { s with
        fwCopySize := le32At data 0
        flash := (jimiDfuFlashEraseLoop 0 (le32At data 0)).foldl flashEraseSector s.flash
        erased := s.erased ++ jimiDfuFlashEraseLoop 0 (le32At data 0)
        blockAddr := 0
        bufOffset := 0
        buffer := List.replicate dfuBufferSize 0xFF
        sent := s.sent ++ [.imageReq 0 (jimiDfuCalcPktSize env.mtu (le32At data 0) dfuBufferSize)]
        reqFileAddr := 0
        repeatReqCount := 0
        waitTimer := true } := by
  unfold jimiDfuRxFileSize
  rw [if_neg (Nat.not_lt.mpr fits), jimiDfuFlashErase, jimiDfuFlashEraseSectors_of_lawful lawful.flash]
  dsimp only
  rw [if_neg (fun failed => failed rfl)]
  -- unfolded by hand: a simp here leaves the kernel comparing the 1 KB cache element by element
  unfold jimiDfuImageDownReq myBleDfuSendResponse
  rfl

end Flush

/-! ## jimi_dfu_write_image after its checks -/

section Store

variable {env : DfuEnv} {wrtAddr wrtLen : Nat} {fragment : List UInt8} {s : DfuState}

theorem jimiDfuStoreImage_next (fits : wrtAddr % dfuBufferSize + wrtLen < dfuBufferSize)
    (more : wrtAddr + wrtLen < s.fwCopySize) (small : wrtAddr + wrtLen < 2 ^ 32) :
    jimiDfuStoreImage env wrtAddr wrtLen fragment s =
      jimiDfuRequestNext env (wrtAddr + wrtLen)
        { s with
          buffer := storeBytes s.buffer (wrtAddr % dfuBufferSize) fragment
          bufOffset := wrtAddr % dfuBufferSize + wrtLen } := by
  have noWrap : (wrtAddr % dfuBufferSize + wrtLen) % 2 ^ 32 = wrtAddr % dfuBufferSize + wrtLen :=
    Nat.mod_eq_of_lt (by simp only [dfuBufferSize] at fits ⊢; omega)
  have offsetFits : (wrtAddr % dfuBufferSize + wrtLen) % 2 ^ 16 = wrtAddr % dfuBufferSize + wrtLen :=
    Nat.mod_eq_of_lt (by simp only [dfuBufferSize] at fits ⊢; omega)
  unfold jimiDfuStoreImage
  simp only [noWrap, offsetFits, Nat.mod_eq_of_lt small]
  rw [if_neg (by omega)]
  simp [Nat.not_le.mpr more, Nat.not_le.mpr fits]

theorem jimiDfuStoreImage_next_block (full : wrtAddr % dfuBufferSize + wrtLen = dfuBufferSize)
    (more : wrtAddr + wrtLen < s.fwCopySize) (small : wrtAddr + wrtLen < 2 ^ 32)
    (flushed : (jimiDfuFlushBuffer env false
      { s with
        buffer := storeBytes s.buffer (wrtAddr % dfuBufferSize) fragment
        bufOffset := wrtAddr % dfuBufferSize + wrtLen }).1 = 0) :
    jimiDfuStoreImage env wrtAddr wrtLen fragment s =
      jimiDfuRequestNext env (wrtAddr + wrtLen)
        (jimiDfuFlushBuffer env false
          { s with
            buffer := storeBytes s.buffer (wrtAddr % dfuBufferSize) fragment
            bufOffset := wrtAddr % dfuBufferSize + wrtLen }).2 := by
  have noWrap : (wrtAddr % dfuBufferSize + wrtLen) % 2 ^ 32 = wrtAddr % dfuBufferSize + wrtLen := by
    rw [full]
    rfl
  have offsetFits : (wrtAddr % dfuBufferSize + wrtLen) % 2 ^ 16 = wrtAddr % dfuBufferSize + wrtLen := by
    rw [full]
    rfl
  unfold jimiDfuStoreImage
  simp only [noWrap, offsetFits, Nat.mod_eq_of_lt small]
  rw [if_neg (by omega)]
  simp [Nat.not_le.mpr more, Nat.le_of_eq full.symm, flushed]

theorem jimiDfuStoreImage_last (fits : wrtAddr % dfuBufferSize + wrtLen ≤ dfuBufferSize)
    (last : s.fwCopySize ≤ wrtAddr + wrtLen) (small : wrtAddr + wrtLen < 2 ^ 32) :
    jimiDfuStoreImage env wrtAddr wrtLen fragment s =
      let flushed := jimiDfuFlushBuffer env true
        { s with
          buffer := storeBytes s.buffer (wrtAddr % dfuBufferSize) fragment
          bufOffset := wrtAddr % dfuBufferSize + wrtLen }
      if flushed.1 ≠ 0 then { myBleDfuSendResponse (.fileEnd dfuEndRespError) flushed.2 with inProgress := false }
      else jimiDfuImageComplete flushed.2 := by
  have noWrap : (wrtAddr % dfuBufferSize + wrtLen) % 2 ^ 32 = wrtAddr % dfuBufferSize + wrtLen :=
    Nat.mod_eq_of_lt (by simp only [dfuBufferSize] at fits ⊢; omega)
  have offsetFits : (wrtAddr % dfuBufferSize + wrtLen) % 2 ^ 16 = wrtAddr % dfuBufferSize + wrtLen :=
    Nat.mod_eq_of_lt (by simp only [dfuBufferSize] at fits ⊢; omega)
  unfold jimiDfuStoreImage
  simp only [noWrap, offsetFits, Nat.mod_eq_of_lt small]
  rw [if_neg (by omega)]
  simp [last]

end Store

end Jimi
