import NrfSdk.Dfu.Transfer

namespace Jimi

open Machine

/-! ## The transfer invariant -/

/-- The device between two fragments of a transfer of `file`: its requests are contiguous, the cache and the
blocks written hold the file up to the current address, the flash from the current block to the end of the
image is still erased, and no error was reported. -/
structure Transferring (env : DfuEnv) (file : List UInt8) (sys : DfuSystem) : Prop where
  small : file.length < 2 ^ 32
  size : sys.device.fwCopySize = file.length
  below : sys.device.reqFileAddr < file.length
  aligned : sys.device.reqFileAddr % 128 = 0
  offset : sys.device.bufOffset = sys.device.reqFileAddr % dfuBufferSize
  block : sys.device.blockAddr + sys.device.bufOffset = sys.device.reqFileAddr
  cached : sys.device.buffer = cachedBytes file sys.device.blockAddr sys.device.bufOffset
  written : sys.device.writes = imageBlocks file (sys.device.reqFileAddr / dfuBufferSize)
  erased : sys.device.erased = jimiDfuFlashEraseLoop 0 file.length
  blank : ∀ offset, sys.device.blockAddr ≤ offset → offset < blockCount file.length * dfuBufferSize →
    sys.device.flash offset = 0xFF
  requests : RequestLog env.mtu file.length sys.device.reqFileAddr (imageRequests sys.device.sent)
  pending : ∀ request ∈ sys.pending, request ∈ imageRequests sys.device.sent
  noError : DfuResponse.fileEnd dfuEndRespError ∉ sys.device.sent
  notEnded : sys.device.endFlag = false
  finishIdle : sys.device.finishTimer = false
  resetIdle : sys.device.resetTimer = false
  resetWorkIdle : sys.device.resetWork = false
  running : sys.device.rebooted = false

/-- The device right after it accepted the last fragment of `file`. -/
structure Completed (env : DfuEnv) (file : List UInt8) (sys : DfuSystem) : Prop where
  small : file.length < 2 ^ 32
  size : sys.device.fwCopySize = file.length
  final : sys.device.reqFileAddr + chunkLength env.mtu file.length sys.device.reqFileAddr = file.length
  fits : sys.device.reqFileAddr % dfuBufferSize + chunkLength env.mtu file.length sys.device.reqFileAddr ≤
    dfuBufferSize
  emptied : sys.device.bufOffset = 0
  blank : sys.device.buffer = List.replicate dfuBufferSize 0xFF
  block : sys.device.blockAddr = blockCount file.length * dfuBufferSize
  written : sys.device.writes = imageBlocks file (blockCount file.length)
  erased : sys.device.erased = jimiDfuFlashEraseLoop 0 file.length
  requests : RequestLog env.mtu file.length sys.device.reqFileAddr (imageRequests sys.device.sent)
  pending : ∀ request ∈ sys.pending, request ∈ imageRequests sys.device.sent
  noError : DfuResponse.fileEnd dfuEndRespError ∉ sys.device.sent
  ended : sys.device.endFlag = true
  running : sys.device.rebooted = false

def DfuState.transferFields (s : DfuState) :=
  (s.fwCopySize, s.reqFileAddr, s.bufOffset, s.blockAddr, s.buffer, s.flash, s.writes, s.erased, s.endFlag,
    s.finishTimer, s.resetTimer, s.resetWork, s.rebooted)

section Events

variable {env : DfuEnv} {file : List UInt8} {sys : DfuSystem}

/-- An event that leaves the transfer's fields alone keeps the invariant, as long as the requests it sent
keep the log contiguous. -/
theorem Transferring.frame (inv : Transferring env file sys) {device : DfuState} {pending : List (Nat × Nat)}
    (same : device.transferFields = sys.device.transferFields)
    (requests : RequestLog env.mtu file.length sys.device.reqFileAddr (imageRequests device.sent))
    (pendingSent : ∀ request ∈ pending, request ∈ imageRequests device.sent)
    (noError : DfuResponse.fileEnd dfuEndRespError ∉ device.sent) :
    Transferring env file ⟨device, pending⟩ := by
  simp only [DfuState.transferFields, Prod.mk.injEq] at same
  obtain ⟨size, addr, offset, block, buffer, flash, writes, erased, ended, finish, reset, resetWork, rebooted⟩ :=
    same
  exact {
    small := inv.small
    size := size.trans inv.size
    below := addr ▸ inv.below
    aligned := addr ▸ inv.aligned
    offset := by rw [offset, addr]; exact inv.offset
    block := by rw [block, offset, addr]; exact inv.block
    cached := by rw [buffer, block, offset]; exact inv.cached
    written := by rw [writes, addr]; exact inv.written
    erased := erased.trans inv.erased
    blank := by rw [flash, block]; exact inv.blank
    requests := addr ▸ requests
    pending := pendingSent
    noError := noError
    notEnded := ended.trans inv.notEnded
    finishIdle := finish.trans inv.finishIdle
    resetIdle := reset.trans inv.resetIdle
    resetWorkIdle := resetWork.trans inv.resetWorkIdle
    running := rebooted.trans inv.running }

theorem deliver_eq {event : DfuEvent} {pending : List (Nat × Nat)} (out : List DfuResponse)
    (sent : (dfuStep env sys.device event).sent = sys.device.sent ++ out) :
    sys.deliver env pending event = ⟨dfuStep env sys.device event, pending ++ imageRequests out⟩ := by
  simp [DfuSystem.deliver, sent]

theorem deliver_of_unchanged {event : DfuEvent} (unchanged : dfuStep env sys.device event = sys.device) :
    sys.deliver env sys.pending event = sys := by
  rw [deliver_eq [] (by rw [unchanged, List.append_nil]), unchanged, imageRequests_nil, List.append_nil]

theorem nextPktSize_eq (inv : Transferring env file sys) :
    nextPktSize env sys.device = requestSize env.mtu file.length sys.device.reqFileAddr := by
  simp only [nextPktSize, requestSize, inv.size, inv.offset]

/-- The current block lies within the image, so it is still erased. -/
theorem Transferring.blockBlank (inv : Transferring env file sys) :
    ∀ i < dfuBufferSize, sys.device.flash (sys.device.blockAddr + i) = 0xFF := by
  intro i bound
  have below := inv.below
  have offset := inv.offset
  have block := inv.block
  apply inv.blank _ (Nat.le_add_right _ _)
  simp only [blockCount, dfuBufferSize] at bound offset block ⊢
  omega

theorem Transferring.waitTimerExpired (inv : Transferring env file sys) :
    Transferring env file (transferStep env file sys .waitTimerExpired) := by
  have callback (s : DfuState) : (dfuTimerWaitCallback s).transferFields = s.transferFields ∧
      (dfuTimerWaitCallback s).sent = s.sent := by
    unfold dfuTimerWaitCallback
    dsimp only
    split <;> exact ⟨rfl, rfl⟩
  have stepped : dfuStep env sys.device .waitTimerExpired =
      if sys.device.waitTimer then dfuTimerWaitCallback { sys.device with waitTimer := false } else sys.device := by
    simp [dfuStep, inv.running]
  have kept : (dfuStep env sys.device .waitTimerExpired).transferFields = sys.device.transferFields ∧
      (dfuStep env sys.device .waitTimerExpired).sent = sys.device.sent := by
    rw [stepped]
    split
    · exact callback _
    · exact ⟨rfl, rfl⟩
  rw [transferStep, deliver_eq [] (by rw [kept.2, List.append_nil]), imageRequests_nil, List.append_nil]
  exact inv.frame kept.1 (kept.2 ▸ inv.requests) (kept.2 ▸ inv.pending) (kept.2 ▸ inv.noError)

/-- A retry asks again for the fragment the device waits on. -/
theorem Transferring.retry (inv : Transferring env file sys) :
    Transferring env file (transferStep env file sys (.work .retry)) := by
  by_cases submitted : sys.device.retryWork = true
  · have stepped : dfuStep env sys.device (.work .retry) =
        dfuRetryWorkHandler env { sys.device with retryWork := false } := by
      simp [dfuStep, inv.running, submitted]
    have sent : (dfuStep env sys.device (.work .retry)).sent = sys.device.sent ++
        [.imageReq sys.device.reqFileAddr (requestSize env.mtu file.length sys.device.reqFileAddr)] := by
      rw [stepped, ← nextPktSize_eq inv]
      rfl
    have same : (dfuStep env sys.device (.work .retry)).transferFields = sys.device.transferFields := by
      rw [stepped]
      rfl
    have requests := inv.requests.append (.inl rfl)
    rw [transferStep, deliver_eq _ sent]
    refine inv.frame same (by rw [sent, imageRequests_append, imageRequests_imageReq]; exact requests) ?_ ?_
    · intro request member
      rw [sent, imageRequests_append, imageRequests_imageReq]
      rcases List.mem_append.mp member with old | new
      · exact List.mem_append_left _ (inv.pending request old)
      · exact List.mem_append_right _ new
    · rw [sent]
      simpa using inv.noError
  · rw [transferStep, deliver_of_unchanged (by simp [dfuStep, inv.running, submitted])]
    exact inv

/-- The timeout work reports DFU_END_RESP_TIME_OUT and nothing else. -/
theorem Transferring.timeout (inv : Transferring env file sys) :
    Transferring env file (transferStep env file sys (.work .timeout)) := by
  by_cases submitted : sys.device.timeoutWork = true
  · have sent : (dfuStep env sys.device (.work .timeout)).sent = sys.device.sent ++
        [.fileEnd dfuEndRespTimeOut] := by
      simp [dfuStep, inv.running, submitted, dfuTimeoutWorkHandler, myBleDfuSendResponse]
    have same : (dfuStep env sys.device (.work .timeout)).transferFields = sys.device.transferFields := by
      rw [show dfuStep env sys.device (.work .timeout) = dfuTimeoutWorkHandler { sys.device with timeoutWork := false }
        by simp [dfuStep, inv.running, submitted]]
      rfl
    rw [transferStep, deliver_eq _ sent, imageRequests_fileEnd, List.append_nil]
    refine inv.frame same (by simpa [sent] using inv.requests) (by simpa [sent] using inv.pending) ?_
    rw [sent]
    simpa [dfuEndRespTimeOut, dfuEndRespError] using inv.noError
  · rw [transferStep, deliver_of_unchanged (by simp [dfuStep, inv.running, submitted])]
    exact inv

end Events

/-! ## The device answering a fragment -/

section Fragment

variable {env : DfuEnv} {file : List UInt8} {d : DfuState} {addr chunk : Nat}

theorem dfuStep_answer (env : DfuEnv) (file : List UInt8) (running : d.rebooted = false) {request : Nat × Nat} (small : request.1 < 2 ^ 32)
    (sized : request.2 = requestSize env.mtu file.length request.1) :
    dfuStep env d (.command dfuFileImage (appImagePacket file request)) =
      if request.1 = d.reqFileAddr then
        jimiDfuStoreImage env request.1 (requestFragment file request).length (requestFragment file request)
          { d with waitTimer := false }
      else d := by
  have fragmentSmall : (requestFragment file request).length < 2 ^ 16 := by
    have bounded := jimiDfuCalcPktSize_lt env.mtu (file.length - request.1) (dfuBufferSize - request.1 % dfuBufferSize)
    simp only [requestFragment, List.length_take]
    rw [sized]
    exact lt_of_le_of_lt (Nat.min_le_left _ _) bounded
  rw [dfuStep_fileImage env d _ running, jimiDfuWriteImage_appImagePacket env file request d small fragmentSmall]

theorem dfuStep_current (env : DfuEnv) (file : List UInt8) (running : d.rebooted = false) (small : addr < 2 ^ 32) (current : d.reqFileAddr = addr) :
    dfuStep env d (.command dfuFileImage (appImagePacket file (addr, requestSize env.mtu file.length addr))) =
      jimiDfuStoreImage env addr (chunkLength env.mtu file.length addr)
        (requestFragment file (addr, chunkLength env.mtu file.length addr)) { d with waitTimer := false } := by
  rw [dfuStep_answer env file running small rfl, if_pos current.symm, length_requestFragment, requestFragment_chunk]

variable {pending : List (Nat × Nat)}

/-- The fragment lands at its place in the cache. -/
theorem Transferring.stored (inv : Transferring env file ⟨d, pending⟩) (current : d.reqFileAddr = addr)
    (chunked : chunkLength env.mtu file.length addr = chunk) :
    storeBytes d.buffer d.bufOffset (requestFragment file (addr, chunk)) =
      cachedBytes file d.blockAddr (d.bufOffset + chunk) := by
  have aligned : addr % 128 = 0 := current ▸ inv.aligned
  have below : addr < file.length := current ▸ inv.below
  have offset : addr % dfuBufferSize = d.bufOffset := by rw [← current]; exact inv.offset.symm
  have split : addr = d.blockAddr + d.bufOffset := by rw [← current]; exact inv.block.symm
  have cached : d.buffer = cachedBytes file d.blockAddr d.bufOffset := inv.cached
  obtain ⟨fits, -, ends⟩ := chunkLength_cases env.mtu aligned below
  rw [chunked] at fits ends
  have inFile : d.blockAddr + d.bufOffset + chunk ≤ file.length := by omega
  have room : d.bufOffset + chunk ≤ dfuBufferSize := by omega
  rw [cached, split, storeBytes_cachedBytes inFile room]

/-- A fragment that leaves room in the cache and is not the last: the device caches it and asks for the
next one. -/
theorem Transferring.store_within_block (inv : Transferring env file ⟨d, pending⟩) (current : d.reqFileAddr = addr)
    (chunked : chunkLength env.mtu file.length addr = chunk) (more : addr + chunk < file.length)
    (room : d.bufOffset + chunk < dfuBufferSize) :
    jimiDfuStoreImage env addr chunk (requestFragment file (addr, chunk)) { d with waitTimer := false } =
      { d with
        buffer := cachedBytes file d.blockAddr (d.bufOffset + chunk)
        bufOffset := d.bufOffset + chunk
        reqFileAddr := addr + chunk
        repeatReqCount := 0
        waitTimer := true
        sent := d.sent ++ [.imageReq (addr + chunk) (requestSize env.mtu file.length (addr + chunk))] } := by
  have size : d.fwCopySize = file.length := inv.size
  have offset : addr % dfuBufferSize = d.bufOffset := by rw [← current]; exact inv.offset.symm
  have nextOffset : (addr + chunk) % dfuBufferSize = d.bufOffset + chunk := by
    simp only [dfuBufferSize] at offset room ⊢
    omega
  have small := inv.small
  rw [jimiDfuStoreImage_next (by rw [offset]; exact room) (by rw [size]; exact more) (by omega)]
  simp only [jimiDfuRequestNext, jimiDfuImageDownReq, myBleDfuSendResponse, nextPktSize, requestSize,
    offset, inv.stored current chunked, nextOffset, size]

/-- A fragment that fills the cache and is not the last: the device writes the block and asks for the next
fragment. -/
theorem Transferring.store_fills_block (lawful : env.Lawful) (inv : Transferring env file ⟨d, pending⟩)
    (current : d.reqFileAddr = addr) (chunked : chunkLength env.mtu file.length addr = chunk)
    (more : addr + chunk < file.length) (full : d.bufOffset + chunk = dfuBufferSize) :
    jimiDfuStoreImage env addr chunk (requestFragment file (addr, chunk)) { d with waitTimer := false } =
      { d with
        buffer := List.replicate dfuBufferSize 0xFF
        bufOffset := 0
        blockAddr := d.blockAddr + dfuBufferSize
        flash := flashProgram d.flash d.blockAddr (imageBlock file (addr / dfuBufferSize))
        writes := d.writes ++ [(d.blockAddr, imageBlock file (addr / dfuBufferSize))]
        reqFileAddr := addr + chunk
        repeatReqCount := 0
        waitTimer := true
        sent := d.sent ++ [.imageReq (addr + chunk) (requestSize env.mtu file.length (addr + chunk))] } := by
  have size : d.fwCopySize = file.length := inv.size
  have offset : addr % dfuBufferSize = d.bufOffset := by rw [← current]; exact inv.offset.symm
  have split : addr = d.blockAddr + d.bufOffset := by rw [← current]; exact inv.block.symm
  have cached : d.buffer = cachedBytes file d.blockAddr d.bufOffset := inv.cached
  have blockStart : d.blockAddr = addr / dfuBufferSize * dfuBufferSize := by
    simp only [dfuBufferSize] at offset split ⊢
    omega
  have nextOffset : (addr + chunk) % dfuBufferSize = 0 := by
    simp only [dfuBufferSize] at offset full ⊢
    omega
  have small := inv.small
  have inFile : d.blockAddr + dfuBufferSize ≤ file.length := by omega
  have block : cachedBytes file d.blockAddr dfuBufferSize = imageBlock file (addr / dfuBufferSize) := by
    rw [blockStart]
    exact cachedBytes_eq_imageBlock le_rfl (by rw [← blockStart]; exact inFile) (.inl rfl)
  -- the cache is full: it is written as it is, onto the erased current block
  have flushed := jimiDfuFlushBuffer_of_nonempty lawful false
    { d with waitTimer := false, buffer := cachedBytes file d.blockAddr dfuBufferSize, bufOffset := dfuBufferSize }
    (length_cachedBytes inFile le_rfl) (by simp [dfuBufferSize]) inv.blockBlank
  have padded := padBuffer_cachedBytes
    { d with waitTimer := false, buffer := cachedBytes file d.blockAddr dfuBufferSize, bufOffset := dfuBufferSize }
    inFile le_rfl rfl
  rw [jimiDfuStoreImage_next_block (by rw [offset]; exact full) (by rw [size]; exact more) (by omega)
    (by dsimp only; rw [offset, inv.stored current chunked, full, flushed])]
  dsimp only
  rw [offset, inv.stored current chunked, full, flushed, padded, block]
  simp only [jimiDfuRequestNext, jimiDfuImageDownReq, myBleDfuSendResponse, nextPktSize, requestSize, nextBlock,
    nextOffset, size, Nat.sub_zero]

/-- The last fragment: the device writes the last block and the transfer completes. -/
theorem Transferring.store_last (lawful : env.Lawful) (inv : Transferring env file ⟨d, pending⟩)
    (current : d.reqFileAddr = addr) (chunked : chunkLength env.mtu file.length addr = chunk)
    (ends : addr + chunk = file.length) :
    ∃ flash, jimiDfuStoreImage env addr chunk (requestFragment file (addr, chunk)) { d with waitTimer := false } =
      { d with
        buffer := List.replicate dfuBufferSize 0xFF
        bufOffset := 0
        blockAddr := d.blockAddr + dfuBufferSize
        flash
        writes := d.writes ++ [(d.blockAddr, imageBlock file (addr / dfuBufferSize))]
        endFlag := true
        waitTimer := false
        finishTimer := true
        resetTimer := true
        sent := d.sent ++ [.fileEnd dfuEndRespOk] } := by
  have aligned : addr % 128 = 0 := current ▸ inv.aligned
  have below : addr < file.length := current ▸ inv.below
  obtain ⟨fits, -, -⟩ := chunkLength_cases env.mtu aligned below
  rw [chunked] at fits
  have size : d.fwCopySize = file.length := inv.size
  have offset : addr % dfuBufferSize = d.bufOffset := by rw [← current]; exact inv.offset.symm
  have split : addr = d.blockAddr + d.bufOffset := by rw [← current]; exact inv.block.symm
  have cached : d.buffer = cachedBytes file d.blockAddr d.bufOffset := inv.cached
  have blockStart : d.blockAddr = addr / dfuBufferSize * dfuBufferSize := by
    simp only [dfuBufferSize] at offset split ⊢
    omega
  have small := inv.small
  have inFile : d.blockAddr + (d.bufOffset + chunk) ≤ file.length := by omega
  have room : d.bufOffset + chunk ≤ dfuBufferSize := by omega
  have block : cachedBytes file d.blockAddr (d.bufOffset + chunk) = imageBlock file (addr / dfuBufferSize) := by
    rw [blockStart]
    exact cachedBytes_eq_imageBlock room (by rw [← blockStart]; exact inFile) (.inr (by rw [← blockStart]; omega))
  -- the last block is written, padded with 0xFF
  have flushed := jimiDfuFlushBuffer_of_nonempty lawful true
    { d with
      waitTimer := false
      buffer := cachedBytes file d.blockAddr (d.bufOffset + chunk)
      bufOffset := d.bufOffset + chunk }
    (length_cachedBytes inFile room) (by simp) inv.blockBlank
  have padded := padBuffer_cachedBytes
    { d with
      waitTimer := false
      buffer := cachedBytes file d.blockAddr (d.bufOffset + chunk)
      bufOffset := d.bufOffset + chunk }
    inFile room rfl
  rw [jimiDfuStoreImage_last fits (by rw [size]; omega) (by omega)]
  dsimp only
  rw [offset, inv.stored current chunked, flushed, padded, block, if_neg (fun failed => failed rfl)]
  exact ⟨_, rfl⟩

/-- The same last fragment once more, after the transfer completed: s_req_file_addr still names it, so the
device caches it again, calls flash_write on one more block after the image, and reports the end of the file
again with whatever status the flush gives. -/
theorem Completed.store_again (lawful : env.Lawful) (done : Completed env file ⟨d, pending⟩)
    (current : d.reqFileAddr = addr) (chunked : chunkLength env.mtu file.length addr = chunk) :
    ∃ bytes code, bytes.length = dfuBufferSize ∧
      (jimiDfuStoreImage env addr chunk (requestFragment file (addr, chunk)) { d with waitTimer := false }).writes =
        d.writes ++ [(d.blockAddr, bytes)] ∧
      (jimiDfuStoreImage env addr chunk (requestFragment file (addr, chunk)) { d with waitTimer := false }).sent =
        d.sent ++ [.fileEnd code] ∧
      (jimiDfuStoreImage env addr chunk (requestFragment file (addr, chunk)) { d with waitTimer := false }).endFlag ∧
      (jimiDfuStoreImage env addr chunk (requestFragment file (addr, chunk)) { d with waitTimer := false }).erased =
        d.erased := by
  have size : d.fwCopySize = file.length := done.size
  have blank : d.buffer = List.replicate dfuBufferSize 0xFF := done.blank
  have ended : d.endFlag = true := done.ended
  have final : d.reqFileAddr + chunkLength env.mtu file.length d.reqFileAddr = file.length := done.final
  have fits : d.reqFileAddr % dfuBufferSize + chunkLength env.mtu file.length d.reqFileAddr ≤ dfuBufferSize :=
    done.fits
  rw [current, chunked] at final fits
  have small := done.small
  have length : (storeBytes d.buffer (addr % dfuBufferSize) (requestFragment file (addr, chunk))).length =
      dfuBufferSize := by
    rw [length_storeBytes, blank, List.length_replicate]
  obtain ⟨writes, sent, flagged, erased⟩ := jimiDfuFlushBuffer_logs true
    (lawful.allocates
      { d with
        waitTimer := false
        buffer := storeBytes d.buffer (addr % dfuBufferSize) (requestFragment file (addr, chunk))
        bufOffset := addr % dfuBufferSize + chunk })
    (by simp only [Bool.true_eq_false, and_false, not_false_eq_true])
  rw [jimiDfuStoreImage_last fits (by rw [size]; omega) (by omega)]
  dsimp only
  -- the flush fails and DFU_END_RESP_ERROR is sent, or it succeeds and DFU_END_RESP_OK is sent again
  split
  · exact ⟨_, dfuEndRespError, length_padBuffer _ length, writes, by simp [myBleDfuSendResponse, sent],
      flagged.trans ended, erased⟩
  · exact ⟨_, dfuEndRespOk, length_padBuffer _ length, writes, by simp [jimiDfuImageComplete, myBleDfuSendResponse, sent],
      rfl, erased⟩

end Fragment

/-! ## Every event of a transfer -/

section Answer

variable {env : DfuEnv} {file : List UInt8} {d : DfuState} {pending rest : List (Nat × Nat)}

theorem transferStep_answer {sys : DfuSystem} {index : Nat} {request : Nat × Nat}
    (lookup : sys.pending[index]? = some request) :
    transferStep env file sys (.answer index) =
      sys.deliver env (sys.pending.eraseIdx index) (.command dfuFileImage (appImagePacket file request)) := by
  simp [transferStep, lookup]

/-- The answer to the current request when more of the file follows: the device asks for the next
fragment, and the invariant holds again one fragment further. -/
theorem Transferring.answer_next (lawful : env.Lawful) (inv : Transferring env file ⟨d, pending⟩)
    (kept : ∀ request ∈ rest, request ∈ imageRequests d.sent)
    (more : d.reqFileAddr + chunkLength env.mtu file.length d.reqFileAddr < file.length) :
    ∃ device, (⟨d, pending⟩ : DfuSystem).deliver env rest
        (.command dfuFileImage (appImagePacket file (d.reqFileAddr, requestSize env.mtu file.length d.reqFileAddr))) =
        ⟨device, rest ++ [(device.reqFileAddr, requestSize env.mtu file.length device.reqFileAddr)]⟩ ∧
      Transferring env file
        ⟨device, rest ++ [(device.reqFileAddr, requestSize env.mtu file.length device.reqFileAddr)]⟩ ∧
      device.reqFileAddr = d.reqFileAddr + chunkLength env.mtu file.length d.reqFileAddr ∧
      device.waitTimer = true ∧ device.retryWork = d.retryWork ∧ device.repeatReqCount = 0 := by
  have small := inv.small
  have running : d.rebooted = false := inv.running
  have below : d.reqFileAddr < file.length := inv.below
  have aligned : d.reqFileAddr % 128 = 0 := inv.aligned
  have offset : d.bufOffset = d.reqFileAddr % dfuBufferSize := inv.offset
  have block : d.blockAddr + d.bufOffset = d.reqFileAddr := inv.block
  have written : d.writes = imageBlocks file (d.reqFileAddr / dfuBufferSize) := inv.written
  have requests : RequestLog env.mtu file.length d.reqFileAddr (imageRequests d.sent) := inv.requests
  have noError : DfuResponse.fileEnd dfuEndRespError ∉ d.sent := inv.noError
  obtain ⟨fits, -, ends⟩ := chunkLength_cases env.mtu aligned below
  have units : chunkLength env.mtu file.length d.reqFileAddr % 128 = 0 := by omega
  have step := dfuStep_current env file running (by omega) rfl
  -- the next request follows the fragment just taken
  have logged := requests.append (.inr rfl)
  have pendingSent (next : Nat × Nat) : ∀ request ∈ rest ++ [next], request ∈ imageRequests d.sent ++ [next] := by
    intro request member
    rcases List.mem_append.mp member with old | new
    · exact List.mem_append_left _ (kept request old)
    · exact List.mem_append_right _ new
  by_cases room : d.bufOffset + chunkLength env.mtu file.length d.reqFileAddr < dfuBufferSize
  · have stored := inv.store_within_block rfl rfl more room
    refine ⟨dfuStep env d (.command dfuFileImage (appImagePacket file
      (d.reqFileAddr, requestSize env.mtu file.length d.reqFileAddr))), ?_, ?_, ?_, ?_, ?_, ?_⟩
    all_goals rw [step, stored]
    · rw [deliver_eq _ (by rw [step, stored]), step, stored]
      simp
    exact {
      small := small
      size := inv.size
      below := more
      aligned := by dsimp only; omega
      offset := by dsimp only; simp only [dfuBufferSize] at offset room ⊢; omega
      block := by dsimp only; omega
      cached := rfl
      written := by
        dsimp only
        rw [written]
        congr 1
        simp only [dfuBufferSize] at offset room ⊢
        omega
      erased := inv.erased
      blank := inv.blank
      requests := by dsimp only; rw [imageRequests_append, imageRequests_imageReq]; exact logged
      pending := by dsimp only; rw [imageRequests_append, imageRequests_imageReq]; exact pendingSent _
      noError := by dsimp only; simpa using noError
      notEnded := inv.notEnded
      finishIdle := inv.finishIdle
      resetIdle := inv.resetIdle
      resetWorkIdle := inv.resetWorkIdle
      running := inv.running }
  · have full : d.bufOffset + chunkLength env.mtu file.length d.reqFileAddr = dfuBufferSize := by omega
    have stored := inv.store_fills_block lawful rfl rfl more full
    have nextBlock : (d.reqFileAddr + chunkLength env.mtu file.length d.reqFileAddr) / dfuBufferSize =
        d.reqFileAddr / dfuBufferSize + 1 := by
      simp only [dfuBufferSize] at offset full ⊢
      omega
    have blockStart : d.blockAddr = d.reqFileAddr / dfuBufferSize * dfuBufferSize := by
      simp only [dfuBufferSize] at offset block ⊢
      omega
    refine ⟨dfuStep env d (.command dfuFileImage (appImagePacket file
      (d.reqFileAddr, requestSize env.mtu file.length d.reqFileAddr))), ?_, ?_, ?_, ?_, ?_, ?_⟩
    all_goals rw [step, stored]
    · rw [deliver_eq _ (by rw [step, stored]), step, stored]
      simp
    exact {
      small := small
      size := inv.size
      below := more
      aligned := by dsimp only; omega
      offset := by dsimp only; simp only [dfuBufferSize] at offset full ⊢; omega
      block := by dsimp only; omega
      cached := by simp [cachedBytes]
      written := by
        dsimp only
        rw [written, nextBlock, imageBlocks_succ, blockStart]
      erased := inv.erased
      blank := by
        -- the block just written lies before everything still to be written
        intro offset past inImage
        dsimp only at past ⊢
        rw [flashProgram_past _ (by rw [length_imageBlock]; exact past)]
        exact inv.blank offset (show d.blockAddr ≤ offset by omega) inImage
      requests := by dsimp only; rw [imageRequests_append, imageRequests_imageReq]; exact logged
      pending := by dsimp only; rw [imageRequests_append, imageRequests_imageReq]; exact pendingSent _
      noError := by dsimp only; simpa using noError
      notEnded := inv.notEnded
      finishIdle := inv.finishIdle
      resetIdle := inv.resetIdle
      resetWorkIdle := inv.resetWorkIdle
      running := inv.running }

/-- The answer to the current request when it carries the end of the file: the transfer completes with
every block written, and s_req_file_addr still names that request. -/
theorem Transferring.answer_last (lawful : env.Lawful) (inv : Transferring env file ⟨d, pending⟩)
    (kept : ∀ request ∈ rest, request ∈ imageRequests d.sent)
    (last : d.reqFileAddr + chunkLength env.mtu file.length d.reqFileAddr = file.length) :
    Completed env file ((⟨d, pending⟩ : DfuSystem).deliver env rest
      (.command dfuFileImage (appImagePacket file (d.reqFileAddr, requestSize env.mtu file.length d.reqFileAddr)))) ∧
      ((⟨d, pending⟩ : DfuSystem).deliver env rest
        (.command dfuFileImage (appImagePacket file (d.reqFileAddr, requestSize env.mtu file.length d.reqFileAddr)))).pending =
        rest ∧
      ((⟨d, pending⟩ : DfuSystem).deliver env rest
        (.command dfuFileImage (appImagePacket file (d.reqFileAddr, requestSize env.mtu file.length d.reqFileAddr)))).device.reqFileAddr =
        d.reqFileAddr := by
  have small := inv.small
  have running : d.rebooted = false := inv.running
  have below : d.reqFileAddr < file.length := inv.below
  have aligned : d.reqFileAddr % 128 = 0 := inv.aligned
  have offset : d.bufOffset = d.reqFileAddr % dfuBufferSize := inv.offset
  have block : d.blockAddr + d.bufOffset = d.reqFileAddr := inv.block
  have written : d.writes = imageBlocks file (d.reqFileAddr / dfuBufferSize) := inv.written
  obtain ⟨fits, positive, -⟩ := chunkLength_cases env.mtu aligned below
  have step := dfuStep_current env file running (by omega) rfl
  obtain ⟨flash, stored⟩ := inv.store_last lawful rfl rfl last
  have count : blockCount file.length = d.reqFileAddr / dfuBufferSize + 1 := by
    simp only [blockCount, dfuBufferSize] at fits last ⊢
    omega
  have blockStart : d.blockAddr = d.reqFileAddr / dfuBufferSize * dfuBufferSize := by
    simp only [dfuBufferSize] at offset block ⊢
    omega
  rw [deliver_eq _ (by rw [step, stored]), step, stored]
  refine ⟨{
    small := small
    size := inv.size
    final := last
    fits := fits
    emptied := rfl
    blank := rfl
    block := by dsimp only; rw [count, blockStart, Nat.succ_mul]
    written := by dsimp only; rw [written, count, imageBlocks_succ, blockStart]
    erased := inv.erased
    requests := by simpa using inv.requests
    pending := by simpa using kept
    noError := by simpa [dfuEndRespOk, dfuEndRespError] using inv.noError
    ended := rfl
    running := inv.running }, by simp, rfl⟩

/-- An answer to a request the device no longer waits on fails the address check and changes nothing
but the app's pending list. -/
theorem Transferring.answer_stale (inv : Transferring env file ⟨d, pending⟩) {request : Nat × Nat}
    (logged : request ∈ imageRequests d.sent) (stale : request.1 ≠ d.reqFileAddr)
    (kept : ∀ request ∈ rest, request ∈ imageRequests d.sent) :
    Transferring env file ((⟨d, pending⟩ : DfuSystem).deliver env rest
      (.command dfuFileImage (appImagePacket file request))) := by
  have requests : RequestLog env.mtu file.length d.reqFileAddr (imageRequests d.sent) := inv.requests
  have small := inv.small
  have running : d.rebooted = false := inv.running
  have below : d.reqFileAddr < file.length := inv.below
  have upTo := requests.upTo request logged
  have step := dfuStep_answer env file running (by omega) (requests.sized request logged)
  rw [if_neg stale] at step
  rw [deliver_eq [] (by rw [step, List.append_nil]), step, imageRequests_nil, List.append_nil]
  exact inv.frame rfl inv.requests kept inv.noError

end Answer

section Steps

variable {env : DfuEnv} {file : List UInt8} {sys : DfuSystem}

/-- Whatever happens next in a transfer (the app answers any of its pending requests, a timer expires, a
work item runs), the invariant holds again, or the transfer has just completed. -/
theorem transferStep_keeps_transfer (lawful : env.Lawful) (inv : Transferring env file sys) (event : TransferEvent) :
    Transferring env file (transferStep env file sys event) ∨ Completed env file (transferStep env file sys event) := by
  cases event with
  | answer index =>
    obtain ⟨d, pending⟩ := sys
    cases lookup : pending[index]? with
    | none =>
      left
      simpa [transferStep, lookup] using inv
    | some request =>
      have logged := inv.pending request (List.mem_of_getElem? lookup)
      have kept : ∀ other ∈ pending.eraseIdx index, other ∈ imageRequests d.sent :=
        fun other member => inv.pending other (List.mem_of_mem_eraseIdx member)
      rw [transferStep_answer lookup]
      by_cases stale : request.1 = d.reqFileAddr
      · -- the fragment the device waits for
        have sized : request.2 = requestSize env.mtu file.length d.reqFileAddr := by
          rw [← stale]
          exact inv.requests.sized request logged
        have same : request = (d.reqFileAddr, requestSize env.mtu file.length d.reqFileAddr) :=
          Prod.ext stale sized
        rw [same]
        by_cases last : d.reqFileAddr + chunkLength env.mtu file.length d.reqFileAddr = file.length
        · exact .inr (inv.answer_last lawful kept last).1
        · have below : d.reqFileAddr < file.length := inv.below
          obtain ⟨-, -, ends⟩ := chunkLength_cases env.mtu (show d.reqFileAddr % 128 = 0 from inv.aligned) below
          obtain ⟨device, stepped, next, -⟩ := inv.answer_next lawful kept (ends.resolve_left last).1
          rw [stepped]
          exact .inl next
      · exact .inl (inv.answer_stale logged stale kept)
  | waitTimerExpired => exact .inl inv.waitTimerExpired
  | finishTimerExpired =>
    left
    rw [transferStep, deliver_of_unchanged (by simp [dfuStep, inv.running, inv.finishIdle])]
    exact inv
  | resetTimerExpired =>
    left
    rw [transferStep, deliver_of_unchanged (by simp [dfuStep, inv.running, inv.resetIdle])]
    exact inv
  | work item =>
    cases item with
    | retry => exact .inl inv.retry
    | timeout => exact .inl inv.timeout
    | reset =>
      left
      rw [transferStep, deliver_of_unchanged (by simp [dfuStep, inv.running, inv.resetWorkIdle])]
      exact inv

/-- Along every run of a transfer, the invariant holds until the transfer completes: either it still holds
at the end of the run, or some prefix of the run ended in a completed transfer. -/
theorem transferRun_keeps_transfer (lawful : env.Lawful) (inv : Transferring env file sys)
    (events : List TransferEvent) :
    Transferring env file (transferRun env file sys events) ∨
      ∃ done rest, events = done ++ rest ∧ Completed env file (transferRun env file sys done) :=
  foldl_invariant_until (transferStep env file) (Transferring env file) (Completed env file)
    (fun _ event kept => transferStep_keeps_transfer lawful kept event) inv events

end Steps

/-! ## What a completed transfer has done -/

section Completed

variable {env : DfuEnv} {file : List UInt8} {sys : DfuSystem}

/-- A completed transfer wrote exactly ceil(file_size / 1024) blocks, block `k` at `k * 1024` with the
file's bytes there, padded with 0xFF, each inside the sectors erased for the file. -/
theorem Completed.flushes (done : Completed env file sys) :
    sys.device.writes = imageBlocks file (blockCount file.length) ∧
      ∀ write ∈ sys.device.writes, InsideErased sys.device.erased write := by
  refine ⟨done.written, ?_⟩
  rw [done.written, done.erased]
  exact insideErased_imageBlocks file

/-- The requests of a completed transfer start at 0, each follows the fragment before it or repeats it, and
the fragment of the last one ends the file: together they cover [0, file_size) without gap or overlap. -/
theorem Completed.requests_cover (done : Completed env file sys) :
    ((imageRequests sys.device.sent).map Prod.fst).head? = some 0 ∧
      ((imageRequests sys.device.sent).map Prod.fst).IsChain
        (fun a b => b = a ∨ b = a + chunkLength env.mtu file.length a) ∧
      ((imageRequests sys.device.sent).map Prod.fst).getLast? = some sys.device.reqFileAddr ∧
      sys.device.reqFileAddr + chunkLength env.mtu file.length sys.device.reqFileAddr = file.length := by
  refine ⟨done.requests.first, done.requests.contiguous, ?_, done.final⟩
  rw [List.getLast?_map, done.requests.last]
  rfl

end Completed

end Jimi
