import NrfSdk.Dfu.Run

namespace Jimi

open Machine

def currentRequest (env : DfuEnv) (file : List UInt8) (d : DfuState) : Nat × Nat :=
  (d.reqFileAddr, requestSize env.mtu file.length d.reqFileAddr)

/-- A transfer in which the app has answered every request so far: the device waits on its current request,
the only one pending, with its wait timer running and no retry submitted. -/
structure Waiting (env : DfuEnv) (file : List UInt8) (sys : DfuSystem) : Prop where
  transferring : Transferring env file sys
  pending : sys.pending = [currentRequest env file sys.device]
  timer : sys.device.waitTimer = true
  noRetry : sys.device.retryWork = false
  fresh : sys.device.repeatReqCount = 0

section Start

variable {env : DfuEnv} {file : List UInt8}

theorem transferStart_eq (lawful : env.Lawful) (flash : Nat → UInt8) (fits : file.length ≤ env.partitionSize) :
    transferStart env flash file =
      ⟨{ dfuBootState flash with
          fwCopySize := file.length
          inProgress := true
          flash := (jimiDfuFlashEraseLoop 0 file.length).foldl flashEraseSector flash
          erased := jimiDfuFlashEraseLoop 0 file.length
          buffer := List.replicate dfuBufferSize 0xFF
          sent := [.start, .imageReq 0 (requestSize env.mtu file.length 0)]
          waitTimer := true },
        [(0, requestSize env.mtu file.length 0)]⟩ := by
  have decoded : le32At (appFileSizePacket file) 0 = file.length := by
    simpa [appFileSizePacket] using
      le32At_append [] [] (lt_of_le_of_lt fits env.partitionSize_lt)
  simp [transferStart, DfuSystem.deliver, dfuStep_start, dfuStep_fileSize, dfuBootState, jimiDfuStart,
    jimiDfuRxFileSize_fits lawful (appFileSizePacket file) _ (by rw [decoded]; exact fits), decoded,
    myBleDfuSendResponse, requestSize, imageRequests]

theorem transferStart_waiting (lawful : env.Lawful) (flash : Nat → UInt8) (nonempty : 0 < file.length)
    (fits : file.length ≤ env.partitionSize) : Waiting env file (transferStart env flash file) := by
  rw [transferStart_eq lawful flash fits]
  refine ⟨{
    small := lt_of_le_of_lt fits env.partitionSize_lt
    size := rfl
    below := nonempty
    aligned := rfl
    offset := rfl
    block := rfl
    cached := by simp [cachedBytes, dfuBootState]
    written := by simp [imageBlocks, dfuBootState]
    erased := rfl
    blank := fun _ _ inImage => eraseLoop_blank file.length flash inImage
    requests := by simpa [dfuBootState, imageRequests] using RequestLog.start
    pending := by simp [imageRequests]
    noError := by simp
    notEnded := rfl
    finishIdle := rfl
    resetIdle := rfl
    resetWorkIdle := rfl
    running := rfl }, rfl, rfl, rfl, rfl⟩

end Start

section MainLine

variable {env : DfuEnv} {file : List UInt8} {sys : DfuSystem}

theorem transferRun_append (done rest : List TransferEvent) :
    transferRun env file sys (done ++ rest) = transferRun env file (transferRun env file sys done) rest :=
  List.foldl_append

theorem transferRun_replicate_succ (event : TransferEvent) (count : Nat) :
    transferRun env file sys (List.replicate (count + 1) event) =
      transferRun env file (transferStep env file sys event) (List.replicate count event) := by
  simp [transferRun, List.replicate_succ]

/-- The app answers the fragment the device waits on, and more of the file follows. -/
theorem Waiting.answer_next (lawful : env.Lawful) (waiting : Waiting env file sys)
    (more : sys.device.reqFileAddr + chunkLength env.mtu file.length sys.device.reqFileAddr < file.length) :
    Waiting env file (transferStep env file sys (.answer 0)) ∧
      (transferStep env file sys (.answer 0)).device.reqFileAddr =
        sys.device.reqFileAddr + chunkLength env.mtu file.length sys.device.reqFileAddr := by
  obtain ⟨d, pending⟩ := sys
  have only : pending = [currentRequest env file d] := waiting.pending
  subst only
  obtain ⟨device, stepped, next, advanced, timer, retry, count⟩ :=
    waiting.transferring.answer_next lawful (List.forall_mem_nil _) more
  rw [transferStep_answer List.getElem?_cons_zero, List.eraseIdx_zero, List.tail_cons]
  simp only [currentRequest] at stepped ⊢
  rw [stepped]
  refine ⟨⟨by simpa using next, by simp [currentRequest], timer, ?_, count⟩, advanced⟩
  rw [retry]
  exact waiting.noRetry

/-- The app answers the current request at the head of its pending list, and it ends the file: the transfer
completes and s_req_file_addr still names that request. -/
theorem Transferring.answer_head_last (lawful : env.Lawful) {d : DfuState} {rest : List (Nat × Nat)}
    (inv : Transferring env file ⟨d, currentRequest env file d :: rest⟩)
    (last : d.reqFileAddr + chunkLength env.mtu file.length d.reqFileAddr = file.length) :
    Completed env file (transferStep env file ⟨d, currentRequest env file d :: rest⟩ (.answer 0)) ∧
      (transferStep env file ⟨d, currentRequest env file d :: rest⟩ (.answer 0)).pending = rest ∧
      (transferStep env file ⟨d, currentRequest env file d :: rest⟩ (.answer 0)).device.reqFileAddr =
        d.reqFileAddr := by
  have kept : ∀ request ∈ rest, request ∈ imageRequests d.sent :=
    fun request member => inv.pending request (List.mem_cons_of_mem _ member)
  rw [transferStep_answer List.getElem?_cons_zero, List.eraseIdx_zero, List.tail_cons]
  exact inv.answer_last lawful kept last

/-- The app answers the fragment the device waits on, and it ends the file. -/
theorem Waiting.answer_last (lawful : env.Lawful) (waiting : Waiting env file sys)
    (last : sys.device.reqFileAddr + chunkLength env.mtu file.length sys.device.reqFileAddr = file.length) :
    Completed env file (transferStep env file sys (.answer 0)) := by
  obtain ⟨d, pending⟩ := sys
  have only : pending = [currentRequest env file d] := waiting.pending
  subst only
  exact (waiting.transferring.answer_head_last lawful last).1

/-- Answering request after request, the app reaches the one that carries the end of the file: each answer
moves the current address forward. -/
theorem Waiting.reaches_last (lawful : env.Lawful) (waiting : Waiting env file sys) :
    ∃ count lastWait, transferRun env file sys (List.replicate count (.answer 0)) = lastWait ∧
      Waiting env file lastWait ∧
      lastWait.device.reqFileAddr + chunkLength env.mtu file.length lastWait.device.reqFileAddr = file.length := by
  -- on the part of the file not yet requested
  induction remaining : file.length - sys.device.reqFileAddr using Nat.strong_induction_on generalizing sys with
  | _ remaining ih =>
    have inv := waiting.transferring
    obtain ⟨-, positive, ends⟩ := chunkLength_cases env.mtu inv.aligned inv.below
    rcases ends with last | ⟨more, -⟩
    · exact ⟨0, sys, rfl, waiting, last⟩
    · obtain ⟨nextWaiting, advanced⟩ := waiting.answer_next lawful more
      obtain ⟨count, lastWait, reached, lastWaiting, ends⟩ :=
        ih _ (by rw [← remaining, advanced]; omega) nextWaiting rfl
      exact ⟨count + 1, lastWait, by rw [transferRun_replicate_succ, reached], lastWaiting, ends⟩

/-- Answered request by request, a transfer completes. -/
theorem Waiting.completes (lawful : env.Lawful) (waiting : Waiting env file sys) :
    ∃ count, Completed env file (transferRun env file sys (List.replicate count (.answer 0))) := by
  obtain ⟨count, lastWait, reached, lastWaiting, last⟩ := waiting.reaches_last lawful
  refine ⟨count + 1, ?_⟩
  rw [List.replicate_succ', transferRun_append, reached]
  exact lastWaiting.answer_last lawful last

/-- From a freshly booted device, every run of events keeps the transfer's invariant until some prefix of it
has completed; and a run in which the app answers each request completes: the block writes are exactly the
file's blocks, each inside the erased sectors, and the requests start at 0 and step from fragment to fragment
up to the one that ends the file. -/
theorem transferStart_completes (lawful : env.Lawful) (flash : Nat → UInt8) (nonempty : 0 < file.length)
    (fits : file.length ≤ env.partitionSize) :
    (∀ events, Transferring env file (transferRun env file (transferStart env flash file) events) ∨
      ∃ done rest, events = done ++ rest ∧ Completed env file (transferRun env file (transferStart env flash file) done)) ∧
    ∃ count sys, transferRun env file (transferStart env flash file) (List.replicate count (.answer 0)) = sys ∧
      Completed env file sys ∧ sys.device.writes = imageBlocks file (blockCount file.length) ∧
      (∀ write ∈ sys.device.writes, InsideErased sys.device.erased write) ∧
      ((imageRequests sys.device.sent).map Prod.fst).head? = some 0 ∧
      ((imageRequests sys.device.sent).map Prod.fst).IsChain
        (fun a b => b = a ∨ b = a + chunkLength env.mtu file.length a) ∧
      ((imageRequests sys.device.sent).map Prod.fst).getLast? = some sys.device.reqFileAddr ∧
      sys.device.reqFileAddr + chunkLength env.mtu file.length sys.device.reqFileAddr = file.length := by
  have waiting := transferStart_waiting lawful flash nonempty fits
  obtain ⟨count, done⟩ := waiting.completes lawful
  exact ⟨transferRun_keeps_transfer lawful waiting.transferring,
    count, _, rfl, done, done.flushes.1, done.flushes.2, done.requests_cover⟩

end MainLine

/-- A NOR flash: an erase sets a sector to 0xFF, a write can only clear bits, and every call succeeds. -/
def norFlash : FlashApi where
  erase flash sector := (0, flashEraseSector flash sector)
  write flash addr data := (0, fun offset =>
    if addr ≤ offset ∧ offset < addr + data.length then flash offset &&& data.getD (offset - addr) 0
    else flash offset)
  read flash addr size := (0, flashBytes flash addr size)

theorem norFlash_lawful : norFlash.Lawful where
  erase_sets _ _ := rfl
  write_erased flash addr data blank := by
    refine Prod.ext rfl (funext fun offset => ?_)
    simp only [norFlash, flashProgram]
    split_ifs with inside
    · -- clearing bits of an erased byte stores the byte
      have erased := blank (offset - addr) (by omega)
      rw [Nat.add_sub_cancel' inside.1] at erased
      rw [erased, UInt8.and_comm, show (0xFF : UInt8) = -1 by decide, UInt8.and_neg_one]
    · rfl
  read_holds _ _ _ := rfl

def appDfuEnv : DfuEnv where
  mtu := 23
  partitionSize := 0x8e000
  flash := norFlash
  readBackAllocated _ := true
  mtu_lt := by decide
  partitionSize_lt := by decide

theorem appDfuEnv_lawful : appDfuEnv.Lawful := ⟨norFlash_lawful, fun _ => rfl⟩

theorem transferStart_completes_sector :
    appDfuEnv.Lawful ∧ 0 < (List.replicate 4096 (0 : UInt8)).length ∧ (List.replicate 4096 (0 : UInt8)).length ≤ appDfuEnv.partitionSize ∧
      (∀ events, Transferring appDfuEnv (List.replicate 4096 0)
          (transferRun appDfuEnv (List.replicate 4096 0) (transferStart appDfuEnv (fun _ => 0xFF) (List.replicate 4096 0))
            events) ∨
        ∃ done rest, events = done ++ rest ∧ Completed appDfuEnv (List.replicate 4096 0)
          (transferRun appDfuEnv (List.replicate 4096 0) (transferStart appDfuEnv (fun _ => 0xFF) (List.replicate 4096 0))
            done)) ∧
      ∃ count sys, transferRun appDfuEnv (List.replicate 4096 0) (transferStart appDfuEnv (fun _ => 0xFF)
          (List.replicate 4096 0)) (List.replicate count (.answer 0)) = sys ∧
        Completed appDfuEnv (List.replicate 4096 0) sys ∧
        sys.device.writes = imageBlocks (List.replicate 4096 0) (blockCount (List.replicate 4096 (0 : UInt8)).length) ∧
        (∀ write ∈ sys.device.writes, InsideErased sys.device.erased write) ∧
        ((imageRequests sys.device.sent).map Prod.fst).head? = some 0 ∧
        ((imageRequests sys.device.sent).map Prod.fst).IsChain
          (fun a b => b = a ∨ b = a + chunkLength appDfuEnv.mtu (List.replicate 4096 (0 : UInt8)).length a) ∧
        ((imageRequests sys.device.sent).map Prod.fst).getLast? = some sys.device.reqFileAddr ∧
        sys.device.reqFileAddr + chunkLength appDfuEnv.mtu (List.replicate 4096 (0 : UInt8)).length sys.device.reqFileAddr =
          (List.replicate 4096 (0 : UInt8)).length := by
  have nonempty : 0 < (List.replicate 4096 (0 : UInt8)).length := by rw [List.length_replicate]; decide
  have fits : (List.replicate 4096 (0 : UInt8)).length ≤ appDfuEnv.partitionSize := by
    rw [List.length_replicate]
    decide
  exact ⟨appDfuEnv_lawful, nonempty, fits, transferStart_completes appDfuEnv_lawful (fun _ => 0xFF) nonempty fits⟩

/-! ## A retried request answered twice -/

section Retry

variable {env : DfuEnv} {file : List UInt8} {sys : DfuSystem}

/-- The wait timer expires before the app answers: DFU_RETRY_MAX_COUNT is not reached, so the retry work is
submitted, and it sends the current request once more. -/
theorem Waiting.retried (waiting : Waiting env file sys) :
    Transferring env file (transferRun env file sys [.waitTimerExpired, .work .retry]) ∧
      (transferRun env file sys [.waitTimerExpired, .work .retry]).device.reqFileAddr = sys.device.reqFileAddr ∧
      (transferRun env file sys [.waitTimerExpired, .work .retry]).pending =
        [currentRequest env file sys.device, currentRequest env file sys.device] := by
  obtain ⟨d, pending⟩ := sys
  have running : d.rebooted = false := waiting.transferring.running
  have timer : d.waitTimer = true := waiting.timer
  have fresh : d.repeatReqCount = 0 := waiting.fresh
  have noRetry : d.retryWork = false := waiting.noRetry
  have size : d.fwCopySize = file.length := waiting.transferring.size
  have offset : d.bufOffset = d.reqFileAddr % dfuBufferSize := waiting.transferring.offset
  have only : pending = [currentRequest env file d] := waiting.pending
  have expired : transferStep env file ⟨d, pending⟩ .waitTimerExpired =
      ⟨{ d with waitTimer := false, repeatReqCount := 1, retryWork := true }, pending⟩ := by
    simp [transferStep, DfuSystem.deliver, dfuStep, running, timer, dfuTimerWaitCallback, fresh]
  have resent : transferStep env file ⟨{ d with waitTimer := false, repeatReqCount := 1, retryWork := true }, pending⟩
      (.work .retry) =
      ⟨{ d with
          waitTimer := false
          repeatReqCount := 1
          sent := d.sent ++ [.imageReq d.reqFileAddr (requestSize env.mtu file.length d.reqFileAddr)] },
        pending ++ [currentRequest env file d]⟩ := by
    simp [transferStep, DfuSystem.deliver, dfuStep, running, dfuRetryWorkHandler, jimiDfuImageDownReq,
      myBleDfuSendResponse, nextPktSize, requestSize, size, offset, noRetry, currentRequest]
  have inv := waiting.transferring.waitTimerExpired.retry
  have run : transferRun env file ⟨d, pending⟩ [.waitTimerExpired, .work .retry] =
      transferStep env file (transferStep env file ⟨d, pending⟩ .waitTimerExpired) (.work .retry) := rfl
  rw [expired, resent] at inv
  rw [run, expired, resent]
  exact ⟨inv, rfl, by rw [only]; rfl⟩

/-- After the transfer completed, the app answers the last request once more: s_req_file_addr still names
it, so the answer passes every check of jimi_dfu_write_image, and the device calls flash_write on one more
block, past the image, and reports the end of the file again. -/
theorem Completed.answer_again (lawful : env.Lawful) {d : DfuState} {rest : List (Nat × Nat)}
    (done : Completed env file ⟨d, currentRequest env file d :: rest⟩) :
    ∃ bytes code, bytes.length = dfuBufferSize ∧
      (transferStep env file ⟨d, currentRequest env file d :: rest⟩ (.answer 0)).device.writes =
        d.writes ++ [(d.blockAddr, bytes)] ∧
      (transferStep env file ⟨d, currentRequest env file d :: rest⟩ (.answer 0)).device.sent =
        d.sent ++ [.fileEnd code] ∧
      (transferStep env file ⟨d, currentRequest env file d :: rest⟩ (.answer 0)).device.endFlag ∧
      (transferStep env file ⟨d, currentRequest env file d :: rest⟩ (.answer 0)).device.erased = d.erased ∧
      (transferStep env file ⟨d, currentRequest env file d :: rest⟩ (.answer 0)).pending = rest := by
  have running : d.rebooted = false := done.running
  have small := done.small
  have final : d.reqFileAddr + chunkLength env.mtu file.length d.reqFileAddr = file.length := done.final
  have step := dfuStep_current env file running (by omega) rfl
  obtain ⟨bytes, code, length, writes, sent, ended, erased⟩ := done.store_again lawful rfl rfl
  rw [transferStep_answer List.getElem?_cons_zero, List.eraseIdx_zero, List.tail_cons, currentRequest,
    deliver_eq _ (by rw [step, sent]), step, imageRequests_fileEnd, List.append_nil]
  exact ⟨bytes, code, length, writes, sent, ended, erased, rfl⟩

theorem transferStart_retried_last (lawful : env.Lawful) (flash : Nat → UInt8) (nonempty : 0 < file.length)
    (fits : file.length ≤ env.partitionSize) :
    ∃ count completed, transferRun env file (transferStart env flash file)
        (List.replicate count (.answer 0) ++ [.waitTimerExpired, .work .retry, .answer 0]) = completed ∧
      Completed env file completed ∧ completed.pending = [currentRequest env file completed.device] := by
  obtain ⟨count, lastWait, reached, waiting, last⟩ :=
    (transferStart_waiting lawful flash nonempty fits).reaches_last lawful
  obtain ⟨inv, sameAddr, twice⟩ := waiting.retried
  generalize retriedDef : transferRun env file lastWait [.waitTimerExpired, .work .retry] = retried
    at inv sameAddr twice
  obtain ⟨d, pending⟩ := retried
  dsimp only at sameAddr twice
  have current : currentRequest env file lastWait.device = currentRequest env file d := by
    rw [currentRequest, currentRequest, sameAddr]
  rw [current] at twice
  rw [← sameAddr] at last
  subst twice
  obtain ⟨done, rest, addr⟩ := inv.answer_head_last lawful last
  have split : (List.replicate count (.answer 0) ++ [.waitTimerExpired, .work .retry, .answer 0] : List TransferEvent) =
      List.replicate count (.answer 0) ++ [.waitTimerExpired, .work .retry] ++ [.answer 0] := by
    simp
  refine ⟨count, _, ?_, done, ?_⟩
  · rw [split, transferRun_append, transferRun_append, reached, retriedDef]
    rfl
  · rw [rest]
    simp only [currentRequest] at addr ⊢
    rw [addr]

theorem transferRun_retried_last_fragment_flushes_twice (env : DfuEnv) (lawful : env.Lawful) (flash : Nat → UInt8)
    (file : List UInt8) (nonempty : 0 < file.length) (fits : file.length ≤ env.partitionSize) :
    ∃ count final,
      transferRun env file (transferStart env flash file)
          (List.replicate count (.answer 0) ++ [.waitTimerExpired, .work .retry, .answer 0, .answer 0]) = final ∧
        final.pending = [] ∧ final.device.endFlag = true ∧
        final.device.writes.length = blockCount file.length + 1 ∧
        final.device.writes.getLast?.map Prod.fst = some (blockCount file.length * dfuBufferSize) ∧
        (file.length % flashSectorSize = 0 →
          ∃ write ∈ final.device.writes, ¬InsideErased final.device.erased write) := by
  obtain ⟨count, ⟨d, pending⟩, reached, done, only⟩ := transferStart_retried_last lawful flash nonempty fits
  dsimp only at only
  subst only
  have written : d.writes = imageBlocks file (blockCount file.length) := done.written
  have block : d.blockAddr = blockCount file.length * dfuBufferSize := done.block
  have erased : d.erased = jimiDfuFlashEraseLoop 0 file.length := done.erased
  obtain ⟨bytes, code, length, writes, -, ended, erasedAgain, answered⟩ := done.answer_again lawful
  have split : (List.replicate count (.answer 0) ++ [.waitTimerExpired, .work .retry, .answer 0, .answer 0] :
      List TransferEvent) =
      List.replicate count (.answer 0) ++ [.waitTimerExpired, .work .retry, .answer 0] ++ [.answer 0] := by
    simp
  refine ⟨count, transferStep env file ⟨d, [currentRequest env file d]⟩ (.answer 0),
    by rw [split, transferRun_append, reached]; rfl, answered, ended, by simp [writes, written],
    by simp [writes, block], fun boundary => ⟨(d.blockAddr, bytes), by simp [writes], ?_⟩⟩
  -- the extra block starts where the image's blocks end, at or past the end of the erased sectors
  have past : file.length ≤ d.blockAddr := by
    rw [block]
    simp only [blockCount, dfuBufferSize]
    omega
  rw [erasedAgain, erased]
  exact not_insideErased_of_end boundary past (by rw [length]; decide)

theorem transferRun_retried_last_fragment_flushes_twice_at_sector :
    appDfuEnv.Lawful ∧ 0 < (List.replicate 4096 (0 : UInt8)).length ∧
      (List.replicate 4096 (0 : UInt8)).length ≤ appDfuEnv.partitionSize ∧
      ∃ count final,
        transferRun appDfuEnv (List.replicate 4096 0)
            (transferStart appDfuEnv (fun _ => 0xFF) (List.replicate 4096 0))
            (List.replicate count (.answer 0) ++ [.waitTimerExpired, .work .retry, .answer 0, .answer 0]) = final ∧
          final.pending = [] ∧ final.device.endFlag = true ∧ final.device.writes.length = 5 ∧
          ∃ write ∈ final.device.writes, ¬InsideErased final.device.erased write := by
  have nonempty : 0 < (List.replicate 4096 (0 : UInt8)).length := by rw [List.length_replicate]; decide
  have fits : (List.replicate 4096 (0 : UInt8)).length ≤ appDfuEnv.partitionSize := by
    rw [List.length_replicate]
    decide
  obtain ⟨count, final, run, answered, ended, flushes, -, outside⟩ :=
    transferRun_retried_last_fragment_flushes_twice appDfuEnv appDfuEnv_lawful (fun _ => 0xFF)
      (List.replicate 4096 0) nonempty fits
  refine ⟨appDfuEnv_lawful, nonempty, fits, count, final, run, answered, ended,
    by rw [flushes, List.length_replicate]; decide, outside (by rw [List.length_replicate]; decide)⟩

end Retry

end Jimi
