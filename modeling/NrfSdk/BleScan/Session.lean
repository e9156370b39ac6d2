import NrfSdk.BleScan.Invariant

/-! An upload among the other events of the scan module. The upload reads the two result tables line by line
as the acknowledgements come, so what it sends depends on what else reaches the tables meanwhile: with the
controller off and nothing queued, nothing does, and the upload sends exactly its lines whatever events come
between the acknowledgements; a scan response still queued when TAG START is sent is added to the table and
sent as one tag more than TAG START announced. Apart from the upload, clear_tag_macinfo sets the scan state
idle without stopping the controller, which nothing afterwards stops. -/

namespace BleScan

/-- A scanner in which nothing can reach the tables: the controller is off and both queues are empty. -/
structure Settled (s : Scanner) : Prop where
  radioOff : s.btScanning = false
  tagQueue : s.tagQueue = []
  tranQueue : s.tranQueue = []

section Frame

variable {api : BtLeScanApi} {s : Scanner}

theorem tagScanProcess_nil (empty : s.tagQueue = []) : tagScanProcess s = s := by
  obtain ⟨mode, prefixes, cache, upload, macList, tagQueue, tranQueue, btScanning⟩ := s
  dsimp only at empty
  subst empty
  rfl

theorem tranMacProcess_nil (empty : s.tranQueue = []) : tranMacProcess s = s := by
  obtain ⟨mode, prefixes, cache, upload, macList, tagQueue, tranQueue, btScanning⟩ := s
  dsimp only at empty
  subst empty
  rfl

theorem scanStopInternal_of_not_scanning (notScanning : s.upload.scanState ≠ .scanning) :
    (scanStopInternal api s).1 = s := by
  simp [scanStopInternal, notScanning]

theorem myScanMsgHandler_waiting (settled : Settled s) (waiting : s.upload.scanState = .waitingUpload)
    (m : ScanMsg) : myScanMsgHandler api s m = (s, []) := by
  have stopped : (scanStopInternal api s).1 = s := scanStopInternal_of_not_scanning (by rw [waiting]; decide)
  cases m
  case tagScanProcess => simp [myScanMsgHandler, tagScanProcess_nil settled.tagQueue]
  case tranMacProcess => simp [myScanMsgHandler, tranMacProcess_nil settled.tranQueue]
  case scanInterval => simp [myScanMsgHandler, waiting]
  case scanLength => simp [myScanMsgHandler, stopped, waiting]
  case scanUpload => simp [myScanMsgHandler, waiting]
  case uploadWakeup =>
    simp only [myScanMsgHandler]
    split <;> simp [waiting]

theorem scannerStep_quiet (settled : Settled s) (waiting : s.upload.scanState = .waitingUpload) {e : ScanEvent}
    (notAck : e ≠ .uploadAck) (keeps : e.aborts = false) :
    (scannerStep api s e).2 = [] ∧ (scannerStep api s e).1.upload = s.upload ∧ Settled (scannerStep api s e).1 := by
  cases e
  case recv addr rssi advType buf => simp [scannerStep, settled.radioOff, settled]
  case msg m => simp [scannerStep, myScanMsgHandler_waiting settled waiting m, settled]
  case uploadAck => exact absurd rfl notAck
  case clearTagMacinfo => simp [ScanEvent.aborts] at keeps
  case setConfig mode => simp [ScanEvent.aborts] at keeps
  all_goals exact ⟨rfl, rfl, settled.radioOff, settled.tagQueue, settled.tranQueue⟩

end Frame

/-- An upload under way, in a scanner where the controller is off and nothing is queued, over any events
without a reset: the lines sent are the lines the upload still has to send, as many of them as there were
acknowledgements, whatever the other events and their order. -/
theorem scannerRun_sends_session (api : BtLeScanApi) (s : Scanner) (evs : List ScanEvent) (wf : SessionWf s.upload)
    (waiting : s.upload.scanState = .waitingUpload) (settled : Settled s) (noAbort : ∀ e ∈ evs, e.aborts = false) :
    (scannerRun api s evs).2.take (sessionLines s.upload).length = (sessionLines s.upload).take (evs.count .uploadAck) := by
  induction evs generalizing s with
  | nil => simp [scannerRun]
  | cons e rest ih =>
    have restKeeps : ∀ e ∈ rest, e.aborts = false := fun e member => noAbort e (List.mem_cons_of_mem _ member)
    rw [scannerRun_cons, List.count_cons]
    by_cases ack : e = .uploadAck
    · subst ack
      by_cases finished : sessionLines s.upload = []
      · simp [finished]
      -- the acknowledgement sends the next line, and the upload goes on waiting for the next one
      obtain ⟨line, sends⟩ := tagMacScanUploadData_one_line wf (by rw [waiting]; decide) finished
      have split := tagMacScanUploadData_lines wf (by rw [waiting]; decide)
      rw [sends] at split
      have waiting' := tagMacScanUploadData_keeps_waiting waiting
        (tagMacScanUploadData_stays wf (by rw [waiting]; decide) finished)
      have settled' : Settled s.uploadData.1 := ⟨settled.radioOff, settled.tagQueue, settled.tranQueue⟩
      have rest' := ih s.uploadData.1 wf.upload waiting' settled' restKeeps
      simp only [scannerStep, Scanner.uploadData] at rest' ⊢
      rw [sends, ← split]
      simp only [List.singleton_append, List.length_cons, List.take_succ_cons, beq_self_eq_true, if_true, rest']
    · obtain ⟨silent, same, settled'⟩ := scannerStep_quiet settled waiting ack (noAbort e List.mem_cons_self)
      have rest' := ih (scannerStep api s e).1 (same ▸ wf) (same ▸ waiting) settled' restKeeps
      rw [same] at rest'
      rw [silent, List.nil_append, rest']
      simp [ack]

theorem scannerRun_sends_session_ack :
    ((scannerRun zephyrScanApi ⟨.periodUpload, tagPrefixTableInit, AdvCache.empty,
        ⟨.waitingUpload, .tagStart, 0, [⟨zeroAddr, -52, [0x50, 0x45, 0x54], [], [], 80⟩], []⟩, [], [], [], false⟩
        [.msg .scanInterval, .uploadAck, .msg .scanUpload]).2.take
      (sessionLines ⟨.waitingUpload, .tagStart, 0, [⟨zeroAddr, -52, [0x50, 0x45, 0x54], [], [], 80⟩], []⟩).length) =
      (sessionLines ⟨.waitingUpload, .tagStart, 0, [⟨zeroAddr, -52, [0x50, 0x45, 0x54], [], [], 80⟩], []⟩).take
        ([ScanEvent.msg .scanInterval, .uploadAck, .msg .scanUpload].count .uploadAck) :=
  scannerRun_sends_session zephyrScanApi ⟨.periodUpload, tagPrefixTableInit, AdvCache.empty,
      ⟨.waitingUpload, .tagStart, 0, [⟨zeroAddr, -52, [0x50, 0x45, 0x54], [], [], 80⟩], []⟩, [], [], [], false⟩
    [.msg .scanInterval, .uploadAck, .msg .scanUpload] ⟨by simp [SeqWf], by simp [SentCleared]⟩ rfl ⟨rfl, rfl, rfl⟩
    (by decide)

/-! ## A scan response queued behind TAG START -/

section Queued

variable {api : BtLeScanApi} {s : Scanner}

theorem tagScanResultSave_of_absent {items : List TagScanResult} {result : TagScanResult}
    (absent : result.addr ∉ items.map (·.addr)) (room : items.length < tagResultMaxNum) :
    tagScanResultSave items result = items ++ [result] := by
  unfold tagScanResultSave
  rw [findIdx_addr_of_absent absent]
  exact if_pos room

theorem uploadData_start_tags (idle : s.upload.uploadState = .idle) (notScanning : s.upload.scanState ≠ .scanning)
    (tags : s.upload.results ≠ []) :
    s.uploadData = ({ s with upload := { s.upload with uploadState := .tagStart, scanState := .waitingUpload } },
      [tagLine (startText s.upload.results.length)]) := by
  have counted : s.upload.results.length ≠ 0 := by simpa using tags
  simp [Scanner.uploadData, tagMacScanUploadData, notScanning, idle, counted]

theorem tagScanProcess_appends {msg : TagScanProcessMsg} (queued : s.tagQueue = [msg])
    (response : msg.advType ≠ btGapAdvTypeAdvInd)
    (matched : tagNameMatch s.prefixes msg.result.name msg.result.name.length = true)
    (newAddr : msg.result.addr ∉ s.upload.results.map (·.addr)) (room : s.upload.results.length < tagResultMaxNum)
    (noAdv : s.cache.lookup msg.result.addr = none) :
    (tagScanProcess s).upload = { s.upload with results := s.upload.results ++ [msg.result] } := by
  have saved := @tagScanDataHandle_results_of_match ⟨s.prefixes, s.cache, s.upload.results⟩ msg response matched
  dsimp only at saved
  rw [noAdv, tagScanResultSave_of_absent newAddr room] at saved
  simp only [tagScanProcess, queued, List.foldl_cons, List.foldl_nil, saved]

theorem scannerRun_acks (k : Nat) (s : Scanner) :
    scannerRun api s (List.replicate k .uploadAck) = ({ s with upload := (uploadRun k s.upload).1 }, (uploadRun k s.upload).2) := by
  induction k generalizing s with
  | zero => rfl
  | succ k ih =>
    rw [List.replicate_succ, scannerRun_cons, uploadRun_succ]
    simp only [scannerStep, Scanner.uploadData, ih]

theorem length_restLines {α : Type} (itemLine : α × Nat → List Char) (endLine : List Char) (items : List α)
    (seq : Nat) : (restLines itemLine endLine items seq).length = items.length - seq + 1 := by
  simp [restLines]

end Queued

/-- TAG START counts the result table when the upload starts; a scan response still queued then, of a new
device whose name passes the filter, is saved by the next MY_MSG_TAG_SCAN_PROCESS and sent as tag n+1 of the
same upload, after TAG START announced n. -/
theorem scannerRun_sends_tag_past_count (api : BtLeScanApi) (s : Scanner) (msg : TagScanProcessMsg)
    (idle : s.upload.uploadState = .idle) (fresh : s.upload.seq = 0) (notScanning : s.upload.scanState ≠ .scanning)
    (tags : s.upload.results ≠ []) (queued : s.tagQueue = [msg]) (response : msg.advType ≠ btGapAdvTypeAdvInd)
    (matched : tagNameMatch s.prefixes msg.result.name msg.result.name.length = true)
    (newAddr : msg.result.addr ∉ s.upload.results.map (·.addr)) (room : s.upload.results.length < tagResultMaxNum)
    (noAdv : s.cache.lookup msg.result.addr = none) :
    (scannerRun api s (.uploadAck :: .msg .tagScanProcess :: List.replicate (s.upload.results.length + 2) .uploadAck)).2 =
      tagLine (startText s.upload.results.length) :: tagRest (s.upload.results ++ [msg.result]) 0 := by
  -- the first acknowledgement sends TAG START, the queued response then joins the table
  let started : Scanner := { s with upload := { s.upload with uploadState := .tagStart, scanState := .waitingUpload } }
  have step1 : scannerStep api s .uploadAck = (started, [tagLine (startText s.upload.results.length)]) :=
    uploadData_start_tags idle notScanning tags
  have step2 : scannerStep api started (.msg .tagScanProcess) = (tagScanProcess started, []) := rfl
  have appended : (tagScanProcess started).upload =
      ⟨.waitingUpload, .tagStart, s.upload.seq, s.upload.results ++ [msg.result], s.upload.tranMacs⟩ :=
    tagScanProcess_appends (s := started) queued response matched newAddr room noAdv
  have wf : SessionWf (tagScanProcess started).upload := by
    rw [appended]
    exact ⟨by simp [SeqWf, fresh], by simp [SentCleared]⟩
  have lines := uploadRun_lines (s.upload.results.length + 2) wf (by rw [appended]; simp)
  have rest : sessionLines (tagScanProcess started).upload =
      tagRest (s.upload.results ++ [msg.result]) 0 ++ macSession s.upload.tranMacs := by
    rw [appended]
    simp [sessionLines, fresh]
  have whole : (tagRest (s.upload.results ++ [msg.result]) 0).length = s.upload.results.length + 2 := by
    simp [tagRest, length_restLines]
  rw [scannerRun_cons, step1]
  dsimp only
  rw [scannerRun_cons, step2]
  dsimp only
  rw [scannerRun_acks]
  dsimp only
  rw [lines, rest, List.take_left' whole]
  rfl

theorem scannerRun_sends_tag_past_count_one :
    (scannerRun zephyrScanApi ⟨.periodUpload, tagPrefixTableInit, AdvCache.empty,
        ⟨.idle, .idle, 0, [⟨zeroAddr, -52, [0x50, 0x45, 0x54], [], [], 80⟩], []⟩,
        [], [⟨btGapAdvTypeScanRsp, ⟨⟨0, Vector.replicate 6 1⟩, -60, [0x50, 0x42, 0x37], [], [], 0⟩⟩], [], false⟩
        (.uploadAck :: .msg .tagScanProcess :: List.replicate 3 .uploadAck)).2 =
      tagLine (startText 1) ::
        tagRest [⟨zeroAddr, -52, [0x50, 0x45, 0x54], [], [], 80⟩,
          ⟨⟨0, Vector.replicate 6 1⟩, -60, [0x50, 0x42, 0x37], [], [], 0⟩] 0 :=
  scannerRun_sends_tag_past_count zephyrScanApi ⟨.periodUpload, tagPrefixTableInit, AdvCache.empty,
      ⟨.idle, .idle, 0, [⟨zeroAddr, -52, [0x50, 0x45, 0x54], [], [], 80⟩], []⟩,
      [], [⟨btGapAdvTypeScanRsp, ⟨⟨0, Vector.replicate 6 1⟩, -60, [0x50, 0x42, 0x37], [], [], 0⟩⟩], [], false⟩
    ⟨btGapAdvTypeScanRsp, ⟨⟨0, Vector.replicate 6 1⟩, -60, [0x50, 0x42, 0x37], [], [], 0⟩⟩
    rfl rfl (by decide) (List.cons_ne_nil _ _) rfl (by decide) (by decide) (by decide) (by decide) (by decide)

end BleScan
