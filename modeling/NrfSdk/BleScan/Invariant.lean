import NrfSdk.BleScan.Scanner

/-! What every run of the scan module keeps: the tables well formed, the queues within their depth, the
upload's item number within its phase, an upload and a scan never at once, and the module counting itself
scanning only while the controller scans. One lemma per function of the module, then one per event, then
the run. -/

namespace BleScan

/-- The invariant of the scan module. -/
structure ScannerInv (s : Scanner) : Prop where
  prefixes : PrefixTableWf s.prefixes
  cache : s.cache.Wf
  upload : UploaderWf s.upload
  macList : MacListWf s.macList
  tagQueue : s.tagQueue.length ≤ msgqMaxMsgs
  tranQueue : s.tranQueue.length ≤ msgqMaxMsgs
  radio : s.upload.scanState = .scanning → s.btScanning = true
  modeOff : s.mode = .off → s.upload.scanState ≠ .scanning

/-! ## The tables grow only by what the handlers add -/

theorem length_le_tagScanResultSave (items : List TagScanResult) (result : TagScanResult) :
    items.length ≤ (tagScanResultSave items result).length := by
  unfold tagScanResultSave
  split
  · simp
  · split_ifs
    · simp
    · split
      · exact le_refl _
      · dsimp only
        split_ifs <;> simp

theorem length_le_tranMacDataHandle (items : List TranMacResultItem) (msg : TranMacResultItem) :
    items.length ≤ (tranMacDataHandle items msg).length := by
  unfold tranMacDataHandle
  by_cases empty : msg.advData.length = 0
  · rw [if_pos empty]
  · rw [if_neg empty]
    split
    · simp
    · split_ifs <;> simp

theorem SeqWf.grow {u v : Uploader} (wf : SeqWf u) (phase : v.uploadState = u.uploadState) (seq : v.seq = u.seq)
    (results : u.results.length ≤ v.results.length) (macs : u.tranMacs.length ≤ v.tranMacs.length) : SeqWf v := by
  unfold SeqWf at wf ⊢
  rw [phase, seq]
  split <;> split at wf <;> simp_all <;> omega

/-! ## The two queues -/

theorem kMsgqPut_length {α : Type} {queue queue' : List α} {msg : α} (put : kMsgqPut queue msg = some queue') :
    queue'.length ≤ msgqMaxMsgs := by
  unfold kMsgqPut at put
  split_ifs at put with room
  cases put
  simp only [List.length_append, List.length_singleton]
  omega

theorem tranMacRecv_frame (s : Scanner) (addr : BtAddrLe) (buf : List UInt8) :
    ∃ queue, tranMacRecv s addr buf = { s with tranQueue := queue } ∧
      (s.tranQueue.length ≤ msgqMaxMsgs → queue.length ≤ msgqMaxMsgs) := by
  unfold tranMacRecv
  split_ifs
  · split
    next queue put => exact ⟨queue, rfl, fun _ => kMsgqPut_length put⟩
    next => exact ⟨s.tranQueue, rfl, id⟩
  · exact ⟨s.tranQueue, rfl, id⟩

theorem scanRecvCb_frame (s : Scanner) (addr : BtAddrLe) (rssi : Int) (advType : UInt8) (buf : List UInt8) :
    ∃ tagQueue tranQueue, scanRecvCb s addr rssi advType buf = { s with tagQueue := tagQueue, tranQueue := tranQueue } ∧
      (s.tagQueue.length ≤ msgqMaxMsgs → tagQueue.length ≤ msgqMaxMsgs) ∧
      (s.tranQueue.length ≤ msgqMaxMsgs → tranQueue.length ≤ msgqMaxMsgs) := by
  unfold scanRecvCb
  split_ifs
  · exact ⟨s.tagQueue, s.tranQueue, rfl, id, id⟩
  · dsimp only
    split
    · split
      · exact ⟨s.tagQueue, s.tranQueue, rfl, id, id⟩
      · next queue put =>
        obtain ⟨tranQueue, recv, bound⟩ := tranMacRecv_frame { s with tagQueue := queue } addr buf
        exact ⟨queue, tranQueue, recv, fun _ => kMsgqPut_length put, bound⟩
    · obtain ⟨tranQueue, recv, bound⟩ := tranMacRecv_frame s addr buf
      exact ⟨s.tagQueue, tranQueue, recv, id, bound⟩
  · dsimp only
    split
    · split
      · next queue put => exact ⟨queue, s.tranQueue, rfl, fun _ => kMsgqPut_length put, id⟩
      · exact ⟨s.tagQueue, s.tranQueue, rfl, id, id⟩
    · exact ⟨s.tagQueue, s.tranQueue, rfl, id, id⟩

/-! ## The drains -/

theorem tagScanDataHandle_prefixes (tables : ScanTables) (msg : TagScanProcessMsg) :
    (tagScanDataHandle tables msg).prefixes = tables.prefixes := by
  unfold tagScanDataHandle
  split_ifs <;> rfl

theorem tagScanDataHandle_wf {tables : ScanTables} (cacheWf : tables.cache.Wf) (resultsWf : TagTableWf tables.results)
    (msg : TagScanProcessMsg) :
    (tagScanDataHandle tables msg).cache.Wf ∧ TagTableWf (tagScanDataHandle tables msg).results ∧
      tables.results.length ≤ (tagScanDataHandle tables msg).results.length := by
  unfold tagScanDataHandle
  split_ifs
  · exact ⟨cacheWf.store _, resultsWf, le_refl _⟩
  · exact ⟨cacheWf.release _, resultsWf, le_refl _⟩
  · exact ⟨cacheWf.release _, resultsWf.save _, length_le_tagScanResultSave _ _⟩

theorem tagScanDataHandle_foldl (queue : List TagScanProcessMsg) {tables : ScanTables} (cacheWf : tables.cache.Wf)
    (resultsWf : TagTableWf tables.results) :
    (queue.foldl tagScanDataHandle tables).prefixes = tables.prefixes ∧
      (queue.foldl tagScanDataHandle tables).cache.Wf ∧ TagTableWf (queue.foldl tagScanDataHandle tables).results ∧
      tables.results.length ≤ (queue.foldl tagScanDataHandle tables).results.length := by
  induction queue generalizing tables with
  | nil => exact ⟨rfl, cacheWf, resultsWf, le_refl _⟩
  | cons msg rest ih =>
    obtain ⟨cacheWf', resultsWf', grown⟩ := tagScanDataHandle_wf cacheWf resultsWf msg
    obtain ⟨prefixes, cacheAfter, resultsAfter, grownAfter⟩ := ih cacheWf' resultsWf'
    exact ⟨prefixes.trans (tagScanDataHandle_prefixes _ _), cacheAfter, resultsAfter, grown.trans grownAfter⟩

theorem tranMacDataHandle_foldl (queue : List TranMacResultItem) {items : List TranMacResultItem}
    (wf : TranMacTableWf items) :
    TranMacTableWf (queue.foldl tranMacDataHandle items) ∧ items.length ≤ (queue.foldl tranMacDataHandle items).length := by
  induction queue generalizing items with
  | nil => exact ⟨wf, le_refl _⟩
  | cons msg rest ih =>
    obtain ⟨wfAfter, grown⟩ := ih (wf.handle msg)
    exact ⟨wfAfter, (length_le_tranMacDataHandle items msg).trans grown⟩

/-! ## One lemma per function -/

section Functions

variable {api : BtLeScanApi} {s : Scanner}

theorem ScannerInv.recv (inv : ScannerInv s) (addr : BtAddrLe) (rssi : Int) (advType : UInt8) (buf : List UInt8) :
    ScannerInv (scanRecvCb s addr rssi advType buf) := by
  obtain ⟨tagQueue, tranQueue, recv, tagBound, tranBound⟩ := scanRecvCb_frame s addr rssi advType buf
  rw [recv]
  exact { inv with tagQueue := tagBound inv.tagQueue, tranQueue := tranBound inv.tranQueue }

theorem ScannerInv.tagScanProcess (inv : ScannerInv s) : ScannerInv (tagScanProcess s) := by
  obtain ⟨prefixes, cacheWf, resultsWf, grown⟩ :=
    @tagScanDataHandle_foldl s.tagQueue ⟨s.prefixes, s.cache, s.upload.results⟩ inv.cache inv.upload.results
  exact { inv with
    cache := cacheWf
    upload := { inv.upload with
      results := resultsWf
      seq := inv.upload.seq.grow rfl rfl grown (le_refl _) }
    tagQueue := Nat.zero_le _ }

theorem ScannerInv.tranMacProcess (inv : ScannerInv s) : ScannerInv (tranMacProcess s) := by
  obtain ⟨wf, grown⟩ := tranMacDataHandle_foldl s.tranQueue inv.upload.tranMacs
  exact { inv with
    upload := { inv.upload with
      tranMacs := wf
      seq := inv.upload.seq.grow rfl rfl (le_refl _) grown }
    tranQueue := Nat.zero_le _ }

theorem ScannerInv.idle_of_not_waiting (inv : ScannerInv s) (notWaiting : s.upload.scanState ≠ .waitingUpload) :
    s.upload.uploadState = .idle :=
  not_not.mp fun running => notWaiting (inv.upload.waiting.mp running)

/-- A scan starts only where no upload is waited for. -/
theorem ScannerInv.start (inv : ScannerInv s) (notWaiting : s.upload.scanState ≠ .waitingUpload) :
    ScannerInv (scanStartInternal api s).1 := by
  unfold scanStartInternal
  dsimp only
  split_ifs with off scanning failed
  · exact inv
  · exact inv
  · exact inv
  · have idle := inv.idle_of_not_waiting notWaiting
    exact { inv with
      upload := { inv.upload with waiting := by simp [idle] }
      radio := fun _ => rfl
      modeOff := fun isOff => absurd isOff off }

theorem ScannerInv.stop (inv : ScannerInv s) : ScannerInv (scanStopInternal api s).1 := by
  unfold scanStopInternal
  dsimp only
  split_ifs with notScanning failed
  · exact inv
  · exact inv
  · have scanning : s.upload.scanState = .scanning := not_not.mp notScanning
    have idle := inv.idle_of_not_waiting (by rw [scanning]; decide)
    exact { inv with
      cache := AdvCache.wf_empty
      upload := { inv.upload with waiting := by simp [idle] }
      radio := fun isScanning => nomatch isScanning
      modeOff := fun _ => by simp }

theorem scanStopInternal_waiting :
    (scanStopInternal api s).1.upload.scanState = .waitingUpload ↔ s.upload.scanState = .waitingUpload := by
  unfold scanStopInternal
  dsimp only
  split_ifs with notScanning <;> simp_all

theorem ScannerInv.uploadData (inv : ScannerInv s) : ScannerInv s.uploadData.1 :=
  { inv with
    upload := inv.upload.upload
    radio := fun scanning => inv.radio (tagMacScanUploadData_scanning_iff.mp scanning)
    modeOff := fun isOff scanning => inv.modeOff isOff (tagMacScanUploadData_scanning_iff.mp scanning) }

theorem ScannerInv.trigger (inv : ScannerInv s) (notWaiting : s.upload.scanState ≠ .waitingUpload) :
    ScannerInv (scanTriggerUpload api s).1 := by
  unfold scanTriggerUpload
  -- the scan is stopped first, if one runs; either way nothing waits for an upload
  have stopped : ScannerInv (if s.upload.scanState = .scanning then (scanStopInternal api s).1 else s) ∧
      (if s.upload.scanState = .scanning then (scanStopInternal api s).1 else s).upload.scanState ≠ .waitingUpload := by
    split_ifs
    · exact ⟨inv.stop, fun waiting => notWaiting (scanStopInternal_waiting.mp waiting)⟩
    · exact ⟨inv, notWaiting⟩
  generalize (if s.upload.scanState = .scanning then (scanStopInternal api s).1 else s) = t at stopped ⊢
  obtain ⟨invT, notWaitingT⟩ := stopped
  dsimp only
  split_ifs
  · have idle := invT.idle_of_not_waiting notWaitingT
    exact { invT with
      upload := { invT.upload with waiting := by simp [idle] }
      radio := fun isScanning => nomatch isScanning
      modeOff := fun _ => by simp }
  · exact invT.uploadData

theorem ScannerInv.reset (inv : ScannerInv s) (mode : ScanMode) : ScannerInv { s with mode := mode, upload := uploadDone } :=
  { inv with
    upload := ⟨tagTableWf_nil, tranMacTableWf_nil, rfl, by simp [uploadDone]⟩
    radio := fun isScanning => nomatch isScanning
    modeOff := fun _ isScanning => nomatch isScanning }

theorem ScannerInv.setConfig (inv : ScannerInv s) (mode : ScanMode) : ScannerInv (scanSetConfigInternal api s mode) := by
  have reset : ScannerInv { (scanStopInternal api s).1 with mode := mode, upload := uploadDone } :=
    inv.stop.reset mode
  unfold scanSetConfigInternal
  dsimp only
  split
  · exact reset.start (by simp [uploadDone])
  · exact reset.start (by simp [uploadDone])
  · exact reset

theorem ScannerInv.msg (inv : ScannerInv s) (m : ScanMsg) : ScannerInv (myScanMsgHandler api s m).1 := by
  cases m
  case tagScanProcess => exact inv.tagScanProcess
  case tranMacProcess => exact inv.tranMacProcess
  case scanInterval =>
    dsimp only [myScanMsgHandler]
    split_ifs with due
    · exact inv.start (by rw [due.2]; decide)
    · exact inv
  case scanLength =>
    have stopped : ScannerInv (scanStopInternal api s).1 := inv.stop
    dsimp only [myScanMsgHandler]
    split_ifs
    · exact stopped
    · exact stopped.uploadData
    · exact stopped
    · exact stopped
  case scanUpload =>
    dsimp only [myScanMsgHandler]
    split_ifs with due waiting
    · exact inv
    · exact inv.trigger waiting
    · exact inv
  case uploadWakeup =>
    dsimp only [myScanMsgHandler]
    split
    · split_ifs with idle
      · exact inv.start (by rw [idle]; decide)
      · exact inv
    -- modes 2 and 3: a running scan is stopped before the upload
    all_goals first
      | exact inv
      | split_ifs <;> first | exact inv | exact inv.stop | exact inv.stop.uploadData | exact inv.uploadData

end Functions

/-! ## Runs -/

theorem ScannerInv.step {api : BtLeScanApi} {s : Scanner} (inv : ScannerInv s) (e : ScanEvent) : ScannerInv (scannerStep api s e).1 := by
  cases e with
  | recv addr rssi advType buf =>
    show ScannerInv (if s.btScanning then scanRecvCb s addr rssi advType buf else s)
    split_ifs
    · exact inv.recv addr rssi advType buf
    · exact inv
  | msg m => exact inv.msg m
  | uploadAck => exact inv.uploadData
  | clearTagMacinfo => exact inv.reset s.mode
  | setConfig mode => exact inv.setConfig mode
  | tranMacAdd addr => exact { inv with macList := inv.macList.add addr }
  | tranMacDel addr => exact { inv with macList := inv.macList.del addr }
  | tranMacDelAll => exact { inv with macList := ⟨Nat.zero_le _, List.nodup_nil⟩ }

theorem ScannerInv.run {api : BtLeScanApi} {s : Scanner} (inv : ScannerInv s) (evs : List ScanEvent) : ScannerInv (scannerRun api s evs).1 := by
  induction evs generalizing s with
  | nil => exact inv
  | cons e rest ih => exact ih (inv.step e)

theorem ScannerInv.init (api : BtLeScanApi) (mode : ScanMode) {macList : List BtAddrLe} (listWf : MacListWf macList) :
    ScannerInv (myScanInit api mode macList) := by
  unfold myScanInit
  apply ScannerInv.setConfig
  exact ⟨prefixTableWf_init, AdvCache.wf_empty, ⟨tagTableWf_nil, tranMacTableWf_nil, rfl, by simp⟩, listWf,
    Nat.zero_le _, Nat.zero_le _, fun isScanning => (nomatch isScanning), fun _ isScanning => nomatch isScanning⟩

/-- s_tag_macinfo_seq never passes the size of the result table, so the uint8_t never wraps. -/
theorem ScannerInv.seq_le {s : Scanner} (inv : ScannerInv s) : s.upload.seq ≤ tagResultMaxNum := by
  have seqWf := inv.upload.seq
  have tags := inv.upload.results.length_le
  have macs := inv.upload.tranMacs.length_le
  unfold SeqWf at seqWf
  unfold tranMacMaxNum at macs
  unfold tagResultMaxNum at tags ⊢
  split at seqWf <;> omega

/-- Every state the scan module reaches from my_scan_init, over any events in any order, keeps the
invariant; s_tag_macinfo_seq in particular stays within the 50 results, so the uint8_t never wraps. -/
theorem scannerRun_inv (api : BtLeScanApi) (mode : ScanMode) (macList : List BtAddrLe) (listWf : MacListWf macList)
    (evs : List ScanEvent) :
    ScannerInv (scannerRun api (myScanInit api mode macList) evs).1 ∧
      (scannerRun api (myScanInit api mode macList) evs).1.upload.seq ≤ tagResultMaxNum :=
  ⟨(ScannerInv.init api mode listWf).run evs, ((ScannerInv.init api mode listWf).run evs).seq_le⟩

theorem scannerRun_inv_period_upload :
    ScannerInv (scannerRun zephyrScanApi (myScanInit zephyrScanApi .periodUpload [])
        [.msg .scanInterval, .msg .scanUpload, .uploadAck]).1 ∧
      (scannerRun zephyrScanApi (myScanInit zephyrScanApi .periodUpload [])
        [.msg .scanInterval, .msg .scanUpload, .uploadAck]).1.upload.seq ≤ tagResultMaxNum :=
  scannerRun_inv zephyrScanApi .periodUpload [] ⟨by decide, List.nodup_nil⟩
    [.msg .scanInterval, .msg .scanUpload, .uploadAck]

end BleScan
