import NrfSdk.BleScan.Session

/-! s_scan_config.state against the host. scan_start_internal sets SCANNING after a successful
bt_le_scan_start and scan_stop_internal calls bt_le_scan_stop only from SCANNING, so the two agree over every
run in which clear_tag_macinfo does not come, as long as the host's stop succeeds while it scans. That
function sets the state IDLE and leaves the host scanning, and from then on no call stops it, since every
stop finds the state not SCANNING, and no start succeeds: the host answers -EALREADY while it scans. -/

namespace BleScan

def Scanner.Synced (s : Scanner) : Prop := s.btScanning = true ↔ s.upload.scanState = .scanning

/-- The controller scans while the scan state says it does not. -/
def Scanner.Stranded (s : Scanner) : Prop := s.btScanning = true ∧ s.upload.scanState ≠ .scanning

section Functions

variable {api : BtLeScanApi} {s : Scanner}

theorem scanStartInternal_of_btScanning (documented : api.Documented) (radio : s.btScanning = true) :
    (scanStartInternal api s).1 = s := by
  -- the host answers -EALREADY to a start while it scans
  have refused : api.scanStart s.btScanning ≠ 0 := by
    rw [radio, documented.start_scanning]
    decide
  unfold scanStartInternal
  dsimp only
  split_ifs <;> simp_all

/-! ### A stranded scan stays stranded -/

theorem Scanner.Stranded.start (documented : api.Documented) (stranded : s.Stranded) :
    (scanStartInternal api s).1.Stranded := by
  rw [scanStartInternal_of_btScanning documented stranded.1]
  exact stranded

theorem Scanner.Stranded.uploadData (stranded : s.Stranded) : s.uploadData.1.Stranded :=
  ⟨stranded.1, fun scanning => stranded.2 (tagMacScanUploadData_scanning_iff.mp scanning)⟩

theorem Scanner.Stranded.setIdle (stranded : s.Stranded) :
    ({ s with upload := { s.upload with scanState := .idle } } : Scanner).Stranded :=
  ⟨stranded.1, by simp⟩

theorem Scanner.Stranded.trigger (stranded : s.Stranded) : (scanTriggerUpload api s).1.Stranded := by
  unfold scanTriggerUpload
  rw [if_neg stranded.2]
  dsimp only
  split_ifs
  · exact stranded.setIdle
  · exact stranded.uploadData

theorem Scanner.Stranded.msg (documented : api.Documented) (stranded : s.Stranded) (m : ScanMsg) :
    (myScanMsgHandler api s m).1.Stranded := by
  -- every stop finds the state not scanning, every start finds the host scanning
  have stopped : (scanStopInternal api s).1 = s := scanStopInternal_of_not_scanning stranded.2
  cases m
  case tagScanProcess => exact stranded
  case tranMacProcess => exact stranded
  case scanInterval =>
    dsimp only [myScanMsgHandler]
    split_ifs
    · exact stranded.start documented
    · exact stranded
  case scanLength =>
    dsimp only [myScanMsgHandler]
    rw [stopped]
    split_ifs
    all_goals first | exact stranded | exact stranded.uploadData
  case scanUpload =>
    dsimp only [myScanMsgHandler]
    split_ifs
    all_goals first | exact stranded | exact stranded.trigger
  case uploadWakeup =>
    dsimp only [myScanMsgHandler]
    split
    · split_ifs
      · exact stranded.start documented
      · exact stranded
    all_goals
      try rw [if_neg stranded.2]
      try split_ifs
      all_goals first | exact stranded | exact stranded.uploadData

theorem Scanner.Stranded.step (documented : api.Documented) (stranded : s.Stranded) (e : ScanEvent) :
    (scannerStep api s e).1.Stranded := by
  cases e with
  | recv addr rssi advType buf =>
    show (if s.btScanning then scanRecvCb s addr rssi advType buf else s).Stranded
    split_ifs
    · obtain ⟨tagQueue, tranQueue, recv, -, -⟩ := scanRecvCb_frame s addr rssi advType buf
      rw [recv]
      exact stranded
    · exact stranded
  | msg m => exact stranded.msg documented m
  | uploadAck => exact stranded.uploadData
  | clearTagMacinfo => exact ⟨stranded.1, by simp [scannerStep, clearTagMacinfo]⟩
  | setConfig mode =>
    show (scanSetConfigInternal api s mode).Stranded
    unfold scanSetConfigInternal
    rw [scanStopInternal_of_not_scanning stranded.2]
    dsimp only
    split
    all_goals first
      | exact ⟨stranded.1, by simp⟩
      | exact Scanner.Stranded.start documented ⟨stranded.1, by simp⟩
  | tranMacAdd addr => exact stranded
  | tranMacDel addr => exact stranded
  | tranMacDelAll => exact stranded

theorem Scanner.Stranded.run (documented : api.Documented) (stranded : s.Stranded) (evs : List ScanEvent) :
    (scannerRun api s evs).1.Stranded := by
  induction evs generalizing s with
  | nil => exact stranded
  | cons e rest ih => exact ih (stranded.step documented e)

/-! ### Without clear_tag_macinfo the two agree -/

theorem Scanner.Synced.start (synced : s.Synced) : (scanStartInternal api s).1.Synced := by
  unfold scanStartInternal
  dsimp only
  split_ifs
  · exact synced
  · exact synced
  · exact synced
  · simp [Scanner.Synced]

/-- A stop leaves the two agreeing and the state not scanning, where the host's stop succeeds. -/
theorem Scanner.Synced.stop (stops : api.scanStop true = 0) (synced : s.Synced) :
    (scanStopInternal api s).1.Synced ∧ (scanStopInternal api s).1.upload.scanState ≠ .scanning := by
  unfold scanStopInternal
  dsimp only
  split_ifs with notScanning failed
  · exact ⟨synced, notScanning⟩
  · -- a scanning state means a scanning host, whose stop succeeds
    have scanning := not_not.mp notScanning
    rw [synced.mpr scanning, stops] at failed
    exact absurd rfl failed
  · simp [Scanner.Synced]

theorem Scanner.Synced.uploadData (synced : s.Synced) : s.uploadData.1.Synced :=
  ⟨fun radio => tagMacScanUploadData_scanning_iff.mpr (synced.mp radio),
    fun scanning => synced.mpr (tagMacScanUploadData_scanning_iff.mp scanning)⟩

theorem Scanner.Synced.setIdle (synced : s.Synced) (notScanning : s.upload.scanState ≠ .scanning) :
    ({ s with upload := { s.upload with scanState := .idle } } : Scanner).Synced := by
  have radioOff : s.btScanning = false := by
    cases radio : s.btScanning
    · rfl
    · exact absurd (synced.mp radio) notScanning
  simp [Scanner.Synced, radioOff]

theorem Scanner.Synced.stopIfScanning (stops : api.scanStop true = 0) (synced : s.Synced) :
    (if s.upload.scanState = .scanning then (scanStopInternal api s).1 else s).Synced ∧
      (if s.upload.scanState = .scanning then (scanStopInternal api s).1 else s).upload.scanState ≠ .scanning := by
  split_ifs with scanning
  · exact synced.stop stops
  · exact ⟨synced, scanning⟩

theorem Scanner.Synced.trigger (stops : api.scanStop true = 0) (synced : s.Synced) :
    (scanTriggerUpload api s).1.Synced := by
  unfold scanTriggerUpload
  obtain ⟨stoppedSynced, stoppedIdle⟩ := synced.stopIfScanning stops
  generalize (if s.upload.scanState = .scanning then (scanStopInternal api s).1 else s) = t at stoppedSynced stoppedIdle ⊢
  dsimp only
  split_ifs
  · exact stoppedSynced.setIdle stoppedIdle
  · exact stoppedSynced.uploadData

theorem Scanner.Synced.setConfig (stops : api.scanStop true = 0) (synced : s.Synced) (mode : ScanMode) :
    (scanSetConfigInternal api s mode).Synced := by
  obtain ⟨stopped, notScanning⟩ := synced.stop stops
  -- the reset keeps the controller as the stop left it: off
  have reset : ({ (scanStopInternal api s).1 with mode := mode, upload := uploadDone } : Scanner).Synced := by
    have radioOff : (scanStopInternal api s).1.btScanning = false := by
      cases radio : (scanStopInternal api s).1.btScanning
      · rfl
      · exact absurd (stopped.mp radio) notScanning
    simp [Scanner.Synced, radioOff, uploadDone]
  unfold scanSetConfigInternal
  dsimp only
  split
  · exact reset.start
  · exact reset.start
  · exact reset

theorem Scanner.Synced.msg (stops : api.scanStop true = 0) (synced : s.Synced) (m : ScanMsg) :
    (myScanMsgHandler api s m).1.Synced := by
  cases m
  case tagScanProcess => exact synced
  case tranMacProcess => exact synced
  case scanInterval =>
    dsimp only [myScanMsgHandler]
    split_ifs
    · exact synced.start
    · exact synced
  case scanLength =>
    have stopped := (synced.stop stops).1
    dsimp only [myScanMsgHandler]
    split_ifs
    all_goals first | exact stopped | exact stopped.uploadData
  case scanUpload =>
    dsimp only [myScanMsgHandler]
    split_ifs
    all_goals first | exact synced | exact synced.trigger stops
  case uploadWakeup =>
    dsimp only [myScanMsgHandler]
    split
    · split_ifs
      · exact synced.start
      · exact synced
    all_goals first
      | exact synced
      | split_ifs
        all_goals first
          | exact synced
          | exact (synced.stop stops).1
          | exact (synced.stop stops).1.uploadData
          | exact synced.uploadData

end Functions

theorem Scanner.Synced.step {api : BtLeScanApi} (stops : api.scanStop true = 0) {s : Scanner} (synced : s.Synced)
    {e : ScanEvent} (notClear : e ≠ .clearTagMacinfo) :
    (scannerStep api s e).1.Synced := by
  cases e with
  | recv addr rssi advType buf =>
    show (if s.btScanning then scanRecvCb s addr rssi advType buf else s).Synced
    split_ifs
    · obtain ⟨tagQueue, tranQueue, recv, -, -⟩ := scanRecvCb_frame s addr rssi advType buf
      rw [recv]
      exact synced
    · exact synced
  | msg m => exact synced.msg stops m
  | uploadAck => exact synced.uploadData
  | clearTagMacinfo => exact absurd rfl notClear
  | setConfig mode => exact synced.setConfig stops mode
  | tranMacAdd addr => exact synced
  | tranMacDel addr => exact synced
  | tranMacDelAll => exact synced

theorem Scanner.Synced.run {api : BtLeScanApi} (stops : api.scanStop true = 0) {s : Scanner} (synced : s.Synced)
    {evs : List ScanEvent}
    (noClear : ∀ e ∈ evs, e ≠ .clearTagMacinfo) : (scannerRun api s evs).1.Synced := by
  induction evs generalizing s with
  | nil => exact synced
  | cons e rest ih =>
    exact ih (synced.step stops (noClear e List.mem_cons_self)) fun e member => noClear e (List.mem_cons_of_mem _ member)

/-- Over every run from my_scan_init without clear_tag_macinfo, on a host whose stop succeeds while it scans,
s_scan_config.state is SCANNING exactly while the host scans. -/
theorem scannerRun_synced (api : BtLeScanApi) (stops : api.scanStop true = 0) (mode : ScanMode)
    (macList : List BtAddrLe) (evs : List ScanEvent) (noClear : ∀ e ∈ evs, e ≠ .clearTagMacinfo) :
    (scannerRun api (myScanInit api mode macList) evs).1.btScanning = true ↔
      (scannerRun api (myScanInit api mode macList) evs).1.upload.scanState = .scanning :=
  Scanner.Synced.run stops (Scanner.Synced.setConfig stops (by simp [Scanner.Synced]) mode) noClear

theorem scannerRun_synced_period_cache :
    zephyrScanApi.scanStop true = 0 ∧
      ((scannerRun zephyrScanApi (myScanInit zephyrScanApi .periodCache [])
          [.msg .scanLength, .msg .scanInterval, .msg .uploadWakeup]).1.btScanning = true ↔
        (scannerRun zephyrScanApi (myScanInit zephyrScanApi .periodCache [])
          [.msg .scanLength, .msg .scanInterval, .msg .uploadWakeup]).1.upload.scanState = .scanning) :=
  ⟨rfl, scannerRun_synced zephyrScanApi rfl .periodCache [] [.msg .scanLength, .msg .scanInterval, .msg .uploadWakeup]
    (by decide)⟩

/-- clear_tag_macinfo while the host scans: on a host that answers as Zephyr documents, the host keeps
scanning over every run after it, whatever the events, a reconfiguration to mode 0 included, and the scan
state never says scanning again. -/
theorem clearTagMacinfo_strands_scan (api : BtLeScanApi) (documented : api.Documented) (s : Scanner)
    (radio : s.btScanning = true) (evs : List ScanEvent) :
    (scannerRun api s (.clearTagMacinfo :: evs)).1.btScanning = true ∧
      (scannerRun api s (.clearTagMacinfo :: evs)).1.upload.scanState ≠ .scanning :=
  Scanner.Stranded.run documented (show (clearTagMacinfo s).Stranded from ⟨radio, by simp [clearTagMacinfo]⟩) evs

theorem clearTagMacinfo_strands_scan_period_cache :
    zephyrScanApi.Documented ∧
      (scannerRun zephyrScanApi (myScanInit zephyrScanApi .periodCache [])
          [.clearTagMacinfo, .setConfig .off, .msg .scanLength]).1.btScanning = true ∧
      (scannerRun zephyrScanApi (myScanInit zephyrScanApi .periodCache [])
          [.clearTagMacinfo, .setConfig .off, .msg .scanLength]).1.upload.scanState ≠ .scanning :=
  ⟨zephyrScanApi_documented, clearTagMacinfo_strands_scan zephyrScanApi zephyrScanApi_documented
    (myScanInit zephyrScanApi .periodCache []) rfl [.setConfig .off, .msg .scanLength]⟩

end BleScan
