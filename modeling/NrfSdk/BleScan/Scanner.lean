import NrfSdk.BleScan.Upload

/-! The scan module as the BLE thread runs it: the controller's reports queued by scan_recv_cb, the messages
my_scan_msg_handler takes (the queues drained into the tables, the scan timers, the upload timer and the
LTE wakeup), the LTE side's acknowledgements that drive tag_mac_scan_upload_data, clear_tag_macinfo on a
retransmission timeout, scan_set_config_internal and the commands on the transparent-MAC list. Each event
runs to its end before the next, as the BLE thread's message loop runs them; the timers that post the
messages are left out, so the messages come in any order. Zephyr's bt_le_scan_start and bt_le_scan_stop are parameters: the
host scans from a start it accepts to a stop it accepts, and reports only then. -/

namespace BleScan

/-- scan_mode_t; both callers of my_scan_set_config check the mode is one of these. -/
inductive ScanMode where
  | off
  | wakeupScan
  | periodCache
  | periodUpload
deriving DecidableEq, Repr

def msgqMaxMsgs : Nat := 16

/-- Zephyr's EALREADY, what bt_le_scan_start answers while the controller scans and bt_le_scan_stop while
it does not. -/
def ealready : Int := 120

/-- What the scan module keeps: s_scan_config.mode, the prefix table, the ADV cache, the upload with its
two result tables, the MAC list of gConfigParam.bparmac_config, the two message queues, and whether the
controller is scanning. -/
structure Scanner where
  mode : ScanMode
  prefixes : List TagPrefixItem
  cache : AdvCache
  upload : Uploader
  macList : List BtAddrLe
  tagQueue : List TagScanProcessMsg
  tranQueue : List TranMacResultItem
  btScanning : Bool
deriving DecidableEq, Repr

/-- k_msgq_put with K_NO_WAIT: the queue after it, none when it is full. -/
def kMsgqPut {α : Type} (queue : List α) (msg : α) : Option (List α) :=
  if queue.length < msgqMaxMsgs then some (queue ++ [msg]) else none

/-! ## scan_recv_cb -/

def tranMacRecv (s : Scanner) (addr : BtAddrLe) (buf : List UInt8) : Scanner :=
  if myTranMacCheck s.macList addr then
    match kMsgqPut s.tranQueue ⟨addr, buf.take tranMacAdvDataMaxLen⟩ with
    | some queue => { s with tranQueue := queue }
    | none => s
  else s

/-- scan_recv_cb: an advertisement with FF data and a scan response with a name are queued for the BLE
thread. The name is the C string strncpy copies, up to its first NUL. -/
def scanRecvCb (s : Scanner) (addr : BtAddrLe) (rssi : Int) (advType : UInt8) (buf : List UInt8) : Scanner :=
  if advType ≠ btGapAdvTypeAdvInd ∧ advType ≠ btGapAdvTypeScanRsp then s
  else
    let result : TagScanResult := ⟨addr, rssi, [], [], [], 0⟩
    if advType = btGapAdvTypeAdvInd then
      match parseFfData buf tagFfDataMaxLen with
      | some (some ffData) =>
        match kMsgqPut s.tagQueue ⟨advType, { result with ffData := ffData }⟩ with
        -- a full queue returns before the transparent-MAC check
        | none => s
        | some queue => tranMacRecv { s with tagQueue := queue } addr buf
      | _ => tranMacRecv s addr buf
    else
      match parseScanRspName buf advNameMaxLen with
      | some (some name) =>
        let payload := ((parseScanRspPayload buf ⟨[], 0⟩).map Prod.fst).getD ⟨[], 0⟩
        let result := { result with name := name.takeWhile (fun byte => byte != 0), uuid := payload.uuid,
                                    batteryPercent := payload.batteryPercent }
        match kMsgqPut s.tagQueue ⟨advType, result⟩ with
        | some queue => { s with tagQueue := queue }
        | none => s
      | _ => s

/-! ## my_scan_msg_handler -/

def tagScanProcess (s : Scanner) : Scanner :=
  let tables := s.tagQueue.foldl tagScanDataHandle ⟨s.prefixes, s.cache, s.upload.results⟩
  { s with cache := tables.cache, upload := { s.upload with results := tables.results }, tagQueue := [] }

def tranMacProcess (s : Scanner) : Scanner :=
  { s with upload := { s.upload with tranMacs := s.tranQueue.foldl tranMacDataHandle s.upload.tranMacs },
           tranQueue := [] }

/-- The two calls into Zephyr's Bluetooth host that the scan module makes, by whether the host scans when
they are made: what bt_le_scan_start(&s_scan_param, NULL) and bt_le_scan_stop() return. -/
structure BtLeScanApi where
  scanStart : Bool → Int
  scanStop : Bool → Int

/-- What Zephyr documents of the two: a start while the host scans, and a stop while it does not, answer
-EALREADY. -/
structure BtLeScanApi.Documented (api : BtLeScanApi) : Prop where
  start_scanning : api.scanStart true = -ealready
  stop_idle : api.scanStop false = -ealready

def zephyrScanApi : BtLeScanApi :=
  ⟨fun scanning => if scanning then -ealready else 0, fun scanning => if scanning then 0 else -ealready⟩

theorem zephyrScanApi_documented : zephyrScanApi.Documented := ⟨rfl, rfl⟩

section Host

variable (api : BtLeScanApi)

def scanStartInternal (s : Scanner) : Scanner × Int :=
  if s.mode = .off then (s, -einval)
  else if s.upload.scanState = .scanning then (s, 0)
  else
    let err := api.scanStart s.btScanning
    if err ≠ 0 then (s, err)
    else ({ s with btScanning := true, upload := { s.upload with scanState := .scanning } }, 0)

def scanStopInternal (s : Scanner) : Scanner × Int :=
  if s.upload.scanState ≠ .scanning then (s, 0)
  else
    let err := api.scanStop s.btScanning
    if err ≠ 0 then (s, err)
    else ({ s with btScanning := false, upload := { s.upload with scanState := .idle }, cache := AdvCache.empty }, 0)

def Scanner.uploadData (s : Scanner) : Scanner × List (List Char) :=
  ({ s with upload := (tagMacScanUploadData s.upload).1 }, (tagMacScanUploadData s.upload).2)

def Scanner.HasData (s : Scanner) : Prop := s.upload.results.length > 0 ∨ s.upload.tranMacs.length > 0

instance (s : Scanner) : Decidable s.HasData := inferInstanceAs (Decidable (_ ∨ _))

def scanTriggerUpload (s : Scanner) : Scanner × List (List Char) :=
  let s := if s.upload.scanState = .scanning then (scanStopInternal api s).1 else s
  if s.upload.results.length = 0 ∧ s.upload.tranMacs.length = 0 then
    ({ s with upload := { s.upload with scanState := .idle } }, [])
  else s.uploadData

/-- The messages my_scan_msg_handler takes. -/
inductive ScanMsg where
  | tagScanProcess
  | tranMacProcess
  | scanInterval
  | scanLength
  | scanUpload
  | uploadWakeup
deriving DecidableEq, Repr

def myScanMsgHandler (s : Scanner) : ScanMsg → Scanner × List (List Char)
  | .tagScanProcess => (tagScanProcess s, [])
  | .tranMacProcess => (tranMacProcess s, [])
  | .scanInterval =>
    if (s.mode = .periodCache ∨ s.mode = .periodUpload) ∧ s.upload.scanState = .idle then
      ((scanStartInternal api s).1, [])
    else (s, [])
  | .scanLength =>
    let s := (scanStopInternal api s).1
    if s.mode = .wakeupScan then
      if s.HasData then
        -- an alarm or a mode switch during an upload: skipped
        if s.upload.scanState = .waitingUpload then (s, []) else s.uploadData
      else (s, [])
    else (s, [])
  | .scanUpload =>
    if s.mode = .periodUpload ∧ s.HasData then
      if s.upload.scanState = .waitingUpload then (s, []) else scanTriggerUpload api s
    else (s, [])
  | .uploadWakeup =>
    match s.mode with
    | .wakeupScan => if s.upload.scanState = .idle then ((scanStartInternal api s).1, []) else (s, [])
    | .periodCache | .periodUpload =>
      if s.HasData then
        let s := if s.upload.scanState = .scanning then (scanStopInternal api s).1 else s
        if s.upload.scanState = .waitingUpload then (s, []) else s.uploadData
      else (s, [])
    | .off => (s, [])

/-! ## Configuration and resets -/

def scanSetConfigInternal (s : Scanner) (mode : ScanMode) : Scanner :=
  let s := (scanStopInternal api s).1
  let s := { s with mode := mode,
                    upload := { s.upload with results := [], tranMacs := [], seq := 0, uploadState := .idle,
                                              scanState := .idle } }
  match mode with
  | .periodCache | .periodUpload => (scanStartInternal api s).1
  | _ => s

def clearTagMacinfo (s : Scanner) : Scanner :=
  { s with upload := { s.upload with seq := 0, uploadState := .idle, scanState := .idle, results := [],
                                     tranMacs := [] } }

def myScanInit (mode : ScanMode) (macList : List BtAddrLe) : Scanner :=
  scanSetConfigInternal api ⟨mode, tagPrefixTableInit, AdvCache.empty, ⟨.idle, .idle, 0, [], []⟩, macList, [], [], false⟩
    mode

/-! ## Runs -/

inductive ScanEvent where
  /-- a report of the controller to scan_recv_cb -/
  | recv (addr : BtAddrLe) (rssi : Int) (advType : UInt8) (buf : List UInt8)
  | msg (m : ScanMsg)
  /-- MY_MSG_UPLOAD_TAG_AND_MAC: the LTE side answered a TAG or MACINFO line -/
  | uploadAck
  /-- clear_tag_macinfo, when a retransmission times out in the LTE thread -/
  | clearTagMacinfo
  | setConfig (mode : ScanMode)
  | tranMacAdd (addr : BtAddrLe)
  | tranMacDel (addr : BtAddrLe)
  | tranMacDelAll
deriving DecidableEq, Repr

def ScanEvent.aborts : ScanEvent → Bool
  | .clearTagMacinfo => true
  | .setConfig _ => true
  | _ => false

def scannerStep (s : Scanner) : ScanEvent → Scanner × List (List Char)
  | .recv addr rssi advType buf => (if s.btScanning then scanRecvCb s addr rssi advType buf else s, [])
  | .msg m => myScanMsgHandler api s m
  | .uploadAck => s.uploadData
  | .clearTagMacinfo => (clearTagMacinfo s, [])
  | .setConfig mode => (scanSetConfigInternal api s mode, [])
  | .tranMacAdd addr => ({ s with macList := (myTranMacAdd s.macList addr).2 }, [])
  | .tranMacDel addr => ({ s with macList := (myTranMacDel s.macList addr).2 }, [])
  | .tranMacDelAll => ({ s with macList := myTranMacDelAll }, [])

def scannerRun (s : Scanner) : List ScanEvent → Scanner × List (List Char)
  | [] => (s, [])
  | e :: rest =>
    let step := scannerStep api s e
    let after := scannerRun step.1 rest
    (after.1, step.2 ++ after.2)

theorem scannerRun_cons (s : Scanner) (e : ScanEvent) (rest : List ScanEvent) :
    scannerRun api s (e :: rest) =
      ((scannerRun api (scannerStep api s e).1 rest).1,
        (scannerStep api s e).2 ++ (scannerRun api (scannerStep api s e).1 rest).2) :=
  rfl

end Host

end BleScan
