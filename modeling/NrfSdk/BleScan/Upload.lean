import NrfSdk.BleScan.Tables
import NrfSdk.Tool.Hex
import NrfSdk.Lte.Response

/-! The upload of the scan results to the LTE side: tag_mac_scan_upload_data sends one line each time the
LTE side acknowledges the one before (MY_MSG_UPLOAD_TAG_AND_MAC), first "TAG START,n", the n tags numbered
1 to n and "TAG END", then "MACINFO START,m", the m advertisements of the transparent MACs and "MACINFO END",
emptying each table once it is sent. RETRANSMIT_CHECK_ENABLED is 0, so each line goes out through
lte_send_command. The texts are short of the 256 bytes of upload_msg for every result the tables can hold, so
snprintf never cuts them. -/

namespace BleScan

/-- scan_state_t. -/
inductive ScanState where
  | idle
  | scanning
  | waitingUpload
deriving DecidableEq, Repr

/-- upload_state_t. -/
inductive UploadState where
  | idle
  | tagStart
  | tagEnd
  | macStart
  | macEnd
deriving DecidableEq, Repr

def hex02 (byte : UInt8) : List Char := [(Tool.byteHexDigits byte).1, (Tool.byteHexDigits byte).2]

def byteText (bytes : List UInt8) : List Char := bytes.map fun byte => Char.ofNat byte.toNat

def macStr (addr : BtAddrLe) : List Char :=
  [5, 4, 3, 2, 1, 0].flatMap fun i => hex02 (addr.val.toList.getD i 0)

def withCommas : List (List Char) → List Char
  | [] => []
  | [field] => field
  | field :: rest => field ++ ',' :: withCommas rest

/-- The text tag_scan_upload_one sends for a tag: sequence number, MAC, battery level, RSSI as its uint8_t,
the name with its length, the UUID with its length, the FF data with its length. -/
def tagScanUploadOne (item : TagScanResult) (seq : Nat) : List Char :=
  let uuidStr := if item.uuid.length > 0 then (item.uuid.take uuidMaxLen).flatMap hex02 else "N/A".toList
  let head := [(toString seq).toList, macStr item.addr, (toString item.batteryPercent.toNat).toList,
    hex02 (UInt8.ofNat (Machine.u8 item.rssi)), (toString item.name.length).toList, byteText item.name,
    (toString item.uuid.length).toList, uuidStr]
  if item.ffData.length > 0 then
    withCommas (head ++ [(toString item.ffData.length).toList, (item.ffData.take tagFfDataMaxLen).flatMap hex02])
  else withCommas (head ++ ["0".toList, "N/A".toList])

def tranMacUploadOne (item : TranMacResultItem) (seq : Nat) : List Char :=
  (toString seq).toList ++ ',' :: macStr item.addr ++ ',' :: (toString item.advData.length).toList ++ ',' ::
    item.advData.flatMap hex02

def tagLine (param : List Char) : List Char := Lte.lteSendCommand "TAG".toList (some param)
def macinfoLine (param : List Char) : List Char := Lte.lteSendCommand "MACINFO".toList (some param)

def startText (count : Nat) : List Char := "START,".toList ++ (toString count).toList

/-- What tag_mac_scan_upload_data reads and writes: s_scan_config.state, s_tag_macinfo_upload_state,
s_tag_macinfo_seq (a uint8_t that never passes the 50 results) and the two result tables. -/
structure Uploader where
  scanState : ScanState
  uploadState : UploadState
  seq : Nat
  results : List TagScanResult
  tranMacs : List TranMacResultItem
deriving DecidableEq, Repr

def tagMacScanUploadData (u : Uploader) : Uploader × List (List Char) :=
  if u.scanState = .scanning then (u, [])
  else match u.uploadState with
  | .idle =>
    if u.results.length = 0 then
      if u.tranMacs.length = 0 then (u, [])
      else ({ u with uploadState := .macStart, scanState := .waitingUpload },
        [macinfoLine (startText u.tranMacs.length)])
    else ({ u with uploadState := .tagStart, scanState := .waitingUpload }, [tagLine (startText u.results.length)])
  | .tagStart =>
    if sent : u.seq ≥ u.results.length then
      ({ u with results := [], seq := 0, uploadState := .tagEnd }, [tagLine "END".toList])
    else ({ u with seq := u.seq + 1 }, [tagLine (tagScanUploadOne u.results[u.seq] (u.seq + 1))])
  | .tagEnd =>
    if u.tranMacs.length = 0 then ({ u with seq := 0, uploadState := .idle, scanState := .idle }, [])
    else ({ u with uploadState := .macStart }, [macinfoLine (startText u.tranMacs.length)])
  | .macStart =>
    if sent : u.seq ≥ u.tranMacs.length then
      ({ u with seq := 0, uploadState := .macEnd, tranMacs := [] }, [macinfoLine "END".toList])
    else ({ u with seq := u.seq + 1 }, [macinfoLine (tranMacUploadOne u.tranMacs[u.seq] (u.seq + 1))])
  | .macEnd => ({ u with uploadState := .idle, seq := 0, scanState := .idle }, [])

def uploadRun : Nat → Uploader → Uploader × List (List Char)
  | 0, u => (u, [])
  | k + 1, u =>
    let step := tagMacScanUploadData u
    let rest := uploadRun k step.1
    (rest.1, step.2 ++ rest.2)

theorem uploadRun_succ (k : Nat) (u : Uploader) :
    uploadRun (k + 1) u =
      ((uploadRun k (tagMacScanUploadData u).1).1,
        (tagMacScanUploadData u).2 ++ (uploadRun k (tagMacScanUploadData u).1).2) := rfl

/-! ## What an upload sends -/

def tagItemLine (entry : TagScanResult × Nat) : List Char := tagLine (tagScanUploadOne entry.1 entry.2)
def macItemLine (entry : TranMacResultItem × Nat) : List Char := macinfoLine (tranMacUploadOne entry.1 entry.2)

def restLines {α : Type} (itemLine : α × Nat → List Char) (endLine : List Char) (items : List α) (seq : Nat) :
    List (List Char) :=
  ((items.drop seq).zipIdx (seq + 1)).map itemLine ++ [endLine]

def tagRest (results : List TagScanResult) (seq : Nat) : List (List Char) :=
  restLines tagItemLine (tagLine "END".toList) results seq

def macRest (macs : List TranMacResultItem) (seq : Nat) : List (List Char) :=
  restLines macItemLine (macinfoLine "END".toList) macs seq

def tagSession (results : List TagScanResult) : List (List Char) :=
  if results.length = 0 then [] else tagLine (startText results.length) :: tagRest results 0

def macSession (macs : List TranMacResultItem) : List (List Char) :=
  if macs.length = 0 then [] else macinfoLine (startText macs.length) :: macRest macs 0

def uploadLines (results : List TagScanResult) (macs : List TranMacResultItem) : List (List Char) :=
  tagSession results ++ macSession macs

def sessionLines (u : Uploader) : List (List Char) :=
  match u.uploadState with
  | .idle => uploadLines u.results u.tranMacs
  | .tagStart => tagRest u.results u.seq ++ macSession u.tranMacs
  | .tagEnd => macSession u.tranMacs
  | .macStart => macRest u.tranMacs u.seq
  | .macEnd => []

def SeqWf (u : Uploader) : Prop :=
  match u.uploadState with
  | .tagStart => u.seq ≤ u.results.length
  | .macStart => u.seq ≤ u.tranMacs.length
  | _ => u.seq = 0

def SentCleared (u : Uploader) : Prop :=
  match u.uploadState with
  | .tagEnd | .macStart => u.results = []
  | .macEnd => u.results = [] ∧ u.tranMacs = []
  | _ => True

/-- A state of an upload that nothing else has touched. -/
structure SessionWf (u : Uploader) : Prop where
  seq : SeqWf u
  sent : SentCleared u

def uploadDone : Uploader := ⟨.idle, .idle, 0, [], []⟩

/-- What every state of the upload keeps, whatever else the scan module does to the tables: each table
well formed, the item number within its phase, and the scan state waiting for the upload exactly while one
runs. -/
structure UploaderWf (u : Uploader) : Prop where
  results : TagTableWf u.results
  tranMacs : TranMacTableWf u.tranMacs
  seq : SeqWf u
  waiting : u.uploadState ≠ .idle ↔ u.scanState = .waitingUpload

section Rest

variable {α : Type} {itemLine : α × Nat → List Char} {endLine : List Char} {items : List α} {seq : Nat}

theorem restLines_of_lt (inside : seq < items.length) :
    restLines itemLine endLine items seq = itemLine (items[seq], seq + 1) :: restLines itemLine endLine items (seq + 1) := by
  unfold restLines
  rw [List.drop_eq_getElem_cons inside, List.zipIdx_cons, List.map_cons, List.cons_append]

theorem restLines_of_le (sent : items.length ≤ seq) : restLines itemLine endLine items seq = [endLine] := by
  unfold restLines
  rw [List.drop_eq_nil_of_le sent]
  rfl

theorem restLines_ne_nil : restLines itemLine endLine items seq ≠ [] := by
  simp [restLines]

end Rest

section Step

variable {u : Uploader}

theorem tagMacScanUploadData_scanning_iff :
    (tagMacScanUploadData u).1.scanState = .scanning ↔ u.scanState = .scanning := by
  obtain ⟨scanState, uploadState, seq, results, tranMacs⟩ := u
  by_cases scanning : scanState = .scanning
  · simp [tagMacScanUploadData, scanning]
  · cases uploadState <;> simp only [tagMacScanUploadData, scanning, if_false] <;> (try split_ifs) <;>
      simp [scanning]

theorem tagMacScanUploadData_scanState (notScanning : u.scanState ≠ .scanning) :
    (tagMacScanUploadData u).1.scanState ≠ .scanning :=
  fun scanning => notScanning (tagMacScanUploadData_scanning_iff.mp scanning)

theorem SeqWf.upload (wf : SeqWf u) : SeqWf (tagMacScanUploadData u).1 := by
  obtain ⟨scanState, uploadState, seq, results, tranMacs⟩ := u
  by_cases scanning : scanState = .scanning
  · simpa [tagMacScanUploadData, scanning] using wf
  cases uploadState <;> simp only [SeqWf] at wf <;>
    simp only [tagMacScanUploadData, scanning, if_false] <;> (try split_ifs) <;> simp [SeqWf, wf] <;> omega

theorem SentCleared.upload (sent : SentCleared u) : SentCleared (tagMacScanUploadData u).1 := by
  obtain ⟨scanState, uploadState, seq, results, tranMacs⟩ := u
  by_cases scanning : scanState = .scanning
  · simpa [tagMacScanUploadData, scanning] using sent
  cases uploadState <;> simp only [SentCleared] at sent <;>
    simp only [tagMacScanUploadData, scanning, if_false] <;> (try split_ifs) <;> simp_all [SentCleared]

theorem SessionWf.upload (wf : SessionWf u) : SessionWf (tagMacScanUploadData u).1 :=
  ⟨wf.seq.upload, wf.sent.upload⟩

theorem tagMacScanUploadData_tables :
    ((tagMacScanUploadData u).1.results = u.results ∨ (tagMacScanUploadData u).1.results = []) ∧
      ((tagMacScanUploadData u).1.tranMacs = u.tranMacs ∨ (tagMacScanUploadData u).1.tranMacs = []) := by
  obtain ⟨scanState, uploadState, seq, results, tranMacs⟩ := u
  by_cases scanning : scanState = .scanning
  · simp [tagMacScanUploadData, scanning]
  cases uploadState <;> simp only [tagMacScanUploadData, scanning, if_false] <;> (try split_ifs) <;> simp

theorem tagMacScanUploadData_waiting (waiting : u.uploadState ≠ .idle ↔ u.scanState = .waitingUpload) :
    (tagMacScanUploadData u).1.uploadState ≠ .idle ↔ (tagMacScanUploadData u).1.scanState = .waitingUpload := by
  obtain ⟨scanState, uploadState, seq, results, tranMacs⟩ := u
  by_cases scanning : scanState = .scanning
  · simpa [tagMacScanUploadData, scanning] using waiting
  dsimp only at waiting
  cases uploadState
  case idle =>
    -- not waiting and not scanning: the scan state is idle, and an upload that starts sets it waiting
    simp only [ne_eq, not_true_eq_false, false_iff] at waiting
    simp only [tagMacScanUploadData, scanning, if_false]
    split_ifs <;> simp [waiting]
  all_goals
    simp only [ne_eq, reduceCtorEq, not_false_eq_true, true_iff] at waiting
    simp only [tagMacScanUploadData, scanning, if_false]
    try split_ifs
    all_goals simp [waiting]

theorem tagMacScanUploadData_keeps_waiting (waiting : u.scanState = .waitingUpload)
    (running : (tagMacScanUploadData u).1.uploadState ≠ .idle) :
    (tagMacScanUploadData u).1.scanState = .waitingUpload := by
  obtain ⟨scanState, uploadState, seq, results, tranMacs⟩ := u
  dsimp only at waiting
  subst waiting
  cases uploadState <;> simp only [tagMacScanUploadData, reduceCtorEq, if_false] at running ⊢ <;>
    (try split_ifs at running ⊢) <;> simp_all

theorem tagMacScanUploadData_lines (wf : SessionWf u) (notScanning : u.scanState ≠ .scanning) :
    (tagMacScanUploadData u).2 ++ sessionLines (tagMacScanUploadData u).1 = sessionLines u := by
  obtain ⟨scanState, uploadState, seq, results, tranMacs⟩ := u
  obtain ⟨seqWf, sent⟩ := wf
  dsimp only at notScanning
  cases uploadState
  case idle =>
    simp only [SeqWf] at seqWf
    simp only [tagMacScanUploadData, notScanning, if_false]
    split_ifs with noTags noMacs
    · rfl
    · simp [sessionLines, uploadLines, tagSession, macSession, noTags, noMacs, seqWf]
    · simp [sessionLines, uploadLines, tagSession, noTags, seqWf]
  case tagStart =>
    simp only [SeqWf] at seqWf
    simp only [tagMacScanUploadData, notScanning, if_false]
    split_ifs with allSent
    · simp [sessionLines, tagRest, restLines_of_le allSent]
    · simp [sessionLines, tagRest, restLines_of_lt (Nat.lt_of_not_le allSent), tagItemLine]
  case tagEnd =>
    simp only [SeqWf, SentCleared] at seqWf sent
    simp only [tagMacScanUploadData, notScanning, if_false]
    split_ifs with noMacs
    · simp [sessionLines, uploadLines, tagSession, macSession, noMacs, sent]
    · simp [sessionLines, macSession, noMacs, seqWf]
  case macStart =>
    simp only [SeqWf] at seqWf
    simp only [tagMacScanUploadData, notScanning, if_false]
    split_ifs with allSent
    · simp [sessionLines, macRest, restLines_of_le allSent]
    · simp [sessionLines, macRest, restLines_of_lt (Nat.lt_of_not_le allSent), macItemLine]
  case macEnd =>
    simp only [SentCleared] at sent
    simp [tagMacScanUploadData, notScanning, sessionLines, uploadLines, tagSession, macSession, sent]

theorem tagMacScanUploadData_one_line (wf : SessionWf u) (notScanning : u.scanState ≠ .scanning)
    (left : sessionLines u ≠ []) : ∃ line, (tagMacScanUploadData u).2 = [line] := by
  obtain ⟨scanState, uploadState, seq, results, tranMacs⟩ := u
  obtain ⟨seqWf, sent⟩ := wf
  dsimp only at notScanning
  cases uploadState <;> simp only [SentCleared] at sent <;>
    simp only [tagMacScanUploadData, notScanning, if_false] <;> (try split_ifs) <;>
    simp_all [sessionLines, uploadLines, tagSession, macSession]

theorem tagMacScanUploadData_stays (wf : SessionWf u) (notScanning : u.scanState ≠ .scanning)
    (left : sessionLines u ≠ []) : (tagMacScanUploadData u).1.uploadState ≠ .idle := by
  obtain ⟨scanState, uploadState, seq, results, tranMacs⟩ := u
  obtain ⟨seqWf, sent⟩ := wf
  dsimp only at notScanning
  cases uploadState <;> simp only [SentCleared] at sent <;>
    simp only [tagMacScanUploadData, notScanning, if_false] <;> (try split_ifs) <;>
    simp_all [sessionLines, uploadLines, tagSession, macSession]

theorem tagMacScanUploadData_done (wf : SessionWf u) (session : u.uploadState ≠ .idle)
    (notScanning : u.scanState ≠ .scanning) (finished : sessionLines u = []) :
    (tagMacScanUploadData u).1 = uploadDone := by
  obtain ⟨scanState, uploadState, seq, results, tranMacs⟩ := u
  obtain ⟨seqWf, sent⟩ := wf
  dsimp only at notScanning session
  cases uploadState <;> simp only [SentCleared] at sent
  case idle => exact absurd rfl session
  case tagStart => exact absurd finished (by simp [sessionLines, tagRest, restLines_ne_nil])
  case tagEnd =>
    simp only [sessionLines, macSession, ite_eq_left_iff, reduceCtorEq, imp_false, not_not,
      List.length_eq_zero_iff] at finished
    simp [tagMacScanUploadData, notScanning, finished, sent, uploadDone]
  case macStart => exact absurd finished (by simp [sessionLines, macRest, restLines_ne_nil])
  case macEnd => simp [tagMacScanUploadData, notScanning, sent, uploadDone]

theorem tagMacScanUploadData_uploadDone : tagMacScanUploadData uploadDone = (uploadDone, []) := rfl

theorem tagTableWf_nil : TagTableWf [] := ⟨by simp, List.nodup_nil⟩
theorem tranMacTableWf_nil : TranMacTableWf [] := ⟨by simp, List.nodup_nil⟩

theorem UploaderWf.upload (wf : UploaderWf u) : UploaderWf (tagMacScanUploadData u).1 := by
  obtain ⟨results, tranMacs⟩ := tagMacScanUploadData_tables (u := u)
  refine ⟨?_, ?_, wf.seq.upload, tagMacScanUploadData_waiting wf.waiting⟩
  · rcases results with same | cleared
    · exact same ▸ wf.results
    · exact cleared ▸ tagTableWf_nil
  · rcases tranMacs with same | cleared
    · exact same ▸ wf.tranMacs
    · exact cleared ▸ tranMacTableWf_nil

end Step

/-! ## Runs of acknowledgements -/

theorem uploadRun_uploadDone (k : Nat) : uploadRun k uploadDone = (uploadDone, []) := by
  induction k with
  | zero => rfl
  | succ k ih =>
    rw [uploadRun_succ, tagMacScanUploadData_uploadDone]
    dsimp only
    rw [ih]
    rfl

/-- k acknowledgements send the first k of the lines left. -/
theorem uploadRun_lines (k : Nat) {u : Uploader} (wf : SessionWf u) (notScanning : u.scanState ≠ .scanning) :
    (uploadRun k u).2 = (sessionLines u).take k := by
  induction k generalizing u with
  | zero => rfl
  | succ k ih =>
    have split := tagMacScanUploadData_lines wf notScanning
    rw [uploadRun_succ]
    dsimp only
    rw [ih wf.upload (tagMacScanUploadData_scanState notScanning)]
    by_cases finished : sessionLines u = []
    · -- nothing was left: the step and the run after it send nothing
      rw [finished, List.append_eq_nil_iff] at split
      rw [split.1, split.2, finished, List.take_nil, List.take_nil, List.append_nil]
    · obtain ⟨line, sends⟩ := tagMacScanUploadData_one_line wf notScanning finished
      rw [sends] at split ⊢
      rw [← split]
      rfl

theorem uploadRun_done (k : Nat) {u : Uploader} (wf : SessionWf u) (notScanning : u.scanState ≠ .scanning)
    (active : u.uploadState ≠ .idle ∨ sessionLines u ≠ []) (enough : (sessionLines u).length < k) :
    (uploadRun k u).1 = uploadDone := by
  induction k generalizing u with
  | zero => exact absurd enough (Nat.not_lt_zero _)
  | succ k ih =>
    rw [uploadRun_succ]
    dsimp only
    by_cases finished : sessionLines u = []
    · have session : u.uploadState ≠ .idle := active.resolve_right (not_not.mpr finished)
      rw [tagMacScanUploadData_done wf session notScanning finished, uploadRun_uploadDone]
    · obtain ⟨line, sends⟩ := tagMacScanUploadData_one_line wf notScanning finished
      have split := tagMacScanUploadData_lines wf notScanning
      rw [sends] at split
      have shorter : (sessionLines (tagMacScanUploadData u).1).length < k := by
        rw [← split] at enough
        simpa using enough
      exact ih wf.upload (tagMacScanUploadData_scanState notScanning)
        (.inl (tagMacScanUploadData_stays wf notScanning finished)) shorter

theorem uploadLines_ne_nil {results : List TagScanResult} {macs : List TranMacResultItem}
    (pending : results ≠ [] ∨ macs ≠ []) : uploadLines results macs ≠ [] := by
  rcases pending with tags | macsLeft
  · simp [uploadLines, tagSession, tags]
  · simp [uploadLines, macSession, macsLeft]

/-- An upload started by scan_trigger_upload or a wakeup and driven by the LTE side's acknowledgements:
k acknowledgements, counting the call that starts it, deliver exactly the first k lines of the upload of the
two tables, and more than there are lines end it idle with both tables empty. -/
theorem tagMacScanUploadData_uploads (u : Uploader) (idle : u.uploadState = .idle) (fresh : u.seq = 0)
    (notScanning : u.scanState ≠ .scanning) (pending : u.results ≠ [] ∨ u.tranMacs ≠ []) (k : Nat) :
    (uploadRun k u).2 = (uploadLines u.results u.tranMacs).take k ∧
      ((uploadLines u.results u.tranMacs).length < k → (uploadRun k u).1 = uploadDone) := by
  have wf : SessionWf u := ⟨by simp [SeqWf, idle, fresh], by simp [SentCleared, idle]⟩
  have whole : sessionLines u = uploadLines u.results u.tranMacs := by simp [sessionLines, idle]
  refine ⟨by rw [← whole]; exact uploadRun_lines k wf notScanning, fun enough => ?_⟩
  rw [← whole] at enough
  exact uploadRun_done k wf notScanning (.inr (whole ▸ uploadLines_ne_nil pending)) enough

theorem tagMacScanUploadData_uploads_one_tag :
    (uploadRun 4 ⟨.idle, .idle, 0, [⟨zeroAddr, -52, [0x50, 0x45, 0x54], [], [], 80⟩], []⟩).2 =
        (uploadLines [⟨zeroAddr, -52, [0x50, 0x45, 0x54], [], [], 80⟩] []).take 4 ∧
      ((uploadLines [⟨zeroAddr, -52, [0x50, 0x45, 0x54], [], [], 80⟩] []).length < 4 →
        (uploadRun 4 ⟨.idle, .idle, 0, [⟨zeroAddr, -52, [0x50, 0x45, 0x54], [], [], 80⟩], []⟩).1 = uploadDone) :=
  tagMacScanUploadData_uploads _ rfl rfl (by decide) (.inl (List.cons_ne_nil _ _)) 4

/- A tag line as the LTE side reads it: the MAC from its last byte, the RSSI -52 as the byte 0xCC. -/
example : tagItemLine (⟨⟨0, ⟨#[1, 2, 3, 4, 5, 0xab], rfl⟩⟩, -52, [0x50, 0x45, 0x54], [], [], 80⟩, 1) =
    "BLE+TAG=1,AB0504030201,80,CC,3,PET,0,N/A,0,N/A\r\n".toList := by decide

end BleScan
