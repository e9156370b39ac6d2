import NrfSdk.Lte.Retrans

/-! The LTE line dispatch of my_lte_parse_cmd and the BLE response path ble_rsp_parse / my_ble_handle that
acknowledges queued commands. -/

namespace Lte

open Tool Machine

def lteSendCmdWithRetry (cmdName : List Char) (param : Option (List Char)) : List Char :=
  match param with
  | some param => if param.length > 0 then cmdName ++ ',' :: param else cmdName
  | none => cmdName

def lteSendCommand (cmdName : List Char) (param : Option (List Char)) : List Char :=
  match param with
  | some param => if param.length > 0 then "BLE+".toList ++ cmdName ++ '=' :: param ++ ['\r', '\n']
      else "BLE+".toList ++ cmdName ++ ['\r', '\n']
  | none => "BLE+".toList ++ cmdName ++ ['\r', '\n']

/-! ## my_lte_parse_cmd -/

def lteHeaders : List (List Char) :=
  ["LTE+PWRON=".toList, "LTE+BTSET=".toList, "LTE+TIME=".toList, "LTE+NTCSET=".toList, "LTE+TRANSMIT=".toList,
    "LTE+FOTA=".toList, "LTE+CMD=".toList, "LTE+LOCATION=".toList, "LTE+FACTORY=".toList, "LTE+NET=".toList]

def bleCmdHeader : List Char := "BLE+CMD=".toList
def bleHeader : List Char := "BLE+".toList

/-- Where my_lte_parse_cmd sends a line. -/
inductive LteRoute where
  /-- the empty-command guard -/
  | rejected
  /-- the handler of an LTE+ header, with the text after it -/
  | lte (header body : List Char)
  /-- BLE+CMD=: forwarded to the BLE thread as MY_MSG_BLE_CMD -/
  | bleCmd (body : List Char)
  /-- BLE+: a response of the 4G module, to my_ble_handle -/
  | bleResponse (body : List Char)
  /-- a factory command or a shell command line -/
  | other (cmd : List Char)
  deriving DecidableEq, Repr

def lteParseCmdRoute (cmd : List Char) : LteRoute :=
  if cmd.length = 0 then .rejected
  else
    match lteHeaders.find? (fun header => header.isPrefixOf cmd) with
    | some header => .lte header (cmd.drop header.length)
    | none =>
      if bleCmdHeader.isPrefixOf cmd then .bleCmd (cmd.drop bleCmdHeader.length)
      else if bleHeader.isPrefixOf cmd then .bleResponse (cmd.drop bleHeader.length)
      else .other cmd

/-! ## ble_rsp_parse and my_ble_handle -/

inductive BleRspType where
  | unknown
  | location
  | led
  | time
  | tag
  | macinfo
  | wmode
  | powoff
  | pulse
  deriving DecidableEq, Repr

def bleRspCmdTable : List (List Char × BleRspType) :=
  [("LOCATION".toList, .location), ("LED".toList, .led), ("TIME".toList, .time), ("TAG".toList, .tag),
    ("MACINFO".toList, .macinfo), ("WMODE".toList, .wmode), ("POWOFF".toList, .powoff), ("PULSE".toList, .pulse)]

structure BleRspResult where
  type : BleRspType
  cmdName : List Char
  params : List Char
  paramCount : Nat
  deriving DecidableEq, Repr

def bleRspParse (rspStr : List Char) : Option BleRspResult :=
  if '=' ∉ rspStr then none
  else
    let cmdName := rspStr.takeWhile (· ≠ '=')
    let paramStart := ((rspStr.dropWhile (· ≠ '=')).drop 1).takeWhile (· ≠ '#')
    some { type := ((bleRspCmdTable.find? (fun entry => entry.1 = cmdName)).map Prod.snd).getD .unknown
           cmdName := cmdName
           params := paramStart.take 255
           paramCount := if paramStart = [] then 0 else paramStart.count ',' + 1 }

def bleAckKey (result : BleRspResult) : List Char :=
  if specialCmdPrefixes.contains result.cmdName then result.cmdName ++ '_' :: (myGetStrAtPos result.params 1 ',' 16).1
  else result.cmdName

/-- What my_ble_handle does after check_ack, by response type. -/
inductive BleRspAction where
  | locationRsp (result : BleRspResult)
  | setSystemTime (seconds : List Char)
  | uploadTagAndMac
  | unhandled
  deriving DecidableEq, Repr

def bleRspAction (result : BleRspResult) : BleRspAction :=
  match result.type with
  | .location => .locationRsp result
  | .led => .unhandled
  | .time => .setSystemTime (myGetStrAtPos result.params 1 ',' 16).1
  | .tag | .macinfo => .uploadTagAndMac
  | _ => .unhandled

def myBleHandle (queue : RetransQueue) (data : List Char) : Option (RetransQueue × BleRspAction) :=
  (bleRspParse data).map fun result => (checkAck queue (bleAckKey result), bleRspAction result)

/-! ## The keys of the two sides -/

theorem fieldAt_lteSendCmdWithRetry {cmdName : List Char} (plain : ',' ∉ cmdName) (param : Option (List Char)) :
    fieldAt ',' 0 (lteSendCmdWithRetry cmdName param) = cmdName := by
  unfold lteSendCmdWithRetry
  split
  · split_ifs
    · rw [fieldAt_append plain, if_pos rfl]
    · exact fieldAt_zero_of_not_mem plain
  · exact fieldAt_zero_of_not_mem plain

theorem special_short {cmdName : List Char} (special : cmdName ∈ specialCmdPrefixes) :
    ',' ∉ cmdName ∧ '=' ∉ cmdName ∧ cmdName.length ≤ 7 := by
  simp only [specialCmdPrefixes, List.mem_cons, List.not_mem_nil, or_false] at special
  rcases special with rfl | rfl <;> decide

theorem retransEntry_cmdName_plain {cmdName : List Char} (plain : ',' ∉ cmdName) (short : cmdName.length ≤ 31)
    (notSpecial : cmdName ∉ specialCmdPrefixes) (param : Option (List Char)) (now : Int) (address : Nat) :
    (retransEntry (lteSendCmdWithRetry cmdName param) now address).cmdName = cmdName := by
  have first := myGetStrAtPos_eq (lteSendCmdWithRetry cmdName param) 0 ',' (show 2 ≤ 32 by decide)
  rw [fieldAt_lteSendCmdWithRetry plain, List.take_of_length_le short] at first
  simp only [retransEntry, retransCommandFields, first, notSpecial, if_false]
  exact List.take_of_length_le short

theorem retransEntry_cmdName_special {cmdName : List Char} (special : cmdName ∈ specialCmdPrefixes)
    {param : List Char} (given : param ≠ []) (now : Int) (address : Nat) :
    (retransEntry (lteSendCmdWithRetry cmdName (some param)) now address).cmdName =
      cmdName ++ '_' :: (fieldAt ',' 0 param).take 15 := by
  obtain ⟨plain, -, short⟩ := special_short special
  have command : lteSendCmdWithRetry cmdName (some param) = cmdName ++ ',' :: param := by
    simp [lteSendCmdWithRetry, List.length_pos_iff.mpr given]
  have first := myGetStrAtPos_first plain param (show cmdName.length + 2 ≤ 32 by omega)
  have field := myGetStrAtPos_eq param 0 ',' (show 2 ≤ 16 by decide)
  have nonempty : (!param.isEmpty) = true := by simpa [List.isEmpty_iff] using given
  have rest : (cmdName ++ ',' :: param).drop (cmdName.length + 1) = param := by simp
  simp only [retransEntry, retransCommandFields, command, first, special, if_true, nonempty, rest, field]
  rw [if_pos given]
  apply List.take_of_length_le
  simp only [List.length_append, List.length_cons, List.length_take]
  omega

theorem bleRspParse_named {cmdName : List Char} (plain : '=' ∉ cmdName) (rest : List Char) :
    ∃ result, bleRspParse (cmdName ++ '=' :: rest) = some result ∧ result.cmdName = cmdName ∧
      result.params = (rest.takeWhile (· ≠ '#')).take 255 := by
  have passes : ∀ c ∈ cmdName, decide (c ≠ '=') = true := by
    intro c member
    simp only [ne_eq, decide_eq_true_eq]
    rintro rfl
    exact plain member
  unfold bleRspParse
  rw [if_neg (by simp)]
  refine ⟨_, rfl, ?_, ?_⟩
  · rw [List.takeWhile_append_of_pos passes]
    simp
  · rw [List.dropWhile_append_of_pos passes]
    simp

theorem fieldAt_one_okResponse {p0 : List Char} (bare : ',' ∉ p0) (noHash : '#' ∉ p0) (more : List Char) :
    (fieldAt ',' 1 ((("OK,".toList ++ p0 ++ ',' :: more).takeWhile (· ≠ '#')).take 255)).take 15 = p0.take 15 := by
  have ok : "OK,".toList = ['O', 'K', ','] := by decide
  have passes : ∀ c ∈ ['O', 'K', ','] ++ p0 ++ [','], decide (c ≠ '#') = true := by
    intro c member
    simp only [List.mem_append, List.mem_cons, List.not_mem_nil, or_false] at member
    simp only [ne_eq, decide_eq_true_eq]
    rintro rfl
    rcases member with (okComma | inField) | comma
    · simp at okComma
    · exact noHash inField
    · simp at comma
  rw [ok, show ['O', 'K', ','] ++ p0 ++ ',' :: more = (['O', 'K', ','] ++ p0 ++ [',']) ++ more by simp,
    List.takeWhile_append_of_pos passes]
  simp only [List.append_assoc, List.cons_append, List.nil_append, List.take_succ_cons]
  rw [fieldAt, if_neg (by decide), fieldAt, if_neg (by decide), fieldAt, if_pos rfl, fieldAt_zero_take,
    fieldAt_append bare, if_pos rfl, List.take_take]
  simp

theorem bleCmdHeader_not_matched {cmdName : List Char} (plain : '=' ∉ cmdName) (other : cmdName ≠ "CMD".toList)
    (rest : List Char) : "CMD=".toList.isPrefixOf (cmdName ++ '=' :: rest) = false := by
  have header : "CMD=".toList = ['C', 'M', 'D', '='] := by decide
  have name : "CMD".toList = ['C', 'M', 'D'] := by decide
  rw [header]
  rw [name] at other
  rcases cmdName with _ | ⟨a, _ | ⟨b, _ | ⟨c, _ | ⟨d, tail⟩⟩⟩⟩
  · simp [List.isPrefixOf]
  · simp [List.isPrefixOf]
  · simp [List.isPrefixOf]
  · by_contra prefixed
    simp [List.isPrefixOf] at prefixed
    obtain ⟨rfl, rfl, rfl⟩ := prefixed
    exact other rfl
  · simp only [List.mem_cons, not_or] at plain
    simp [List.isPrefixOf, plain.2.2.2.1]

theorem lteParseCmdRoute_bleResponse {body : List Char} (notCmd : "CMD=".toList.isPrefixOf body = false) :
    lteParseCmdRoute ("BLE+".toList ++ body) = .bleResponse body := by
  have ble : "BLE+".toList = ['B', 'L', 'E', '+'] := by decide
  have noLte : lteHeaders.find? (fun header => header.isPrefixOf ("BLE+".toList ++ body)) = none := by
    rw [List.find?_eq_none]
    intro header member
    simp only [lteHeaders, List.mem_cons, List.not_mem_nil, or_false] at member
    rw [ble]
    rcases member with rfl | rfl | rfl | rfl | rfl | rfl | rfl | rfl | rfl | rfl <;> simp [List.isPrefixOf]
  have cmdHeader : bleCmdHeader.isPrefixOf ("BLE+".toList ++ body) = false := by
    have header : "CMD=".toList = ['C', 'M', 'D', '='] := by decide
    rw [show bleCmdHeader = ['B', 'L', 'E', '+', 'C', 'M', 'D', '='] by decide, ble]
    rw [header] at notCmd
    simpa [List.isPrefixOf] using notCmd
  unfold lteParseCmdRoute
  rw [if_neg (by simp [ble]), noLte]
  dsimp only
  rw [cmdHeader, if_neg Bool.false_ne_true,
    if_pos (by rw [show bleHeader = "BLE+".toList from rfl, ble]; simp [List.isPrefixOf])]
  simp [bleHeader, ble]

theorem myBleHandle_key_plain {cmdName : List Char} (plain : ',' ∉ cmdName ∧ '=' ∉ cmdName)
    (short : cmdName.length ≤ 31) (notSpecial : cmdName ∉ specialCmdPrefixes) (other : cmdName ≠ "CMD".toList)
    (param : Option (List Char)) (now : Int) (address : Nat) (rest : List Char) :
    lteParseCmdRoute ("BLE+".toList ++ cmdName ++ '=' :: rest) = .bleResponse (cmdName ++ '=' :: rest) ∧
      (bleRspParse (cmdName ++ '=' :: rest)).map bleAckKey =
        some (retransEntry (lteSendCmdWithRetry cmdName param) now address).cmdName := by
  obtain ⟨result, parsed, named, -⟩ := bleRspParse_named plain.2 rest
  refine ⟨by
    rw [List.append_assoc]
    exact lteParseCmdRoute_bleResponse (bleCmdHeader_not_matched plain.2 other rest), ?_⟩
  rw [parsed, retransEntry_cmdName_plain plain.1 short notSpecial, Option.map_some, bleAckKey, named,
    if_neg (mt List.contains_iff_mem.mp notSpecial)]

theorem myBleHandle_key_special {cmdName : List Char} (special : cmdName ∈ specialCmdPrefixes)
    {param : List Char} (given : param ≠ []) (noHash : '#' ∉ fieldAt ',' 0 param) (now : Int) (address : Nat)
    (more : List Char) :
    lteParseCmdRoute ("BLE+".toList ++ cmdName ++ '=' :: ("OK,".toList ++ fieldAt ',' 0 param ++ ',' :: more)) =
        .bleResponse (cmdName ++ '=' :: ("OK,".toList ++ fieldAt ',' 0 param ++ ',' :: more)) ∧
      (bleRspParse (cmdName ++ '=' :: ("OK,".toList ++ fieldAt ',' 0 param ++ ',' :: more))).map bleAckKey =
        some (retransEntry (lteSendCmdWithRetry cmdName (some param)) now address).cmdName := by
  obtain ⟨-, equals, -⟩ := special_short special
  have other : cmdName ≠ "CMD".toList := by
    simp only [specialCmdPrefixes, List.mem_cons, List.not_mem_nil, or_false] at special
    rcases special with rfl | rfl <;> decide
  obtain ⟨result, parsed, named, params⟩ := bleRspParse_named equals
    ("OK,".toList ++ fieldAt ',' 0 param ++ ',' :: more)
  refine ⟨by
    rw [List.append_assoc]
    exact lteParseCmdRoute_bleResponse (bleCmdHeader_not_matched equals other _), ?_⟩
  have subcmd := myGetStrAtPos_eq result.params 1 ',' (show 2 ≤ 16 by decide)
  rw [parsed, retransEntry_cmdName_special special given, Option.map_some, bleAckKey, named,
    if_pos (List.contains_iff_mem.mpr special), subcmd, params,
    fieldAt_one_okResponse (not_mem_fieldAt_zero param) noHash more]

theorem myBleHandle_misses_unparameterised_special_command :
    lteParseCmdRoute "BLE+MACINFO=OK,,1#".toList = .bleResponse "MACINFO=OK,,1#".toList ∧
      (myBleHandle (addToRetransQueue initRetransmissionQueue (lteSendCmdWithRetry "MACINFO".toList (some [])) 0 (some 0))
          "MACINFO=OK,,1#".toList).map (fun handled => pendingEntries handled.1.slots) =
        some [retransEntry "MACINFO".toList 0 0] ∧
      (retransEntry (lteSendCmdWithRetry "TAG_X".toList (some "1".toList)) 0 0).cmdName = "TAG_X".toList ∧
      resendName "TAG_X".toList = "TAG".toList ∧
      lteParseCmdRoute "BLE+CMD=OK,1#".toList = .bleCmd "OK,1#".toList := by
  refine ⟨by decide, ?_, by decide, by decide, by decide⟩
  have parsed : bleRspParse "MACINFO=OK,,1#".toList = some ⟨.macinfo, "MACINFO".toList, "OK,,1".toList, 3⟩ := by
    decide
  simp only [myBleHandle, parsed, Option.map_some, pendingEntries_checkAck]
  decide

end Lte
