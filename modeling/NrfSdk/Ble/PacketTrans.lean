import NrfSdk.Machine.Memory

namespace Ble

open Machine

def bleServerMinMtu : Nat := 23
def bleServerMaxMtu : Nat := 498
def bleSvcRxMaxLen : Nat := bleServerMaxMtu - 3
def bleRespLengthMax : Nat := bleSvcRxMaxLen
def bleCmdDataLenUnit : Nat := 16
def bleMtuDataLen : Nat := 512 + 16
def respStringLengthMax : Nat := 1024

def blePacketTransMaxRetry : Nat := 3
def blePacketProtoSingle : Nat := 0x01
def blePacketProtoMultiple : Nat := 0x02
def bleDataTypePacketSingle : Nat := 0xFF01
def bleDataTypePacketMultiple : Nat := 0xFF02
def blePacketTransModuleId : Nat := 0x08
def blePacketTransSeqLast : Nat := 0xFF

def varintIs2byte (value : Nat) : Bool := value > 127
def varintHighByte (value : Nat) : Nat := value / 128 % 128
def varintLowByte (value : Nat) : Nat := value % 128 + 128

def varintField (value : Nat) : List UInt8 :=
  if varintIs2byte value then [(varintLowByte value).toUInt8, (varintHighByte value).toUInt8]
  else [(u8 value).toUInt8]

/-- BLE_SERVER_MAX_DATA_LEN, computed in int from the uint16 MTU. -/
def bleServerMaxDataLen (mtu : Nat) : Int := (mtu : Int) - 3

/-- ((BLE_SERVER_MAX_DATA_LEN - 4) / BLE_CMD_DATA_LEN_UNIT) * BLE_CMD_DATA_LEN_UNIT, in int. -/
def maxEncryptBlocks (mtu : Nat) : Int := (bleServerMaxDataLen mtu - 4).tdiv bleCmdDataLenUnit * bleCmdDataLenUnit

/-- A length rounded up to the next multiple of 16 in uint16, as the packet senders pad it. -/
def padToUnit (len : Nat) : Nat :=
  if len % bleCmdDataLenUnit ≠ 0 then u16 (len + (bleCmdDataLenUnit - len % bleCmdDataLenUnit)) else len

/-- packet_trans_t: the response being sent and where the transfer stands. -/
structure PacketTrans where
  data : List UInt8
  totalLen : Nat
  sentOffset : Nat
  lastOffset : Nat
  lastLen : Nat
  nextSeq : Nat
  retryCnt : Nat
  lastSeq : Nat
  lastProtoType : Nat
  waitingAck : Bool
  isBusy : Bool
  deriving DecidableEq, Repr

/-- packet_trans_wait_t: the latest response queued while a transfer is busy. -/
structure PacketTransWait where
  data : List UInt8
  len : Nat
  pending : Bool
  deriving DecidableEq, Repr

def PacketTrans.cleared : PacketTrans := ⟨[], 0, 0, 0, 0, 0, 0, 0, 0, false, false⟩

def PacketTransWait.cleared : PacketTransWait := ⟨[], 0, false⟩

/-- A notification handed to BLE_DataTransOverBle: the packet type and the payload before its AES
encryption, which keeps its length. The notification carries payload.length + 4 bytes. -/
structure Notification where
  type : Nat
  payload : List UInt8
  deriving DecidableEq, Repr

/-- The reply transfer of my_ble_app.c: g_ble_server_mtu, the two transfer records, the response
timer, the notifications sent and the writes into s_ble_rsp_buf. -/
structure BleState where
  mtu : Nat
  trans : PacketTrans
  wait : PacketTransWait
  timerRunning : Bool
  notifications : List Notification
  trace : List (Access Unit)
  deriving DecidableEq, Repr

def rspBufSize (_ : Unit) : Nat := bleMtuDataLen

def dataSlice (data : List UInt8) (offset len : Nat) : List UInt8 :=
  (List.range len).map fun i => data.getD (offset + i) 0

def blePacketTransStopRspTimer (state : BleState) : BleState := { state with timerRunning := false }

def blePacketTransStartRspTimer (state : BleState) : BleState := { state with timerRunning := true }

/-- ble_comu_send_packet: a payload that is too long or not a whole number of AES blocks is dropped. -/
def bleComuSendPacket (type : Nat) (payload : List UInt8) (len : Nat) (state : BleState) : BleState :=
  if len > bleRespLengthMax ∨ len % bleCmdDataLenUnit ≠ 0 then state
  else { state with notifications := state.notifications ++ [⟨type, payload.take len⟩] }

def fillRspBuf (header data : List UInt8) (state : BleState) : List UInt8 × BleState :=
  (header ++ data ++ List.replicate bleMtuDataLen 0,
    { state with trace := state.trace ++ [⟨(), 0, header.length + data.length, .write⟩] })

def blePacketTransRecordLastPacket (protoType seq offset len : Nat) (state : BleState) : BleState :=
  { state with
    trans := { state.trans with
      lastProtoType := protoType
      lastSeq := seq
      lastOffset := offset
      lastLen := len
      waitingAck := true } }

def bleSinglePacketCanSend (mtu len : Nat) : Bool :=
  let moduleLenBytes := if varintIs2byte len then 2 else 1
  let contentLen := u16 (1 + moduleLenBytes + len)
  let contentLenBytes := if varintIs2byte contentLen then 2 else 1
  let payloadLen := u16 (contentLenBytes + contentLen)
  let encryptLen := u16 (payloadLen / bleCmdDataLenUnit * bleCmdDataLenUnit +
    if payloadLen % bleCmdDataLenUnit ≠ 0 then bleCmdDataLenUnit else 0)
  -- 4 bytes of head and type, and 16 bytes kept for padding
  let maxEncryptLen := u16 (maxEncryptBlocks mtu - 16)
  encryptLen ≤ maxEncryptLen

def bleSinglePacketSend (len : Nat) (state : BleState) : BleState :=
  if len = 0 then state
  else
    let moduleLenBytes := if varintIs2byte len then 2 else 1
    let contentLen := u16 (1 + moduleLenBytes + len)
    let header := varintField contentLen ++ [blePacketTransModuleId.toUInt8] ++ varintField len
    let (rspBuf, state) := fillRspBuf header (dataSlice state.trans.data 0 len) state
    let encryptLen := padToUnit (u16 (header.length + len))
    let state := blePacketTransRecordLastPacket blePacketProtoSingle 0 0 len state
    let state := bleComuSendPacket bleDataTypePacketSingle rspBuf encryptLen state
    blePacketTransStartRspTimer state

def bleMultiplePacketSend (seq offset len : Nat) (isFirst : Bool) (state : BleState) : BleState :=
  if len = 0 then state
  else
    let totalLen := state.trans.totalLen
    let contentLen := u16 (1 + len)
    let contentLen := if isFirst then u16 (contentLen + 1 + if varintIs2byte totalLen then 2 else 1) else contentLen
    let header := varintField contentLen ++ [seq.toUInt8] ++
      if isFirst then [blePacketTransModuleId.toUInt8] ++ varintField totalLen else []
    let (rspBuf, state) := fillRspBuf header (dataSlice state.trans.data offset len) state
    let encryptLen := padToUnit (u16 (header.length + len))
    -- the check comes after the copy into s_ble_rsp_buf
    if encryptLen > bleMtuDataLen then state
    else
      let state := blePacketTransRecordLastPacket blePacketProtoMultiple seq offset len state
      let state := bleComuSendPacket bleDataTypePacketMultiple rspBuf encryptLen state
      blePacketTransStartRspTimer state

def blePacketTransSend (data : List UInt8) (state : BleState) : BleState :=
  let len := u16 data.length
  if len = 0 then state
  else
    let len := if len > respStringLengthMax then respStringLengthMax else len
    if state.trans.isBusy then { state with wait := ⟨data.take len, len, true⟩ }
    else
      let state := { state with trans := { PacketTrans.cleared with data := data.take len, totalLen := len, isBusy := true } }
      if bleSinglePacketCanSend state.mtu len then bleSinglePacketSend len state
      else
        let maxEncryptLen := u16 (maxEncryptBlocks state.mtu)
        let moduleLenBytes := if varintIs2byte len then 2 else 1
        let contentLen := u16 (1 + 1 + moduleLenBytes + len)
        let lenFieldBytes := if varintIs2byte contentLen then 2 else 1
        let headerLen := lenFieldBytes + 1 + 1 + moduleLenBytes
        -- 16 bytes kept for padding
        let firstPktMax := u16 ((maxEncryptLen : Int) - headerLen - 16)
        let pktLen := if len > firstPktMax then firstPktMax else len
        let state := { state with trans := { state.trans with nextSeq := 1 } }
        let state := bleMultiplePacketSend 0 0 pktLen true state
        { state with trans := { state.trans with sentOffset := pktLen } }

def blePacketTransResetState (clearPending : Bool) (state : BleState) : BleState :=
  let state := blePacketTransStopRspTimer state
  { state with
    trans := PacketTrans.cleared
    wait := if clearPending then PacketTransWait.cleared else state.wait }

def blePacketTransTryStartPending (state : BleState) : BleState :=
  if state.wait.pending then
    let state := { state with wait := { state.wait with pending := false } }
    blePacketTransSend (state.wait.data.take state.wait.len) state
  else state

def blePacketTransCompleteCurrent (state : BleState) : BleState :=
  blePacketTransTryStartPending (blePacketTransResetState false state)

def blePacketTransAbortCurrent (state : BleState) : BleState :=
  blePacketTransTryStartPending (blePacketTransResetState false state)

/-- What a matching reply does first: the timer stops and the retries start over. -/
def acceptReply (state : BleState) : BleState :=
  let state := blePacketTransStopRspTimer state
  { state with trans := { state.trans with waitingAck := false, retryCnt := 0 } }

def bleMultiplePacketContinue (ackSeq : Nat) (state : BleState) : BleState :=
  if !state.trans.isBusy || !state.trans.waitingAck then state
  else if ackSeq ≠ state.trans.lastSeq then state
  else
    let state := acceptReply state
    let trans := state.trans
    let remaining := u16 ((trans.totalLen : Int) - trans.sentOffset)
    if remaining = 0 then blePacketTransCompleteCurrent state
    else
      let maxEncryptLen := u16 (maxEncryptBlocks state.mtu)
      let headerLen := (if varintIs2byte (1 + remaining) then 2 else 1) + 1
      let pktLen := u16 ((maxEncryptLen : Int) - headerLen - 16)
      let pktLen := if pktLen > remaining then remaining else pktLen
      let (seqToSend, nextSeq) :=
        if trans.sentOffset + pktLen ≥ trans.totalLen then (blePacketTransSeqLast, 0)
        else (trans.nextSeq, u8 (trans.nextSeq + 1))
      let state := { state with trans := { trans with nextSeq := nextSeq } }
      let state := bleMultiplePacketSend seqToSend trans.sentOffset pktLen false state
      { state with trans := { state.trans with sentOffset := u16 (trans.sentOffset + pktLen) } }

def bleSinglePacketRspHandle (payload : List UInt8) (state : BleState) : BleState :=
  if payload.length < 1 then state
  else if !state.trans.isBusy || !state.trans.waitingAck || state.trans.lastProtoType ≠ blePacketProtoSingle then
    state
  else blePacketTransCompleteCurrent (acceptReply state)

def bleMultiplePacketAckHandle (payload : List UInt8) (state : BleState) : BleState :=
  let len := u16 payload.length
  let byte (i : Nat) : Nat := (payload.getD i 0).toNat
  if len < 2 then state
  else if !state.trans.isBusy || !state.trans.waitingAck || state.trans.lastProtoType ≠ blePacketProtoMultiple then
    state
  else if byte 0 ≥ 0x80 ∧ len < 3 then state
  else
    let (ackLen, seqPos) : Nat × Nat := if byte 0 ≥ 0x80 then (byte 0 % 0x80 + byte 1 * 0x80, 2) else (byte 0, 1)
    if len < u16 (seqPos + ackLen) then state
    else bleMultiplePacketContinue (byte seqPos) state

/-- ble_packet_trans_timeout_handler, with ble_is_data_channel_ready() as an argument. -/
def blePacketTransTimeoutHandler (channelReady : Bool) (state : BleState) : BleState :=
  if !state.trans.isBusy || !state.trans.waitingAck then state
  else if !channelReady then blePacketTransAbortCurrent state
  else if state.trans.retryCnt ≥ blePacketTransMaxRetry then blePacketTransAbortCurrent state
  else
    let state := { state with trans := { state.trans with retryCnt := u8 (state.trans.retryCnt + 1) } }
    let trans := state.trans
    if trans.lastProtoType = blePacketProtoSingle then bleSinglePacketSend trans.totalLen state
    else if trans.lastProtoType = blePacketProtoMultiple then
      bleMultiplePacketSend trans.lastSeq trans.lastOffset trans.lastLen (trans.lastOffset = 0) state
    else state

/-- What reaches the transfer: a response to send, the app's FF01 reply or FF02 ack (decrypted
payload), or a timeout of the response timer. -/
inductive BleEvent where
  | send (data : List UInt8)
  | singleRsp (payload : List UInt8)
  | multipleAck (payload : List UInt8)
  | timeout (channelReady : Bool)
  deriving DecidableEq, Repr

def bleStep (state : BleState) : BleEvent → BleState
  | .send data => blePacketTransSend data state
  | .singleRsp payload => bleSinglePacketRspHandle payload state
  | .multipleAck payload => bleMultiplePacketAckHandle payload state
  | .timeout channelReady => blePacketTransTimeoutHandler channelReady state

def bleRun (state : BleState) (events : List BleEvent) : BleState := events.foldl bleStep state

def bleIdle (mtu : Nat) : BleState := ⟨mtu, PacketTrans.cleared, PacketTransWait.cleared, false, [], []⟩

theorem bleRun_cons (state : BleState) (event : BleEvent) (events : List BleEvent) :
    bleRun state (event :: events) = bleRun (bleStep state event) events := rfl

def Stalled (trans : PacketTrans) : Prop := trans.isBusy = true ∧ trans.waitingAck = false

instance (trans : PacketTrans) : Decidable (Stalled trans) := inferInstanceAs (Decidable (_ ∧ _))

theorem bleStep_trans_of_stalled {state : BleState} (stalled : Stalled state.trans) (event : BleEvent) :
    (bleStep state event).trans = state.trans := by
  obtain ⟨busy, idle⟩ := stalled
  cases event with
  | send data =>
    simp only [bleStep, blePacketTransSend, busy, if_true]
    split <;> rfl
  | singleRsp payload =>
    simp only [bleStep, bleSinglePacketRspHandle]
    split <;> simp [idle]
  | multipleAck payload =>
    simp only [bleStep, bleMultiplePacketAckHandle]
    split <;> simp [idle]
  | timeout channelReady => simp [bleStep, blePacketTransTimeoutHandler, idle]

/-- Once stalled, a transfer stays as it is whatever happens next. -/
theorem bleRun_trans_of_stalled {state : BleState} (stalled : Stalled state.trans) (events : List BleEvent) :
    (bleRun state events).trans = state.trans := by
  induction events generalizing state with
  | nil => rfl
  | cons event events ih =>
    have step := bleStep_trans_of_stalled stalled event
    rw [bleRun_cons, ih (step ▸ stalled), step]

def bleResponse (len : Nat) : List UInt8 := (List.range len).map fun i => (65 + i % 26).toUInt8

/-- At the default MTU of 23, ((mtu - 3 - 4) / 16) * 16 is 16, so FF01 is never possible and
first_pkt_max = 16 - header_len - 16 wraps in uint16: the whole response goes into the first FF02
packet. Thirteen bytes give one packet with seq 0, not 0xFF, in a 36-byte notification where
mtu - 3 = 20 bytes fit. A 1024-byte response is copied into s_ble_rsp_buf past its 528 bytes before
the size check drops the packet. Then nothing is sent and no timer runs, and no later reply, timeout
or response ever ends the transfer. -/
theorem blePacketTransSend_default_mtu_wraps_first_packet :
    (bleRun (bleIdle bleServerMinMtu) [.send (bleResponse 13), .multipleAck [1, 0]]).notifications.map
        (fun sent => (sent.type, sent.payload.length + 4, sent.payload.getD 1 0)) =
        [(bleDataTypePacketMultiple, 36, 0)] ∧
      ¬ TraceWithin rspBufSize (bleRun (bleIdle bleServerMinMtu) [.send (bleResponse 1024)]).trace ∧
      (bleRun (bleIdle bleServerMinMtu) [.send (bleResponse 1024)]).notifications = [] ∧
      ∀ events, (bleRun (bleIdle bleServerMinMtu) (.send (bleResponse 1024) :: events)).trans.isBusy = true := by
  have stalled : Stalled (bleStep (bleIdle bleServerMinMtu) (.send (bleResponse 1024))).trans := by
    decide +kernel
  refine ⟨by decide +kernel, ?_, by decide +kernel, fun events => ?_⟩
  · have overrun : (bleRun (bleIdle bleServerMinMtu) [.send (bleResponse 1024)]).trace =
        [⟨(), 0, 1030, .write⟩] := by decide +kernel
    rw [overrun, traceWithin_cons]
    intro within
    exact absurd within.1 (by decide)
  · rw [bleRun_cons, bleRun_trans_of_stalled stalled]
    exact stalled.1

end Ble
