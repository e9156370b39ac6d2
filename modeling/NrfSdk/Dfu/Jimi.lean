import NrfSdk.Machine.Memory
import Mathlib.Logic.Function.Iterate

namespace Jimi

open Machine

def dfuBufferSize : Nat := 1024
def flashSectorSize : Nat := 4096
def crc16Polynomial : Nat := 0xA001

def dfuStart : Nat := 0x01
def dfuFileSize : Nat := 0x02
def dfuFileImage : Nat := 0x03
def dfuFileEnd : Nat := 0x04

def dfuEndRespOk : Nat := 0x00
def dfuEndRespError : Nat := 0x01
def dfuEndRespSize : Nat := 0x03
def dfuEndRespTimeOut : Nat := 0x04

def crcShift (polynomial crc : Nat) : Nat :=
  if crc &&& 1 = 0 then crc >>> 1 else (crc >>> 1) ^^^ polynomial

def myCrc16Calc (data : List UInt8) (polynomial : Nat) : Nat :=
  data.foldl (fun crc byte => (crcShift polynomial)^[8] (crc ^^^ byte.toNat)) 0

def byteAt (data : List UInt8) (index : Nat) : Nat := (data.getD index 0).toNat

def bytesAt (data : List UInt8) (offset count : Nat) : List UInt8 :=
  (List.range count).map fun i => data.getD (offset + i) 0

/-- The little-endian word `data[o] | (data[o + 1] << 8) | (data[o + 2] << 16) | (data[o + 3] << 24)`; the
shifted bytes do not overlap, so the ORs are sums. -/
def le32At (data : List UInt8) (offset : Nat) : Nat :=
  byteAt data offset + byteAt data (offset + 1) * 2 ^ 8 + byteAt data (offset + 2) * 2 ^ 16 +
    byteAt data (offset + 3) * 2 ^ 24

/-- A response of my_ble_dfu_send_response: the opcode and what its 10-byte payload carries. -/
inductive DfuResponse where
  | start
  | imageReq (addr length : Nat)
  | fileEnd (code : Nat)
  deriving DecidableEq, Repr

/-- The statics of my_dfu_jimi.c, the image_1 partition, and the logs of what the device did: the sectors
it erased, the blocks it wrote and the responses it sent. A timer or work field is true while the timer
runs or the work item is submitted. -/
structure DfuState where
  fwCopySize : Nat
  reqFileAddr : Nat
  repeatReqCount : Nat
  endFlag : Bool
  inProgress : Bool
  buffer : List UInt8
  bufOffset : Nat
  blockAddr : Nat
  waitTimer : Bool
  finishTimer : Bool
  resetTimer : Bool
  retryWork : Bool
  timeoutWork : Bool
  resetWork : Bool
  flash : Nat → UInt8
  erased : List Nat
  writes : List (Nat × List UInt8)
  sent : List DfuResponse
  upgradeRequested : Bool
  rebooted : Bool

def dfuBootState (flash : Nat → UInt8) : DfuState where
  fwCopySize := 0
  reqFileAddr := 0
  repeatReqCount := 0
  endFlag := false
  inProgress := false
  buffer := List.replicate dfuBufferSize 0
  bufOffset := 0
  blockAddr := 0
  waitTimer := false
  finishTimer := false
  resetTimer := false
  retryWork := false
  timeoutWork := false
  resetWork := false
  flash := flash
  erased := []
  writes := []
  sent := []
  upgradeRequested := false
  rebooted := false

def flashEraseSector (flash : Nat → UInt8) (sector : Nat) : Nat → UInt8 :=
  fun offset => if sector ≤ offset ∧ offset < sector + flashSectorSize then 0xFF else flash offset

def flashProgram (flash : Nat → UInt8) (addr : Nat) (data : List UInt8) : Nat → UInt8 :=
  fun offset => if addr ≤ offset ∧ offset < addr + data.length then data.getD (offset - addr) 0 else flash offset

def flashBytes (flash : Nat → UInt8) (addr size : Nat) : List UInt8 :=
  (List.range size).map fun i => flash (addr + i)

/-- The flash driver calls my_dfu_jimi.c makes on the image_1 partition, each with the status it returns:
flash_erase of one FLASH_SECTOR_SIZE sector, flash_write and flash_read. -/
structure FlashApi where
  erase : (Nat → UInt8) → Nat → Int × (Nat → UInt8)
  write : (Nat → UInt8) → Nat → List UInt8 → Int × (Nat → UInt8)
  read : (Nat → UInt8) → Nat → Nat → Int × List UInt8

/-- A working NOR flash: an erase sets its sector to 0xFF, a write over erased bytes stores them, and a read
returns what the flash holds, each with status 0. -/
structure FlashApi.Lawful (api : FlashApi) : Prop where
  erase_sets : ∀ flash sector, api.erase flash sector = (0, flashEraseSector flash sector)
  write_erased : ∀ flash addr data, (∀ i < data.length, flash (addr + i) = 0xFF) →
    api.write flash addr data = (0, flashProgram flash addr data)
  read_holds : ∀ flash addr size, api.read flash addr size = (0, flashBytes flash addr size)

/-- g_ble_server_mtu, FLASH_AREA_SIZE(image_1), the flash driver, and whether MY_MALLOC_BUFFER finds the 1 KB
read-back buffer of a flush; the heap is not modelled, so its answer may depend on anything the device has
done. -/
structure DfuEnv where
  mtu : Nat
  partitionSize : Nat
  flash : FlashApi
  readBackAllocated : DfuState → Bool
  mtu_lt : mtu < 2 ^ 16
  partitionSize_lt : partitionSize < 2 ^ 32

structure DfuEnv.Lawful (env : DfuEnv) : Prop where
  flash : env.flash.Lawful
  allocates : ∀ s, env.readBackAllocated s = true

def enomem : Int := 12
def eio : Int := 5

def myBleDfuSendResponse (response : DfuResponse) (s : DfuState) : DfuState :=
  { s with sent := s.sent ++ [response] }

def mtuPktSize (mtu : Nat) : Nat :=
  let maxData := if mtu > 23 then mtu - 3 - 20 else 128
  if mtu ≥ 384 then
    let tier := maxData / 128 * 128
    if tier ≥ 384 then 384 else if tier ≥ 256 then 256 else if tier < 128 then 128 else tier
  else 128

def jimiDfuCalcPktSize (mtu remainSize bufRemain : Nat) : Nat :=
  let pktSize := mtuPktSize mtu
  -- never more than the space left in the 1 KB cache
  let pktSize :=
    if pktSize > bufRemain then
      let fit := bufRemain / 128 * 128
      if fit < 128 then 128 else fit
    else pktSize
  -- never more than the rest of the file
  let pktSize := if pktSize > remainSize then remainSize % 2 ^ 16 else pktSize
  -- rounded up to whole 16-byte AES blocks
  if pktSize % 16 ≠ 0 then (pktSize + 15) / 16 * 16 % 2 ^ 16 else pktSize

/-- The sector offsets the erase loop of jimi_dfu_flash_erase visits. -/
def jimiDfuFlashEraseLoop (eraseAddr eraseSize : Nat) : List Nat :=
  if eraseSize = 0 then []
  else if eraseSize > flashSectorSize then
    eraseAddr :: jimiDfuFlashEraseLoop (eraseAddr + flashSectorSize) (eraseSize - flashSectorSize)
  else [eraseAddr]
termination_by eraseSize
decreasing_by simp only [flashSectorSize] at *; omega

/-- The erase loop of jimi_dfu_flash_erase on the sectors it visits: it stops at the first sector flash_erase
fails on and returns that status; `erased` logs the sectors erased. -/
def jimiDfuFlashEraseSectors (api : FlashApi) : List Nat → DfuState → Int × DfuState
  | [], s => (0, s)
  | sector :: sectors, s =>
    let (ret, flash) := api.erase s.flash sector
    if ret ≠ 0 then (ret, { s with flash })
    else jimiDfuFlashEraseSectors api sectors { s with flash, erased := s.erased ++ [sector] }

def jimiDfuFlashErase (api : FlashApi) (offSet size : Nat) (s : DfuState) : Int × DfuState :=
  jimiDfuFlashEraseSectors api (jimiDfuFlashEraseLoop offSet size) s

/-- `writes` logs every call, whatever flash_write returns. -/
def jimiDfuFlashWrite (api : FlashApi) (wrtAddr : Nat) (inBuf : List UInt8) (s : DfuState) : Int × DfuState :=
  let (ret, flash) := api.write s.flash wrtAddr inBuf
  (ret, { s with flash, writes := s.writes ++ [(wrtAddr, inBuf)] })

def jimiDfuFlashRead (api : FlashApi) (flash : Nat → UInt8) (offAddr outBufSize : Nat) : Int × List UInt8 :=
  api.read flash offAddr outBufSize

def padBuffer (s : DfuState) : List UInt8 :=
  if s.bufOffset < dfuBufferSize then
    storeBytes s.buffer s.bufOffset (List.replicate (dfuBufferSize - s.bufOffset) 0xFF)
  else s.buffer

def nextBlock (s : DfuState) : DfuState :=
  { s with blockAddr := s.blockAddr + dfuBufferSize, bufOffset := 0, buffer := List.replicate dfuBufferSize 0xFF }

/-- Writes the cache to the current block and reads it back; the status is -EIO when the CRC of what was
read back differs from the CRC of what was written. -/
def jimiDfuFlushBuffer (env : DfuEnv) (isLast : Bool) (s : DfuState) : Int × DfuState :=
  if s.bufOffset = 0 ∧ isLast = false then (0, s)
  else if !env.readBackAllocated s then (-enomem, s)
  else
    let buffer := padBuffer s
    let (ret, written) := jimiDfuFlashWrite env.flash s.blockAddr buffer { s with buffer }
    if ret ≠ 0 then (ret, written)
    else
      let (ret, readBack) := jimiDfuFlashRead env.flash written.flash s.blockAddr dfuBufferSize
      if ret ≠ 0 then (ret, written)
      else if myCrc16Calc buffer crc16Polynomial ≠ myCrc16Calc readBack crc16Polynomial then (-eio, written)
      else (0, nextBlock written)

def jimiDfuImageDownReq (addr length : Nat) (s : DfuState) : DfuState :=
  myBleDfuSendResponse (.imageReq addr length) s

/-- The packet size jimi_dfu_write_image and dfu_retry_work_handler request next: the rest of the file is
the u32 difference, which is the Nat one since s_req_file_addr never passes fw_copy_size. -/
def nextPktSize (env : DfuEnv) (s : DfuState) : Nat :=
  jimiDfuCalcPktSize env.mtu (s.fwCopySize - s.reqFileAddr) (dfuBufferSize - s.bufOffset)

def jimiDfuStart (s : DfuState) : DfuState :=
  myBleDfuSendResponse .start { s with endFlag := false, inProgress := true }

def jimiDfuRxFileSize (env : DfuEnv) (data : List UInt8) (s : DfuState) : DfuState :=
  let fileSize := le32At data 0
  let s := { s with fwCopySize := fileSize }
  if fileSize > env.partitionSize then
    { myBleDfuSendResponse (.fileEnd dfuEndRespSize) s with inProgress := false }
  else
    let (ret, s) := jimiDfuFlashErase env.flash 0 fileSize s
    if ret ≠ 0 then { myBleDfuSendResponse (.fileEnd dfuEndRespError) s with inProgress := false }
    else
      let s := { s with blockAddr := 0, bufOffset := 0, buffer := List.replicate dfuBufferSize 0xFF }
      let firstPktSize := jimiDfuCalcPktSize env.mtu fileSize dfuBufferSize
      { jimiDfuImageDownReq 0 firstPktSize s with reqFileAddr := 0, repeatReqCount := 0, waitTimer := true }

def jimiDfuImageComplete (s : DfuState) : DfuState :=
  { myBleDfuSendResponse (.fileEnd dfuEndRespOk) { s with endFlag := true } with
    finishTimer := true
    resetTimer := true }

def jimiDfuRequestNext (env : DfuEnv) (reqFileAddr : Nat) (s : DfuState) : DfuState :=
  let s := { s with repeatReqCount := 0, reqFileAddr }
  { jimiDfuImageDownReq reqFileAddr (nextPktSize env s) s with waitTimer := true }

def jimiDfuStoreImage (env : DfuEnv) (wrtAddr wrtLen : Nat) (fragment : List UInt8) (s : DfuState) :
    DfuState :=
  let bufPos := wrtAddr % dfuBufferSize
  if (bufPos + wrtLen) % 2 ^ 32 > dfuBufferSize then
    -- "DFU buffer overflow"
    { myBleDfuSendResponse (.fileEnd dfuEndRespError) s with inProgress := false }
  else
    let s := { s with buffer := storeBytes s.buffer bufPos fragment, bufOffset := (bufPos + wrtLen) % 2 ^ 16 }
    let isLast := decide ((wrtAddr + wrtLen) % 2 ^ 32 ≥ s.fwCopySize)
    let flushed := if s.bufOffset ≥ dfuBufferSize ∨ isLast = true then jimiDfuFlushBuffer env isLast s else (0, s)
    if flushed.1 ≠ 0 then
      { myBleDfuSendResponse (.fileEnd dfuEndRespError) flushed.2 with inProgress := false }
    else if isLast then jimiDfuImageComplete flushed.2
    else jimiDfuRequestNext env ((wrtAddr + wrtLen) % 2 ^ 32) flushed.2

def jimiDfuWriteImage (env : DfuEnv) (data : List UInt8) (len : Nat) (s : DfuState) : DfuState :=
  let wrtAddr := le32At data 0
  let wrtLen := le32At data 4
  let rxCrc := byteAt data (8 + wrtLen) * 2 ^ 8 + byteAt data (9 + wrtLen)
  let calcCrc := myCrc16Calc (bytesAt data 8 (wrtLen % 2 ^ 16)) crc16Polynomial
  if len ≠ (wrtLen + 10) % 2 ^ 32 then s
  else if calcCrc ≠ rxCrc then s
  else if wrtAddr ≠ s.reqFileAddr then s
  else jimiDfuStoreImage env wrtAddr wrtLen (bytesAt data 8 wrtLen) { s with waitTimer := false }

def jimiDfuEndImage (s : DfuState) : DfuState :=
  { s with waitTimer := false, resetTimer := true }

def dfuTimerWaitCallback (s : DfuState) : DfuState :=
  let count := (s.repeatReqCount + 1) % 2 ^ 8
  if count ≤ 10 then { s with repeatReqCount := count, retryWork := true }
  else { s with repeatReqCount := 0, timeoutWork := true }

def dfuRetryWorkHandler (env : DfuEnv) (s : DfuState) : DfuState :=
  jimiDfuImageDownReq s.reqFileAddr (nextPktSize env s) s

def dfuTimeoutWorkHandler (s : DfuState) : DfuState :=
  { myBleDfuSendResponse (.fileEnd dfuEndRespTimeOut) s with inProgress := false }

def dfuFinishWaitCallback (s : DfuState) : DfuState := { s with resetTimer := true }

def dfuResetCallback (s : DfuState) : DfuState := { s with resetWork := true }

def dfuResetWorkHandler (s : DfuState) : DfuState :=
  { s with upgradeRequested := s.upgradeRequested || s.endFlag, rebooted := true }

def gJimiDfuHandlerTbl (env : DfuEnv) : List (Nat × (List UInt8 → Nat → DfuState → DfuState)) :=
  [(dfuStart, fun _ _ => jimiDfuStart),
   (dfuFileSize, fun data _ => jimiDfuRxFileSize env data),
   (dfuFileImage, jimiDfuWriteImage env),
   (dfuFileEnd, fun _ _ => jimiDfuEndImage)]

def jimiDfuCmdHandler (env : DfuEnv) (cmd : Nat) (data : List UInt8) (len : Nat) (s : DfuState) : DfuState :=
  match (gJimiDfuHandlerTbl env).find? (fun entry => entry.1 == cmd) with
  | some (_, handler) => handler data len s
  | none => s

inductive DfuWork where
  | retry
  | timeout
  | reset
  deriving DecidableEq, Repr

/-- What the device reacts to: a DFU command from BLE, one of its timers expiring, or its work queue
running a submitted item. -/
inductive DfuEvent where
  | command (cmd : Nat) (data : List UInt8)
  | waitTimerExpired
  | finishTimerExpired
  | resetTimerExpired
  | work (item : DfuWork)

/-- One event of the device. A timer that is not running does not expire and a work item that is not
submitted does not run; after sys_reboot the run is over. -/
def dfuStep (env : DfuEnv) (s : DfuState) (event : DfuEvent) : DfuState :=
  if s.rebooted then s
  else
    match event with
    | .command cmd data => jimiDfuCmdHandler env cmd data data.length s
    | .waitTimerExpired => if s.waitTimer then dfuTimerWaitCallback { s with waitTimer := false } else s
    | .finishTimerExpired => if s.finishTimer then dfuFinishWaitCallback { s with finishTimer := false } else s
    | .resetTimerExpired => if s.resetTimer then dfuResetCallback { s with resetTimer := false } else s
    | .work .retry => if s.retryWork then dfuRetryWorkHandler env { s with retryWork := false } else s
    | .work .timeout => if s.timeoutWork then dfuTimeoutWorkHandler { s with timeoutWork := false } else s
    | .work .reset => if s.resetWork then dfuResetWorkHandler { s with resetWork := false } else s

/-! The app's side of the transfer. -/

def le32Bytes (value : Nat) : List UInt8 :=
  [value.toUInt8, (value / 2 ^ 8).toUInt8, (value / 2 ^ 16).toUInt8, (value / 2 ^ 24).toUInt8]

def requestFragment (file : List UInt8) (request : Nat × Nat) : List UInt8 := (file.drop request.1).take request.2

def appImagePacket (file : List UInt8) (request : Nat × Nat) : List UInt8 :=
  let fragment := requestFragment file request
  let crc := myCrc16Calc fragment crc16Polynomial
  le32Bytes request.1 ++ le32Bytes fragment.length ++ fragment ++ [(crc / 2 ^ 8).toUInt8, crc.toUInt8]

/-- JIMI_DFU_FILE_SIZE as the app sends it; the device reads only the size. -/
def appFileSizePacket (file : List UInt8) : List UInt8 := le32Bytes file.length

def imageRequests (sent : List DfuResponse) : List (Nat × Nat) :=
  sent.filterMap fun
    | .imageReq addr length => some (addr, length)
    | _ => none

/-- The device and the image requests the app has received and not answered yet. -/
structure DfuSystem where
  device : DfuState
  pending : List (Nat × Nat)

/-- What happens during a transfer: the app answers one of its pending requests, or the device's timers
and work queue act. -/
inductive TransferEvent where
  | answer (index : Nat)
  | waitTimerExpired
  | finishTimerExpired
  | resetTimerExpired
  | work (item : DfuWork)

def DfuSystem.deliver (env : DfuEnv) (sys : DfuSystem) (pending : List (Nat × Nat)) (event : DfuEvent) :
    DfuSystem :=
  let device := dfuStep env sys.device event
  { device, pending := pending ++ imageRequests (device.sent.drop sys.device.sent.length) }

def transferStep (env : DfuEnv) (file : List UInt8) (sys : DfuSystem) : TransferEvent → DfuSystem
  | .answer index =>
    match sys.pending[index]? with
    | some request =>
      sys.deliver env (sys.pending.eraseIdx index) (.command dfuFileImage (appImagePacket file request))
    | none => sys
  | .waitTimerExpired => sys.deliver env sys.pending .waitTimerExpired
  | .finishTimerExpired => sys.deliver env sys.pending .finishTimerExpired
  | .resetTimerExpired => sys.deliver env sys.pending .resetTimerExpired
  | .work item => sys.deliver env sys.pending (.work item)

def transferRun (env : DfuEnv) (file : List UInt8) (sys : DfuSystem) (events : List TransferEvent) :
    DfuSystem :=
  events.foldl (transferStep env file) sys

def transferStart (env : DfuEnv) (flash : Nat → UInt8) (file : List UInt8) : DfuSystem :=
  let opened := DfuSystem.deliver env ⟨dfuBootState flash, []⟩ [] (.command dfuStart [])
  opened.deliver env opened.pending (.command dfuFileSize (appFileSizePacket file))

end Jimi
