import NrfSdk.Sms.Submit

namespace Sms

open Machine

def sctsFieldSize : Nat := 7
def smsUdhIeConcatenatedShortMessages8bit : Nat := 0x00
def smsUdhIeApplicationPortAddressingScheme8bit : Nat := 0x04
def smsUdhIeApplicationPortAddressingScheme16bit : Nat := 0x05
def smsUdhIeConcatenatedShortMessages16bit : Nat := 0x08
def parserBufSize : Nat := 180

structure SmsTime where
  year : Nat
  month : Nat
  day : Nat
  hour : Nat
  minute : Nat
  second : Nat
  timezone : Int
  deriving DecidableEq, Repr

structure SmsAddress where
  addressStr : List UInt8
  length : Nat
  type : Nat
  deriving DecidableEq, Repr

structure SmsUdhConcat where
  present : Bool
  refNumber : Nat
  totalMsgs : Nat
  seqNumber : Nat
  deriving DecidableEq, Repr

structure SmsUdhAppPort where
  present : Bool
  destPort : Nat
  srcPort : Nat
  deriving DecidableEq, Repr

/-- The bit fields of struct pdu_dcs_field. -/
structure PduDcsField where
  msgClass : Nat
  alphabet : Nat
  presenceOfClass : Nat
  compressed : Nat
  deriving DecidableEq, Repr

/-- struct pdu_deliver_data; the header byte keeps TP-UDHI in bit 6. -/
structure PduDeliverData where
  header : Nat
  oa : SmsAddress
  pid : Nat
  dcs : PduDcsField
  timestamp : SmsTime
  udl : Nat
  udhl : Nat
  udhAppPort : SmsUdhAppPort
  udhConcat : SmsUdhConcat
  deriving DecidableEq, Repr

def PduDeliverData.zero : PduDeliverData :=
  ⟨0, ⟨[], 0, 0⟩, 0, ⟨0, 0, 0, 0⟩, ⟨0, 0, 0, 0, 0, 0, 0⟩, 0, 0, ⟨false, 0, 0⟩, ⟨false, 0, 0, 0⟩⟩

def PduDeliverData.udhi (data : PduDeliverData) : Bool := data.header / 64 % 2 = 1

abbrev FieldDecoder := List UInt8 → Nat → PduDeliverData → Except Errno (Nat × PduDeliverData)

def byteAt (buf : List UInt8) (index : Nat) : Nat := (buf.getD index 0).toNat

def swapNibbles (value : Nat) : Nat := value % 16 * 16 + value / 16 % 16

def semioctetToDec (value : Nat) : Nat := value / 16 % 16 + value % 16 * 10

def convertNumberToStr (number : List UInt8) (numberLength : Nat) : List UInt8 :=
  let length := (numberLength + 1) / 2
  let fillBits := numberLength % 2 = 1
  let digits := forRange length (fun i str =>
    let str := storeBytes str (2 * i) (decimal (byteAt number i / 16) ++ [0])
    if i + 1 < length ∨ ¬ fillBits then storeBytes str (2 * i + 1) (decimal (byteAt number i % 16) ++ [0]) else str)
    (List.replicate 48 0)
  cString (storeBytes digits (2 * length) [0])

def decodePduDeliverSmsc : FieldDecoder := fun buf _ data => .ok (byteAt buf 0 + 1, data)

def decodePduDeliverHeader : FieldDecoder := fun buf _ data => .ok (1, { data with header := byteAt buf 0 })

def decodePduOaField : FieldDecoder := fun buf _ data =>
  let oaLength := byteAt buf 0
  if oaLength > smsMaxAddressLenChars then .error .EINVAL
  else
    let length := (oaLength + 1) / 2
    let address := (List.range length).map fun i => (swapNibbles (byteAt buf (2 + i))).toUInt8
    .ok (2 + length, { data with oa := ⟨convertNumberToStr address oaLength, oaLength, byteAt buf 1⟩ })

def decodePduPidField : FieldDecoder := fun buf _ data => .ok (1, { data with pid := byteAt buf 0 })

def dcsOfBits (value : Nat) : PduDcsField := ⟨value % 4, value / 4 % 4, value / 16 % 2, value / 32 % 2⟩

def decodePduDcsField : FieldDecoder := fun buf _ data =>
  let value := byteAt buf 0
  if value / 64 = 0 then .ok (1, { data with dcs := dcsOfBits value })
  -- coding group 1111: the low three bits mean what they mean in group 00, with a message class
  else if value / 16 = 0b1111 then .ok (1, { data with dcs := { dcsOfBits (value % 8) with presenceOfClass := 1 } })
  else .error .EINVAL

def decodePduSctsField : FieldDecoder := fun buf _ data =>
  let zone := byteAt buf 6
  let quarters : Int := semioctetToDec (zone &&& 0xF7)
  let timezone := signed 8 (if zone &&& 0x08 ≠ 0 then -quarters else quarters)
  .ok (sctsFieldSize, { data with
    timestamp := ⟨semioctetToDec (byteAt buf 0), semioctetToDec (byteAt buf 1), semioctetToDec (byteAt buf 2),
      semioctetToDec (byteAt buf 3), semioctetToDec (byteAt buf 4), semioctetToDec (byteAt buf 5), timezone⟩ })

def decodePduUdlField : FieldDecoder := fun buf _ data => .ok (1, { data with udl := byteAt buf 0 })

def clearedConcat : SmsUdhConcat := ⟨false, 0, 0, 0⟩

def udhIeConcatValidityCheck (concat : SmsUdhConcat) : SmsUdhConcat :=
  if concat.totalMsgs = 0 then clearedConcat
  else if concat.seqNumber = 0 ∨ concat.seqNumber > concat.totalMsgs then clearedConcat
  else concat

def decodeUdhIe (buf : List UInt8) (ieId ieLength ofs : Nat) (data : PduDeliverData) : PduDeliverData :=
  let byte (i : Nat) := byteAt buf (ofs + i)
  if ieId = smsUdhIeConcatenatedShortMessages8bit then
    if ieLength ≠ 3 then data
    else { data with udhConcat := udhIeConcatValidityCheck ⟨true, byte 0, byte 1, byte 2⟩ }
  else if ieId = smsUdhIeApplicationPortAddressingScheme8bit then
    if ieLength ≠ 2 then data else { data with udhAppPort := ⟨true, byte 0, byte 1⟩ }
  else if ieId = smsUdhIeApplicationPortAddressingScheme16bit then
    if ieLength ≠ 4 then data else { data with udhAppPort := ⟨true, byte 0 * 256 + byte 1, byte 2 * 256 + byte 3⟩ }
  else if ieId = smsUdhIeConcatenatedShortMessages16bit then
    if ieLength ≠ 4 then data
    else { data with udhConcat := udhIeConcatValidityCheck ⟨true, byte 0 * 256 + byte 1, byte 2, byte 3⟩ }
  else data

def decodeUdhIes (buf : List UInt8) : Nat → Nat → PduDeliverData → PduDeliverData
  | 0, _, data => data
  | fuel + 1, ofs, data =>
    if ofs < data.udhl then
      let ieId := byteAt buf ofs
      let ieLength := byteAt buf (ofs + 1)
      let ofs := u8 (ofs + 2)
      if (ieLength : Int) > (data.udhl : Int) - ofs then
        { data with udhConcat := clearedConcat, udhAppPort := ⟨false, 0, 0⟩ }
      else decodeUdhIes buf fuel (u8 (ofs + ieLength)) (decodeUdhIe buf ieId ieLength ofs data)
    else data

def decodePduUdh : FieldDecoder := fun buf remaining data =>
  if !data.udhi then .ok (0, data)
  else
    -- the length field counts itself too
    let data := { data with udhl := u8 (byteAt buf 0 + 1) }
    if data.udhl > data.udl then .error .EMSGSIZE
    else if data.udhl > remaining then .error .EMSGSIZE
    else
      let data := decodeUdhIes buf data.udhl 1 data
      -- for GSM 7 bit the header stays in the payload, to keep the fill bits of the text
      .ok (if data.dcs.alphabet ≠ 0 then data.udhl else 0, data)

def smsPduDeliverParsers : List FieldDecoder :=
  [decodePduDeliverSmsc, decodePduDeliverHeader, decodePduOaField, decodePduPidField, decodePduDcsField,
    decodePduSctsField, decodePduUdlField, decodePduUdh]

/-- parser_process: the field decoders in order over the input, with the uint8_t position of the
next field; going past the input fails. Returns where the payload starts. -/
def parserProcess (buf : List UInt8) (bufSize : Nat) :
    List FieldDecoder → Nat → PduDeliverData → Except Errno (Nat × PduDeliverData)
  | [], bufPos, data => .ok (bufPos, data)
  | decoder :: rest, bufPos, data =>
    match decoder (buf.drop bufPos) (bufSize - bufPos) data with
    | .error err => .error err
    | .ok (ofsInc, data) =>
      let bufPos := u8 (bufPos + ofsInc)
      if bufPos > bufSize then .error .EMSGSIZE else parserProcess buf bufSize rest bufPos data

def char2hex (char : UInt8) : Option Nat :=
  if 48 ≤ char ∧ char ≤ 57 then some (char.toNat - 48)
  else if 97 ≤ char ∧ char ≤ 102 then some (char.toNat - 87)
  else if 65 ≤ char ∧ char ≤ 70 then some (char.toNat - 55)
  else none

/-- The bytes of a string of hex digit pairs; none on a character that is not a hex digit. -/
def hexPairsBytes : List UInt8 → Option (List UInt8)
  | high :: low :: rest => do
    let high ← char2hex high
    let low ← char2hex low
    let rest ← hexPairsBytes rest
    pure ((high * 16 + low).toUInt8 :: rest)
  | _ => some []

/-- What Zephyr documents of hex2bin(hex, hexlen, buf, buflen), none standing for its return value 0: a
string of an even number of hex digits is read into the bytes of its pairs. -/
structure Hex2binSpec (hex2bin : List UInt8 → Option (List UInt8)) : Prop where
  pairs : ∀ hex, hex.length % 2 = 0 → (∀ c ∈ hex, (char2hex c).isSome) → hex2bin hex = hexPairsBytes hex

theorem hexPairsBytes_spec : Hex2binSpec hexPairsBytes := ⟨fun _ _ _ => rfl⟩

def decodePduUd7bit (buf : List UInt8) (remaining : Nat) (data : PduDeliverData) : Except Errno (List UInt8) :=
  if data.udl > smsMaxPayloadLenChars then .error .EMSGSIZE
  else
    let actualDataLength := min (u16 (remaining * 8 / 7)) data.udl
    let decoded := stringConversionGsm7bitToAscii buf actualDataLength true
    let skipBits := u8 (data.udhl * 8)
    let skipSeptets := u8 (skipBits / 7 + if skipBits % 7 > 0 then 1 else 0)
    -- what follows the skipped septets, nothing when the header took all
    .ok (decoded.drop skipSeptets)

def decodePduUd8bit (buf : List UInt8) (remaining : Nat) (data : PduDeliverData) : Except Errno (List UInt8) :=
  .ok (buf.take (min remaining (data.udl - data.udhl)))

def decodePduDeliverMessage (buf : List UInt8) (remaining : Nat) (data : PduDeliverData) : Except Errno (List UInt8) :=
  match data.dcs.alphabet with
  | 0 => decodePduUd7bit buf remaining data
  | 1 => decodePduUd8bit buf remaining data
  | _ => .error .ENOTSUP

/-- What sms_deliver_pdu_parse gives back: the header fields and the payload. -/
structure SmsDeliver where
  time : SmsTime
  originatingAddress : SmsAddress
  appPort : SmsUdhAppPort
  concatenated : SmsUdhConcat
  payload : List UInt8
  deriving DecidableEq, Repr

/-- sms_deliver_pdu_parse of a PDU in hexadecimal, from +CMT, over Zephyr's hex2bin. -/
def smsDeliverPduParse (hex2bin : List UInt8 → Option (List UInt8)) (pdu : List UInt8) : Except Errno SmsDeliver :=
  let length := u16 (cString pdu).length
  if length % 2 ≠ 0 then .error .EMSGSIZE
  else if length / 2 > parserBufSize then .error .EMSGSIZE
  else match hex2bin ((cString pdu).take length) with
    | none | some [] => .error .EINVAL
    | some buf =>
      let bufSize := length / 2
      match parserProcess buf bufSize smsPduDeliverParsers 0 PduDeliverData.zero with
      | .error err => .error err
      | .ok (payloadPos, data) =>
        match decodePduDeliverMessage (buf.drop payloadPos) (bufSize - payloadPos) data with
        | .error err => .error err
        | .ok payload => .ok ⟨data.timestamp, data.oa, data.udhAppPort, data.udhConcat, payload⟩

theorem smsDeliverPduParse_of_hex {hex2bin : List UInt8 → Option (List UInt8)} (spec : Hex2binSpec hex2bin)
    {pdu : List UInt8} (hexes : (cString pdu).all fun c => (char2hex c).isSome) :
    smsDeliverPduParse hex2bin pdu = smsDeliverPduParse hexPairsBytes pdu := by
  unfold smsDeliverPduParse
  dsimp only
  split_ifs with odd long
  · rfl
  · rfl
  · -- pdu_length is taken in a uint16_t, so the digits handed over are a prefix of an even length
    have short : u16 (cString pdu).length ≤ (cString pdu).length := by
      rw [u16, wrap_natCast]
      exact Nat.mod_le _ _
    have even : ((cString pdu).take (u16 (cString pdu).length)).length % 2 = 0 := by
      rw [List.length_take, Nat.min_eq_left short]
      omega
    rw [spec.pairs _ even fun c member => List.all_eq_true.mp hexes c (List.mem_of_mem_take member)]

/-- Both wraps of the header length at fixed PDUs. With 8 bit data, a length octet of 255 announces 256
octets of header in 5 octets of user data, and the five octets, header included, come out as the
payload. With GSM 7 bit data and a length octet of 31, the 256 header bits count as 0, so all 40
septets are the payload where 3 follow the header. -/
theorem smsDeliverPduParse_udh_length_wraps {hex2bin : List UInt8 → Option (List UInt8)} (spec : Hex2binSpec hex2bin) :
    (smsDeliverPduParse hex2bin (text "004000910004" ++ text "00000000000000" ++ text "05FF41424344")).map
        SmsDeliver.payload = .ok [0xFF, 0x41, 0x42, 0x43, 0x44] ∧
      (smsDeliverPduParse hex2bin (text "004000910000" ++ text "00000000000000" ++ text "281F" ++
        List.replicate 68 48)).map SmsDeliver.payload = .ok (201 :: List.replicate 39 64) := by
  rw [smsDeliverPduParse_of_hex spec (by decide +kernel), smsDeliverPduParse_of_hex spec (by decide +kernel)]
  constructor <;> decide +kernel

theorem smsDeliverPduParse_udh_length_wraps_zephyr :
    Hex2binSpec hexPairsBytes ∧
      (smsDeliverPduParse hexPairsBytes (text "004000910004" ++ text "00000000000000" ++ text "05FF41424344")).map
          SmsDeliver.payload = .ok [0xFF, 0x41, 0x42, 0x43, 0x44] ∧
        (smsDeliverPduParse hexPairsBytes (text "004000910000" ++ text "00000000000000" ++ text "281F" ++
          List.replicate 68 48)).map SmsDeliver.payload = .ok (201 :: List.replicate 39 64) :=
  ⟨hexPairsBytes_spec, smsDeliverPduParse_udh_length_wraps hexPairsBytes_spec⟩

end Sms
