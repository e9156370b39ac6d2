import NrfSdk.Sms.StringConversion

namespace Sms

open Machine

def smsUdhConcatSizeOctets : Nat := 6
def smsUdhConcatSizeSeptets : Nat := 7
def smsMaxPayloadLenChars : Nat := 160
def smsMaxConcatPayloadLenChars : Nat := smsMaxPayloadLenChars - smsUdhConcatSizeSeptets
def smsMaxAddressLenChars : Nat := 20

def cString (text : List UInt8) : List UInt8 := text.takeWhile (· ≠ 0)

def hexDigit (value : Nat) : UInt8 := (if value < 10 then 48 + value else 55 + value).toUInt8

def hex2 (value : Nat) : List UInt8 := [hexDigit (value / 16 % 16), hexDigit (value % 16)]

def decimal (value : Nat) : List UInt8 := (Nat.toDigits 10 value).map Char.toUInt8

def text (value : String) : List UInt8 := value.toList.map Char.toUInt8

def swapDigitPairs : List UInt8 → List UInt8
  | first :: second :: rest => second :: first :: swapDigitPairs rest
  | [last] => ['F'.toUInt8, last]
  | [] => []

def smsSubmitEncodeNumber (number : List UInt8) : Except Errno (Nat × List UInt8 × Nat) :=
  let number := cString number
  if u8 number.length = 0 then .error .EINVAL
  else
    -- the international format is always used, so a leading '+' is dropped
    let (number, size) :=
      if number.head? = some '+'.toUInt8 then (number.tail, u8 number.tail.length) else (number, u8 number.length)
    if size > smsMaxAddressLenChars then .error .EINVAL
    else .ok (size, swapDigitPairs (number.take size), (size + 1) / 2)

/-- An SMS-SUBMIT TPDU as sms_submit_encode lays it out. -/
structure SubmitPdu where
  firstOctet : Nat
  messageRef : Nat
  numberSize : Nat
  encodedNumber : List UInt8
  udl : Nat
  udh : List UInt8
  ud : List UInt8
  deriving DecidableEq, Repr

def smsSubmitEncode (statusReport : Bool) (encodedNumber : List UInt8) (encodedNumberSize encodedNumberSizeOctets : Nat)
    (encoded : List UInt8) (encodedDataSizeOctets encodedDataSizeSeptets messageRef : Nat) (udh : List UInt8)
    (scaField : List UInt8) : SubmitPdu × List UInt8 :=
  let msgSize := 2 + 1 + 1 + encodedNumberSizeOctets + 2 + 1 + udh.length + encodedDataSizeOctets
  -- SMS-SUBMIT, with TP-SRR for a status report and TP-UDHI when a header is added
  let firstOctet := 0x01 + (if statusReport then 0x20 else 0) + (if udh ≠ [] then 0x40 else 0)
  let ud := (List.range encodedDataSizeOctets).map fun i => encoded.getD i 0
  let pdu : SubmitPdu := ⟨firstOctet, messageRef, encodedNumberSize, encodedNumber, encodedDataSizeSeptets, udh, ud⟩
  let command := text "AT+CMGS=" ++ decimal msgSize ++ text "\r" ++ scaField ++ hex2 firstOctet ++ hex2 messageRef ++
    hex2 encodedNumberSize ++ text "91" ++ encodedNumber ++ text "0000" ++ hex2 encodedDataSizeSeptets ++
    udh.flatMap (fun byte => hex2 byte.toNat) ++ ud.flatMap (fun byte => hex2 byte.toNat) ++ [0x1A]
  (pdu, command)

def concatPart (textIndex : List UInt8) : Gsm7bitEncoded :=
  let textPartSize := min (cString textIndex).length smsMaxConcatPayloadLenChars
  stringConversionAsciiToGsm7bit (List.replicate smsUdhConcatSizeSeptets 0 ++ textIndex.take textPartSize)
    (smsUdhConcatSizeSeptets + textPartSize) true

def concatRounds (textSize : Nat) : Nat → List UInt8 → Nat → Nat → List (Nat × Gsm7bitEncoded)
  | 0, _, _, _ => []
  | fuel + 1, textIndex, textEncodedSize, seq =>
    if textEncodedSize < textSize then
      let seq := u8 (seq + 1)
      let part := concatPart textIndex
      -- the UDH placeholder septets do not count as text
      let taken := part.consumed - smsUdhConcatSizeSeptets
      (seq, part) :: concatRounds textSize fuel (textIndex.drop taken) (u16 (textEncodedSize + taken)) seq
    else []

def concatParts (data : List UInt8) : List (Nat × Gsm7bitEncoded) :=
  concatRounds (u16 (cString data).length) ((cString data).length + 1) (cString data) 0 0

/-! Text in the default alphabet is cut into parts of 153 characters. -/

def PlainText (chars : List UInt8) : Prop := ∀ char ∈ chars, IsPlain char ∧ char ≠ 0

theorem PlainText.drop {chars : List UInt8} (plain : PlainText chars) (count : Nat) : PlainText (chars.drop count) :=
  fun char member => plain char (List.mem_of_mem_drop member)

theorem cString_of_plain {chars : List UInt8} (plain : PlainText chars) : cString chars = chars := by
  induction chars with
  | nil => rfl
  | cons char rest ih =>
    have nonzero := (plain char List.mem_cons_self).2
    unfold cString at ih ⊢
    rw [List.takeWhile_cons, if_pos (by simpa using nonzero), ih fun other member => plain other (List.mem_cons_of_mem _ member)]

theorem concatPart_consumed {textIndex : List UInt8} (plain : PlainText textIndex) :
    (concatPart textIndex).consumed = smsUdhConcatSizeSeptets + min textIndex.length smsMaxConcatPayloadLenChars := by
  have placeholder : IsPlain 0 := by decide
  have fits : smsUdhConcatSizeSeptets + min textIndex.length smsMaxConcatPayloadLenChars ≤ strMaxCharacters := by
    simp only [smsUdhConcatSizeSeptets, smsMaxConcatPayloadLenChars, smsMaxPayloadLenChars, strMaxCharacters]
    omega
  have septets := toSeptets_plain
    (List.replicate smsUdhConcatSizeSeptets 0 ++ textIndex.take (min textIndex.length smsMaxConcatPayloadLenChars)) []
    (by
      intro char member
      rcases List.mem_append.mp member with placeholders | taken
      · rw [List.eq_of_mem_replicate placeholders]
        exact placeholder
      · exact (plain char (List.mem_of_mem_take taken)).1)
    (by simp only [List.length_nil, List.length_append, List.length_replicate, List.length_take]; omega)
  have stored : u8 ((smsUdhConcatSizeSeptets + min textIndex.length smsMaxConcatPayloadLenChars : Nat) : Int) =
      smsUdhConcatSizeSeptets + min textIndex.length smsMaxConcatPayloadLenChars :=
    wrap_natCast_of_lt (by simp only [strMaxCharacters] at fits; omega)
  simp only [concatPart, cString_of_plain plain, stringConversionAsciiToGsm7bit, stored]
  rw [List.take_of_length_le (by simp only [List.length_append, List.length_replicate, List.length_take]; omega),
    septets]
  simp only [List.length_append, List.length_replicate, List.length_take]
  omega

theorem concatRounds_plain {textSize : Nat} (small : textSize < 2 ^ 16) (fuel : Nat) :
    ∀ (textIndex : List UInt8) (textEncodedSize seq : Nat), PlainText textIndex →
      textEncodedSize + textIndex.length = textSize → textIndex.length < fuel →
      concatRounds textSize fuel textIndex textEncodedSize seq =
        (List.range ((textIndex.length + 152) / 153)).map fun (k : Nat) =>
          (u8 (seq + k + 1), concatPart (textIndex.drop (153 * k))) := by
  induction fuel with
  | zero => intro _ _ _ _ _ short; omega
  | succ fuel ih =>
    intro textIndex textEncodedSize seq plain sizes short
    by_cases empty : textIndex = []
    · subst empty
      simp only [List.length_nil, Nat.add_zero] at sizes
      simp [concatRounds, sizes]
    · have positive : 0 < textIndex.length := List.length_pos_iff.mpr empty
      have consumed := concatPart_consumed plain
      simp only [smsUdhConcatSizeSeptets, smsMaxConcatPayloadLenChars, smsMaxPayloadLenChars] at consumed
      have stored : u16 ((textEncodedSize : Int) + (min textIndex.length 153 : Nat)) =
          textEncodedSize + min textIndex.length 153 := by
        rw [← Nat.cast_add]
        exact wrap_natCast_of_lt (by omega)
      have rest := ih (textIndex.drop (min textIndex.length 153)) (textEncodedSize + min textIndex.length 153)
        (u8 (seq + 1)) (plain.drop _) (by simp only [List.length_drop]; omega) (by simp only [List.length_drop]; omega)
      have count : (textIndex.length + 152) / 153 = ((textIndex.drop (min textIndex.length 153)).length + 152) / 153 + 1 := by
        simp only [List.length_drop]
        omega
      rw [concatRounds, if_pos (by omega)]
      simp only [consumed, smsUdhConcatSizeSeptets, Nat.add_sub_cancel_left, stored, rest]
      rw [count, List.range_succ_eq_map, List.map_cons, List.map_map]
      -- the first part is the head of the range; the others are shifted by one
      congr 1
      apply List.map_congr_left
      intro k member
      simp only [List.mem_range, List.length_drop] at member
      -- a further part exists only when this one took 153 characters
      have full : min textIndex.length 153 = 153 := by omega
      simp only [Function.comp_apply, full, List.drop_drop]
      congr 1
      · unfold u8
        rw [Int.add_assoc, wrap_wrap_add]
        congr 1
        push_cast
        ring
      · rw [show 153 + 153 * k = 153 * (k + 1) by ring]

theorem concatParts_plain {data : List UInt8} (plain : PlainText data) (small : data.length < 2 ^ 16) :
    concatParts data = (List.range ((data.length + 152) / 153)).map fun (k : Nat) =>
      (u8 (k + 1), concatPart (data.drop (153 * k))) := by
  have stored : u16 (data.length : Int) = data.length := wrap_natCast_of_lt small
  simp only [concatParts, cString_of_plain plain, stored]
  rw [concatRounds_plain small _ data 0 0 plain (by omega) (by omega)]
  simp

/-- The static counters of sms_submit.c. -/
structure SmsSubmitStatics where
  concatMsgId : Nat
  messageRef : Nat
  deriving DecidableEq, Repr

/-- What sms_submit_send issues: the TPDUs of its AT+CMGS commands, all AT commands in order, the
first error, and the static counters after it. -/
structure SmsSubmitOutcome where
  pdus : List SubmitPdu
  commands : List (List UInt8)
  err : Int
  statics : SmsSubmitStatics
  deriving DecidableEq, Repr

inductive SmsDataType where
  | ascii
  | gsm7bit
  deriving DecidableEq, Repr

section Send

-- the modem's answer to an AT command (0 for OK), the SMSC field sms_submit_encode_sca chose from
-- the SIM, and whether CONFIG_SMS_STATUS_REPORT is set
variable (atPrintf : List UInt8 → Int) (scaField : List UInt8) (statusReport : Bool)

def concatEncode (encodedNumber : List UInt8) (encodedNumberSize encodedNumberSizeOctets concatMsgId concatMsgCount : Nat)
    (seq : Nat) (part : Gsm7bitEncoded) (messageRef : Nat) : SubmitPdu × List UInt8 :=
  smsSubmitEncode statusReport encodedNumber encodedNumberSize encodedNumberSizeOctets
    (part.outData.drop smsUdhConcatSizeOctets) (u8 (part.outBytes - (smsUdhConcatSizeOctets : Int))) part.outChars
    messageRef [0x05, 0x00, 0x03, concatMsgId.toUInt8, concatMsgCount.toUInt8, seq.toUInt8] scaField

def concatSend (encodedNumber : List UInt8) (encodedNumberSize encodedNumberSizeOctets concatMsgId concatMsgCount : Nat) :
    List (Nat × Gsm7bitEncoded) → Nat → SmsSubmitOutcome
  | [], messageRef => ⟨[], [], 0, ⟨concatMsgId, messageRef⟩⟩
  | (seq, part) :: rest, messageRef =>
    let cmms := if rest ≠ [] then text "AT+CMMS=1" else text "AT+CMMS=0"
    let (pdu, cmgs) := concatEncode scaField statusReport encodedNumber encodedNumberSize encodedNumberSizeOctets
      concatMsgId concatMsgCount seq part messageRef
    let err := atPrintf cmgs
    if err ≠ 0 then ⟨[pdu], [cmms, cmgs], err, ⟨concatMsgId, messageRef⟩⟩
    else
      let outcome := concatSend encodedNumber encodedNumberSize encodedNumberSizeOctets concatMsgId concatMsgCount rest
        (u8 (messageRef + 1))
      { outcome with pdus := pdu :: outcome.pdus, commands := cmms :: cmgs :: outcome.commands }

def smsSubmitSend (statics : SmsSubmitStatics) (number data : List UInt8) (dataLen : Nat) (type : SmsDataType) :
    Except Errno SmsSubmitOutcome :=
  match smsSubmitEncodeNumber number with
  | .error err => .error err
  | .ok (encodedNumberSize, encodedNumber, encodedNumberSizeOctets) =>
    let encoding : Except Errno (Nat × Gsm7bitEncoded) := match type with
      | .ascii =>
        let encoded := stringConversionAsciiToGsm7bit data dataLen true
        .ok (encoded.consumed, encoded)
      | .gsm7bit =>
        if dataLen > smsMaxPayloadLenChars then .error .E2BIG
        else
          let packed := stringConversion7bitSmsPacking (data.take dataLen)
          .ok (dataLen, ⟨dataLen, packed, packed.length, dataLen⟩)
    match encoding with
    | .error err => .error err
    | .ok (size, encoded) =>
      if size < dataLen then
        let parts := concatParts data
        let concatMsgCount := (parts.getLast?.map Prod.fst).getD 0
        let outcome := concatSend atPrintf scaField statusReport encodedNumber encodedNumberSize
          encodedNumberSizeOctets statics.concatMsgId concatMsgCount parts statics.messageRef
        .ok { outcome with statics := ⟨u8 (statics.concatMsgId + 1), outcome.statics.messageRef⟩ }
      else
        let (pdu, cmgs) := smsSubmitEncode statusReport encodedNumber encodedNumberSize encodedNumberSizeOctets
          encoded.outData encoded.outBytes encoded.outChars 0 [] scaField
        .ok ⟨[pdu], [cmgs], atPrintf cmgs, statics⟩

variable {atPrintf scaField statusReport}

theorem concatSend_pdu_of_accepted (accepted : ∀ command, atPrintf command = 0) (encodedNumber : List UInt8)
    (encodedNumberSize encodedNumberSizeOctets concatMsgId concatMsgCount : Nat) (parts : List (Nat × Gsm7bitEncoded)) :
    ∀ (messageRef k seq : Nat) (part : Gsm7bitEncoded), parts[k]? = some (seq, part) →
      ∃ ref, (concatSend atPrintf scaField statusReport encodedNumber encodedNumberSize encodedNumberSizeOctets
        concatMsgId concatMsgCount parts messageRef).pdus[k]? =
        some (concatEncode scaField statusReport encodedNumber encodedNumberSize encodedNumberSizeOctets concatMsgId
          concatMsgCount seq part ref).1 := by
  induction parts with
  | nil => simp
  | cons round rest ih =>
    intro messageRef k seq part found
    obtain ⟨seq', part'⟩ := round
    simp only [concatSend, accepted, ne_eq, not_true_eq_false, if_false]
    cases k with
    | zero =>
      simp only [List.getElem?_cons_zero, Option.some.injEq, Prod.mk.injEq] at found
      obtain ⟨rfl, rfl⟩ := found
      exact ⟨messageRef, rfl⟩
    | succ k =>
      simp only [List.getElem?_cons_succ] at found ⊢
      exact ih (u8 (messageRef + 1)) k seq part found

theorem concatSend_length_of_accepted (accepted : ∀ command, atPrintf command = 0) (encodedNumber : List UInt8)
    (encodedNumberSize encodedNumberSizeOctets concatMsgId concatMsgCount : Nat) (parts : List (Nat × Gsm7bitEncoded)) :
    ∀ messageRef, (concatSend atPrintf scaField statusReport encodedNumber encodedNumberSize encodedNumberSizeOctets
      concatMsgId concatMsgCount parts messageRef).pdus.length = parts.length := by
  induction parts with
  | nil => simp [concatSend]
  | cons round rest ih =>
    intro messageRef
    simp [concatSend, accepted, ih]

theorem smsSubmitSend_concatenated {statics : SmsSubmitStatics} {number data : List UInt8} {dataLen : Nat}
    {encodedNumberSize encodedNumberSizeOctets : Nat} {encodedNumber : List UInt8}
    (numberOk : smsSubmitEncodeNumber number = .ok (encodedNumberSize, encodedNumber, encodedNumberSizeOctets))
    (long : 2 ^ 8 ≤ dataLen) :
    ∃ outcome, smsSubmitSend atPrintf scaField statusReport statics number data dataLen .ascii = .ok outcome ∧
      outcome.pdus = (concatSend atPrintf scaField statusReport encodedNumber encodedNumberSize encodedNumberSizeOctets
        statics.concatMsgId (((concatParts data).getLast?.map Prod.fst).getD 0) (concatParts data)
        statics.messageRef).pdus := by
  have fewer : (stringConversionAsciiToGsm7bit data dataLen true).consumed < dataLen := by
    have counted := toSeptets_count_le (data.take (u8 dataLen)) []
    have bound := wrap_lt 8 dataLen
    simp only [List.length_take] at counted
    simp only [stringConversionAsciiToGsm7bit]
    unfold u8 at counted ⊢
    omega
  simp only [smsSubmitSend, numberOk, if_pos fewer]
  exact ⟨_, rfl, rfl⟩

end Send

end Sms
