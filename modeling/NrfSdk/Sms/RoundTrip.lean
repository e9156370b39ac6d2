import NrfSdk.Sms.Deliver

namespace Sms

open Machine

/-- The SMS-DELIVER that the receiving side gets for a sent TPDU, in hexadecimal as +CMT gives it.
It has no SMSC address and TP-MTI 0 with the submit's TP-UDHI. The destination is the international
originating address, TP-PID and TP-DCS are 0, the time stamp is zero, and TP-UDL and TP-UD are the
submit's. -/
def deliverOfSubmit (pdu : SubmitPdu) : List UInt8 :=
  text "00" ++ hex2 (pdu.firstOctet &&& 0x40) ++ hex2 pdu.numberSize ++ text "91" ++ pdu.encodedNumber ++
    text "0000" ++ text "00000000000000" ++ hex2 pdu.udl ++ (pdu.udh ++ pdu.ud).flatMap fun byte => hex2 byte.toNat

def receivedPayloads (hex2bin : List UInt8 → Option (List UInt8)) (outcome : SmsSubmitOutcome) :
    List (Except Errno (List UInt8)) :=
  outcome.pdus.map fun pdu => (smsDeliverPduParse hex2bin (deliverOfSubmit pdu)).map SmsDeliver.payload

def acceptingModem (_ : List UInt8) : Int := 0

theorem deliverOfSubmit_concatEncode (scaField : List UInt8) (statusReport : Bool) (encodedNumber : List UInt8)
    (encodedNumberSize encodedNumberSizeOctets concatMsgId concatMsgCount seq : Nat) (part : Gsm7bitEncoded)
    (messageRef : Nat) :
    deliverOfSubmit (concatEncode scaField statusReport encodedNumber encodedNumberSize encodedNumberSizeOctets
      concatMsgId concatMsgCount seq part messageRef).1 =
    deliverOfSubmit (concatEncode scaField statusReport encodedNumber encodedNumberSize encodedNumberSizeOctets
      concatMsgId concatMsgCount seq part 0).1 := rfl

def longText : List UInt8 := List.replicate (108 * 153) 65

theorem longText_plain : PlainText longText := by
  intro char member
  rw [List.eq_of_mem_replicate (show char ∈ List.replicate (108 * 153) 65 from member)]
  decide

/-- In the UDH 05 00 03 ref total seq, the last of the seven header septets holds bits 2 to 7 of seq
and the fill bit. For seq 108 to 111 it is 0x1B, and gsm7bit_to_ascii reads it with the first septet
of the text as one escape pair. Skipping seven characters for the header then drops the first
character of the text: the 108th part of a text of 108 full parts gives 152 of its 153 characters. -/
theorem smsSubmitSend_part_108_loses_first_char {hex2bin : List UInt8 → Option (List UInt8)}
    (spec : Hex2binSpec hex2bin) :
    ∃ outcome, smsSubmitSend acceptingModem (text "00") false ⟨1, 1⟩ (text "+358401234567") longText
        longText.length .ascii = .ok outcome ∧
      outcome.pdus.length = 108 ∧ (longText.drop (107 * 153)).length = 153 ∧
      (receivedPayloads hex2bin outcome)[107]? = some (.ok (List.replicate 152 65)) := by
  have numberOk : smsSubmitEncodeNumber (text "+358401234567") = .ok (12, text "534810325476", 6) := by
    decide +kernel
  have length : longText.length = 108 * 153 := List.length_replicate
  obtain ⟨outcome, sent, pdus⟩ := @smsSubmitSend_concatenated acceptingModem (text "00") false ⟨1, 1⟩
    (text "+358401234567") longText longText.length 12 6 (text "534810325476") numberOk (by omega)
  have parts := concatParts_plain longText_plain (by omega)
  rw [length] at parts
  have count : ((concatParts longText).getLast?.map Prod.fst).getD 0 = 108 := by
    rw [parts]
    simp only [List.getLast?_map, List.getLast?_range, Option.map_map]
    decide
  have part108 : (concatParts longText)[107]? = some (108, concatPart (List.replicate 153 65)) := by
    rw [parts, List.getElem?_map, List.getElem?_range (by omega), Option.map_some]
    simp only [longText, List.drop_replicate]
    norm_num
    decide
  have accepted (command : List UInt8) : acceptingModem command = 0 := rfl
  obtain ⟨ref, sent108⟩ := concatSend_pdu_of_accepted accepted _ _ _ _ _ _ _ _ _ _ part108
  refine ⟨outcome, sent, ?_, by rw [List.length_drop, length], ?_⟩
  · rw [pdus, count, concatSend_length_of_accepted accepted, parts]
    simp
  · rw [receivedPayloads, List.getElem?_map, pdus, count, sent108, Option.map_some, deliverOfSubmit_concatEncode,
      smsDeliverPduParse_of_hex spec (by decide +kernel)]
    decide +kernel

theorem smsSubmitSend_part_108_loses_first_char_zephyr :
    Hex2binSpec hexPairsBytes ∧
      ∃ outcome, smsSubmitSend acceptingModem (text "00") false ⟨1, 1⟩ (text "+358401234567") longText
          longText.length .ascii = .ok outcome ∧
        outcome.pdus.length = 108 ∧ (longText.drop (107 * 153)).length = 153 ∧
        (receivedPayloads hexPairsBytes outcome)[107]? = some (.ok (List.replicate 152 65)) :=
  ⟨hexPairsBytes_spec, smsSubmitSend_part_108_loses_first_char hexPairsBytes_spec⟩

end Sms
