import NrfSdk.Ndef.Encode
import NrfSdk.Ndef.MsgParser

/-!
Encoding an NDEF message and parsing it back. The bytes of a record are stated once (`ndefRecordBytes`);
the encoder writes them record after record, and the parser reads each record of them back, with the
type, ID and payload pointers at the bytes of the original.
-/

namespace Ndef

open Machine

/-- A descriptor that describes its bytes: a TNF with a payload, lengths that are those of the bytes and
fit their uint8_t fields, and a binary payload of its stated length. -/
structure NdefRecordSource.Valid (desc : NdefRecordSource) : Prop where
  tnfNotEmpty : desc.tnf ≠ .tnfEmpty
  tnfNotReserved : desc.tnf ≠ .tnfReserved
  typeLength : desc.typeLength = desc.type.length
  typeShort : desc.type.length < 256
  idLength : desc.idLength = desc.id.length
  idShort : desc.id.length < 256
  payloadLength : desc.payloadDescriptor.payloadLength = desc.payloadDescriptor.payload.length

instance (desc : NdefRecordSource) : Decidable desc.Valid :=
  decidable_of_iff (desc.tnf ≠ .tnfEmpty ∧ desc.tnf ≠ .tnfReserved ∧ desc.typeLength = desc.type.length ∧
      desc.type.length < 256 ∧ desc.idLength = desc.id.length ∧ desc.id.length < 256 ∧
      desc.payloadDescriptor.payloadLength = desc.payloadDescriptor.payload.length)
    ⟨fun ⟨a, b, c, d, e, f, g⟩ => ⟨a, b, c, d, e, f, g⟩, fun ⟨a, b, c, d, e, f, g⟩ => ⟨a, b, c, d, e, f, g⟩⟩

def NdefRecordSource.flags (desc : NdefRecordSource) (location : NfcNdefRecordLocation) : Nat :=
  location.bits ||| desc.tnf.bits ||| if desc.idLength > 0 then ndefRecordIlMask else 0

def ndefRecordHeader (desc : NdefRecordSource) (location : NfcNdefRecordLocation) : List UInt8 :=
  [(u8 (desc.flags location)).toUInt8, (u8 desc.typeLength).toUInt8] ++
    sysCpuToBe32 (u32 desc.payloadDescriptor.payloadLength) ++
    if desc.idLength > 0 then [(u8 desc.idLength).toUInt8] else []

def ndefRecordBytes (desc : NdefRecordSource) (location : NfcNdefRecordLocation) : List UInt8 :=
  ndefRecordHeader desc location ++ desc.type ++ desc.id ++ desc.payloadDescriptor.payload

def ndefMessageBytesFrom (recordCount : Nat) : List NdefRecordSource → Nat → List UInt8
  | [], _ => []
  | desc :: rest, index =>
    ndefRecordBytes desc (recordLocationGet index recordCount) ++ ndefMessageBytesFrom recordCount rest (index + 1)

def ndefMessageBytes (records : List NdefRecordSource) : List UInt8 := ndefMessageBytesFrom records.length records 0

@[simp] theorem sysCpuToBe32_length (value : Nat) : (sysCpuToBe32 value).length = 4 := by simp [sysCpuToBe32]

theorem ndefRecordHeader_length (desc : NdefRecordSource) (location : NfcNdefRecordLocation) :
    (ndefRecordHeader desc location).length = ndefRecordBaseLongSize + if desc.idLength > 0 then 1 else 0 := by
  unfold ndefRecordHeader ndefRecordBaseLongSize ndefRecordPayloadLenLongSize
  split <;> simp

section Encode

variable {desc : NdefRecordSource} {location : NfcNdefRecordLocation}

theorem recordHeaderSizeCalc_eq (valid : desc.Valid) (location : NfcNdefRecordLocation) :
    recordHeaderSizeCalc desc = (ndefRecordHeader desc location).length + desc.type.length + desc.id.length := by
  rw [ndefRecordHeader_length, recordHeaderSizeCalc, ← valid.typeLength, ← valid.idLength]
  split <;> omega

theorem ndefRecordBytes_length (valid : desc.Valid) (location : NfcNdefRecordLocation) :
    (ndefRecordBytes desc location).length = recordHeaderSizeCalc desc + desc.payloadDescriptor.payloadLength := by
  rw [recordHeaderSizeCalc_eq valid location, valid.payloadLength, ndefRecordBytes]
  simp only [List.length_append]

theorem location_bits_unmasked (location : NfcNdefRecordLocation) : location.bits &&& 0x3F = 0 := by
  cases location <;> decide

theorem nfcNdefRecordEncode_query (valid : desc.Valid) (recordLen : Nat) :
    nfcNdefRecordEncode desc location false recordLen = .ok ([], u32 (ndefRecordBytes desc location).length) := by
  rw [ndefRecordBytes_length valid]
  simp [nfcNdefRecordEncode, valid.tnfNotEmpty, nfcNdefBinPayloadMemcopy]

theorem nfcNdefRecordEncode_write (valid : desc.Valid) {recordLen : Nat}
    (room : (ndefRecordBytes desc location).length ≤ recordLen) (small : recordLen < 2 ^ 32) :
    nfcNdefRecordEncode desc location true recordLen =
      .ok (ndefRecordBytes desc location, (ndefRecordBytes desc location).length) := by
  have length := ndefRecordBytes_length valid location
  have available : u32 ((recordLen : Int) - (recordHeaderSizeCalc desc : Int)) = recordLen - recordHeaderSizeCalc desc := by
    rw [u32, ← Nat.cast_sub (by omega), wrap_natCast_of_lt (by omega)]
  have payloadFits : u32 desc.payloadDescriptor.payloadLength = desc.payloadDescriptor.payloadLength :=
    wrap_natCast_of_lt (by omega)
  have totalFits : u32 ((recordHeaderSizeCalc desc : Int) + desc.payloadDescriptor.payloadLength) =
      (ndefRecordBytes desc location).length := by
    rw [length, u32, ← Nat.cast_add, wrap_natCast_of_lt (by omega)]
  simp only [nfcNdefRecordEncode, location_bits_unmasked, ne_eq, not_true_eq_false, and_false, if_false,
    show ¬ recordHeaderSizeCalc desc > recordLen by omega, valid.tnfNotEmpty, nfcNdefBinPayloadMemcopy,
    available, show ¬ recordLen - recordHeaderSizeCalc desc < desc.payloadDescriptor.payloadLength by omega,
    if_true, payloadFits, totalFits]
  rw [ndefRecordBytes, ndefRecordHeader, NdefRecordSource.flags, payloadFits, valid.typeLength, List.take_length,
    valid.idLength, List.take_length, valid.payloadLength, List.take_length, ← valid.idLength]
  split
  · simp
  · next noId =>
    -- without an ID field the ID bytes are empty
    have empty : desc.id = [] := List.eq_nil_of_length_eq_zero (by rw [← valid.idLength]; omega)
    simp [empty]

/-! The message loop -/

variable {recordCount msgLen : Nat}

theorem msgEncodeFrom_query (records : List NdefRecordSource) (valid : ∀ desc ∈ records, desc.Valid) :
    ∀ index sumOfLen, sumOfLen + (ndefMessageBytesFrom recordCount records index).length < 2 ^ 32 →
      msgEncodeFrom recordCount msgLen records index sumOfLen none =
        .ok (none, sumOfLen + (ndefMessageBytesFrom recordCount records index).length) := by
  induction records with
  | nil => intro index sumOfLen _; rfl
  | cons desc rest ih =>
    intro index sumOfLen fits
    simp only [ndefMessageBytesFrom, List.length_append] at fits ⊢
    have recordFits : u32 (ndefRecordBytes desc (recordLocationGet index recordCount)).length =
        (ndefRecordBytes desc (recordLocationGet index recordCount)).length := wrap_natCast_of_lt (by omega)
    have sumFits : u32 ((sumOfLen : Int) + (ndefRecordBytes desc (recordLocationGet index recordCount)).length) =
        sumOfLen + (ndefRecordBytes desc (recordLocationGet index recordCount)).length := by
      rw [u32, ← Nat.cast_add, wrap_natCast_of_lt (by omega)]
    rw [msgEncodeFrom, Option.isSome_none, nfcNdefRecordEncode_query (valid desc List.mem_cons_self)]
    simp only [recordFits, sumFits, Option.map_none]
    rw [ih (fun other member => valid other (List.mem_cons_of_mem _ member)) (index + 1) _ (by omega),
      Nat.add_assoc]

theorem msgEncodeFrom_write (records : List NdefRecordSource) (valid : ∀ desc ∈ records, desc.Valid)
    (small : msgLen < 2 ^ 32) :
    ∀ index sumOfLen (buf : List UInt8), msgLen ≤ buf.length →
      sumOfLen + (ndefMessageBytesFrom recordCount records index).length ≤ msgLen →
      msgEncodeFrom recordCount msgLen records index sumOfLen (some buf) =
        .ok (some (buf.take sumOfLen ++ ndefMessageBytesFrom recordCount records index ++
          buf.drop (sumOfLen + (ndefMessageBytesFrom recordCount records index).length)),
          sumOfLen + (ndefMessageBytesFrom recordCount records index).length) := by
  induction records with
  | nil =>
    intro index sumOfLen buf _ room
    simp only [ndefMessageBytesFrom, List.length_nil, Nat.add_zero, List.append_nil] at room ⊢
    rw [msgEncodeFrom, List.take_append_drop]
  | cons desc rest ih =>
    intro index sumOfLen buf bufLength room
    simp only [ndefMessageBytesFrom, List.length_append] at room ⊢
    have roomLeft : u32 ((msgLen : Int) - sumOfLen) = msgLen - sumOfLen := by
      rw [u32, ← Nat.cast_sub (by omega), wrap_natCast_of_lt (by omega)]
    have sumFits : u32 ((sumOfLen : Int) + (ndefRecordBytes desc (recordLocationGet index recordCount)).length) =
        sumOfLen + (ndefRecordBytes desc (recordLocationGet index recordCount)).length := by
      rw [u32, ← Nat.cast_add, wrap_natCast_of_lt (by omega)]
    have prefixLength : (buf.take sumOfLen).length = sumOfLen := List.length_take_of_le (by omega)
    rw [msgEncodeFrom, Option.isSome_some, roomLeft,
      nfcNdefRecordEncode_write (valid desc List.mem_cons_self) (by omega) (by omega)]
    simp only [Option.map_some]
    rw [sumFits, storeBytes_eq_append (by omega),
      ih (fun other member => valid other (List.mem_cons_of_mem _ member)) (index + 1) _ _ (by simp; omega)
        (by omega)]
    -- the buffer after this record: what it wrote is kept, and the rest reads from the same offset on
    generalize ndefRecordBytes desc (recordLocationGet index recordCount) = record at prefixLength ⊢
    rw [List.take_left' (by simp only [List.length_append, prefixLength]), List.drop_append,
      List.drop_eq_nil_of_le (by simp only [List.length_append, prefixLength]; omega), List.nil_append,
      List.drop_drop]
    simp only [List.length_append, prefixLength, List.append_assoc]
    rw [Nat.add_sub_cancel_left]
    simp only [Nat.add_assoc]

end Encode

/-! Parsing one record back -/

/-- The bytes a parsed pointer and length give, none for a NULL pointer. -/
def sliceAt (data : List UInt8) : Option Nat → Nat → List UInt8
  | none, _ => []
  | some start, length => (data.drop start).take length

def NfcNdefRecordDesc.Describes (data : List UInt8) (parsed : NfcNdefRecordDesc) (source : NdefRecordSource) : Prop :=
  parsed.tnf = source.tnf ∧ parsed.typeLength = source.type.length ∧
    sliceAt data parsed.type parsed.typeLength = source.type ∧ parsed.idLength = source.id.length ∧
    sliceAt data parsed.id parsed.idLength = source.id ∧
    parsed.payloadDescriptor.payloadLength = source.payloadDescriptor.payload.length ∧
    sliceAt data parsed.payloadDescriptor.payload parsed.payloadDescriptor.payloadLength = source.payloadDescriptor.payload

theorem NfcNdefRecordTnf.ofBits_bits (tnf : NfcNdefRecordTnf) : NfcNdefRecordTnf.ofBits tnf.bits = tnf := by
  cases tnf <;> rfl

theorem NfcNdefRecordLocation.ofBits_bits (location : NfcNdefRecordLocation) :
    NfcNdefRecordLocation.ofBits location.bits = location := by
  cases location <;> rfl

theorem NdefRecordSource.flags_fields (desc : NdefRecordSource) (location : NfcNdefRecordLocation) :
    desc.flags location < 256 ∧ desc.flags location &&& ndefRecordTnfMask = desc.tnf.bits ∧
      desc.flags location &&& ndefRecordLocationMask = location.bits ∧ desc.flags location &&& ndefRecordSrMask = 0 ∧
      (desc.flags location &&& ndefRecordIlMask != 0) = decide (desc.idLength > 0) := by
  unfold NdefRecordSource.flags
  generalize desc.tnf = tnf
  split <;> rename_i hasId <;> simp only [hasId, decide_true, decide_false] <;>
    cases location <;> cases tnf <;> decide

theorem byteAt_append_length (pre rest : List UInt8) (i : Nat) :
    byteAt (pre ++ rest) (pre.length + i) = byteAt rest i := by
  simp [byteAt, List.getD_eq_getElem?_getD, List.getElem?_append_right]

theorem byteAt_u8_of_lt {value : Nat} (small : value < 256) (rest : List UInt8) :
    byteAt ((u8 value).toUInt8 :: rest) 0 = value := by
  have stored : u8 value = value := wrap_natCast_of_lt small
  simp [byteAt, stored, Nat.mod_eq_of_lt small]

theorem sysGetBe32_append_length (pre rest : List UInt8) (i : Nat) :
    sysGetBe32 (pre ++ rest) (pre.length + i) = sysGetBe32 rest i := by
  simp only [sysGetBe32, Nat.add_assoc, byteAt_append_length]

theorem sysGetBe32_sysCpuToBe32 (first second : UInt8) (value : Nat) (rest : List UInt8) :
    sysGetBe32 (first :: second :: (sysCpuToBe32 value ++ rest)) 2 = value % 2 ^ 32 := by
  simp only [sysGetBe32, sysCpuToBe32, leBytes, List.reverse_cons, List.reverse_nil, byteAt]
  simp [List.getD_eq_getElem?_getD]
  omega

section Parse

variable {desc : NdefRecordSource} {location : NfcNdefRecordLocation}

theorem ndefRecordBytes_append (desc : NdefRecordSource) (location : NfcNdefRecordLocation) (post : List UInt8) :
    ndefRecordBytes desc location ++ post =
      (u8 (desc.flags location)).toUInt8 :: (u8 desc.typeLength).toUInt8 ::
        (sysCpuToBe32 (u32 desc.payloadDescriptor.payloadLength) ++
          ((if desc.idLength > 0 then [(u8 desc.idLength).toUInt8] else []) ++
            (desc.type ++ desc.id ++ desc.payloadDescriptor.payload ++ post))) := by
  simp [ndefRecordBytes, ndefRecordHeader]

theorem readRecordHeader_ndefRecordBytes (valid : desc.Valid) (pre post : List UInt8) {nfcDataLen : Nat}
    (room : (ndefRecordBytes desc location).length ≤ nfcDataLen) (small : (ndefRecordBytes desc location).length < 2 ^ 32) :
    readRecordHeader (pre ++ ndefRecordBytes desc location ++ post) pre.length nfcDataLen =
      .ok ⟨desc.flags location, desc.type.length, desc.payloadDescriptor.payload.length,
        if desc.id.length > 0 then some desc.id.length else none, (ndefRecordHeader desc location).length,
        (ndefRecordHeader desc location).length⟩ := by
  obtain ⟨flagsSmall, -, -, shortClear, idFlag⟩ := desc.flags_fields location
  have length := ndefRecordBytes_length valid location
  have headerLength := ndefRecordHeader_length desc location
  have payloadFits : u32 desc.payloadDescriptor.payloadLength = desc.payloadDescriptor.payloadLength :=
    wrap_natCast_of_lt (by omega)
  have typeShort := valid.typeShort
  have idShort := valid.idShort
  have headerRoom : (ndefRecordHeader desc location).length ≤ nfcDataLen := by
    rw [ndefRecordBytes] at room
    simp only [List.length_append] at room
    omega
  have shortBytes : ndefRecordBaseLongSize = 6 := rfl
  rw [shortBytes] at headerLength
  rw [List.append_assoc, ndefRecordBytes_append, payloadFits]
  unfold readRecordHeader readPayloadLength
  simp only [byteAt_append_length, sysGetBe32_append_length]
  rw [show pre.length = pre.length + 0 from rfl, byteAt_append_length, byteAt_u8_of_lt flagsSmall, shortClear]
  have longHeader : ndefRecordBaseShortLen + (ndefRecordPayloadLenLongSize - ndefRecordPayloadLenShortSize) = 6 := rfl
  have typeByte : byteAt ((u8 (desc.flags location)).toUInt8 :: (u8 desc.typeLength).toUInt8 ::
      (sysCpuToBe32 desc.payloadDescriptor.payloadLength ++
        ((if desc.idLength > 0 then [(u8 desc.idLength).toUInt8] else []) ++
          (desc.type ++ desc.id ++ desc.payloadDescriptor.payload ++ post)))) 1 = desc.type.length := by
    rw [byteAt, List.getD_cons_succ, ← byteAt, byteAt_u8_of_lt (by rw [valid.typeLength]; omega), valid.typeLength]
  rw [typeByte]
  simp only [bne_self_eq_false, Bool.false_eq_true, if_false, longHeader, sysGetBe32_sysCpuToBe32,
    Nat.mod_eq_of_lt (show desc.payloadDescriptor.payloadLength < 2 ^ 32 by omega), idFlag]
  rw [if_neg (by split at headerLength <;> omega)]
  by_cases hasId : desc.idLength > 0
  · have idByte : byteAt ((u8 (desc.flags location)).toUInt8 :: (u8 desc.typeLength).toUInt8 ::
        (sysCpuToBe32 desc.payloadDescriptor.payloadLength ++
          ([(u8 desc.idLength).toUInt8] ++ (desc.type ++ desc.id ++ desc.payloadDescriptor.payload ++ post)))) 6 =
        desc.idLength := by
      simp only [sysCpuToBe32, leBytes, List.reverse_cons, List.reverse_nil, List.nil_append, List.cons_append]
      rw [byteAt, List.getD_cons_succ, List.getD_cons_succ, List.getD_cons_succ, List.getD_cons_succ,
        List.getD_cons_succ, List.getD_cons_succ, ← byteAt, byteAt_u8_of_lt (by rw [valid.idLength]; omega)]
    simp only [hasId, decide_true, if_true, ndefRecordIdLenSize]
    rw [if_pos hasId] at headerLength
    rw [if_neg (by omega), Nat.add_zero, idByte]
    simp [headerLength, hasId, valid.payloadLength, ← valid.idLength]
  · simp only [hasId, decide_false, Bool.false_eq_true, if_false]
    rw [if_neg hasId] at headerLength
    simp [headerLength, hasId, valid.payloadLength, ← valid.idLength]

theorem sliceAt_of_split {data pre mid post : List UInt8} (split : data = pre ++ mid ++ post) :
    sliceAt data (some pre.length) mid.length = mid := by
  subst split
  simp [sliceAt]

theorem sliceAt_of_split_of_pos {data pre mid post : List UInt8} (split : data = pre ++ mid ++ post) :
    sliceAt data (if 0 < mid.length then some pre.length else none) mid.length = mid := by
  split
  · exact sliceAt_of_split split
  · next empty => exact (List.eq_nil_of_length_eq_zero (by omega)).symm

theorem nfcNdefRecordParse_ndefRecordBytes (valid : desc.Valid) (pre post : List UInt8)
    (binPayDesc : NfcNdefBinPayloadDesc) (recDesc : NfcNdefRecordDesc) {nfcDataLen : Nat}
    (room : (ndefRecordBytes desc location).length ≤ nfcDataLen) (small : (ndefRecordBytes desc location).length < 2 ^ 32) :
    ∃ parsed, nfcNdefRecordParse binPayDesc recDesc (pre ++ ndefRecordBytes desc location ++ post) pre.length nfcDataLen =
        .ok (parsed, location, (ndefRecordBytes desc location).length) ∧
      parsed.Describes (pre ++ ndefRecordBytes desc location ++ post) desc := by
  obtain ⟨-, tnfBits, locationBits, -, -⟩ := desc.flags_fields location
  have header := readRecordHeader_ndefRecordBytes valid pre post room small
  have length := ndefRecordBytes_length valid location
  have headerCalc := recordHeaderSizeCalc_eq valid location
  have headerLength := ndefRecordHeader_length desc location
  have idPart : (if desc.id.length > 0 then some desc.id.length else none).getD 0 = desc.id.length := by
    split <;> simp
    omega
  have bytesLength : (ndefRecordBytes desc location).length = (ndefRecordHeader desc location).length +
      desc.type.length + desc.id.length + desc.payloadDescriptor.payload.length := by
    simp [ndefRecordBytes, Nat.add_assoc]
  have expected : u32 (((ndefRecordHeader desc location).length : Int) + desc.type.length +
      (if desc.id.length > 0 then some desc.id.length else none).getD 0 + desc.payloadDescriptor.payload.length) =
      (ndefRecordBytes desc location).length := by
    rw [idPart, u32, ← Nat.cast_add, ← Nat.cast_add, ← Nat.cast_add, ← bytesLength, wrap_natCast_of_lt small]
  have baseRoom : ¬ ndefRecordBaseShortLen > nfcDataLen := by
    have shortBytes : ndefRecordBaseShortLen = 3 := rfl
    have longBytes : ndefRecordBaseLongSize = 6 := rfl
    split at headerLength <;> omega
  -- the three slices, each at the offset of its bytes in the record
  have split : pre ++ ndefRecordBytes desc location ++ post =
      (pre ++ ndefRecordHeader desc location) ++ desc.type ++ (desc.id ++ desc.payloadDescriptor.payload ++ post) := by
    simp [ndefRecordBytes]
  have splitId : pre ++ ndefRecordBytes desc location ++ post =
      (pre ++ ndefRecordHeader desc location ++ desc.type) ++ desc.id ++ (desc.payloadDescriptor.payload ++ post) := by
    simp [ndefRecordBytes]
  have splitPayload : pre ++ ndefRecordBytes desc location ++ post =
      (pre ++ ndefRecordHeader desc location ++ desc.type ++ desc.id) ++ desc.payloadDescriptor.payload ++ post := by
    simp [ndefRecordBytes]
  refine ⟨⟨desc.tnf, desc.id.length,
    if desc.id.length > 0 then some (pre.length + (ndefRecordHeader desc location).length + desc.type.length) else none,
    desc.type.length, if desc.type.length > 0 then some (pre.length + (ndefRecordHeader desc location).length) else none,
    ⟨if desc.payloadDescriptor.payload.length = 0 then none
      else some (pre.length + (ndefRecordHeader desc location).length + desc.type.length + desc.id.length),
      desc.payloadDescriptor.payload.length⟩⟩, ?_, ?_⟩
  · unfold nfcNdefRecordParse
    rw [if_neg baseRoom]
    simp only [header]
    rw [expected, if_neg (by omega), tnfBits, NfcNdefRecordTnf.ofBits_bits, locationBits,
      NfcNdefRecordLocation.ofBits_bits]
    simp only [idPart, Except.ok.injEq, Prod.mk.injEq, NfcNdefRecordDesc.mk.injEq, and_true, true_and]
    constructor
    · -- a reserved TNF would be read as unknown, and the encoder never writes one
      split
      · next reserved => exact absurd reserved valid.tnfNotReserved
      · rfl
    · by_cases hasId : desc.id.length > 0 <;> simp [hasId]
  · have typeSlice := sliceAt_of_split_of_pos split
    have idSlice := sliceAt_of_split_of_pos splitId
    have payloadSlice := sliceAt_of_split_of_pos splitPayload
    simp only [List.length_append] at typeSlice idSlice payloadSlice
    refine ⟨rfl, rfl, typeSlice, rfl, idSlice, rfl, ?_⟩
    -- the payload pointer is tested against zero the other way round
    have pointer : (if desc.payloadDescriptor.payload.length = 0 then none
        else some (pre.length + (ndefRecordHeader desc location).length + desc.type.length + desc.id.length)) =
        if 0 < desc.payloadDescriptor.payload.length then
          some (pre.length + (ndefRecordHeader desc location).length + desc.type.length + desc.id.length)
        else none := by
      by_cases empty : desc.payloadDescriptor.payload.length = 0 <;> simp [empty, Nat.pos_iff_ne_zero]
    rw [pointer]
    exact payloadSlice

end Parse

/-! The message loop: record locations and parsing record after record -/

theorem locationAllowed_recordLocationGet (index recordCount : Nat) :
    locationAllowed index (recordLocationGet index recordCount) = true := by
  unfold locationAllowed recordLocationGet
  split_ifs <;> simp_all

theorem isFinalLocation_recordLocationGet {index recordCount : Nat} (below : index < recordCount)
    (small : recordCount < 2 ^ 32) :
    isFinalLocation (recordLocationGet index recordCount) = decide (index + 1 = recordCount) := by
  unfold isFinalLocation recordLocationGet
  split_ifs <;> simp_all <;> omega

theorem ndefRecordBytes_length_pos (desc : NdefRecordSource) (location : NfcNdefRecordLocation) :
    0 < (ndefRecordBytes desc location).length := by
  have headerLength := ndefRecordHeader_length desc location
  have longBytes : ndefRecordBaseLongSize = 6 := rfl
  simp only [ndefRecordBytes, List.length_append]
  omega

theorem length_le_ndefMessageBytesFrom (recordCount : Nat) (records : List NdefRecordSource) :
    ∀ index, records.length ≤ (ndefMessageBytesFrom recordCount records index).length := by
  induction records with
  | nil => intro index; simp
  | cons desc rest ih =>
    intro index
    have first := ndefRecordBytes_length_pos desc (recordLocationGet index recordCount)
    have later := ih (index + 1)
    simp only [ndefMessageBytesFrom, List.length_append, List.length_cons]
    omega

section Loop

variable {recordCount : Nat} {data : List UInt8} {previous : Nat → NfcNdefRecordDesc}
  {previousPayload : Nat → NfcNdefBinPayloadDesc}

theorem msgParserLoop_ndefMessageBytesFrom (small : recordCount < 2 ^ 32) (rest : List NdefRecordSource) :
    ∀ (index slotsLeft extra : Nat) (pre post : List UInt8), (∀ desc ∈ rest, desc.Valid) → rest ≠ [] →
      index + rest.length = recordCount → rest.length ≤ slotsLeft →
      data = pre ++ ndefMessageBytesFrom recordCount rest index ++ post →
      (ndefMessageBytesFrom recordCount rest index).length < 2 ^ 32 →
      ∃ parsed, msgParserLoop data previous previousPayload slotsLeft index pre.length
          ((ndefMessageBytesFrom recordCount rest index).length + extra) = .ok (parsed, extra) ∧
        List.Forall₂ (fun record source => record.Describes data source) parsed rest := by
  induction rest with
  | nil => intro _ _ _ _ _ _ nonempty; exact absurd rfl nonempty
  | cons desc rest ih =>
    intro index slotsLeft extra pre post valid _ counted slots layout fits
    simp only [ndefMessageBytesFrom, List.length_append, List.length_cons] at layout fits counted slots ⊢
    have recordLayout : data = pre ++ ndefRecordBytes desc (recordLocationGet index recordCount) ++
        (ndefMessageBytesFrom recordCount rest (index + 1) ++ post) := by
      rw [layout]
      simp only [List.append_assoc]
    have positive := ndefRecordBytes_length_pos desc (recordLocationGet index recordCount)
    obtain ⟨parsedDesc, parse, describes⟩ := @nfcNdefRecordParse_ndefRecordBytes desc
      (recordLocationGet index recordCount) (valid desc List.mem_cons_self) pre
      (ndefMessageBytesFrom recordCount rest (index + 1) ++ post) (previousPayload index) (previous index)
      ((ndefRecordBytes desc (recordLocationGet index recordCount)).length +
        (ndefMessageBytesFrom recordCount rest (index + 1)).length + extra) (by omega) (by omega)
    rw [← recordLayout] at parse describes
    obtain ⟨slotsRest, rfl⟩ : ∃ slotsRest, slotsLeft = slotsRest + 1 := ⟨slotsLeft - 1, by omega⟩
    have left : (ndefRecordBytes desc (recordLocationGet index recordCount)).length +
        (ndefMessageBytesFrom recordCount rest (index + 1)).length + extra -
        (ndefRecordBytes desc (recordLocationGet index recordCount)).length =
        (ndefMessageBytesFrom recordCount rest (index + 1)).length + extra := by omega
    rw [msgParserLoop, if_neg (by omega), parse]
    simp only [locationAllowed_recordLocationGet, Bool.not_true, Bool.false_eq_true, if_false,
      isFinalLocation_recordLocationGet (show index < recordCount by omega) small, left]
    by_cases last : rest = []
    · -- the last record: the loop stops with the bytes past the message left over
      subst last
      refine ⟨[parsedDesc], ?_, List.Forall₂.cons describes List.Forall₂.nil⟩
      simp [show index + 1 = recordCount by simpa using counted, ndefMessageBytesFrom]
    · have more : index + 1 ≠ recordCount := by
        have := List.length_pos_of_ne_nil last
        omega
      have another : slotsRest ≠ 0 := by
        have := List.length_pos_of_ne_nil last
        omega
      obtain ⟨parsed, loop, described⟩ := ih (index + 1) slotsRest extra
        (pre ++ ndefRecordBytes desc (recordLocationGet index recordCount)) post
        (fun other member => valid other (List.mem_cons_of_mem _ member)) last (by omega) (by omega)
        (by rw [recordLayout]; simp only [List.append_assoc]) (by omega)
      rw [List.length_append] at loop
      refine ⟨parsedDesc :: parsed, ?_, List.Forall₂.cons describes described⟩
      simp only [more, decide_false, Bool.false_eq_true, if_false, another, loop]

end Loop

theorem nfcNdefMsgParserMemoResolve_requiredMem {layout : DescriptorLayout} {resultBufLen count : Nat}
    (positive : 0 < count) (enough : layout.nfcNdefParserRequiredMem count ≤ resultBufLen) :
    ∃ memo, nfcNdefMsgParserMemoResolve layout resultBufLen = .ok memo ∧ count ≤ memo.maxRecordCount := by
  have deltaPositive : 0 < layout.nfcNdefMsgParserDelta := layout.deltaPositive
  unfold DescriptorLayout.nfcNdefParserRequiredMem at enough
  rw [nfcNdefMsgParserMemoResolve, if_neg (by omega)]
  refine ⟨_, rfl, ?_⟩
  have spare : (count - 1) * layout.nfcNdefMsgParserDelta ≤ resultBufLen - layout.msg1Size := by
    rw [Nat.mul_comm]
    omega
  have records := (Nat.le_div_iff_mul_le deltaPositive).mpr spare
  dsimp only
  omega

/-- Encoding a message of valid records into a buffer at least its size, then parsing the bytes with
a result buffer for its records: the size query and the write report the message's length, the buffer
holds the message's bytes, and the parser reads the records back in order, consuming exactly that
length. -/
theorem nfcNdefMsgEncode_parse_roundTrip (layout : DescriptorLayout) (records : List NdefRecordSource)
    (nonempty : records ≠ []) (valid : ∀ desc ∈ records, desc.Valid) (buf : List UInt8)
    {queryLen msgLen resultBufLen rawDataLen : Nat} (room : (ndefMessageBytes records).length ≤ msgLen)
    (bufferSize : msgLen ≤ buf.length) (msgLenFits : msgLen < 2 ^ 32)
    (resultRoom : layout.nfcNdefParserRequiredMem records.length ≤ resultBufLen)
    (dataLen : (ndefMessageBytes records).length ≤ rawDataLen)
    (previous : Nat → NfcNdefRecordDesc) (previousPayload : Nat → NfcNdefBinPayloadDesc) :
    let encoded := ndefMessageBytes records ++ buf.drop (ndefMessageBytes records).length
    nfcNdefMsgEncode records none queryLen = .ok (none, (ndefMessageBytes records).length) ∧
      nfcNdefMsgEncode records (some buf) msgLen = .ok (some encoded, (ndefMessageBytes records).length) ∧
      ∃ memo parsed, nfcNdefMsgParse layout resultBufLen previous previousPayload encoded rawDataLen =
          .ok (memo, parsed) ∧ parsed.nfcDataLen = (ndefMessageBytes records).length ∧
        List.Forall₂ (fun record source => record.Describes encoded source) parsed.records records := by
  intro encoded
  have fits : (ndefMessageBytes records).length < 2 ^ 32 := by omega
  have countFits : records.length < 2 ^ 32 :=
    Nat.lt_of_le_of_lt (length_le_ndefMessageBytesFrom records.length records 0) fits
  have positive : 0 < records.length := List.length_pos_of_ne_nil nonempty
  obtain ⟨memo, resolved, slots⟩ := nfcNdefMsgParserMemoResolve_requiredMem positive resultRoom
  -- the loop starts at offset zero with the bytes past the message as the extra it stops with
  obtain ⟨parsed, loop, described⟩ := @msgParserLoop_ndefMessageBytesFrom records.length encoded previous
    previousPayload countFits records 0 memo.maxRecordCount (rawDataLen - (ndefMessageBytes records).length) []
    (buf.drop (ndefMessageBytes records).length) valid nonempty (by simp) slots (by simp [encoded, ndefMessageBytes])
    fits
  have unfolded : ndefMessageBytes records = ndefMessageBytesFrom records.length records 0 := rfl
  rw [← unfolded, Nat.add_sub_cancel' dataLen] at loop
  refine ⟨?_, ?_, ⟨memo, ⟨parsed, rawDataLen - (rawDataLen - (ndefMessageBytes records).length)⟩, ?_, ?_, described⟩⟩
  · have queried := @msgEncodeFrom_query records.length queryLen records valid 0 0 (by rw [← unfolded]; omega)
    rw [nfcNdefMsgEncode, queried, Nat.zero_add, unfolded]
  · have written := @msgEncodeFrom_write records.length msgLen records valid msgLenFits 0 0 buf bufferSize
      (by rw [← unfolded]; omega)
    rw [nfcNdefMsgEncode, written, ← unfolded]
    simp [encoded]
  · simp only [nfcNdefMsgParse, resolved, nfcNdefMsgParserInternal, List.length_nil] at loop ⊢
    rw [loop]
  · dsimp only
    omega

def textAndMimeMessage : List NdefRecordSource :=
  [⟨.tnfWellKnown, 0, [], 1, [0x54], ⟨[0x68, 0x69], 2⟩⟩, ⟨.tnfMediaType, 1, [0x31], 2, [0x61, 0x62], ⟨[], 0⟩⟩]

theorem nfcNdefMsgEncode_parse_roundTrip_textAndMime :
    (textAndMimeMessage ≠ [] ∧ (∀ desc ∈ textAndMimeMessage, desc.Valid) ∧
      (ndefMessageBytes textAndMimeMessage).length ≤ 24 ∧ 24 ≤ (List.replicate 24 (0 : UInt8)).length ∧
      24 < 2 ^ 32 ∧ DescriptorLayout.nfcNdefParserRequiredMem ⟨12, 4, 8, 28, by decide⟩ textAndMimeMessage.length ≤ 92 ∧
      (ndefMessageBytes textAndMimeMessage).length ≤ 19) ∧
    let encoded := ndefMessageBytes textAndMimeMessage ++
      (List.replicate 24 (0 : UInt8)).drop (ndefMessageBytes textAndMimeMessage).length
    nfcNdefMsgEncode textAndMimeMessage none 0 = .ok (none, (ndefMessageBytes textAndMimeMessage).length) ∧
      nfcNdefMsgEncode textAndMimeMessage (some (List.replicate 24 0)) 24 =
        .ok (some encoded, (ndefMessageBytes textAndMimeMessage).length) ∧
      ∃ memo parsed, nfcNdefMsgParse ⟨12, 4, 8, 28, by decide⟩ 92 (fun _ => ⟨.tnfEmpty, 0, none, 0, none, ⟨none, 0⟩⟩)
          (fun _ => ⟨none, 0⟩) encoded 19 = .ok (memo, parsed) ∧
        parsed.nfcDataLen = (ndefMessageBytes textAndMimeMessage).length ∧
        List.Forall₂ (fun record source => record.Describes encoded source) parsed.records textAndMimeMessage :=
  have valid : ∀ desc ∈ textAndMimeMessage, desc.Valid := @of_decide_eq_true _ (List.decidableBAll _ _) rfl
  ⟨⟨by decide, valid, by decide, by decide, by decide, by decide, by decide⟩,
    nfcNdefMsgEncode_parse_roundTrip ⟨12, 4, 8, 28, by decide⟩ textAndMimeMessage (by decide) valid
      (List.replicate 24 0) (by decide) (by decide) (by decide) (by decide) (by decide) _ _⟩

end Ndef
