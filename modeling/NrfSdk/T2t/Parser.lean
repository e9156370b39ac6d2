import NrfSdk.Machine.Word
import NrfSdk.Machine.LittleEndian

/-!
The NFC Type 2 Tag parser of t2t/parser.c: the internal area, the Capability Container, then the TLV
blocks of the data area from offset 16 on until a TERMINATOR or the end of the area. A block's value
pointer is kept as its offset into the tag's bytes, none for NULL. The uint16_t offsets are numbers that
`u16` keeps below 2^16; the loop is defined by well-founded recursion on how far the offset is from
2^16 + 16, which every TLV read shortens.
-/

namespace T2t

open Machine

def nfcT2tTlvNull : Nat := 0x00
def nfcT2tTlvLockControl : Nat := 0x01
def nfcT2tTlvMemoryControl : Nat := 0x02
def nfcT2tTlvTerminator : Nat := 0xFE

def nfcT2tTlvTLength : Nat := 1
def nfcT2tTlvLShortLength : Nat := 1
def nfcT2tTlvLLongLength : Nat := 3
def nfcT2tTlvLFormatFlag : Nat := 0xFF
def nfcT2tTlvNullTerminatorLen : Nat := 0
def nfcT2tTlvLockMemoryCtrlLen : Nat := 3

def nfcT2tNfcForumDefinedData : Nat := 0xE1
def nfcT2tSupportedMajorVersion : Nat := 1
def nfcT2tCcBlockOffset : Nat := 12
def nfcT2tFirstDataBlockOffset : Nat := 16

/-- struct nfc_t2t_tlv_block. -/
structure NfcT2tTlvBlock where
  tag : Nat
  length : Nat
  value : Option Nat
  deriving DecidableEq, Repr

structure NfcT2tSn where
  manufacturerId : Nat
  serialNumberPart1 : Nat
  serialNumberPart2 : Nat
  checkByte0 : Nat
  checkByte1 : Nat
  internal : Nat
  deriving DecidableEq, Repr

structure NfcT2tCc where
  majorVersion : Nat
  minorVersion : Nat
  dataAreaSize : UInt16
  readAccess : Nat
  writeAccess : Nat
  deriving DecidableEq, Repr

/-- struct nfc_t2t: the first tlv_count entries of tlv_block_array are the list, which never outgrows
max_tlv_blocks. -/
structure NfcT2t where
  sn : NfcT2tSn
  lockBytes : Nat
  cc : NfcT2tCc
  maxTlvBlocks : Nat
  tlvBlockArray : List NfcT2tTlvBlock
  tlvCountLe : tlvBlockArray.length ≤ maxTlvBlocks

def nfcT2tDescDef (maxBlocks : Nat) : NfcT2t :=
  ⟨⟨0, 0, 0, 0, 0, 0⟩, 0, ⟨0, 0, 0, 0, 0⟩, maxBlocks, [], Nat.zero_le _⟩

def NfcT2t.tlvCount (t2t : NfcT2t) : Nat := t2t.tlvBlockArray.length

def NfcT2tCc.dataEnd (cc : NfcT2tCc) : Nat := cc.dataAreaSize.toNat + nfcT2tFirstDataBlockOffset

def rawByte (rawData : List UInt8) (index : Nat) : Nat := (rawData.getD index 0).toNat

def nfcT2tTlvBlockInsert (t2t : NfcT2t) (tlvBlock : NfcT2tTlvBlock) : Except Errno NfcT2t :=
  if full : t2t.tlvCount = t2t.maxTlvBlocks then .error .ENOMEM
  else .ok { t2t with
    tlvBlockArray := t2t.tlvBlockArray ++ [tlvBlock]
    tlvCountLe := by
      have := t2t.tlvCountLe
      rw [List.length_append, List.length_singleton]
      unfold NfcT2t.tlvCount at full
      omega }

theorem nfcT2tTlvBlockInsert_full {t2t : NfcT2t} {tlvBlock : NfcT2tTlvBlock} (full : t2t.tlvCount = t2t.maxTlvBlocks) :
    nfcT2tTlvBlockInsert t2t tlvBlock = .error .ENOMEM := by
  rw [nfcT2tTlvBlockInsert, dif_pos full]

theorem nfcT2tTlvBlockInsert_room {t2t : NfcT2t} (tlvBlock : NfcT2tTlvBlock) (room : t2t.tlvCount < t2t.maxTlvBlocks) :
    ∃ inserted, nfcT2tTlvBlockInsert t2t tlvBlock = .ok inserted ∧
      inserted.tlvBlockArray = t2t.tlvBlockArray ++ [tlvBlock] ∧ inserted.cc = t2t.cc ∧
      inserted.maxTlvBlocks = t2t.maxTlvBlocks := by
  rw [nfcT2tTlvBlockInsert, dif_neg (by omega)]
  exact ⟨_, rfl, rfl, rfl, rfl⟩

theorem nfcT2tTlvBlockInsert_ok {t2t inserted : NfcT2t} {tlvBlock : NfcT2tTlvBlock}
    (insert : nfcT2tTlvBlockInsert t2t tlvBlock = .ok inserted) :
    inserted.tlvBlockArray = t2t.tlvBlockArray ++ [tlvBlock] ∧ inserted.cc = t2t.cc ∧
      inserted.maxTlvBlocks = t2t.maxTlvBlocks := by
  unfold nfcT2tTlvBlockInsert at insert
  split at insert
  · cases insert
  · cases insert
    exact ⟨rfl, rfl, rfl⟩

def tlvBlockIsDataLengthCorrect (blockToCheck : NfcT2tTlvBlock) : Bool :=
  if blockToCheck.tag = nfcT2tTlvNull ∨ blockToCheck.tag = nfcT2tTlvTerminator then
    blockToCheck.length = nfcT2tTlvNullTerminatorLen
  else if blockToCheck.tag = nfcT2tTlvLockControl ∨ blockToCheck.tag = nfcT2tTlvMemoryControl then
    blockToCheck.length = nfcT2tTlvLockMemoryCtrlLen
  else true

def nfcT2tIsEndReached (t2t : NfcT2t) (offset : Nat) : Bool := offset = t2t.cc.dataEnd

def nfcT2tIsVersionSupported (t2t : NfcT2t) : Bool := t2t.cc.majorVersion = nfcT2tSupportedMajorVersion

/-- nfc_t2t_is_field_within_data_range; the sum is computed in int, so it does not wrap. -/
def nfcT2tIsFieldWithinDataRange (t2t : NfcT2t) (offset fieldLength : Nat) : Bool :=
  if fieldLength = 0 then false
  else offset + fieldLength - 1 < t2t.cc.dataEnd ∧ offset ≥ nfcT2tFirstDataBlockOffset

def nfcT2tTypeExtract (t2t : NfcT2t) (rawData : List UInt8) (tOffset : Nat) (tlvBuf : NfcT2tTlvBlock) :
    Except Errno (NfcT2tTlvBlock × Nat) :=
  if !nfcT2tIsFieldWithinDataRange t2t tOffset nfcT2tTlvTLength then .error .EINVAL
  else .ok ({ tlvBuf with tag := rawByte rawData tOffset }, u16 (tOffset + nfcT2tTlvTLength))

def nfcT2tLengthExtract (t2t : NfcT2t) (rawData : List UInt8) (lOffset : Nat) (tlvBuf : NfcT2tTlvBlock) :
    Except Errno (NfcT2tTlvBlock × Nat) :=
  if !nfcT2tIsFieldWithinDataRange t2t lOffset nfcT2tTlvLShortLength then .error .EINVAL
  else
    let length := rawByte rawData lOffset
    if length = nfcT2tTlvLFormatFlag then
      if !nfcT2tIsFieldWithinDataRange t2t lOffset nfcT2tTlvLLongLength then .error .EINVAL
      else
        let length := sysGetBe16 (rawData.drop (lOffset + 1))
        -- a long length value cannot be lower than 0xFF
        if length < 0xFF then .error .EINVAL
        else .ok ({ tlvBuf with length }, u16 (lOffset + nfcT2tTlvLLongLength))
    else .ok ({ tlvBuf with length }, u16 (lOffset + nfcT2tTlvLShortLength))

def nfcT2tValuePtrExtract (t2t : NfcT2t) (vOffset : Nat) (tlvBuf : NfcT2tTlvBlock) :
    Except Errno (NfcT2tTlvBlock × Nat) :=
  if tlvBuf.length = 0 then .ok ({ tlvBuf with value := none }, vOffset)
  else if !nfcT2tIsFieldWithinDataRange t2t vOffset tlvBuf.length then .error .EINVAL
  else .ok ({ tlvBuf with value := some vOffset }, u16 (vOffset + tlvBuf.length))

def emptyTlvBlock : NfcT2tTlvBlock := ⟨0, 0, none⟩

/-- nfc_t2t_tlv_block_extract: the block and the next offset, 0 after a TERMINATOR. -/
def nfcT2tTlvBlockExtract (t2t : NfcT2t) (rawData : List UInt8) (offset : Nat) :
    Except Errno (NfcT2tTlvBlock × Nat) :=
  match nfcT2tTypeExtract t2t rawData offset emptyTlvBlock with
  | .error err => .error err
  | .ok (tlvBuf, offset) =>
    if tlvBuf.tag = nfcT2tTlvNull then .ok (tlvBuf, offset)
    else if tlvBuf.tag = nfcT2tTlvTerminator then .ok (tlvBuf, 0)
    else
      match nfcT2tLengthExtract t2t rawData offset tlvBuf with
      | .error err => .error err
      | .ok (tlvBuf, offset) =>
        if tlvBuf.length > 0 then nfcT2tValuePtrExtract t2t offset tlvBuf
        else .ok (tlvBuf, offset)

def nfcT2tTlvParse (t2t : NfcT2t) (rawData : List UInt8) (tlvOffset : Nat) : Except Errno (NfcT2t × Nat) :=
  match nfcT2tTlvBlockExtract t2t rawData tlvOffset with
  | .error err => .error err
  | .ok (newBlock, tlvOffset) =>
    if !tlvBlockIsDataLengthCorrect newBlock then .error .EINVAL
    else if newBlock.tag = nfcT2tTlvNull ∨ newBlock.tag = nfcT2tTlvTerminator then .ok (t2t, tlvOffset)
    else
      match nfcT2tTlvBlockInsert t2t newBlock with
      | .error err => .error err
      | .ok t2t => .ok (t2t, tlvOffset)

/-- nfc_t2t_internal_parse; the BCC check only logs a warning. -/
def nfcT2tInternalParse (t2t : NfcT2t) (rawData : List UInt8) : NfcT2t :=
  { t2t with
    sn := ⟨rawByte rawData 0, sysGetBe16 (rawData.drop 1), sysGetBe 4 (rawData.drop 4), rawByte rawData 3,
      rawByte rawData 8, rawByte rawData 9⟩
    lockBytes := sysGetBe16 (rawData.drop 10) }

def nfcT2tCcParse (t2t : NfcT2t) (rawData : List UInt8) : Except Errno NfcT2t :=
  let ccBlock := rawData.drop nfcT2tCcBlockOffset
  if rawByte ccBlock 0 ≠ nfcT2tNfcForumDefinedData then .error .EINVAL
  else .ok { t2t with
    cc := ⟨(rawByte ccBlock 1 >>> 4) &&& 0x0F, rawByte ccBlock 1 &&& 0x0F, (rawByte ccBlock 2 * 8).toUInt16,
      (rawByte ccBlock 3 >>> 4) &&& 0x0F, rawByte ccBlock 3 &&& 0x0F⟩ }

def nfcT2tClear (t2t : NfcT2t) : NfcT2t :=
  { t2t with tlvBlockArray := [], tlvCountLe := Nat.zero_le _, cc := ⟨0, 0, 0, 0, 0⟩, sn := ⟨0, 0, 0, 0, 0, 0⟩ }

/-! How far an offset is from the end of the loop -/

def loopMeasure (offset : Nat) : Nat :=
  if offset < nfcT2tFirstDataBlockOffset then 0 else 2 ^ 16 + nfcT2tFirstDataBlockOffset - offset

/-- Where a read leaves the offset: the end of a field inside the data area, as a uint16_t. -/
def Advances (dataEnd offset next : Nat) : Prop :=
  ∃ fieldEnd, offset < fieldEnd ∧ fieldEnd ≤ dataEnd ∧ next = u16 fieldEnd

theorem NfcT2tCc.dataEnd_lt (cc : NfcT2tCc) : cc.dataEnd < 2 ^ 16 + nfcT2tFirstDataBlockOffset := by
  have := cc.dataAreaSize.toNat_lt
  unfold NfcT2tCc.dataEnd
  omega

theorem nfcT2tIsFieldWithinDataRange_eq_true {t2t : NfcT2t} {offset fieldLength : Nat} :
    nfcT2tIsFieldWithinDataRange t2t offset fieldLength = true ↔
      0 < fieldLength ∧ nfcT2tFirstDataBlockOffset ≤ offset ∧ offset + fieldLength ≤ t2t.cc.dataEnd := by
  unfold nfcT2tIsFieldWithinDataRange
  split <;> simp <;> omega

theorem u16_of_start {value : Nat} (small : value < 2 ^ 16 + nfcT2tFirstDataBlockOffset)
    (start : nfcT2tFirstDataBlockOffset ≤ u16 value) : u16 value = value := by
  have stored : u16 value = value % 2 ^ 16 := wrap_natCast 16 value
  unfold nfcT2tFirstDataBlockOffset at small start
  omega

theorem Advances.trans {dataEnd offset middle next : Nat} (first : Advances dataEnd offset middle)
    (start : nfcT2tFirstDataBlockOffset ≤ middle) (small : dataEnd < 2 ^ 16 + nfcT2tFirstDataBlockOffset)
    (second : Advances dataEnd middle next) : Advances dataEnd offset next := by
  obtain ⟨firstEnd, ahead, inside, rfl⟩ := first
  obtain ⟨secondEnd, further, within, rfl⟩ := second
  rw [u16_of_start (by omega) start] at further
  exact ⟨secondEnd, by omega, within, rfl⟩

theorem loopMeasure_zero {offset : Nat} (start : nfcT2tFirstDataBlockOffset ≤ offset)
    (small : offset < 2 ^ 16 + nfcT2tFirstDataBlockOffset) : loopMeasure 0 < loopMeasure offset := by
  unfold loopMeasure
  rw [if_pos (by decide), if_neg (by omega)]
  omega

theorem loopMeasure_advances {dataEnd offset next : Nat} (start : nfcT2tFirstDataBlockOffset ≤ offset)
    (small : dataEnd < 2 ^ 16 + nfcT2tFirstDataBlockOffset) (advances : Advances dataEnd offset next) :
    loopMeasure next < loopMeasure offset := by
  obtain ⟨fieldEnd, ahead, inside, rfl⟩ := advances
  have stored : u16 fieldEnd = fieldEnd % 2 ^ 16 := wrap_natCast 16 fieldEnd
  unfold loopMeasure
  rw [stored, if_neg (show ¬ offset < nfcT2tFirstDataBlockOffset by omega)]
  unfold nfcT2tFirstDataBlockOffset at *
  -- past 2^16 the offset wraps below 16, where the measure is zero
  split <;> omega

section Extract

variable {t2t : NfcT2t} {rawData : List UInt8} {tlvBuf : NfcT2tTlvBlock} {result : NfcT2tTlvBlock × Nat}

theorem nfcT2tTypeExtract_advances {tOffset : Nat} (extracted : nfcT2tTypeExtract t2t rawData tOffset tlvBuf = .ok result) :
    nfcT2tFirstDataBlockOffset ≤ tOffset ∧ Advances t2t.cc.dataEnd tOffset result.2 ∧
      result.1 = { tlvBuf with tag := rawByte rawData tOffset } := by
  unfold nfcT2tTypeExtract at extracted
  split at extracted
  · cases extracted
  · next within =>
    cases extracted
    obtain ⟨-, start, inside⟩ := nfcT2tIsFieldWithinDataRange_eq_true.mp (by simpa using within)
    exact ⟨start, ⟨tOffset + nfcT2tTlvTLength, by unfold nfcT2tTlvTLength; omega, inside, rfl⟩, rfl⟩

theorem nfcT2tLengthExtract_advances {lOffset : Nat}
    (extracted : nfcT2tLengthExtract t2t rawData lOffset tlvBuf = .ok result) :
    nfcT2tFirstDataBlockOffset ≤ lOffset ∧ Advances t2t.cc.dataEnd lOffset result.2 ∧ result.1.tag = tlvBuf.tag := by
  unfold nfcT2tLengthExtract at extracted
  split at extracted
  · cases extracted
  · next shortWithin =>
    obtain ⟨-, start, shortInside⟩ := nfcT2tIsFieldWithinDataRange_eq_true.mp (by simpa using shortWithin)
    dsimp only at extracted
    split at extracted
    · split at extracted
      · cases extracted
      · next longWithin =>
        obtain ⟨-, -, longInside⟩ := nfcT2tIsFieldWithinDataRange_eq_true.mp (by simpa using longWithin)
        split at extracted
        · cases extracted
        · cases extracted
          exact ⟨start, ⟨lOffset + nfcT2tTlvLLongLength, by unfold nfcT2tTlvLLongLength; omega, longInside, rfl⟩, rfl⟩
    · cases extracted
      exact ⟨start, ⟨lOffset + nfcT2tTlvLShortLength, by unfold nfcT2tTlvLShortLength; omega, shortInside, rfl⟩, rfl⟩

theorem nfcT2tValuePtrExtract_advances {vOffset : Nat}
    (extracted : nfcT2tValuePtrExtract t2t vOffset tlvBuf = .ok result) :
    (result.2 = vOffset ∨ nfcT2tFirstDataBlockOffset ≤ vOffset ∧ Advances t2t.cc.dataEnd vOffset result.2) ∧
      result.1.tag = tlvBuf.tag := by
  unfold nfcT2tValuePtrExtract at extracted
  split at extracted
  · cases extracted
    exact ⟨.inl rfl, rfl⟩
  · next nonempty =>
    split at extracted
    · cases extracted
    · next within =>
      cases extracted
      obtain ⟨-, start, inside⟩ := nfcT2tIsFieldWithinDataRange_eq_true.mp (by simpa using within)
      exact ⟨.inr ⟨start, vOffset + tlvBuf.length, by omega, inside, by simp⟩, rfl⟩

theorem nfcT2tTlvBlockExtract_advances {offset : Nat}
    (extracted : nfcT2tTlvBlockExtract t2t rawData offset = .ok result) :
    nfcT2tFirstDataBlockOffset ≤ offset ∧ offset < t2t.cc.dataEnd ∧
      (result.2 = 0 ∨ Advances t2t.cc.dataEnd offset result.2) := by
  have small := t2t.cc.dataEnd_lt
  unfold nfcT2tTlvBlockExtract at extracted
  split at extracted
  · cases extracted
  · next tagged typed =>
    obtain ⟨start, tagAdvances, -⟩ := nfcT2tTypeExtract_advances typed
    have inside : offset < t2t.cc.dataEnd := by
      obtain ⟨_, ahead, within, -⟩ := tagAdvances
      omega
    refine ⟨start, inside, ?_⟩
    split at extracted
    · cases extracted
      exact .inr tagAdvances
    split at extracted
    · cases extracted
      exact .inl rfl
    split at extracted
    · cases extracted
    · next lengthRead =>
      obtain ⟨lengthStart, lengthAdvances, -⟩ := nfcT2tLengthExtract_advances lengthRead
      have throughLength := tagAdvances.trans lengthStart small lengthAdvances
      split at extracted
      · obtain ⟨unchanged | ⟨valueStart, valueAdvances⟩, -⟩ := nfcT2tValuePtrExtract_advances extracted
        · exact .inr (unchanged ▸ throughLength)
        · exact .inr (throughLength.trans valueStart small valueAdvances)
      · cases extracted
        exact .inr throughLength

theorem nfcT2tTlvParse_advances {tlvOffset : Nat} {next : NfcT2t × Nat}
    (parsed : nfcT2tTlvParse t2t rawData tlvOffset = .ok next) :
    loopMeasure next.2 < loopMeasure tlvOffset ∧ next.1.cc = t2t.cc := by
  have small := t2t.cc.dataEnd_lt
  unfold nfcT2tTlvParse at parsed
  split at parsed
  · cases parsed
  · next newBlock offset extracted =>
    obtain ⟨start, inside, progress⟩ := nfcT2tTlvBlockExtract_advances extracted
    have moved : loopMeasure offset < loopMeasure tlvOffset := by
      rcases progress with ended | advances
      · rw [show offset = 0 from ended]
        exact loopMeasure_zero start (by omega)
      · exact loopMeasure_advances start small advances
    split at parsed
    · cases parsed
    split at parsed
    · cases parsed
      exact ⟨moved, rfl⟩
    split at parsed
    · cases parsed
    · next inserted insert =>
      cases parsed
      exact ⟨moved, (nfcT2tTlvBlockInsert_ok insert).2.1⟩

end Extract

/-- The loop of nfc_t2t_parse from `offset` on: while (offset > 0), stopping at the end of the data area
when no TERMINATOR came first. -/
def nfcT2tParseLoop (t2t : NfcT2t) (rawData : List UInt8) (offset : Nat) : Except Errno NfcT2t :=
  if offset = 0 then .ok t2t
  else if nfcT2tIsEndReached t2t offset then .ok t2t
  else
    -- the equation of the parse is read only by the termination proof
    match _parsed : nfcT2tTlvParse t2t rawData offset with
    | .error err => .error err
    | .ok (next, nextOffset) => nfcT2tParseLoop next rawData nextOffset
termination_by loopMeasure offset
decreasing_by exact (nfcT2tTlvParse_advances _parsed).1

theorem nfcT2tParseLoop_zero (t2t : NfcT2t) (rawData : List UInt8) : nfcT2tParseLoop t2t rawData 0 = .ok t2t := by
  rw [nfcT2tParseLoop, if_pos rfl]

theorem nfcT2tParseLoop_step {t2t : NfcT2t} {rawData : List UInt8} {offset : Nat} (nonzero : offset ≠ 0)
    (before : offset ≠ t2t.cc.dataEnd) :
    nfcT2tParseLoop t2t rawData offset =
      match nfcT2tTlvParse t2t rawData offset with
      | .error err => .error err
      | .ok (next, nextOffset) => nfcT2tParseLoop next rawData nextOffset := by
  rw [nfcT2tParseLoop, if_neg nonzero, if_neg (by simpa [nfcT2tIsEndReached] using before)]
  rcases nfcT2tTlvParse t2t rawData offset with err | ⟨next, nextOffset⟩ <;> rfl

def nfcT2tParse (t2t : NfcT2t) (rawData : List UInt8) : Except Errno NfcT2t :=
  let t2t := nfcT2tInternalParse (nfcT2tClear t2t) rawData
  match nfcT2tCcParse t2t rawData with
  | .error err => .error err
  | .ok t2t =>
    if !nfcT2tIsVersionSupported t2t then .error .EFAULT
    else nfcT2tParseLoop t2t rawData nfcT2tFirstDataBlockOffset

end T2t
