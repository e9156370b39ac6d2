import NrfSdk.T2t.Parser

/-!
What the data area of a Type 2 Tag holds, stated without the parser: from offset 16 a chain of TLV
elements, each NULL padding or a block of a tag, a one or three byte length and that many value bytes,
ended by a TERMINATOR or by the end of the area; and the ways a block breaks the chain. The parser's
loop reads exactly this chain: one TLV at a time here, then whole runs.
-/

namespace T2t

open Machine

/-- The length field of a block: one byte below 0xFF, or 0xFF and two bytes most significant first. -/
inductive TlvLength
  | short (length : Nat)
  | long (length : Nat)
  deriving DecidableEq, Repr

def TlvLength.length : TlvLength → Nat
  | .short length => length
  | .long length => length

def TlvLength.bytes : TlvLength → List UInt8
  | .short length => [length.toUInt8]
  | .long length => [0xFF, (length / 256).toUInt8, (length % 256).toUInt8]

def TlvLength.Valid : TlvLength → Prop
  | .short length => length < 0xFF
  | .long length => 0xFF ≤ length ∧ length < 2 ^ 16

inductive TlvElement
  | null
  | block (tag : UInt8) (length : TlvLength) (value : List UInt8)
  deriving DecidableEq, Repr

def TlvElement.bytes : TlvElement → List UInt8
  | .null => [0x00]
  | .block tag length value => tag :: (length.bytes ++ value)

/-- A tag that starts a block: neither NULL nor TERMINATOR. -/
def BlockTag (tag : UInt8) : Prop := tag ≠ 0x00 ∧ tag ≠ 0xFE

def TlvElement.Valid : TlvElement → Prop
  | .null => True
  | .block tag length value => BlockTag tag ∧ length.Valid ∧ value.length = length.length ∧
      (tag = 0x01 ∨ tag = 0x02 → length.length = 3)

/-- The block the parser keeps for an element that starts at `offset`; NULL padding keeps none. -/
def TlvElement.stored : TlvElement → Nat → Option NfcT2tTlvBlock
  | .null, _ => none
  | .block tag length _, offset =>
    some ⟨tag.toNat, length.length, if length.length = 0 then none else some (offset + 1 + length.bytes.length)⟩

def chainBytes (elements : List TlvElement) : List UInt8 := elements.flatMap TlvElement.bytes

def storedBlocks : List TlvElement → Nat → List NfcT2tTlvBlock
  | [], _ => []
  | element :: rest, offset => (element.stored offset).toList ++ storedBlocks rest (offset + element.bytes.length)

/-- Valid elements whose bytes are those of `data` from `offset` on, ending inside the data area. -/
structure LaidOut (data : List UInt8) (dataEnd offset : Nat) (elements : List TlvElement) : Prop where
  valid : ∀ element ∈ elements, element.Valid
  bytes : chainBytes elements <+: data.drop offset
  inside : offset + (chainBytes elements).length ≤ dataEnd

/-- Where a chain stops: at the end of the data area, or at a TERMINATOR inside it. -/
def ChainEnd (data : List UInt8) (dataEnd offset : Nat) : Prop :=
  offset = dataEnd ∨ offset < dataEnd ∧ data[offset]? = some 0xFE

def TlvChain (data : List UInt8) (dataEnd : Nat) (elements : List TlvElement) : Prop :=
  LaidOut data dataEnd nfcT2tFirstDataBlockOffset elements ∧
    ChainEnd data dataEnd (nfcT2tFirstDataBlockOffset + (chainBytes elements).length)

/-- How a block at `offset` breaks the chain: a field crossing the end of the data area, a long length
below 0xFF, or a lock or memory control block whose length is not three. -/
inductive TlvFault (data : List UInt8) (dataEnd offset : Nat) : Prop
  | lengthCrosses (tag : UInt8) (read : data[offset]? = some tag) (block : BlockTag tag)
      (inside : offset < dataEnd) (crosses : dataEnd ≤ offset + 1)
  | longLengthCrosses (tag : UInt8) (read : data[offset]? = some tag) (block : BlockTag tag)
      (flag : data[offset + 1]? = some 0xFF) (inside : offset + 1 < dataEnd) (crosses : dataEnd ≤ offset + 3)
  | longLengthBelowFF (tag : UInt8) (read : data[offset]? = some tag) (block : BlockTag tag) (length : Nat)
      (field : (TlvLength.long length).bytes <+: data.drop (offset + 1)) (inside : offset + 3 < dataEnd)
      (below : length < 0xFF)
  | valueCrosses (tag : UInt8) (read : data[offset]? = some tag) (block : BlockTag tag) (length : TlvLength)
      (field : length.bytes <+: data.drop (offset + 1)) (valid : length.Valid)
      (inside : offset + length.bytes.length < dataEnd) (nonempty : 0 < length.length)
      (crosses : dataEnd < offset + 1 + length.bytes.length + length.length)
  | controlLength (tag : UInt8) (read : data[offset]? = some tag) (block : BlockTag tag)
      (control : tag = 0x01 ∨ tag = 0x02) (length : TlvLength) (field : length.bytes <+: data.drop (offset + 1))
      (valid : length.Valid) (inside : offset + length.bytes.length < dataEnd)
      (fits : offset + 1 + length.bytes.length + length.length ≤ dataEnd) (wrong : length.length ≠ 3)

theorem TlvElement.bytes_length_block {tag : UInt8} {length : TlvLength} {value : List UInt8}
    (valueLength : value.length = length.length) :
    (TlvElement.block tag length value).bytes.length = 1 + length.bytes.length + length.length := by
  simp only [TlvElement.bytes, List.length_cons, List.length_append, valueLength]
  omega

theorem TlvFault.inside {data : List UInt8} {dataEnd offset : Nat} (fault : TlvFault data dataEnd offset) :
    offset < dataEnd := by
  cases fault <;> omega

/-! Reading the bytes of a laid-out element -/

theorem getElem?_of_isPrefix {bytes data : List UInt8} {offset index : Nat} {byte : UInt8}
    (laid : bytes <+: data.drop offset) (read : bytes[index]? = some byte) : data[offset + index]? = some byte := by
  obtain ⟨rest, split⟩ := laid
  have inside : index < bytes.length := (List.getElem?_eq_some_iff.mp read).1
  rw [← List.getElem?_drop, ← split, List.getElem?_append_left inside, read]

theorem rawByte_of_getElem? {data : List UInt8} {index : Nat} {byte : UInt8} (read : data[index]? = some byte) :
    rawByte data index = byte.toNat := by
  simp [rawByte, List.getD_eq_getElem?_getD, read]

theorem TlvLength.bytes_length_pos (length : TlvLength) : 0 < length.bytes.length := by
  cases length <;> simp [TlvLength.bytes]

theorem TlvElement.bytes_length_pos (element : TlvElement) : 0 < element.bytes.length := by
  cases element <;> simp [TlvElement.bytes]

theorem toNat_ne_of_ne {tag other : UInt8} (differ : tag ≠ other) : tag.toNat ≠ other.toNat :=
  fun same => differ (UInt8.toNat_inj.mp same)

theorem toNat_toUInt8_of_lt {value : Nat} (small : value < 256) : value.toUInt8.toNat = value :=
  UInt8.toNat_ofNat_of_lt' small

theorem u16_add_of_lt {first second : Nat} (small : first + second < 2 ^ 16) :
    u16 ((first : Int) + second) = first + second := by
  rw [u16, ← Nat.cast_add, wrap_natCast_of_lt small]

theorem prefix_drop_succ {byte : UInt8} {rest data : List UInt8} {offset : Nat}
    (laid : byte :: rest <+: data.drop offset) : rest <+: data.drop (offset + 1) := by
  obtain ⟨tail, split⟩ := laid
  refine ⟨tail, ?_⟩
  rw [← List.drop_drop, ← split]
  rfl

theorem sysGetBe16_of_long_field {data : List UInt8} {lOffset length : Nat}
    (field : (TlvLength.long length).bytes <+: data.drop lOffset) (small : length < 2 ^ 16) :
    sysGetBe16 (data.drop (lOffset + 1)) = length := by
  obtain ⟨rest, split⟩ := field
  rw [← List.drop_drop, ← split]
  simp only [TlvLength.bytes, List.cons_append, List.drop_succ_cons, List.drop_zero, sysGetBe16_cons]
  rw [toNat_toUInt8_of_lt (by omega), toNat_toUInt8_of_lt (by omega)]
  omega

theorem tlvBlockIsDataLengthCorrect_of_blockTag {tag : UInt8} {length : Nat} {value : Option Nat}
    (block : BlockTag tag) :
    tlvBlockIsDataLengthCorrect ⟨tag.toNat, length, value⟩ = true ↔ (tag = 0x01 ∨ tag = 0x02 → length = 3) := by
  have notNull := toNat_ne_of_ne block.1
  have notTerminator := toNat_ne_of_ne block.2
  have lock : tag.toNat = nfcT2tTlvLockControl ↔ tag = 0x01 :=
    show tag.toNat = (0x01 : UInt8).toNat ↔ tag = 0x01 from UInt8.toNat_inj
  have memory : tag.toNat = nfcT2tTlvMemoryControl ↔ tag = 0x02 :=
    show tag.toNat = (0x02 : UInt8).toNat ↔ tag = 0x02 from UInt8.toNat_inj
  unfold tlvBlockIsDataLengthCorrect
  rw [if_neg (by rintro (same | same) <;> contradiction)]
  dsimp only
  rw [← lock, ← memory]
  split
  · next control =>
    simp only [control, nfcT2tTlvLockMemoryCtrlLen, forall_const]
    exact decide_eq_true_iff
  · next other => simp [other]

/-! One TLV at a time: what each read of the parser gives on the chain's bytes -/

section Step

variable {t2t : NfcT2t} {data : List UInt8}

theorem nfcT2tTypeExtract_of_inside {offset : Nat} (buf : NfcT2tTlvBlock) (small : t2t.cc.dataEnd < 2 ^ 16)
    (start : nfcT2tFirstDataBlockOffset ≤ offset) (inside : offset < t2t.cc.dataEnd) :
    nfcT2tTypeExtract t2t data offset buf = .ok ({ buf with tag := rawByte data offset }, offset + 1) := by
  have within : nfcT2tIsFieldWithinDataRange t2t offset nfcT2tTlvTLength = true :=
    nfcT2tIsFieldWithinDataRange_eq_true.mpr ⟨by decide, start, inside⟩
  simp only [nfcT2tTypeExtract, within, Bool.not_true, Bool.false_eq_true, if_false]
  rw [u16_add_of_lt (by unfold nfcT2tTlvTLength; omega)]
  rfl

theorem nfcT2tLengthExtract_of_field {lOffset : Nat} {length : TlvLength} (buf : NfcT2tTlvBlock)
    (small : t2t.cc.dataEnd < 2 ^ 16) (field : length.bytes <+: data.drop lOffset) (valid : length.Valid)
    (start : nfcT2tFirstDataBlockOffset ≤ lOffset) (inside : lOffset + length.bytes.length ≤ t2t.cc.dataEnd) :
    nfcT2tLengthExtract t2t data lOffset buf =
      .ok ({ buf with length := length.length }, lOffset + length.bytes.length) := by
  have shortWithin : nfcT2tIsFieldWithinDataRange t2t lOffset nfcT2tTlvLShortLength = true :=
    nfcT2tIsFieldWithinDataRange_eq_true.mpr
      ⟨by decide, start, by unfold nfcT2tTlvLShortLength; have := length.bytes_length_pos; omega⟩
  cases length with
  | short length =>
    have flagByte := rawByte_of_getElem?
      (getElem?_of_isPrefix field (show (TlvLength.short length).bytes[0]? = some length.toUInt8 from rfl))
    rw [Nat.add_zero] at flagByte
    have stored : (length.toUInt8).toNat = length :=
      toNat_toUInt8_of_lt (by simp only [TlvLength.Valid] at valid; omega)
    simp only [TlvLength.bytes, List.length_singleton] at flagByte inside ⊢
    rw [stored] at flagByte
    simp only [nfcT2tLengthExtract, shortWithin, Bool.not_true, Bool.false_eq_true, if_false, flagByte,
      show length ≠ nfcT2tTlvLFormatFlag by simp only [TlvLength.Valid] at valid; unfold nfcT2tTlvLFormatFlag; omega]
    rw [u16_add_of_lt (by unfold nfcT2tTlvLShortLength; omega)]
    rfl
  | long length =>
    have flagByte := rawByte_of_getElem?
      (getElem?_of_isPrefix field (show (TlvLength.long length).bytes[0]? = some 0xFF from rfl))
    rw [Nat.add_zero] at flagByte
    obtain ⟨atLeast, below⟩ := valid
    simp only [TlvLength.bytes, List.length_cons, List.length_nil] at flagByte inside ⊢
    have longWithin : nfcT2tIsFieldWithinDataRange t2t lOffset nfcT2tTlvLLongLength = true :=
      nfcT2tIsFieldWithinDataRange_eq_true.mpr ⟨by decide, start, by unfold nfcT2tTlvLLongLength; omega⟩
    have value := sysGetBe16_of_long_field field below
    simp only [nfcT2tLengthExtract, shortWithin, longWithin, Bool.not_true, Bool.false_eq_true, if_false,
      flagByte, value, show (0xFF : UInt8).toNat = nfcT2tTlvLFormatFlag from rfl, if_true,
      show ¬ length < 0xFF by omega]
    rw [u16_add_of_lt (by unfold nfcT2tTlvLLongLength; omega)]
    rfl

theorem nfcT2tValuePtrExtract_of_fits {vOffset : Nat} {buf : NfcT2tTlvBlock} (small : t2t.cc.dataEnd < 2 ^ 16)
    (nonempty : 0 < buf.length) (start : nfcT2tFirstDataBlockOffset ≤ vOffset)
    (fits : vOffset + buf.length ≤ t2t.cc.dataEnd) :
    nfcT2tValuePtrExtract t2t vOffset buf = .ok ({ buf with value := some vOffset }, vOffset + buf.length) := by
  have within : nfcT2tIsFieldWithinDataRange t2t vOffset buf.length = true :=
    nfcT2tIsFieldWithinDataRange_eq_true.mpr ⟨nonempty, start, fits⟩
  simp only [nfcT2tValuePtrExtract, Nat.pos_iff_ne_zero.mp nonempty, within, Bool.not_true, Bool.false_eq_true,
    if_false]
  rw [u16_add_of_lt (by omega)]

theorem nfcT2tValuePtrExtract_of_crosses {vOffset : Nat} {buf : NfcT2tTlvBlock} (nonempty : 0 < buf.length)
    (crosses : t2t.cc.dataEnd < vOffset + buf.length) : nfcT2tValuePtrExtract t2t vOffset buf = .error .EINVAL := by
  have outside : nfcT2tIsFieldWithinDataRange t2t vOffset buf.length = false := by
    rw [← Bool.not_eq_true, nfcT2tIsFieldWithinDataRange_eq_true]
    omega
  simp [nfcT2tValuePtrExtract, Nat.pos_iff_ne_zero.mp nonempty, outside]

theorem nfcT2tLengthExtract_of_crosses {lOffset : Nat} (buf : NfcT2tTlvBlock)
    (crosses : t2t.cc.dataEnd ≤ lOffset) : nfcT2tLengthExtract t2t data lOffset buf = .error .EINVAL := by
  have outside : nfcT2tIsFieldWithinDataRange t2t lOffset nfcT2tTlvLShortLength = false := by
    rw [← Bool.not_eq_true, nfcT2tIsFieldWithinDataRange_eq_true]
    omega
  simp [nfcT2tLengthExtract, outside]

theorem nfcT2tLengthExtract_of_flag {lOffset : Nat} (buf : NfcT2tTlvBlock) (flag : data[lOffset]? = some 0xFF)
    (start : nfcT2tFirstDataBlockOffset ≤ lOffset) (inside : lOffset < t2t.cc.dataEnd) :
    nfcT2tLengthExtract t2t data lOffset buf =
      if lOffset + 3 ≤ t2t.cc.dataEnd then
        if sysGetBe16 (data.drop (lOffset + 1)) < 0xFF then .error .EINVAL
        else .ok ({ buf with length := sysGetBe16 (data.drop (lOffset + 1)) }, u16 (lOffset + nfcT2tTlvLLongLength))
      else .error .EINVAL := by
  have shortWithin : nfcT2tIsFieldWithinDataRange t2t lOffset nfcT2tTlvLShortLength = true :=
    nfcT2tIsFieldWithinDataRange_eq_true.mpr ⟨by decide, start, by unfold nfcT2tTlvLShortLength; omega⟩
  have longWithin : nfcT2tIsFieldWithinDataRange t2t lOffset nfcT2tTlvLLongLength = decide (lOffset + 3 ≤ t2t.cc.dataEnd) := by
    rw [Bool.eq_iff_iff, nfcT2tIsFieldWithinDataRange_eq_true, decide_eq_true_iff]
    unfold nfcT2tTlvLLongLength
    omega
  simp only [nfcT2tLengthExtract, shortWithin, longWithin, rawByte_of_getElem? flag, Bool.not_true,
    Bool.false_eq_true, if_false, show (0xFF : UInt8).toNat = nfcT2tTlvLFormatFlag from rfl, if_true]
  by_cases room : lOffset + 3 ≤ t2t.cc.dataEnd <;> simp [room]

theorem nfcT2tTlvBlockExtract_of_blockTag {offset : Nat} {tag : UInt8} (small : t2t.cc.dataEnd < 2 ^ 16)
    (read : data[offset]? = some tag) (block : BlockTag tag) (start : nfcT2tFirstDataBlockOffset ≤ offset)
    (inside : offset < t2t.cc.dataEnd) :
    nfcT2tTlvBlockExtract t2t data offset =
      match nfcT2tLengthExtract t2t data (offset + 1) ⟨tag.toNat, 0, none⟩ with
      | .error err => .error err
      | .ok (tlvBuf, next) =>
        if tlvBuf.length > 0 then nfcT2tValuePtrExtract t2t next tlvBuf else .ok (tlvBuf, next) := by
  have notNull : tag.toNat ≠ nfcT2tTlvNull := toNat_ne_of_ne block.1
  have notTerminator : tag.toNat ≠ nfcT2tTlvTerminator := toNat_ne_of_ne block.2
  rw [nfcT2tTlvBlockExtract, nfcT2tTypeExtract_of_inside _ small start inside]
  simp only [rawByte_of_getElem? read, notNull, notTerminator, if_false]
  rfl

theorem nfcT2tTlvBlockExtract_of_fits {offset : Nat} {tag : UInt8} {length : TlvLength}
    (small : t2t.cc.dataEnd < 2 ^ 16) (read : data[offset]? = some tag) (block : BlockTag tag)
    (field : length.bytes <+: data.drop (offset + 1)) (valid : length.Valid)
    (start : nfcT2tFirstDataBlockOffset ≤ offset) (inside : offset + length.bytes.length < t2t.cc.dataEnd)
    (fits : offset + 1 + length.bytes.length + length.length ≤ t2t.cc.dataEnd) :
    nfcT2tTlvBlockExtract t2t data offset =
      .ok (⟨tag.toNat, length.length, if length.length = 0 then none else some (offset + 1 + length.bytes.length)⟩,
        offset + 1 + length.bytes.length + length.length) := by
  rw [nfcT2tTlvBlockExtract_of_blockTag small read block start (by omega),
    nfcT2tLengthExtract_of_field _ small field valid (by unfold nfcT2tFirstDataBlockOffset at *; omega) (by omega)]
  dsimp only
  split
  · next nonempty =>
    rw [nfcT2tValuePtrExtract_of_fits small nonempty (by unfold nfcT2tFirstDataBlockOffset at *; omega) fits]
    simp [Nat.pos_iff_ne_zero.mp nonempty]
  · next empty => simp [show length.length = 0 by omega]

theorem nfcT2tTlvParse_terminator {offset : Nat} (small : t2t.cc.dataEnd < 2 ^ 16) (read : data[offset]? = some 0xFE)
    (start : nfcT2tFirstDataBlockOffset ≤ offset) (inside : offset < t2t.cc.dataEnd) :
    nfcT2tTlvParse t2t data offset = .ok (t2t, 0) := by
  rw [nfcT2tTlvParse, nfcT2tTlvBlockExtract, nfcT2tTypeExtract_of_inside _ small start inside,
    rawByte_of_getElem? read]
  rfl

theorem nfcT2tTlvParse_null {offset : Nat} (small : t2t.cc.dataEnd < 2 ^ 16) (read : data[offset]? = some 0x00)
    (start : nfcT2tFirstDataBlockOffset ≤ offset) (inside : offset < t2t.cc.dataEnd) :
    nfcT2tTlvParse t2t data offset = .ok (t2t, offset + 1) := by
  rw [nfcT2tTlvParse, nfcT2tTlvBlockExtract, nfcT2tTypeExtract_of_inside _ small start inside,
    rawByte_of_getElem? read]
  rfl

theorem nfcT2tTlvParse_block {offset : Nat} {tag : UInt8} {length : TlvLength} {value : List UInt8}
    (small : t2t.cc.dataEnd < 2 ^ 16) (valid : (TlvElement.block tag length value).Valid)
    (laid : (TlvElement.block tag length value).bytes <+: data.drop offset)
    (start : nfcT2tFirstDataBlockOffset ≤ offset)
    (inside : offset + (TlvElement.block tag length value).bytes.length ≤ t2t.cc.dataEnd) :
    nfcT2tTlvParse t2t data offset =
      match nfcT2tTlvBlockInsert t2t ⟨tag.toNat, length.length,
          if length.length = 0 then none else some (offset + 1 + length.bytes.length)⟩ with
      | .error err => .error err
      | .ok inserted => .ok (inserted, offset + (TlvElement.block tag length value).bytes.length) := by
  obtain ⟨block, lengthValid, valueLength, control⟩ := valid
  have read : data[offset]? = some tag := by
    simpa using getElem?_of_isPrefix laid (show (TlvElement.block tag length value).bytes[0]? = some tag from rfl)
  have field : length.bytes <+: data.drop (offset + 1) :=
    (List.prefix_append length.bytes value).trans (prefix_drop_succ laid)
  have total := @TlvElement.bytes_length_block tag length value valueLength
  have correct := (@tlvBlockIsDataLengthCorrect_of_blockTag tag length.length
    (if length.length = 0 then none else some (offset + 1 + length.bytes.length)) block).mpr control
  have notNull : tag.toNat ≠ nfcT2tTlvNull := toNat_ne_of_ne block.1
  have notTerminator : tag.toNat ≠ nfcT2tTlvTerminator := toNat_ne_of_ne block.2
  rw [nfcT2tTlvParse, nfcT2tTlvBlockExtract_of_fits small read block field lengthValid start (by omega) (by omega)]
  simp only [correct, Bool.not_true, Bool.false_eq_true, if_false, notNull, notTerminator, or_self, total]
  -- rewrite, not rw: whether the two matches are one matcher differs between builds, so rfl closes explicitly
  rewrite [show offset + (1 + length.bytes.length + length.length) = offset + 1 + length.bytes.length + length.length by
    omega]
  rfl

theorem nfcT2tTlvParse_element {offset : Nat} {element : TlvElement} (small : t2t.cc.dataEnd < 2 ^ 16)
    (valid : element.Valid) (laid : element.bytes <+: data.drop offset) (start : nfcT2tFirstDataBlockOffset ≤ offset)
    (inside : offset + element.bytes.length ≤ t2t.cc.dataEnd) :
    nfcT2tTlvParse t2t data offset =
      match element.stored offset with
      | none => .ok (t2t, offset + element.bytes.length)
      | some block =>
        match nfcT2tTlvBlockInsert t2t block with
        | .error err => .error err
        | .ok inserted => .ok (inserted, offset + element.bytes.length) := by
  cases element with
  | null =>
    have read : data[offset]? = some 0x00 := by
      simpa using getElem?_of_isPrefix laid (show TlvElement.null.bytes[0]? = some 0x00 from rfl)
    exact nfcT2tTlvParse_null small read start (by simp only [TlvElement.bytes, List.length_singleton] at inside; omega)
  | block tag length value =>
    rewrite [nfcT2tTlvParse_block small valid laid start inside]
    rfl

theorem nfcT2tTlvParse_element_ok {offset : Nat} {element : TlvElement} {next : NfcT2t} {nextOffset : Nat}
    (small : t2t.cc.dataEnd < 2 ^ 16) (valid : element.Valid) (laid : element.bytes <+: data.drop offset)
    (start : nfcT2tFirstDataBlockOffset ≤ offset) (inside : offset + element.bytes.length ≤ t2t.cc.dataEnd)
    (parsed : nfcT2tTlvParse t2t data offset = .ok (next, nextOffset)) :
    next.tlvBlockArray = t2t.tlvBlockArray ++ (element.stored offset).toList ∧ next.cc = t2t.cc ∧
      next.maxTlvBlocks = t2t.maxTlvBlocks ∧ nextOffset = offset + element.bytes.length := by
  rw [nfcT2tTlvParse_element small valid laid start inside] at parsed
  cases stored : element.stored offset with
  | none =>
    rw [stored] at parsed
    cases parsed
    simp
  | some block =>
    rw [stored] at parsed
    dsimp only at parsed
    split at parsed
    · cases parsed
    · next inserted insert =>
      cases parsed
      obtain ⟨blocks, sameCc, sameMax⟩ := nfcT2tTlvBlockInsert_ok insert
      exact ⟨by simp [blocks], sameCc, sameMax, rfl⟩

theorem nfcT2tTlvParse_element_error {offset : Nat} {element : TlvElement} {err : Errno}
    (small : t2t.cc.dataEnd < 2 ^ 16) (valid : element.Valid) (laid : element.bytes <+: data.drop offset)
    (start : nfcT2tFirstDataBlockOffset ≤ offset) (inside : offset + element.bytes.length ≤ t2t.cc.dataEnd)
    (parsed : nfcT2tTlvParse t2t data offset = .error err) :
    (element.stored offset).isSome ∧ t2t.tlvCount = t2t.maxTlvBlocks := by
  rw [nfcT2tTlvParse_element small valid laid start inside] at parsed
  cases stored : element.stored offset with
  | none =>
    rw [stored] at parsed
    cases parsed
  | some block =>
    rw [stored] at parsed
    dsimp only at parsed
    refine ⟨rfl, ?_⟩
    by_contra notFull
    obtain ⟨inserted, insert, -⟩ := nfcT2tTlvBlockInsert_room block (lt_of_le_of_ne t2t.tlvCountLe notFull)
    rw [insert] at parsed
    cases parsed

theorem nfcT2tTlvParse_fault {offset : Nat} (small : t2t.cc.dataEnd < 2 ^ 16)
    (start : nfcT2tFirstDataBlockOffset ≤ offset) (fault : TlvFault data t2t.cc.dataEnd offset) :
    nfcT2tTlvParse t2t data offset = .error .EINVAL := by
  have rejected : nfcT2tTlvBlockExtract t2t data offset = .error .EINVAL →
      nfcT2tTlvParse t2t data offset = .error .EINVAL := by
    intro extracted
    rw [nfcT2tTlvParse, extracted]
  have lengthStart : nfcT2tFirstDataBlockOffset ≤ offset + 1 := by omega
  cases fault with
  | lengthCrosses tag read block inside crosses =>
    apply rejected
    rw [nfcT2tTlvBlockExtract_of_blockTag small read block start inside, nfcT2tLengthExtract_of_crosses _ crosses]
  | longLengthCrosses tag read block flag inside crosses =>
    apply rejected
    rw [nfcT2tTlvBlockExtract_of_blockTag small read block start (by omega),
      nfcT2tLengthExtract_of_flag _ flag lengthStart inside, if_neg (by omega)]
  | longLengthBelowFF tag read block length field inside below =>
    have flag : data[offset + 1]? = some 0xFF := by
      simpa using getElem?_of_isPrefix field (show (TlvLength.long length).bytes[0]? = some 0xFF from rfl)
    apply rejected
    rw [nfcT2tTlvBlockExtract_of_blockTag small read block start (by omega),
      nfcT2tLengthExtract_of_flag _ flag lengthStart (by omega), if_pos (by omega),
      sysGetBe16_of_long_field field (by omega), if_pos below]
  | valueCrosses tag read block length field valid inside nonempty crosses =>
    apply rejected
    rw [nfcT2tTlvBlockExtract_of_blockTag small read block start (by omega),
      nfcT2tLengthExtract_of_field _ small field valid lengthStart (by omega)]
    dsimp only
    rw [if_pos nonempty, nfcT2tValuePtrExtract_of_crosses nonempty (by omega)]
  | controlLength tag read block control length field valid inside fits wrong =>
    -- the block is read whole, and only its length check fails
    have incorrect : tlvBlockIsDataLengthCorrect ⟨tag.toNat, length.length,
        if length.length = 0 then none else some (offset + 1 + length.bytes.length)⟩ = false := by
      rw [← Bool.not_eq_true, tlvBlockIsDataLengthCorrect_of_blockTag block]
      exact fun forced => wrong (forced control)
    rw [nfcT2tTlvParse, nfcT2tTlvBlockExtract_of_fits small read block field valid start inside fits]
    simp only [incorrect, Bool.not_false, if_true]

end Step

/-! What the data area holds at an offset: the chain's next element, its end, or a break -/

theorem prefix_append_take {bytes data : List UInt8} {offset : Nat} (laid : bytes <+: data.drop offset)
    (count : Nat) : bytes ++ (data.drop (offset + bytes.length)).take count <+: data.drop offset := by
  obtain ⟨rest, split⟩ := laid
  have after : data.drop (offset + bytes.length) = rest := by
    rw [← List.drop_drop, ← split, List.drop_left]
  rw [after, ← split]
  exact List.prefix_self_append_iff.mpr <| List.take_prefix count rest

theorem drop_eq_cons_of_getElem? {data : List UInt8} {offset : Nat} {byte : UInt8} (read : data[offset]? = some byte) :
    data.drop offset = byte :: data.drop (offset + 1) := by
  obtain ⟨inside, rfl⟩ := List.getElem?_eq_some_iff.mp read
  exact List.drop_eq_getElem_cons inside

theorem prefix_append_of_drop {bytes rest data : List UInt8} {offset : Nat} (first : bytes <+: data.drop offset)
    (second : rest <+: data.drop (offset + bytes.length)) : bytes ++ rest <+: data.drop offset := by
  obtain ⟨tail, split⟩ := first
  obtain ⟨after, restSplit⟩ := second
  have tailIs : data.drop (offset + bytes.length) = tail := by
    rw [← List.drop_drop, ← split, List.drop_left]
  rw [tailIs] at restSplit
  exact ⟨after, by rw [List.append_assoc, restSplit, split]⟩

theorem LaidOut.nil {data : List UInt8} {dataEnd offset : Nat} (inside : offset ≤ dataEnd) :
    LaidOut data dataEnd offset [] :=
  ⟨by simp, by simp [chainBytes], by simp [chainBytes]; omega⟩

theorem LaidOut.cons {data : List UInt8} {dataEnd offset : Nat} {element : TlvElement} {rest : List TlvElement} :
    LaidOut data dataEnd offset (element :: rest) ↔
      element.Valid ∧ element.bytes <+: data.drop offset ∧
        LaidOut data dataEnd (offset + element.bytes.length) rest := by
  have bytesCons : chainBytes (element :: rest) = element.bytes ++ chainBytes rest := List.flatMap_cons
  constructor
  · rintro ⟨valid, bytes, inside⟩
    rw [bytesCons] at bytes inside
    obtain ⟨tail, split⟩ := bytes
    refine ⟨valid element List.mem_cons_self, ⟨_, by rw [← split, List.append_assoc]⟩,
      ⟨fun other member => valid other (List.mem_cons_of_mem _ member), ⟨tail, ?_⟩, ?_⟩⟩
    · rw [← List.drop_drop, ← split, List.append_assoc, List.drop_left]
    · rw [List.length_append] at inside
      omega
  · rintro ⟨valid, bytes, validRest, bytesRest, insideRest⟩
    refine ⟨?_, bytesCons ▸ prefix_append_of_drop bytes bytesRest, ?_⟩
    · rintro other (_ | ⟨_, member⟩)
      · exact valid
      · exact validRest other member
    · rw [bytesCons, List.length_append]
      omega

section Cases

variable {data : List UInt8} {dataEnd offset : Nat}

theorem tlv_cases_value {tag : UInt8} {length : TlvLength} (read : data[offset]? = some tag)
    (block : BlockTag tag) (field : length.bytes <+: data.drop (offset + 1)) (valid : length.Valid)
    (inside : offset + length.bytes.length < dataEnd) (bounded : dataEnd ≤ data.length) :
    (∃ element : TlvElement, element.Valid ∧ element.bytes <+: data.drop offset ∧
      offset + element.bytes.length ≤ dataEnd) ∨ TlvFault data dataEnd offset := by
  by_cases crosses : 0 < length.length ∧ dataEnd < offset + 1 + length.bytes.length + length.length
  · exact .inr (.valueCrosses tag read block length field valid inside crosses.1 crosses.2)
  have fits : offset + 1 + length.bytes.length + length.length ≤ dataEnd := by omega
  by_cases wrong : (tag = 0x01 ∨ tag = 0x02) ∧ length.length ≠ 3
  · exact .inr (.controlLength tag read block wrong.1 length field valid inside fits wrong.2)
  -- the value is the next length.length bytes after the field
  let value := (data.drop (offset + 1 + length.bytes.length)).take length.length
  have valueLength : value.length = length.length := by
    simp only [value, List.length_take, List.length_drop]
    omega
  refine .inl ⟨.block tag length value, ⟨block, valid, valueLength, fun control => by
    by_contra other
    exact wrong ⟨control, other⟩⟩, ?_, ?_⟩
  · rw [drop_eq_cons_of_getElem? read]
    exact List.prefix_cons_inj tag |>.mpr (prefix_append_take field length.length)
  · simp only [TlvElement.bytes, List.length_cons, List.length_append, valueLength]
    omega

theorem tlv_cases_length {tag : UInt8} (read : data[offset]? = some tag) (block : BlockTag tag)
    (inside : offset < dataEnd) (bounded : dataEnd ≤ data.length) :
    (∃ length : TlvLength, length.Valid ∧ length.bytes <+: data.drop (offset + 1) ∧
      offset + length.bytes.length < dataEnd) ∨ TlvFault data dataEnd offset := by
  by_cases lengthRoom : offset + 1 < dataEnd
  swap
  · exact .inr (.lengthCrosses tag read block inside (by omega))
  obtain ⟨flagByte, flagRead⟩ : ∃ byte, data[offset + 1]? = some byte :=
    ⟨_, List.getElem?_eq_getElem (by omega)⟩
  have dropFlag := drop_eq_cons_of_getElem? flagRead
  by_cases flag : flagByte = 0xFF
  · subst flag
    by_cases longRoom : offset + 3 < dataEnd
    swap
    · exact .inr (.longLengthCrosses tag read block flagRead lengthRoom (by omega))
    obtain ⟨high, highRead⟩ : ∃ byte, data[offset + 1 + 1]? = some byte := ⟨_, List.getElem?_eq_getElem (by omega)⟩
    obtain ⟨low, lowRead⟩ : ∃ byte, data[offset + 1 + 1 + 1]? = some byte :=
      ⟨_, List.getElem?_eq_getElem (by omega)⟩
    have highBelow := high.toNat_lt
    have lowBelow := low.toNat_lt
    -- the two bytes after the flag, most significant first
    have field : (TlvLength.long (high.toNat * 256 + low.toNat)).bytes <+: data.drop (offset + 1) := by
      rw [dropFlag, drop_eq_cons_of_getElem? highRead, drop_eq_cons_of_getElem? lowRead]
      have highByte : ((high.toNat * 256 + low.toNat) / 256).toUInt8 = high := by
        rw [show (high.toNat * 256 + low.toNat) / 256 = high.toNat by omega]
        exact UInt8.ofNat_toNat
      have lowByte : ((high.toNat * 256 + low.toNat) % 256).toUInt8 = low := by
        rw [show (high.toNat * 256 + low.toNat) % 256 = low.toNat by omega]
        exact UInt8.ofNat_toNat
      rw [TlvLength.bytes, highByte, lowByte]
      exact ⟨_, rfl⟩
    by_cases below : high.toNat * 256 + low.toNat < 0xFF
    · exact .inr (.longLengthBelowFF tag read block _ field longRoom below)
    · refine .inl ⟨.long _, ⟨by omega, by omega⟩, field, ?_⟩
      simp only [TlvLength.bytes, List.length_cons, List.length_nil]
      omega
  · have notFlag : flagByte.toNat ≠ 0xFF := toNat_ne_of_ne flag
    have flagBelow := flagByte.toNat_lt
    refine .inl ⟨.short flagByte.toNat, by simp only [TlvLength.Valid]; omega, ?_, ?_⟩
    · have same : flagByte.toNat.toUInt8 = flagByte := UInt8.ofNat_toNat
      rw [dropFlag, TlvLength.bytes, same]
      exact ⟨_, rfl⟩
    · simp only [TlvLength.bytes, List.length_singleton]
      omega

theorem tlv_cases (inside : offset < dataEnd) (bounded : dataEnd ≤ data.length) :
    data[offset]? = some 0xFE ∨
      (∃ element : TlvElement, element.Valid ∧ element.bytes <+: data.drop offset ∧
        offset + element.bytes.length ≤ dataEnd) ∨ TlvFault data dataEnd offset := by
  obtain ⟨tag, read⟩ : ∃ tag, data[offset]? = some tag := ⟨_, List.getElem?_eq_getElem (by omega)⟩
  by_cases terminator : tag = 0xFE
  · exact .inl (terminator ▸ read)
  by_cases null : tag = 0x00
  · refine .inr (.inl ⟨.null, trivial, ?_, by simp only [TlvElement.bytes, List.length_singleton]; omega⟩)
    rw [drop_eq_cons_of_getElem? read, null]
    exact ⟨_, rfl⟩
  rcases tlv_cases_length read ⟨null, terminator⟩ inside bounded with ⟨length, valid, field, lengthInside⟩ | fault
  · exact .inr (tlv_cases_value read ⟨null, terminator⟩ field valid lengthInside bounded)
  · exact .inr (.inr fault)

end Cases

/-! Whole runs of the loop -/

section Run

variable {data : List UInt8}

theorem storedBlocks_cons (element : TlvElement) (rest : List TlvElement) (offset : Nat) :
    storedBlocks (element :: rest) offset =
      (element.stored offset).toList ++ storedBlocks rest (offset + element.bytes.length) := rfl

theorem chainBytes_cons_length (element : TlvElement) (rest : List TlvElement) :
    (chainBytes (element :: rest)).length = element.bytes.length + (chainBytes rest).length := by
  simp [chainBytes]

theorem nfcT2tParseLoop_laidOut (elements : List TlvElement) :
    ∀ (t2t : NfcT2t) (offset : Nat), t2t.cc.dataEnd < 2 ^ 16 → nfcT2tFirstDataBlockOffset ≤ offset →
      LaidOut data t2t.cc.dataEnd offset elements →
      (t2t.tlvCount + (storedBlocks elements offset).length ≤ t2t.maxTlvBlocks →
        ∃ after : NfcT2t, after.tlvBlockArray = t2t.tlvBlockArray ++ storedBlocks elements offset ∧
          after.cc = t2t.cc ∧
          nfcT2tParseLoop t2t data offset = nfcT2tParseLoop after data (offset + (chainBytes elements).length)) ∧
      (t2t.maxTlvBlocks < t2t.tlvCount + (storedBlocks elements offset).length →
        nfcT2tParseLoop t2t data offset = .error .ENOMEM) := by
  induction elements with
  | nil =>
    intro t2t offset _ _ _
    refine ⟨fun _ => ⟨t2t, by simp [storedBlocks], rfl, by simp [chainBytes]⟩, fun overflow => ?_⟩
    have := t2t.tlvCountLe
    simp only [storedBlocks, List.length_nil, Nat.add_zero, NfcT2t.tlvCount] at overflow
    omega
  | cons element rest ih =>
    intro t2t offset small start laid
    obtain ⟨valid, bytes, laidRest⟩ := LaidOut.cons.mp laid
    have positive := element.bytes_length_pos
    have inside : offset + element.bytes.length ≤ t2t.cc.dataEnd := by
      have := laidRest.inside
      omega
    have step := @nfcT2tParseLoop_step t2t data offset (by unfold nfcT2tFirstDataBlockOffset at start; omega)
      (by omega)
    rw [nfcT2tTlvParse_element small valid bytes start inside] at step
    rw [storedBlocks_cons, chainBytes_cons_length, ← Nat.add_assoc]
    cases stored : element.stored offset with
    | none =>
      -- NULL padding: the loop goes on from the next element with nothing stored
      rw [stored] at step
      simp only [Option.toList_none, List.nil_append]
      rw [step]
      exact ih t2t (offset + element.bytes.length) small (by omega) laidRest
    | some block =>
      rw [stored] at step
      dsimp only at step
      simp only [Option.toList_some, List.length_append, List.length_singleton]
      rcases Nat.lt_or_ge t2t.tlvCount t2t.maxTlvBlocks with room | full
      · obtain ⟨inserted, insert, blocks, sameCc, sameMax⟩ := nfcT2tTlvBlockInsert_room block room
        rw [insert] at step
        dsimp only at step
        have count : inserted.tlvCount = t2t.tlvCount + 1 := by simp [NfcT2t.tlvCount, blocks]
        obtain ⟨kept, overflows⟩ := ih inserted (offset + element.bytes.length) (by rw [sameCc]; exact small)
          (by omega)
          (by rw [sameCc]; exact laidRest)
        refine ⟨fun fits => ?_, fun overflow => ?_⟩
        · obtain ⟨after, afterBlocks, afterCc, run⟩ := kept (by rw [count, sameMax]; omega)
          exact ⟨after, by rw [afterBlocks, blocks, List.append_assoc], afterCc.trans sameCc, step.trans run⟩
        · exact step.trans (overflows (by rw [count, sameMax]; omega))
      · -- the list is full: this block is the one that fails
        rw [nfcT2tTlvBlockInsert_full (le_antisymm t2t.tlvCountLe full)] at step
        exact ⟨fun fits => by omega, fun _ => step⟩

theorem nfcT2tParseLoop_ok (t2t : NfcT2t) (offset : Nat) (result : NfcT2t) :
    nfcT2tParseLoop t2t data offset = .ok result → t2t.cc.dataEnd < 2 ^ 16 → t2t.cc.dataEnd ≤ data.length →
      nfcT2tFirstDataBlockOffset ≤ offset → offset ≤ t2t.cc.dataEnd →
      ∃ elements, LaidOut data t2t.cc.dataEnd offset elements ∧
        ChainEnd data t2t.cc.dataEnd (offset + (chainBytes elements).length) ∧
        result.tlvBlockArray = t2t.tlvBlockArray ++ storedBlocks elements offset := by
  fun_induction nfcT2tParseLoop t2t data offset with
  | case1 t2t =>
    intro _ _ _ start
    unfold nfcT2tFirstDataBlockOffset at start
    omega
  | case2 t2t offset nonzero atEnd =>
    intro done _ _ _ _
    have atEnd : offset = t2t.cc.dataEnd := by simpa [nfcT2tIsEndReached] using atEnd
    cases done
    exact ⟨[], LaidOut.nil (by omega), .inl (by simp [chainBytes, atEnd]), by simp [storedBlocks]⟩
  | case3 => intro done; cases done
  | case4 t2t offset nonzero notEnd next nextOffset parsed ih =>
    intro done small bounded start within
    have before : offset < t2t.cc.dataEnd := by
      simp only [nfcT2tIsEndReached, decide_eq_true_eq] at notEnd
      omega
    rcases tlv_cases before bounded with terminator | ⟨element, valid, bytes, inside⟩ | fault
    · -- a TERMINATOR ends the chain where it stands
      rw [nfcT2tTlvParse_terminator small terminator start before] at parsed
      cases parsed
      rw [nfcT2tParseLoop_zero] at done
      cases done
      exact ⟨[], LaidOut.nil within, .inr ⟨by simp [chainBytes]; omega, by simpa [chainBytes] using terminator⟩,
        by simp [storedBlocks]⟩
    · obtain ⟨blocks, sameCc, -, rfl⟩ := nfcT2tTlvParse_element_ok small valid bytes start inside parsed
      obtain ⟨elements, laid, ends, stored⟩ := ih done (by rw [sameCc]; exact small) (by rw [sameCc]; exact bounded)
        (by have := element.bytes_length_pos; omega) (by rw [sameCc]; exact inside)
      rw [sameCc] at laid ends
      refine ⟨element :: elements, LaidOut.cons.mpr ⟨valid, bytes, laid⟩, ?_, ?_⟩
      · rwa [chainBytes_cons_length, ← Nat.add_assoc]
      · rw [stored, blocks, storedBlocks_cons, List.append_assoc]
    · rw [nfcT2tTlvParse_fault small start fault] at parsed
      cases parsed

theorem nfcT2tParseLoop_error (t2t : NfcT2t) (offset : Nat) (err : Errno) :
    nfcT2tParseLoop t2t data offset = .error err → t2t.cc.dataEnd < 2 ^ 16 → t2t.cc.dataEnd ≤ data.length →
      nfcT2tFirstDataBlockOffset ≤ offset → offset ≤ t2t.cc.dataEnd →
      ∃ elements, LaidOut data t2t.cc.dataEnd offset elements ∧
        (TlvFault data t2t.cc.dataEnd (offset + (chainBytes elements).length) ∨
          t2t.maxTlvBlocks < t2t.tlvCount + (storedBlocks elements offset).length) := by
  fun_induction nfcT2tParseLoop t2t data offset with
  | case1 => intro done; cases done
  | case2 => intro done; cases done
  | case3 t2t offset nonzero notEnd err parsed =>
    intro _ small bounded start within
    have before : offset < t2t.cc.dataEnd := by
      simp only [nfcT2tIsEndReached, decide_eq_true_eq] at notEnd
      omega
    rcases tlv_cases before bounded with terminator | ⟨element, valid, bytes, inside⟩ | fault
    · rw [nfcT2tTlvParse_terminator small terminator start before] at parsed
      cases parsed
    · -- the element's block found the list full
      obtain ⟨stored, full⟩ := nfcT2tTlvParse_element_error small valid bytes start inside parsed
      refine ⟨[element], LaidOut.cons.mpr ⟨valid, bytes, LaidOut.nil inside⟩, .inr ?_⟩
      obtain ⟨block, isBlock⟩ := Option.isSome_iff_exists.mp stored
      simp [storedBlocks, isBlock, full]
    · exact ⟨[], LaidOut.nil within, .inl (by simpa [chainBytes] using fault)⟩
  | case4 t2t offset nonzero notEnd next nextOffset parsed ih =>
    intro failed small bounded start within
    have before : offset < t2t.cc.dataEnd := by
      simp only [nfcT2tIsEndReached, decide_eq_true_eq] at notEnd
      omega
    rcases tlv_cases before bounded with terminator | ⟨element, valid, bytes, inside⟩ | fault
    · rw [nfcT2tTlvParse_terminator small terminator start before] at parsed
      cases parsed
      rw [nfcT2tParseLoop_zero] at failed
      cases failed
    · obtain ⟨blocks, sameCc, sameMax, rfl⟩ := nfcT2tTlvParse_element_ok small valid bytes start inside parsed
      obtain ⟨elements, laid, broken⟩ := ih failed (by rw [sameCc]; exact small) (by rw [sameCc]; exact bounded)
        (by have := element.bytes_length_pos; omega) (by rw [sameCc]; exact inside)
      rw [sameCc] at laid broken
      have count : next.tlvCount = t2t.tlvCount + (element.stored offset).toList.length := by
        simp [NfcT2t.tlvCount, blocks]
      refine ⟨element :: elements, LaidOut.cons.mpr ⟨valid, bytes, laid⟩, ?_⟩
      rw [chainBytes_cons_length, ← Nat.add_assoc, storedBlocks_cons, List.length_append]
      rw [count, sameMax] at broken
      rcases broken with fault | overflow
      · exact .inl fault
      · exact .inr (by omega)
    · rw [nfcT2tTlvParse_fault small start fault] at parsed
      cases parsed

theorem storedBlocks_within {dataEnd : Nat} (elements : List TlvElement) :
    ∀ offset, LaidOut data dataEnd offset elements → ∀ block ∈ storedBlocks elements offset, ∀ start,
      block.value = some start → offset ≤ start ∧ start + block.length ≤ dataEnd := by
  induction elements with
  | nil => intro offset _ block member; simp [storedBlocks] at member
  | cons element rest ih =>
    intro offset laid block member start pointer
    obtain ⟨valid, -, laidRest⟩ := LaidOut.cons.mp laid
    have restInside := laidRest.inside
    rw [storedBlocks_cons, List.mem_append] at member
    rcases member with own | later
    · -- the element's own value lies between its length field and its end
      cases element with
      | null => simp [TlvElement.stored] at own
      | block tag length value =>
        obtain ⟨-, -, valueLength, -⟩ := valid
        have total := @TlvElement.bytes_length_block tag length value valueLength
        simp only [TlvElement.stored, Option.toList_some, List.mem_singleton] at own
        subst own
        dsimp only at pointer
        split at pointer
        · cases pointer
        · cases pointer
          dsimp only
          omega
    · have := ih _ laidRest block later start pointer
      omega

end Run

/-! The parser reads only the tag's first data_area_size + 16 bytes -/

theorem rawByte_congr {data other : List UInt8} {bound index : Nat} (same : data.take bound = other.take bound)
    (inside : index < bound) : rawByte data index = rawByte other index := by
  unfold rawByte
  rw [List.getD_eq_getElem?_getD, List.getD_eq_getElem?_getD, ← List.getElem?_take_of_lt inside, same,
    List.getElem?_take_of_lt inside]

theorem take_congr_of_le {data other : List UInt8} {bound count : Nat} (same : data.take bound = other.take bound)
    (within : count ≤ bound) : data.take count = other.take count := by
  have shorter : ∀ bytes : List UInt8, bytes.take count = (bytes.take bound).take count := fun bytes => by
    rw [List.take_take, Nat.min_eq_left within]
  rw [shorter data, shorter other, same]

theorem take_drop_congr {data other : List UInt8} {bound start count : Nat}
    (same : data.take bound = other.take bound) (within : start + count ≤ bound) :
    (data.drop start).take count = (other.drop start).take count := by
  rw [List.take_drop, List.take_drop, take_congr_of_le same within]

theorem sysGetBe16_congr {data other : List UInt8} {bound start : Nat} (same : data.take bound = other.take bound)
    (within : start + 2 ≤ bound) : sysGetBe16 (data.drop start) = sysGetBe16 (other.drop start) :=
  sysGetBe_congr (take_drop_congr same within)

section Frame

variable {t2t : NfcT2t} {data other : List UInt8}

theorem nfcT2tTypeExtract_congr (same : data.take t2t.cc.dataEnd = other.take t2t.cc.dataEnd)
    (tOffset : Nat) (tlvBuf : NfcT2tTlvBlock) :
    nfcT2tTypeExtract t2t data tOffset tlvBuf = nfcT2tTypeExtract t2t other tOffset tlvBuf := by
  unfold nfcT2tTypeExtract
  by_cases within : nfcT2tIsFieldWithinDataRange t2t tOffset nfcT2tTlvTLength = true
  · obtain ⟨-, -, inside⟩ := nfcT2tIsFieldWithinDataRange_eq_true.mp within
    rw [rawByte_congr same (by unfold nfcT2tTlvTLength at inside; omega)]
  · simp [within]

theorem nfcT2tLengthExtract_congr (same : data.take t2t.cc.dataEnd = other.take t2t.cc.dataEnd)
    (lOffset : Nat) (tlvBuf : NfcT2tTlvBlock) :
    nfcT2tLengthExtract t2t data lOffset tlvBuf = nfcT2tLengthExtract t2t other lOffset tlvBuf := by
  unfold nfcT2tLengthExtract
  by_cases shortWithin : nfcT2tIsFieldWithinDataRange t2t lOffset nfcT2tTlvLShortLength = true
  · obtain ⟨-, -, inside⟩ := nfcT2tIsFieldWithinDataRange_eq_true.mp shortWithin
    rw [rawByte_congr same (by unfold nfcT2tTlvLShortLength at inside; omega)]
    by_cases longWithin : nfcT2tIsFieldWithinDataRange t2t lOffset nfcT2tTlvLLongLength = true
    · obtain ⟨-, -, longInside⟩ := nfcT2tIsFieldWithinDataRange_eq_true.mp longWithin
      rw [sysGetBe16_congr same (by unfold nfcT2tTlvLLongLength at longInside; omega)]
    · simp [longWithin]
  · simp [shortWithin]

theorem nfcT2tTlvParse_congr (same : data.take t2t.cc.dataEnd = other.take t2t.cc.dataEnd) (tlvOffset : Nat) :
    nfcT2tTlvParse t2t data tlvOffset = nfcT2tTlvParse t2t other tlvOffset := by
  simp only [nfcT2tTlvParse, nfcT2tTlvBlockExtract, nfcT2tTypeExtract_congr same, nfcT2tLengthExtract_congr same]

theorem nfcT2tParseLoop_congr (t2t : NfcT2t) (offset : Nat) :
    data.take t2t.cc.dataEnd = other.take t2t.cc.dataEnd →
      nfcT2tParseLoop t2t data offset = nfcT2tParseLoop t2t other offset := by
  fun_induction nfcT2tParseLoop t2t data offset with
  | case1 t2t => intro _; rw [nfcT2tParseLoop_zero]
  | case2 t2t offset nonzero atEnd => intro _; rw [nfcT2tParseLoop, if_neg nonzero, if_pos atEnd]
  | case3 t2t offset nonzero notEnd err parsed =>
    intro same
    rw [nfcT2tParseLoop_step nonzero (by simpa [nfcT2tIsEndReached] using notEnd), ← nfcT2tTlvParse_congr same,
      parsed]
  | case4 t2t offset nonzero notEnd next nextOffset parsed ih =>
    intro same
    rw [nfcT2tParseLoop_step nonzero (by simpa [nfcT2tIsEndReached] using notEnd), ← nfcT2tTlvParse_congr same,
      parsed]
    exact ih (by rw [(nfcT2tTlvParse_advances parsed).2]; exact same)

theorem nfcT2tInternalParse_congr (t2t : NfcT2t)
    (same : data.take nfcT2tFirstDataBlockOffset = other.take nfcT2tFirstDataBlockOffset) :
    nfcT2tInternalParse t2t data = nfcT2tInternalParse t2t other := by
  unfold nfcT2tInternalParse
  rw [rawByte_congr same (show 0 < nfcT2tFirstDataBlockOffset by decide),
    rawByte_congr same (show 3 < nfcT2tFirstDataBlockOffset by decide),
    rawByte_congr same (show 8 < nfcT2tFirstDataBlockOffset by decide),
    rawByte_congr same (show 9 < nfcT2tFirstDataBlockOffset by decide),
    sysGetBe16_congr same (show 1 + 2 ≤ nfcT2tFirstDataBlockOffset by decide),
    sysGetBe16_congr same (show 10 + 2 ≤ nfcT2tFirstDataBlockOffset by decide),
    sysGetBe_congr (take_drop_congr same (show 4 + 4 ≤ nfcT2tFirstDataBlockOffset by decide))]

theorem nfcT2tCcParse_congr (t2t : NfcT2t)
    (same : data.take nfcT2tFirstDataBlockOffset = other.take nfcT2tFirstDataBlockOffset) :
    nfcT2tCcParse t2t data = nfcT2tCcParse t2t other := by
  have ccBlock := take_drop_congr same (show nfcT2tCcBlockOffset + 4 ≤ nfcT2tFirstDataBlockOffset by decide)
  unfold nfcT2tCcParse
  simp only [rawByte_congr ccBlock (show 0 < 4 by decide), rawByte_congr ccBlock (show 1 < 4 by decide),
    rawByte_congr ccBlock (show 2 < 4 by decide), rawByte_congr ccBlock (show 3 < 4 by decide)]

theorem nfcT2tParse_congr (t2t : NfcT2t) {bound : Nat} (same : data.take bound = other.take bound)
    (header : nfcT2tFirstDataBlockOffset ≤ bound)
    (ends : ∀ start, nfcT2tCcParse (nfcT2tInternalParse (nfcT2tClear t2t) data) data = .ok start →
      start.cc.dataEnd ≤ bound) :
    nfcT2tParse t2t data = nfcT2tParse t2t other := by
  have sameHeader := take_congr_of_le same header
  unfold nfcT2tParse
  dsimp only
  rw [← nfcT2tInternalParse_congr _ sameHeader, ← nfcT2tCcParse_congr _ sameHeader]
  split
  · rfl
  · next start parsed =>
    split
    · rfl
    · exact nfcT2tParseLoop_congr start _ (take_congr_of_le same (ends start parsed))

end Frame

/-! nfc_t2t_parse on a tag with NFC Forum data of the supported version -/

theorem rawByte_drop (data : List UInt8) (skip index : Nat) :
    rawByte (data.drop skip) index = rawByte data (skip + index) := by
  simp [rawByte, List.getD_eq_getElem?_getD, List.getElem?_drop]

theorem nfcT2tParse_start (t2t : NfcT2t) (rawData : List UInt8)
    (forum : rawByte rawData 12 = nfcT2tNfcForumDefinedData)
    (version : rawByte rawData 13 >>> 4 = nfcT2tSupportedMajorVersion) :
    ∃ start : NfcT2t, nfcT2tCcParse (nfcT2tInternalParse (nfcT2tClear t2t) rawData) rawData = .ok start ∧
      start.tlvBlockArray = [] ∧ start.maxTlvBlocks = t2t.maxTlvBlocks ∧
      start.cc.dataEnd = nfcT2tFirstDataBlockOffset + 8 * rawByte rawData 14 ∧
      nfcT2tParse t2t rawData = nfcT2tParseLoop start rawData nfcT2tFirstDataBlockOffset := by
  have forumByte : rawByte (rawData.drop nfcT2tCcBlockOffset) 0 = nfcT2tNfcForumDefinedData := by
    rw [rawByte_drop]
    exact forum
  have versionByte : rawByte (rawData.drop nfcT2tCcBlockOffset) 1 = rawByte rawData 13 := rawByte_drop _ _ _
  have sizeByte : rawByte (rawData.drop nfcT2tCcBlockOffset) 2 = rawByte rawData 14 := rawByte_drop _ _ _
  have areaSize : (rawByte rawData 14 * 8).toUInt16.toNat = 8 * rawByte rawData 14 := by
    have := (rawData.getD 14 0).toNat_lt
    have wordSize : UInt16.size = 65536 := rfl
    rw [UInt16.toNat_ofNat_of_lt' (by unfold rawByte; omega)]
    omega
  have parsed : nfcT2tCcParse (nfcT2tInternalParse (nfcT2tClear t2t) rawData) rawData = .ok
      { nfcT2tInternalParse (nfcT2tClear t2t) rawData with
        cc := ⟨(rawByte rawData 13 >>> 4) &&& 0x0F, rawByte rawData 13 &&& 0x0F, (rawByte rawData 14 * 8).toUInt16,
          (rawByte (rawData.drop nfcT2tCcBlockOffset) 3 >>> 4) &&& 0x0F,
          rawByte (rawData.drop nfcT2tCcBlockOffset) 3 &&& 0x0F⟩ } := by
    rw [nfcT2tCcParse]
    simp only [forumByte, versionByte, sizeByte, ne_eq, not_true_eq_false, if_false]
  refine ⟨_, parsed, rfl, rfl, ?_, ?_⟩
  · simp only [NfcT2tCc.dataEnd, areaSize]
    unfold nfcT2tFirstDataBlockOffset
    omega
  · have supported : (rawByte rawData 13 >>> 4) &&& 0x0F = nfcT2tSupportedMajorVersion := by
      rw [version]
      rfl
    unfold nfcT2tParse
    dsimp only
    rw [parsed]
    simp only [nfcT2tIsVersionSupported, supported, decide_true, Bool.not_true, Bool.false_eq_true, if_false]

/-- nfc_t2t_parse on a tag image of 16 + 8 * R[14] bytes holding NFC Forum data of the supported version
reads only that image; when it succeeds it has stored the blocks of the data area's TLV chain, other than
NULL and TERMINATOR, in order, each value inside the data area; and it fails exactly when the chain
breaks, or holds more blocks than max_tlv_blocks, before it ends. -/
theorem nfcT2tParse_tlvChain (t2t : NfcT2t) (rawData : List UInt8)
    (size : rawData.length = nfcT2tFirstDataBlockOffset + 8 * rawByte rawData 14)
    (forum : rawByte rawData 12 = nfcT2tNfcForumDefinedData)
    (version : rawByte rawData 13 >>> 4 = nfcT2tSupportedMajorVersion) :
    let dataEnd := nfcT2tFirstDataBlockOffset + 8 * rawByte rawData 14
    (∀ other : List UInt8, other.take dataEnd = rawData.take dataEnd →
      nfcT2tParse t2t other = nfcT2tParse t2t rawData) ∧
    (∀ parsed, nfcT2tParse t2t rawData = .ok parsed →
      ∃ elements, TlvChain rawData dataEnd elements ∧
        parsed.tlvBlockArray = storedBlocks elements nfcT2tFirstDataBlockOffset ∧
        ∀ block ∈ parsed.tlvBlockArray, ∀ start, block.value = some start →
          nfcT2tFirstDataBlockOffset ≤ start ∧ start + block.length ≤ dataEnd) ∧
    ((∃ err, nfcT2tParse t2t rawData = .error err) ↔
      ∃ elements, LaidOut rawData dataEnd nfcT2tFirstDataBlockOffset elements ∧
        (TlvFault rawData dataEnd (nfcT2tFirstDataBlockOffset + (chainBytes elements).length) ∨
          t2t.maxTlvBlocks < (storedBlocks elements nfcT2tFirstDataBlockOffset).length)) := by
  intro dataEnd
  obtain ⟨start, parsedHeader, empty, sameMax, ends, parseIs⟩ := nfcT2tParse_start t2t rawData forum version
  have small : start.cc.dataEnd < 2 ^ 16 := by
    have := (rawData.getD 14 0).toNat_lt
    rw [ends]
    unfold rawByte nfcT2tFirstDataBlockOffset
    omega
  have bounded : start.cc.dataEnd ≤ rawData.length := by omega
  have header : nfcT2tFirstDataBlockOffset ≤ start.cc.dataEnd := by omega
  have count : start.tlvCount = 0 := by simp [NfcT2t.tlvCount, empty]
  refine ⟨fun other same => ?_, fun parsed done => ?_, ⟨?_, ?_⟩⟩
  · -- reads only R[0..E)
    refine (nfcT2tParse_congr t2t same.symm (by omega) fun header' parsed' => ?_).symm
    rw [parsedHeader] at parsed'
    cases parsed'
    omega
  · rw [parseIs] at done
    obtain ⟨elements, laid, chainEnds, stored⟩ :=
      nfcT2tParseLoop_ok start _ parsed done small bounded le_rfl header
    rw [ends] at laid chainEnds
    rw [empty, List.nil_append] at stored
    refine ⟨elements, ⟨laid, chainEnds⟩, stored, ?_⟩
    rw [stored]
    exact storedBlocks_within elements _ laid
  · rintro ⟨err, failed⟩
    rw [parseIs] at failed
    obtain ⟨elements, laid, broken⟩ := nfcT2tParseLoop_error start _ err failed small bounded le_rfl header
    rw [ends] at laid broken
    rw [count, sameMax, Nat.zero_add] at broken
    exact ⟨elements, laid, broken⟩
  · rintro ⟨elements, laid, broken⟩
    rw [show dataEnd = start.cc.dataEnd from ends.symm] at laid broken
    obtain ⟨kept, overflows⟩ := nfcT2tParseLoop_laidOut elements start _ small le_rfl laid
    rw [count, sameMax, Nat.zero_add] at kept overflows
    by_cases fits : (storedBlocks elements nfcT2tFirstDataBlockOffset).length ≤ t2t.maxTlvBlocks
    · -- the chain's blocks fit, so the break is a fault the loop meets after them
      obtain ⟨after, -, afterCc, run⟩ := kept fits
      rcases broken with fault | overflow
      · have faultInside := fault.inside
        rw [← afterCc] at fault faultInside
        refine ⟨.EINVAL, ?_⟩
        rw [parseIs, run, nfcT2tParseLoop_step (by unfold nfcT2tFirstDataBlockOffset; omega) (by omega),
          nfcT2tTlvParse_fault (by rw [afterCc]; exact small) (by omega) fault]
      · omega
    · exact ⟨.ENOMEM, by rw [parseIs]; exact overflows (by omega)⟩

/-- A tag with one data block: an NDEF message TLV of three bytes, then a TERMINATOR. -/
def ndefMessageTag : List UInt8 :=
  [0x04, 0x12, 0x34, 0xAE, 0x56, 0x78, 0x9A, 0xBC, 0x20, 0x48, 0x00, 0x00, 0xE1, 0x10, 0x01, 0x00,
    0x03, 0x03, 0xD0, 0x00, 0x00, 0xFE, 0x00, 0x00]

theorem nfcT2tParse_tlvChain_ndefMessageTag :
    (ndefMessageTag.length = nfcT2tFirstDataBlockOffset + 8 * rawByte ndefMessageTag 14 ∧
      rawByte ndefMessageTag 12 = nfcT2tNfcForumDefinedData ∧
      rawByte ndefMessageTag 13 >>> 4 = nfcT2tSupportedMajorVersion) ∧
    let dataEnd := nfcT2tFirstDataBlockOffset + 8 * rawByte ndefMessageTag 14
    (∀ other : List UInt8, other.take dataEnd = ndefMessageTag.take dataEnd →
      nfcT2tParse (nfcT2tDescDef 4) other = nfcT2tParse (nfcT2tDescDef 4) ndefMessageTag) ∧
    (∀ parsed, nfcT2tParse (nfcT2tDescDef 4) ndefMessageTag = .ok parsed →
      ∃ elements, TlvChain ndefMessageTag dataEnd elements ∧
        parsed.tlvBlockArray = storedBlocks elements nfcT2tFirstDataBlockOffset ∧
        ∀ block ∈ parsed.tlvBlockArray, ∀ start, block.value = some start →
          nfcT2tFirstDataBlockOffset ≤ start ∧ start + block.length ≤ dataEnd) ∧
    ((∃ err, nfcT2tParse (nfcT2tDescDef 4) ndefMessageTag = .error err) ↔
      ∃ elements, LaidOut ndefMessageTag dataEnd nfcT2tFirstDataBlockOffset elements ∧
        (TlvFault ndefMessageTag dataEnd (nfcT2tFirstDataBlockOffset + (chainBytes elements).length) ∨
          (nfcT2tDescDef 4).maxTlvBlocks < (storedBlocks elements nfcT2tFirstDataBlockOffset).length)) :=
  ⟨⟨by decide, by decide, by decide⟩,
    nfcT2tParse_tlvChain (nfcT2tDescDef 4) ndefMessageTag (by decide) (by decide) (by decide)⟩

end T2t
