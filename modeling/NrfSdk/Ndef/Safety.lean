import NrfSdk.Ndef.MsgParser

namespace Ndef

open Machine

def RecordLaidOut (desc : NfcNdefRecordDesc) (start headerSize : Nat) : Prop :=
  (desc.typeLength = 0 ∨ desc.type = some (start + headerSize)) ∧
  (desc.idLength = 0 ∨ desc.id = some (start + headerSize + desc.typeLength)) ∧
  (desc.payloadDescriptor.payloadLength = 0 ∨
    desc.payloadDescriptor.payload = some (start + headerSize + desc.typeLength + desc.idLength))

def declaredBody (desc : NfcNdefRecordDesc) : Nat :=
  desc.typeLength + desc.idLength + desc.payloadDescriptor.payloadLength

def SliceWithin (pointer : Option Nat) (length limit : Nat) : Prop :=
  length = 0 ∨ ∃ address, pointer = some address ∧ address + length ≤ limit

def SlicesWithin (desc : NfcNdefRecordDesc) (limit : Nat) : Prop :=
  SliceWithin desc.type desc.typeLength limit ∧ SliceWithin desc.id desc.idLength limit ∧
    SliceWithin desc.payloadDescriptor.payload desc.payloadDescriptor.payloadLength limit

theorem RecordLaidOut.slicesWithin {desc : NfcNdefRecordDesc} {start headerSize limit : Nat}
    (laidOut : RecordLaidOut desc start headerSize) (fits : start + headerSize + declaredBody desc ≤ limit) :
    SlicesWithin desc limit := by
  obtain ⟨type, id, payload⟩ := laidOut
  unfold declaredBody at fits
  refine ⟨?_, ?_, ?_⟩
  · rcases type with empty | at_
    · exact .inl empty
    · exact .inr ⟨_, at_, by omega⟩
  · rcases id with empty | at_
    · exact .inl empty
    · exact .inr ⟨_, at_, by omega⟩
  · rcases payload with empty | at_
    · exact .inl empty
    · exact .inr ⟨_, at_, by omega⟩

theorem readPayloadLength_ok {data : List UInt8} {start nfcDataLen flags expected payloadLength cursor : Nat}
    (read : readPayloadLength data start nfcDataLen flags = .ok (expected, payloadLength, cursor)) :
    cursor = expected ∧ expected ≤ nfcDataLen ∧ expected ≤ 6 ∨ cursor = expected ∧ expected = 3 := by
  unfold readPayloadLength at read
  split at read
  · cases read
    exact .inr ⟨rfl, rfl⟩
  · dsimp only at read
    split at read
    · cases read
    · cases read
      refine .inl ⟨rfl, by simp_all [ndefRecordBaseShortLen, ndefRecordPayloadLenLongSize,
        ndefRecordPayloadLenShortSize], by decide⟩

theorem readRecordHeader_ok {data : List UInt8} {start nfcDataLen : Nat} {header : RecordHeader}
    (short : ndefRecordBaseShortLen ≤ nfcDataLen) (read : readRecordHeader data start nfcDataLen = .ok header) :
    header.headerSize = header.expected ∧ header.expected ≤ nfcDataLen ∧ header.expected ≤ 7 := by
  unfold readRecordHeader at read
  dsimp only at read
  split at read
  · cases read
  · rename_i expected payloadLength cursor lengths
    have field := readPayloadLength_ok lengths
    have threeFits : 3 ≤ nfcDataLen := short
    split at read
    · split at read
      · cases read
      · cases read
        simp only [ndefRecordIdLenSize] at *
        omega
    · cases read
      simp only
      omega

theorem nfcNdefRecordParse_ok {binPayDesc : NfcNdefBinPayloadDesc} {recDesc desc : NfcNdefRecordDesc}
    {data : List UInt8} {start nfcDataLen size : Nat} {location : NfcNdefRecordLocation}
    (parsed : nfcNdefRecordParse binPayDesc recDesc data start nfcDataLen = .ok (desc, location, size)) :
    ∃ headerSize ≤ 7, RecordLaidOut desc start headerSize ∧
      size = u32 (headerSize + declaredBody desc) ∧ size ≤ nfcDataLen := by
  unfold nfcNdefRecordParse at parsed
  split at parsed
  · cases parsed
  · rename_i short
    split at parsed
    · cases parsed
    · rename_i header read
      obtain ⟨sized, -, bounded⟩ := readRecordHeader_ok (by omega) read
      dsimp only at parsed
      split at parsed
      · cases parsed
      · rename_i fits
        simp only [Except.ok.injEq, Prod.mk.injEq] at parsed
        obtain ⟨rfl, -, rfl⟩ := parsed
        refine ⟨header.expected, bounded, ⟨?_, ?_, ?_⟩, ?_, by omega⟩
        · by_cases empty : header.typeLength > 0
          · simp [empty, sized]
          · simp only [empty, if_false]
            omega
        · rcases identified : header.idLength with _ | length
          · simp
          · by_cases empty : length > 0
            · simp [empty, sized]
            · simp only [Option.getD_some]
              omega
        · by_cases empty : header.payloadLength = 0
          · exact .inl empty
          · simp only [empty, if_false]
            exact .inr (by rw [sized])
        · simp only [declaredBody]
          congr 1
          omega

theorem nfcNdefRecordParse_within {binPayDesc : NfcNdefBinPayloadDesc} {recDesc desc : NfcNdefRecordDesc}
    {data : List UInt8} {start nfcDataLen size : Nat} {location : NfcNdefRecordLocation}
    (parsed : nfcNdefRecordParse binPayDesc recDesc data start nfcDataLen = .ok (desc, location, size))
    (fits : declaredBody desc + 7 < 2 ^ 32) :
    SlicesWithin desc (start + nfcDataLen) ∧ size ≤ nfcDataLen := by
  obtain ⟨headerSize, bounded, laidOut, sized, within⟩ := nfcNdefRecordParse_ok parsed
  have exact : size = headerSize + declaredBody desc := by
    rw [sized, u32, wrap_of_bounds (by omega) (by push_cast; omega)]
    omega
  exact ⟨laidOut.slicesWithin (by omega), within⟩

theorem msgParserLoop_within {data : List UInt8} {previous : Nat → NfcNdefRecordDesc}
    {previousPayload : Nat → NfcNdefBinPayloadDesc} {slotsLeft recordCount start nfcDataLeft rest : Nat}
    {records : List NfcNdefRecordDesc}
    (parsed : msgParserLoop data previous previousPayload slotsLeft recordCount start nfcDataLeft =
      .ok (records, rest)) :
    rest ≤ nfcDataLeft ∧ records.length ≤ slotsLeft ∧
      ∀ record ∈ records, declaredBody record + 7 < 2 ^ 32 → SlicesWithin record (start + nfcDataLeft) := by
  induction slotsLeft generalizing recordCount start nfcDataLeft records with
  | zero =>
    unfold msgParserLoop at parsed
    split at parsed
    · cases parsed
    split at parsed
    · cases parsed
    split at parsed
    · cases parsed
    · cases parsed
  | succ slotsLeft ih =>
    unfold msgParserLoop at parsed
    split at parsed
    · cases parsed
    split at parsed
    · cases parsed
    rename_i recDesc location size recordParsed
    split at parsed
    · cases parsed
    simp only at parsed
    have recordWithin := fun fits => (nfcNdefRecordParse_within recordParsed fits).1
    obtain ⟨-, -, -, -, bounded⟩ := nfcNdefRecordParse_ok recordParsed
    split at parsed
    · cases parsed
      refine ⟨by omega, by simp, ?_⟩
      intro record member fits
      simp only [List.mem_singleton] at member
      subst member
      exact recordWithin fits
    split at parsed
    · cases parsed
    split at parsed
    · cases parsed
    rename_i later rest' laterParsed
    cases parsed
    obtain ⟨restBound, lengthBound, laterWithin⟩ := ih laterParsed
    refine ⟨by omega, by simp; omega, ?_⟩
    intro record member fits
    rcases List.mem_cons.mp member with rfl | member
    · exact recordWithin fits
    · have same : start + size + (nfcDataLeft - size) = start + nfcDataLeft := by omega
      simpa [same] using laterWithin record member fits

def DescriptorsWithin (layout : DescriptorLayout) (memo : NfcNdefParserMemoDesc) (count : Nat) : Prop :=
  layout.msgDescSize ≤ memo.recordArray ∧
    ∀ i < count, memo.recordArray + (i + 1) * layout.pointerSize ≤ memo.binPayDesc ∧
      memo.binPayDesc + (i + 1) * layout.binPayloadDescSize ≤ memo.recDesc ∧
      memo.recDesc + (i + 1) * layout.recordDescSize ≤ memo.resultBufLen

theorem nfcNdefMsgParserMemoResolve_ok {layout : DescriptorLayout} {resultBufLen : Nat}
    {memo : NfcNdefParserMemoDesc} (resolved : nfcNdefMsgParserMemoResolve layout resultBufLen = .ok memo) :
    memo.resultBufLen ≤ resultBufLen ∧ DescriptorsWithin layout memo memo.maxRecordCount := by
  unfold nfcNdefMsgParserMemoResolve at resolved
  split at resolved
  · cases resolved
  rename_i enough
  cases resolved
  simp only [DescriptorLayout.msg1Size, DescriptorLayout.nfcNdefMsgParserDelta] at enough ⊢
  set delta := layout.pointerSize + layout.binPayloadDescSize + layout.recordDescSize with deltaIs
  set memoryLast := resultBufLen - (layout.msgDescSize + layout.pointerSize + layout.binPayloadDescSize +
    layout.recordDescSize)
  have whole : memoryLast / delta * delta ≤ memoryLast := Nat.div_mul_le_self memoryLast delta
  have spread : (memoryLast / delta + 1) * delta = (memoryLast / delta + 1) * layout.pointerSize +
      (memoryLast / delta + 1) * layout.binPayloadDescSize + (memoryLast / delta + 1) * layout.recordDescSize := by
    rw [deltaIs]
    ring
  refine ⟨?_, le_refl _, fun i bound => ⟨?_, ?_, ?_⟩⟩
  · have expand : (memoryLast / delta + 1) * delta = memoryLast / delta * delta + delta := by ring
    omega
  all_goals exact Nat.add_le_add_left (Nat.mul_le_mul_right _ (by omega)) _

theorem DescriptorsWithin.mono {layout : DescriptorLayout} {memo : NfcNdefParserMemoDesc} {count smaller : Nat}
    (within : DescriptorsWithin layout memo count) (fewer : smaller ≤ count) :
    DescriptorsWithin layout memo smaller :=
  ⟨within.1, fun i bound => within.2 i (by omega)⟩

theorem nfcNdefMsgParse_ok {layout : DescriptorLayout} {resultBufLen rawDataLen : Nat}
    {previous : Nat → NfcNdefRecordDesc} {previousPayload : Nat → NfcNdefBinPayloadDesc} {rawData : List UInt8}
    {memo : NfcNdefParserMemoDesc} {message : ParsedMessage}
    (parsed : nfcNdefMsgParse layout resultBufLen previous previousPayload rawData rawDataLen = .ok (memo, message)) :
    message.nfcDataLen ≤ rawDataLen ∧ message.records.length ≤ memo.maxRecordCount ∧
      memo.resultBufLen ≤ resultBufLen ∧ DescriptorsWithin layout memo message.records.length ∧
      ∀ record ∈ message.records, declaredBody record + 7 < 2 ^ 32 → SlicesWithin record rawDataLen := by
  unfold nfcNdefMsgParse at parsed
  split at parsed
  · cases parsed
  rename_i resolvedMemo resolved
  split at parsed
  · cases parsed
  rename_i parsedMessage internal
  cases parsed
  obtain ⟨shrunk, descriptors⟩ := nfcNdefMsgParserMemoResolve_ok resolved
  unfold nfcNdefMsgParserInternal at internal
  split at internal
  · cases internal
  rename_i records left loop
  cases internal
  obtain ⟨leftBound, counted, within⟩ := msgParserLoop_within loop
  refine ⟨by simp, counted, shrunk, descriptors.mono counted, ?_⟩
  simpa using within

def blankRecordDesc : NfcNdefRecordDesc := ⟨.tnfEmpty, 0, none, 0, none, ⟨none, 0⟩⟩

def shortTextRecord : List UInt8 := [0xD1, 0x01, 0x02, 0x54, 0x68, 0x69]

theorem nfcNdefMsgParse_ok_shortText :
    nfcNdefMsgParse ⟨12, 4, 8, 28, by decide⟩ 92 (fun _ => blankRecordDesc) (fun _ => ⟨none, 0⟩) shortTextRecord 6 =
        .ok (⟨2, 12, 20, 36, 92⟩, ⟨[⟨.tnfWellKnown, 0, none, 1, some 3, ⟨some 4, 2⟩⟩], 6⟩) ∧
      (6 ≤ 6 ∧ 1 ≤ 2 ∧ 92 ≤ 92 ∧ DescriptorsWithin ⟨12, 4, 8, 28, by decide⟩ ⟨2, 12, 20, 36, 92⟩ 1 ∧
        ∀ record ∈ [(⟨.tnfWellKnown, 0, none, 1, some 3, ⟨some 4, 2⟩⟩ : NfcNdefRecordDesc)],
          declaredBody record + 7 < 2 ^ 32 → SlicesWithin record 6) := by
  have parsed : nfcNdefMsgParse ⟨12, 4, 8, 28, by decide⟩ 92 (fun _ => blankRecordDesc) (fun _ => ⟨none, 0⟩)
      shortTextRecord 6 = .ok (⟨2, 12, 20, 36, 92⟩, ⟨[⟨.tnfWellKnown, 0, none, 1, some 3, ⟨some 4, 2⟩⟩], 6⟩) := by
    decide
  exact ⟨parsed, nfcNdefMsgParse_ok parsed⟩

def wrappedLoneRecord : List UInt8 := [0xC1, 0x00, 0xFF, 0xFF, 0xFF, 0xFB]

theorem nfcNdefMsgParse_accepts_wrapped_record :
    nfcNdefMsgParse ⟨12, 4, 8, 28, by decide⟩ 52 (fun _ => blankRecordDesc) (fun _ => ⟨none, 0⟩)
        wrappedLoneRecord 6 =
      .ok (⟨1, 12, 16, 24, 52⟩, ⟨[⟨.tnfWellKnown, 0, none, 0, none, ⟨some 6, 4294967291⟩⟩], 1⟩) ∧
    ¬ SlicesWithin ⟨.tnfWellKnown, 0, none, 0, none, ⟨some 6, 4294967291⟩⟩ 6 ∧
    6 + declaredBody ⟨.tnfWellKnown, 0, none, 0, none, ⟨some 6, 4294967291⟩⟩ ≠ 1 := by
  refine ⟨by decide +kernel, ?_, by decide⟩
  rintro ⟨-, -, payload⟩
  rcases payload with empty | ⟨address, at_, fits⟩
  · cases empty
  · cases at_
    simp at fits

end Ndef
