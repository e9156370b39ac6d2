import NrfSdk.Machine.Word

/-! The AD structures of an advertisement or a scan response, and the three parsers of my_ble_scan.c that
walk them. A structure is a length byte, a type byte and length - 1 bytes of data; a zero length ends the
data. parse_scan_rsp_name and parse_ff_data copy the data of the first structure of their kind,
parse_scan_rsp_payload reads the UUID and the battery field. Each parser walks a clone of the received
net_buf_simple, whose pulls assert that the buffer holds what they take: a pull that would fail is none
here, so that the parsers never read past the received bytes is a theorem. -/

namespace BleScan

def btDataUuid16Some : UInt8 := 0x02
def btDataUuid32Some : UInt8 := 0x04
def btDataNameShortened : UInt8 := 0x08
def btDataNameComplete : UInt8 := 0x09
def btDataManufacturerData : UInt8 := 0xff

def tagFfDataMaxLen : Nat := 29
def uuidMaxLen : Nat := 16
def advNameMaxLen : Nat := 32

/-- net_buf_simple_pull_mem: the first n bytes and the rest; none where its assertion len >= n fails. -/
def netBufSimplePullMem (buf : List UInt8) (n : Nat) : Option (List UInt8 × List UInt8) :=
  if n ≤ buf.length then some (buf.take n, buf.drop n) else none

theorem netBufSimplePullMem_of_le {buf : List UInt8} {n : Nat} (fits : n ≤ buf.length) :
    netBufSimplePullMem buf n = some (buf.take n, buf.drop n) := if_pos fits

theorem length_rest_of_pull {buf taken rest : List UInt8} {n : Nat}
    (pulled : netBufSimplePullMem buf n = some (taken, rest)) : rest.length ≤ buf.length := by
  unfold netBufSimplePullMem at pulled
  split_ifs at pulled
  cases pulled
  rw [List.length_drop]
  omega

/-- The loop of parse_scan_rsp_name and parse_ff_data over what is left of data_buf: some (some data)
with the data copied from the first structure whose type and data length `wanted` accepts (at most
`copyMax` bytes of it), some none where the function returns false, none where a pull would fail. -/
def adFindLoop (wanted : UInt8 → Nat → Bool) (copyMax : Nat) : List UInt8 → Option (Option (List UInt8))
  | len :: type :: data =>
    if len = 0 then some none
    -- data_buf.len < len, with the length byte pulled
    else if (type :: data).length < len.toNat then some none
    else
      let dataLen := len.toNat - 1
      if wanted type dataLen then
        let copyLen := min dataLen copyMax
        match netBufSimplePullMem data copyLen with
        | none => none
        | some (copied, after) =>
          if dataLen > copyLen then (netBufSimplePullMem after (dataLen - copyLen)).map fun _ => some copied
          else some (some copied)
      else
        match _pulled : netBufSimplePullMem data dataLen with
        | none => none
        | some (_, after) => adFindLoop wanted copyMax after
  -- while (data_buf.len > 1) ends
  | _ => some none
termination_by buf => buf.length
decreasing_by
  -- the equation of the pull is read only here: what is left after it is shorter
  have shorter := length_rest_of_pull _pulled
  simp only [List.length_cons]
  omega

/-- parse_scan_rsp_name(buf, name, max_len): the name bytes it copies, at most (uint8_t)(max_len - 1) of
them, before the NUL it writes. -/
def parseScanRspName (buf : List UInt8) (maxLen : Nat) : Option (Option (List UInt8)) :=
  adFindLoop (fun type _ => type = btDataNameShortened || type = btDataNameComplete)
    (Machine.u8 ((maxLen : Int) - 1)) buf

def parseFfData (buf : List UInt8) (maxLen : Nat) : Option (Option (List UInt8)) :=
  adFindLoop (fun type dataLen => type = btDataManufacturerData && dataLen = tagFfDataMaxLen) maxLen buf

/-- The fields of tag_scan_result_t that parse_scan_rsp_payload writes: the uuid_len bytes of uuid (the
array's other bytes are never read) and battery_percent. -/
structure ScanRspPayload where
  uuid : List UInt8
  batteryPercent : UInt8
deriving DecidableEq, Repr

/-- The loop of parse_scan_rsp_payload: the fields after it and what it returns, uuid_found ||
battery_found; none where a pull would fail. -/
def parseScanRspPayloadLoop (result : ScanRspPayload) (uuidFound batteryFound : Bool) :
    List UInt8 → Option (ScanRspPayload × Bool)
  | len :: type :: data =>
    if len = 0 then some (result, uuidFound || batteryFound)
    else if (type :: data).length < len.toNat then some (result, uuidFound || batteryFound)
    else
      let dataLen := len.toNat - 1
      match _pulled : netBufSimplePullMem data dataLen with
      | none => none
      | some (dataPtr, after) =>
        if type = btDataUuid16Some ∧ !uuidFound then
          parseScanRspPayloadLoop { result with uuid := dataPtr.take uuidMaxLen } true batteryFound after
        else if type = btDataUuid32Some ∧ !batteryFound ∧ dataLen ≥ 8 then
          -- the seventh byte 0x02 marks the battery level in the eighth
          if dataPtr.getD 6 0 = 0x02 then
            parseScanRspPayloadLoop { result with batteryPercent := dataPtr.getD 7 0 } uuidFound true after
          else parseScanRspPayloadLoop result uuidFound batteryFound after
        else parseScanRspPayloadLoop result uuidFound batteryFound after
  | _ => some (result, uuidFound || batteryFound)
termination_by buf => buf.length
decreasing_by
  all_goals
    have shorter := length_rest_of_pull _pulled
    simp only [List.length_cons]
    omega

def parseScanRspPayload (buf : List UInt8) (result : ScanRspPayload) : Option (ScanRspPayload × Bool) :=
  parseScanRspPayloadLoop result false false buf

/-! ## No pull passes the end -/

section Pulls

variable {buf taken rest : List UInt8} {n : Nat}

theorem netBufSimplePullMem_eq_none_iff : netBufSimplePullMem buf n = none ↔ buf.length < n := by
  unfold netBufSimplePullMem
  split_ifs with fits
  · simp only [false_iff, Nat.not_lt]
    exact fits
  · simp only [true_iff]
    omega

theorem eq_of_pull (pulled : netBufSimplePullMem buf n = some (taken, rest)) :
    taken = buf.take n ∧ rest = buf.drop n := by
  unfold netBufSimplePullMem at pulled
  split_ifs at pulled
  cases pulled
  exact ⟨rfl, rfl⟩

theorem dataLen_le {len type : UInt8} {data : List UInt8} (fits : ¬(type :: data).length < len.toNat) :
    len.toNat - 1 ≤ data.length := by
  simp only [List.length_cons] at fits
  omega

end Pulls

section Find

variable (wanted : UInt8 → Nat → Bool) (copyMax : Nat)

theorem adFindLoop_short {buf : List UInt8} (short : buf.length ≤ 1) : adFindLoop wanted copyMax buf = some none := by
  rw [adFindLoop]
  rintro len type data rfl
  simp at short

theorem adFindLoop_isSome (buf : List UInt8) : (adFindLoop wanted copyMax buf).isSome := by
  fun_induction adFindLoop wanted copyMax buf
  case case3 len type data nonzero fits dataLen chosen copyLen missing =>
    rw [netBufSimplePullMem_eq_none_iff] at missing
    have := dataLen_le fits
    omega
  case case4 len type data nonzero fits dataLen chosen copyLen copied after pulled longer =>
    obtain ⟨-, rfl⟩ := eq_of_pull pulled
    rw [Option.isSome_map, Option.isSome_iff_ne_none, Ne, netBufSimplePullMem_eq_none_iff, List.length_drop]
    have := dataLen_le fits
    omega
  case case6 len type data nonzero fits dataLen skipped missing =>
    rw [netBufSimplePullMem_eq_none_iff] at missing
    have := dataLen_le fits
    omega
  all_goals simp_all

theorem adFindLoop_infix {buf copied : List UInt8} (found : adFindLoop wanted copyMax buf = some (some copied)) :
    copied <:+: buf ∧ copied.length ≤ copyMax := by
  fun_induction adFindLoop wanted copyMax buf
  case case4 len type data _ _ _ _ _ taken _ pulled _ =>
    obtain ⟨rfl, rfl⟩ := eq_of_pull pulled
    obtain ⟨_, _, same⟩ := Option.map_eq_some_iff.mp found
    cases same
    refine ⟨List.infix_cons (List.infix_cons (List.take_prefix _ _).isInfix), ?_⟩
    rw [List.length_take]
    omega
  case case5 len type data _ _ _ _ _ taken _ pulled _ =>
    obtain ⟨rfl, rfl⟩ := eq_of_pull pulled
    cases found
    refine ⟨List.infix_cons (List.infix_cons (List.take_prefix _ _).isInfix), ?_⟩
    rw [List.length_take]
    omega
  case case7 len type data _ _ _ _ _ _ pulled ih =>
    obtain ⟨-, rfl⟩ := eq_of_pull pulled
    obtain ⟨inside, bounded⟩ := ih found
    exact ⟨List.infix_cons (List.infix_cons (inside.trans (List.drop_suffix _ _).isInfix)), bounded⟩
  all_goals simp_all

theorem parseScanRspPayloadLoop_isSome (result : ScanRspPayload) (uuidFound batteryFound : Bool) (buf : List UInt8) :
    (parseScanRspPayloadLoop result uuidFound batteryFound buf).isSome := by
  fun_induction parseScanRspPayloadLoop result uuidFound batteryFound buf
  case case3 len type data nonzero fits dataLen missing =>
    rw [netBufSimplePullMem_eq_none_iff] at missing
    have := dataLen_le fits
    omega
  all_goals simp_all

end Find

/-! ## Reading back what was encoded -/

def adEncode : List (UInt8 × List UInt8) → List UInt8
  | [] => []
  | (type, data) :: rest => UInt8.ofNat (data.length + 1) :: type :: (data ++ adEncode rest)

theorem toNat_lengthByte {data : List UInt8} (short : data.length < 255) :
    (UInt8.ofNat (data.length + 1)).toNat = data.length + 1 :=
  UInt8.toNat_ofNat_of_lt' (show data.length + 1 < 256 by omega)

theorem take_min_length (data : List UInt8) (copyMax : Nat) : data.take (min data.length copyMax) = data.take copyMax := by
  by_cases within : copyMax ≤ data.length
  · rw [Nat.min_eq_right within]
  · rw [Nat.min_eq_left (by omega), List.take_length, List.take_of_length_le (by omega)]

section Encode

variable (wanted : UInt8 → Nat → Bool) (copyMax : Nat)

theorem adFindLoop_structure {type : UInt8} {data : List UInt8} (more : List UInt8) (short : data.length < 255) :
    adFindLoop wanted copyMax (UInt8.ofNat (data.length + 1) :: type :: (data ++ more)) =
      if wanted type data.length then some (some (data.take copyMax)) else adFindLoop wanted copyMax more := by
  have length := toNat_lengthByte short
  have whole : data.length ≤ (data ++ more).length := by simp
  rw [adFindLoop, if_neg (by rw [← UInt8.toNat_inj, length]; simp),
    if_neg (by rw [List.length_cons, length]; omega)]
  simp only [length, Nat.add_sub_cancel]
  by_cases here : wanted type data.length
  · rw [if_pos here, if_pos here, netBufSimplePullMem_of_le (by omega)]
    dsimp only
    rw [List.take_append_of_le_length (by omega), take_min_length]
    split_ifs with longer
    · -- the data past the copy is pulled too
      rw [netBufSimplePullMem_of_le (by simp only [List.length_drop]; omega)]
      rfl
    · rfl
  · rw [if_neg here, if_neg here]
    split
    next missing =>
      rw [length, Nat.add_sub_cancel, netBufSimplePullMem_of_le whole] at missing
      cases missing
    next taken after pulled =>
      obtain ⟨-, rfl⟩ := eq_of_pull pulled
      rw [length, Nat.add_sub_cancel, List.drop_left]

theorem adFindLoop_adEncode (ads : List (UInt8 × List UInt8)) (short : ∀ ad ∈ ads, ad.2.length < 255) :
    adFindLoop wanted copyMax (adEncode ads) =
      some ((ads.find? fun ad => wanted ad.1 ad.2.length).map fun ad => ad.2.take copyMax) := by
  induction ads with
  | nil => exact adFindLoop_short wanted copyMax (by simp [adEncode])
  | cons ad rest ih =>
    obtain ⟨type, data⟩ := ad
    rw [adEncode, adFindLoop_structure wanted copyMax _ (short _ List.mem_cons_self), List.find?_cons]
    cases here : wanted type data.length
    · exact ih fun ad member => short ad (List.mem_cons_of_mem _ member)
    · rfl

/-- parse_scan_rsp_name and parse_ff_data on the bytes of AD structures: the data of the first name
structure, shortened or complete, cut to max_len - 1 bytes, and the data of the first manufacturer structure
of exactly TAG_FF_DATA_MAX_LEN bytes, cut to max_len; false where there is none. -/
theorem adParsers_adEncode (ads : List (UInt8 × List UInt8)) (short : ∀ ad ∈ ads, ad.2.length < 255) (maxLen : Nat) :
    parseScanRspName (adEncode ads) maxLen =
        some ((ads.find? fun ad => ad.1 = btDataNameShortened || ad.1 = btDataNameComplete).map
          fun ad => ad.2.take (Machine.u8 ((maxLen : Int) - 1))) ∧
      parseFfData (adEncode ads) maxLen =
        some ((ads.find? fun ad => ad.1 = btDataManufacturerData && ad.2.length = tagFfDataMaxLen).map
          fun ad => ad.2.take maxLen) :=
  ⟨adFindLoop_adEncode _ _ ads short, adFindLoop_adEncode _ _ ads short⟩

theorem adParsers_adEncode_flags_name :
    parseScanRspName (adEncode [(0x01, [0x06]), (0x09, [0x50, 0x45, 0x54])]) advNameMaxLen =
        some (([((0x01 : UInt8), [(0x06 : UInt8)]), (0x09, [0x50, 0x45, 0x54])].find? fun ad =>
          ad.1 = btDataNameShortened || ad.1 = btDataNameComplete).map
            fun ad => ad.2.take (Machine.u8 ((advNameMaxLen : Int) - 1))) ∧
      parseFfData (adEncode [(0x01, [0x06]), (0x09, [0x50, 0x45, 0x54])]) advNameMaxLen =
        some (([((0x01 : UInt8), [(0x06 : UInt8)]), (0x09, [0x50, 0x45, 0x54])].find? fun ad =>
          ad.1 = btDataManufacturerData && ad.2.length = tagFfDataMaxLen).map fun ad => ad.2.take advNameMaxLen) :=
  adParsers_adEncode [(0x01, [0x06]), (0x09, [0x50, 0x45, 0x54])] (by decide) advNameMaxLen

def isUuidAd (ad : UInt8 × List UInt8) : Bool := ad.1 = btDataUuid16Some

def isBatteryAd (ad : UInt8 × List UInt8) : Bool :=
  ad.1 = btDataUuid32Some && 8 ≤ ad.2.length && ad.2.getD 6 0 = 0x02

def payloadSpec (ads : List (UInt8 × List UInt8)) (result : ScanRspPayload) (uuidFound batteryFound : Bool) :
    ScanRspPayload × Bool :=
  let uuid := if uuidFound then none else ads.find? isUuidAd
  let battery := if batteryFound then none else ads.find? isBatteryAd
  (⟨(uuid.map fun ad => ad.2.take uuidMaxLen).getD result.uuid,
    (battery.map fun ad => ad.2.getD 7 0).getD result.batteryPercent⟩,
    uuidFound || batteryFound || uuid.isSome || battery.isSome)

section PayloadSpec

variable {ad : UInt8 × List UInt8} {rest : List (UInt8 × List UInt8)} {result : ScanRspPayload}
  {uuidFound batteryFound : Bool}

theorem payloadSpec_skip (uuidSeen : isUuidAd ad → uuidFound) (batterySeen : isBatteryAd ad → batteryFound) :
    payloadSpec (ad :: rest) result uuidFound batteryFound = payloadSpec rest result uuidFound batteryFound := by
  cases uuidFound <;> cases batteryFound <;> simp_all [payloadSpec]

theorem payloadSpec_uuid (uuid : isUuidAd ad) (notBattery : isBatteryAd ad = false) :
    payloadSpec (ad :: rest) result false batteryFound =
      payloadSpec rest { result with uuid := ad.2.take uuidMaxLen } true batteryFound := by
  cases batteryFound <;> simp [payloadSpec, uuid, notBattery]

theorem payloadSpec_battery (battery : isBatteryAd ad) (notUuid : isUuidAd ad = false) :
    payloadSpec (ad :: rest) result uuidFound false =
      payloadSpec rest { result with batteryPercent := ad.2.getD 7 0 } uuidFound true := by
  cases uuidFound <;> simp [payloadSpec, battery, notUuid]

end PayloadSpec

theorem parseScanRspPayloadLoop_structure {type : UInt8} {data : List UInt8} (more : List UInt8)
    (short : data.length < 255) (result : ScanRspPayload) (uuidFound batteryFound : Bool) :
    parseScanRspPayloadLoop result uuidFound batteryFound (UInt8.ofNat (data.length + 1) :: type :: (data ++ more)) =
      if type = btDataUuid16Some ∧ !uuidFound then
        parseScanRspPayloadLoop { result with uuid := data.take uuidMaxLen } true batteryFound more
      else if type = btDataUuid32Some ∧ !batteryFound ∧ data.length ≥ 8 then
        if data.getD 6 0 = 0x02 then
          parseScanRspPayloadLoop { result with batteryPercent := data.getD 7 0 } uuidFound true more
        else parseScanRspPayloadLoop result uuidFound batteryFound more
      else parseScanRspPayloadLoop result uuidFound batteryFound more := by
  have length := toNat_lengthByte short
  have pulled : netBufSimplePullMem (data ++ more) ((UInt8.ofNat (data.length + 1)).toNat - 1) = some (data, more) := by
    rw [length, Nat.add_sub_cancel, netBufSimplePullMem_of_le (by simp), List.take_left, List.drop_left]
  rw [parseScanRspPayloadLoop, if_neg (by rw [← UInt8.toNat_inj, length]; simp),
    if_neg (by simp only [List.length_cons, List.length_append, length]; omega)]
  dsimp only
  rw [pulled]
  simp only [length, Nat.add_sub_cancel]

/-- parse_scan_rsp_payload reads the UUID and the battery level of the structures laid out in a scan
response. -/
theorem parseScanRspPayloadLoop_adEncode (ads : List (UInt8 × List UInt8)) (short : ∀ ad ∈ ads, ad.2.length < 255)
    (result : ScanRspPayload) (uuidFound batteryFound : Bool) :
    parseScanRspPayloadLoop result uuidFound batteryFound (adEncode ads) =
      some (payloadSpec ads result uuidFound batteryFound) := by
  induction ads generalizing result uuidFound batteryFound with
  | nil =>
    rw [adEncode, parseScanRspPayloadLoop]
    · simp [payloadSpec]
    · rintro len type data ⟨⟩
  | cons ad rest ih =>
    obtain ⟨type, data⟩ := ad
    have tail := ih fun ad member => short ad (List.mem_cons_of_mem _ member)
    have distinct : btDataUuid32Some ≠ btDataUuid16Some := by decide
    rw [adEncode, parseScanRspPayloadLoop_structure _ (short _ List.mem_cons_self)]
    -- one case for each way the loop treats the structure
    split_ifs with uuidHere batteryHere marked
    · obtain ⟨rfl, unseen⟩ := uuidHere
      rw [Bool.not_eq_true'] at unseen
      subst unseen
      rw [tail, payloadSpec_uuid (by simp [isUuidAd]) (by simp [isBatteryAd, distinct.symm])]
    · obtain ⟨rfl, unseen, long⟩ := batteryHere
      rw [Bool.not_eq_true'] at unseen
      subst unseen
      simp only [List.getD_eq_getElem?_getD] at long marked
      rw [tail, payloadSpec_battery (by simp [isBatteryAd, long, marked]) (by simp [isUuidAd, distinct])]
    · obtain ⟨rfl, -, -⟩ := batteryHere
      simp only [List.getD_eq_getElem?_getD] at marked
      rw [tail, payloadSpec_skip (by simp [isUuidAd, distinct]) (by simp [isBatteryAd, marked])]
    · rw [tail, payloadSpec_skip]
      · intro uuid
        simp only [isUuidAd, decide_eq_true_eq] at uuid
        simpa [uuid] using uuidHere
      · intro battery
        simp only [isBatteryAd, Bool.and_eq_true, decide_eq_true_eq] at battery
        simpa [battery.1.1, battery.1.2] using batteryHere

theorem parseScanRspPayloadLoop_adEncode_battery :
    parseScanRspPayloadLoop ⟨[], 0⟩ false false (adEncode [(0x04, [0, 0, 0, 0, 0, 0, 0x02, 77])]) =
      some (payloadSpec [(0x04, [0, 0, 0, 0, 0, 0, 0x02, 77])] ⟨[], 0⟩ false false) :=
  parseScanRspPayloadLoop_adEncode [(0x04, [0, 0, 0, 0, 0, 0, 0x02, 77])] (by decide) ⟨[], 0⟩ false false

/-- parse_scan_rsp_name and parse_ff_data never pull past the received bytes, nor does
parse_scan_rsp_payload, whatever the bytes are. -/
theorem adParsers_within (buf : List UInt8) (maxLen : Nat) (result : ScanRspPayload) :
    (parseScanRspName buf maxLen).isSome ∧ (parseFfData buf maxLen).isSome ∧
      (parseScanRspPayload buf result).isSome :=
  ⟨adFindLoop_isSome _ _ buf, adFindLoop_isSome _ _ buf, parseScanRspPayloadLoop_isSome result false false buf⟩

/-- The name parse_scan_rsp_name copies leaves room in the buffer for the NUL it writes after it. -/
theorem parseScanRspName_fits {buf name : List UInt8} {maxLen : Nat} (positive : 0 < maxLen) (small : maxLen ≤ 256)
    (parsed : parseScanRspName buf maxLen = some (some name)) : name <:+: buf ∧ name.length < maxLen := by
  obtain ⟨inside, bounded⟩ := adFindLoop_infix _ _ parsed
  have cut : Machine.u8 ((maxLen : Int) - 1) = maxLen - 1 := by
    unfold Machine.u8 Machine.wrap
    omega
  exact ⟨inside, by omega⟩

theorem parseScanRspName_fits_pet :
    [0x50, 0x45, 0x54] <:+: adEncode [(0x09, [0x50, 0x45, 0x54])] ∧ [0x50, 0x45, 0x54].length < advNameMaxLen :=
  parseScanRspName_fits (by decide) (by decide)
    (by rw [parseScanRspName, adFindLoop_adEncode _ _ _ (by decide)]; rfl)

end Encode

end BleScan
