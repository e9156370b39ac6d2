import NrfSdk.Ctrl.SwipeCache
import NrfSdk.Tool.Hex
import NrfSdk.Tool.Coordinate
import NrfSdk.Tool.Validate
import NrfSdk.Lte.Response

/-! The NFC card authorisation of the LL311 application. nfcauth_cmd_handler of my_cmd_setting.c edits
the table of authorised cards (SET, PSET, DEL, CHECK); handle_nfc_card_event and nfc_card_detected of
my_ctrl.c check a swiped card against it; my_verify_openlock of my_lte.c checks the stored position, and
handle_verify_unlock of main.c the position the LTE side reports. The table is the first
nfcauth_card_count entries of nfcauth_cards; the slots past them hold the zeroes the handler's memsets
leave, and that is what a read past the count returns here. Two functions are taken as given:
time_str_to_timestamp (sscanf and the C library's mktime) and is_point_in_circle (a Haversine distance in
double). -/

namespace Ctrl

open Tool

def nfcauthCardMax : Nat := 10

def nfcNoSize : Nat := 32

def cardIdStrSize : Nat := 33

/-- LOCATION_VALIDITY_PERIOD_S. -/
def locationValidityPeriodS : Int := 30 * 60

/-- nfc_auth_card_t; lat_lon_valid and time_valid are only ever set to 0 or 1. -/
structure NfcAuthCard where
  nfcNo : List Char
  lat : Int
  lon : Int
  latLonValid : Bool
  radius : Nat
  startTime : List Char
  endTime : List Char
  timeValid : Bool
  unlockTimes : Int
  deriving DecidableEq, Repr

def zeroAuthCard : NfcAuthCard := ⟨[], 0, 0, false, 0, [], [], false, 0⟩

/-- location_storage_t without the speed, which nothing here reads. -/
structure LocationStorage where
  lat : Int
  lon : Int
  timestampS : Int
  deriving DecidableEq, Repr

/-- The C library under the authorisation: mktime, which reads a struct tm in the device's time zone and
normalises fields out of range, -1 where the time cannot be represented. -/
structure AuthEnv where
  mktime : Mesh.Tm → Int

/-! ## The card table -/

def findAuthCard : List NfcAuthCard → List Char → Option Nat
  | [], _ => none
  | card :: rest, nfcNo => if card.nfcNo = nfcNo then some 0 else (findAuthCard rest nfcNo).map (· + 1)

def consumeUnlock (cards : List NfcAuthCard) (index : Nat) : List NfcAuthCard :=
  let card := cards.getD index zeroAuthCard
  if card.unlockTimes > 0 then cards.set index { card with unlockTimes := card.unlockTimes - 1 } else cards

def nfcauthUnlockTimes (text : List Char) : Option Int :=
  if text.length ≠ 0 then
    if !isIntegerArray text then none
    else if ¬(cAtoi text = -1 ∨ 1 ≤ cAtoi text ∧ cAtoi text ≤ 999) then none
    else some (cAtoi text)
  else some (-1)

def nfcauthCoordinates (latStr lonStr : List Char) : Option (Int × Int × Bool) :=
  match parseCoordinateValue latStr true, parseCoordinateValue lonStr false with
  | some (latValue, latValid), some (lonValue, lonValid) =>
    if latValid ≠ lonValid then none else some (latValue, lonValue, latValid && lonValid)
  | _, _ => none

def nfcauthRadius (radiusStr : List Char) : Option Nat :=
  if radiusStr.length = 0 then none
  else if !isIntegerArray radiusStr then none
  else if cAtoi radiusStr < 50 ∨ cAtoi radiusStr > 999900 then none
  else some (cAtoi radiusStr).toNat

def nfcauthWindow (startTime endTime : List Char) : Option Bool :=
  match validateTimeFormat startTime, validateTimeFormat endTime with
  | some starttimeValid, some endtimeValid =>
    if starttimeValid ≠ endtimeValid then none
    -- strcmp(start_time, end_time) >= 0
    else if starttimeValid ∧ endtimeValid ∧ ¬startTime < endTime then none
    else some (starttimeValid && endtimeValid)
  | _, _ => none

def nfcauthSetCard (parm : List (List Char)) : Option NfcAuthCard :=
  let nfcNo := parm.getD 2 []
  if nfcNo.length = 0 ∨ nfcNo.length ≥ nfcNoSize then none
  else
    (nfcauthCoordinates (parm.getD 3 []) (parm.getD 4 [])).bind fun (latValue, lonValue, latLonValid) =>
    (nfcauthRadius (parm.getD 5 [])).bind fun radius =>
    (nfcauthWindow (parm.getD 6 []) (parm.getD 7 [])).bind fun timeValid =>
    (nfcauthUnlockTimes (parm.getD 8 [])).map fun unlockTimes =>
      ⟨nfcNo, latValue, lonValue, latLonValid, radius, parm.getD 6 [], parm.getD 7 [], timeValid, unlockTimes⟩

def adminCard (nfcNo : List Char) : NfcAuthCard := ⟨nfcNo, 0, 0, false, 0, [], [], false, -1⟩

/-- Where SET and PSET put a card: over the card of the same number, else into the next slot; none when
the ten slots are taken. -/
def nfcauthStore (cards : List NfcAuthCard) (card : NfcAuthCard) : Option (List NfcAuthCard) :=
  match findAuthCard cards card.nfcNo with
  | some index => some (cards.set index card)
  | none => if cards.length ≥ nfcauthCardMax then none else some (cards ++ [card])

def nfcauthDelete (cards : List NfcAuthCard) (nfcNo : List Char) : Option (List NfcAuthCard) :=
  (findAuthCard cards nfcNo).map cards.eraseIdx

def nfcauthCheckList : List NfcAuthCard → List Char
  | [] => []
  | [card] => card.nfcNo
  | card :: next :: rest => card.nfcNo ++ ';' :: nfcauthCheckList (next :: rest)

/-- "RETURN_%s,%d,%d,%u,%s,%s,%u" of one card; the int16_t unlock_times goes to %u as an int. -/
def nfcauthCheckText (card : NfcAuthCard) : List Char :=
  "RETURN_".toList ++ card.nfcNo ++ ',' :: (toString card.lat).toList ++ ',' :: (toString card.lon).toList ++
    ',' :: (toString card.radius).toList ++ ',' :: card.startTime ++ ',' :: card.endTime ++ ',' ::
    (toString (Machine.u32 card.unlockTimes)).toList

def nfcauthFailText (name : List Char) : List Char := "RETURN_".toList ++ name ++ "_FAIL".toList

def nfcauthStoreResponse (cards : List NfcAuthCard) (name : List Char) (card : NfcAuthCard) :
    List Char × List NfcAuthCard :=
  match nfcauthStore cards card with
  | none => ("Card limit reached. Please delete before adding.".toList, cards)
  | some stored => ("RETURN_".toList ++ name ++ "_OK".toList, stored)

def nfcauthCmdHandler (cards : List NfcAuthCard) (parm : List (List Char)) : List Char × List NfcAuthCard :=
  let parmCount := parm.length - 1
  let paramInvalid := (nfcauthFailText (parm.getD 0 []), cards)
  if parmCount < 1 then paramInvalid
  else if parm.getD 1 [] = "SET".toList then
    if parmCount ≠ 8 then paramInvalid
    else match nfcauthSetCard parm with
      | none => paramInvalid
      | some card => nfcauthStoreResponse cards (parm.getD 0 []) card
  else if parm.getD 1 [] = "PSET".toList then
    if parmCount ≠ 2 then paramInvalid
    else if (parm.getD 2 []).length = 0 ∨ (parm.getD 2 []).length ≥ nfcNoSize then paramInvalid
    else nfcauthStoreResponse cards (parm.getD 0 []) (adminCard (parm.getD 2 []))
  else if parm.getD 1 [] = "DEL".toList then
    if parmCount ≠ 2 then paramInvalid
    else if parm.getD 2 [] = "ALL".toList then ("NFC Delete ALL Success.".toList, [])
    else match nfcauthDelete cards (parm.getD 2 []) with
      | some remaining => ("NFC ".toList ++ parm.getD 2 [] ++ " Delete Success.".toList, remaining)
      | none => paramInvalid
  else if parm.getD 1 [] = "CHECK".toList then
    if parmCount = 1 then (if cards = [] then "check count is null".toList else nfcauthCheckList cards, cards)
    else if parmCount = 2 then
      match findAuthCard cards (parm.getD 2 []) with
      | some index => (nfcauthCheckText (cards.getD index zeroAuthCard), cards)
      | none => paramInvalid
    else paramInvalid
  else paramInvalid

/-! ## Checking a swiped card -/

section Detection

variable (env : AuthEnv)

/-- is_time_in_range: -1 where a bound does not convert, else whether the time lies between them. -/
def isTimeInRange (startTime endTime : List Char) (currentTs : Int) : Int :=
  let startTs := timeStrToTimestamp env.mktime startTime
  let endTs := timeStrToTimestamp env.mktime endTime
  if startTs = -1 ∨ endTs = -1 then -1
  else if currentTs ≥ startTs ∧ currentTs ≤ endTs then 1 else 0

/-- What nfc_card_detected returns and writes: the result, the index it stores to *card_index for a card
it finds, and the table. -/
structure Detection where
  ret : Int
  cardIndex : Option Nat
  cards : List NfcAuthCard

def nfcCardDetected (cards : List NfcAuthCard) (cardId : List Char) (currentTime : Int) : Detection :=
  match findAuthCard cards cardId with
  | none => ⟨-1, none, cards⟩
  | some index =>
    let currentCard := cards.getD index zeroAuthCard
    if currentCard.timeValid ∧
        (currentTime = -1 ∨ isTimeInRange env currentCard.startTime currentCard.endTime currentTime ≠ 1) then
      ⟨-1, some index, cards⟩
    else if currentCard.unlockTimes = 0 then ⟨-1, some index, cards⟩
    else if currentCard.latLonValid then ⟨1, some index, cards⟩
    else ⟨0, some index, consumeUnlock cards index⟩

end Detection

def myCheckLocationValid (point : LocationStorage) (currentTime : Int) : Bool :=
  if point.timestampS = 0 then false
  else
    let elapsedTime := currentTime - point.timestampS
    !(elapsedTime < 0 || elapsedTime > locationValidityPeriodS)

/-- The messages the authorisation sends to the other threads and the LTE side. -/
inductive AuthOutput where
  /-- MY_MSG_BLE_NFCTRIG_EVENT with the card string. -/
  | nfcTrigEvent (cardId : List Char)
  /-- MY_MSG_LTE_PWRON. -/
  | ltePwron
  /-- send_alarm_message_to_lte(ALARM_NFC, card string). -/
  | nfcAlarm (cardId : List Char)
  /-- MY_MSG_CTRL_OPENLOCKING. -/
  | openLock
  /-- my_set_buzzer_mode(BUZZER_ERROR_TONE). -/
  | errorTone
  /-- A line written to the LTE UART by lte_send_command. -/
  | lteLine (line : List Char)
  /-- The response to a BLE command. -/
  | bleResponse (text : List Char)
  deriving DecidableEq, Repr

/-- The globals the authorisation reads and writes. -/
structure AuthState where
  /-- gConfigParam.nfcauth_config: the first nfcauth_card_count cards. -/
  cards : List NfcAuthCard
  /-- s_nfc_card_cache. -/
  cache : Nat → NfcCardCache
  /-- g_nfc_card_index. -/
  nfcCardIndex : Nat
  /-- g_last_card_index. -/
  lastCardIndex : Int
  /-- g_location_point. -/
  locationPoint : LocationStorage

section Handlers

variable (env : AuthEnv)

/-- my_verify_openlock at the time my_get_system_time_sec returns: with a fresh stored position, open when
it lies in the circle of the card at g_nfc_card_index and forget the card; else ask the LTE side for a
position (RETRANSMIT_CHECK_ENABLED is 0, so through lte_send_command). -/
def myVerifyOpenlock (s : AuthState) (currentTime : Int) : AuthState × List AuthOutput :=
  if myCheckLocationValid s.locationPoint currentTime then
    let card := s.cards.getD s.nfcCardIndex zeroAuthCard
    if isPointInCircle s.locationPoint.lat s.locationPoint.lon card.lat card.lon card.radius then
      ({ s with cards := consumeUnlock s.cards s.nfcCardIndex, lastCardIndex := -1 }, [.openLock])
    else ({ s with lastCardIndex := -1 }, [])
  else (s, [.lteLine (Lte.lteSendCommand "LOCATION".toList (some (toString s.nfcCardIndex).toList))])

def cardIdString (cardId : List UInt8) : List Char :=
  ((hex2hexstr cardId cardIdStrSize).getD []).takeWhile (· ≠ '\x00')

def nfcCardAuthorise (s : AuthState) (cardIdStr : List Char) (currentTime : Int) : AuthState × List AuthOutput :=
  let sent := [AuthOutput.nfcTrigEvent cardIdStr, .ltePwron, .nfcAlarm cardIdStr]
  let detection := nfcCardDetected env s.cards cardIdStr currentTime
  let s := { s with cards := detection.cards, nfcCardIndex := detection.cardIndex.getD s.nfcCardIndex }
  if detection.ret = 0 then (s, sent ++ [.openLock])
  else if detection.ret = 1 then
    -- a second swipe of the card while its position is awaited is ignored
    if s.lastCardIndex = s.nfcCardIndex then (s, sent)
    else
      let verified := myVerifyOpenlock { s with lastCardIndex := s.nfcCardIndex } currentTime
      (verified.1, sent ++ verified.2)
  else (s, sent ++ [.errorTone])

/-- handle_nfc_card_event for the id_len bytes of a card, with the times time(NULL) and
my_get_system_time_sec return and whether MY_MALLOC_BUFFER found a buffer for the trigger message; none where
is_need_location_upload copies past the cache's card_id. -/
def handleNfcCardEvent (s : AuthState) (cardId : List UInt8) (swipeTime currentTime : Int) (allocated : Bool) :
    Option (AuthState × List AuthOutput) :=
  match isNeedLocationUpload s.cache cardId cardId.length swipeTime with
  | none => none
  | some (ret, cache) =>
    if ret = 0 then some ({ s with cache := cache }, [])
    -- the swipe stays in the cache, and nothing is sent or checked
    else if !allocated then some ({ s with cache := cache }, [])
    else some (nfcCardAuthorise env { s with cache := cache } (cardIdString cardId) currentTime)

def verifyReportedPosition (s : AuthState) (latValue lonValue currentTime : Int) : AuthState × List AuthOutput :=
  let s := { s with locationPoint := ⟨latValue, lonValue, currentTime⟩ }
  let card := s.cards.getD s.nfcCardIndex zeroAuthCard
  if !isPointInCircle latValue lonValue card.lat card.lon card.radius then (s, [])
  else ({ s with cards := consumeUnlock s.cards s.nfcCardIndex }, [.openLock])

def handleVerifyUnlock (s : AuthState) (params : List Char) (paramCount : Nat) (currentTime : Int) :
    AuthState × List AuthOutput :=
  if paramCount < 1 then (s, [])
  else if (myGetStrAtPos params 0 ',' 16).1 = "FAIL".toList then (s, [.errorTone])
  else if !(myGetStrAtPos params 0 ',' 16).2 then (s, [])
  else if paramCount ≠ 4 then (s, [])
  -- a response for another card than the last one found is dropped
  else if cAtoi (myGetStrAtPos params 1 ',' 8).1 ≠ s.nfcCardIndex then (s, [])
  else
    let s := { s with lastCardIndex := -1 }
    match parseCoordinateValue (myGetStrAtPos params 2 ',' 16).1 true,
        parseCoordinateValue (myGetStrAtPos params 3 ',' 16).1 false with
    | some (latValue, latValid), some (lonValue, lonValid) =>
      if !lonValid || !latValid then (s, [])
      else verifyReportedPosition s latValue lonValue currentTime
    | _, _ => (s, [])

end Handlers

/-! ## Lookup in the table -/

section Lookup

variable {cards : List NfcAuthCard} {nfcNo : List Char} {index : Nat}

theorem findAuthCard_lt (found : findAuthCard cards nfcNo = some index) : index < cards.length := by
  induction cards generalizing index with
  | nil => cases found
  | cons card rest ih =>
    simp only [findAuthCard] at found
    split_ifs at found with same
    · cases found
      simp
    · obtain ⟨inner, innerFound, rfl⟩ := Option.map_eq_some_iff.mp found
      simpa using ih innerFound

theorem findAuthCard_nfcNo (found : findAuthCard cards nfcNo = some index) :
    (cards.getD index zeroAuthCard).nfcNo = nfcNo := by
  induction cards generalizing index with
  | nil => cases found
  | cons card rest ih =>
    simp only [findAuthCard] at found
    split_ifs at found with same
    · cases found
      exact same
    · obtain ⟨inner, innerFound, rfl⟩ := Option.map_eq_some_iff.mp found
      rw [List.getD_cons_succ]
      exact ih innerFound

theorem findAuthCard_eq_none_iff : findAuthCard cards nfcNo = none ↔ nfcNo ∉ cards.map NfcAuthCard.nfcNo := by
  induction cards with
  | nil => simp [findAuthCard]
  | cons card rest ih =>
    simp only [findAuthCard, List.map_cons, List.mem_cons, not_or]
    split_ifs with same
    · simp [same]
    · rw [Option.map_eq_none_iff, ih]
      exact ⟨fun absent => ⟨Ne.symm same, absent⟩, fun both => both.2⟩

theorem findAuthCard_getD (nodup : (cards.map NfcAuthCard.nfcNo).Nodup) (inside : index < cards.length) :
    findAuthCard cards (cards.getD index zeroAuthCard).nfcNo = some index := by
  induction cards generalizing index with
  | nil => cases inside
  | cons card rest ih =>
    rw [List.map_cons, List.nodup_cons] at nodup
    cases index with
    | zero => simp [findAuthCard]
    | succ k =>
      have later : k < rest.length := by simpa using inside
      have other : card.nfcNo ≠ (rest.getD k zeroAuthCard).nfcNo := by
        intro same
        apply nodup.1
        rw [same, List.getD_eq_getElem _ _ later]
        exact List.mem_map_of_mem (List.getElem_mem later)
      rw [List.getD_cons_succ, findAuthCard, if_neg other, ih nodup.2 later]
      rfl

end Lookup

/-! ## Spending a use -/

section Consume

variable {cards : List NfcAuthCard} {index : Nat}

theorem getD_set_zero (cards : List NfcAuthCard) (index j : Nat) (card : NfcAuthCard) :
    (cards.set index card).getD j zeroAuthCard =
      if index = j ∧ index < cards.length then card else cards.getD j zeroAuthCard := by
  simp only [List.getD_eq_getElem?_getD, List.getElem?_set]
  by_cases here : index = j
  · subst here
    by_cases inside : index < cards.length <;> simp [inside]
  · simp [here]

@[simp] theorem length_consumeUnlock : (consumeUnlock cards index).length = cards.length := by
  unfold consumeUnlock
  dsimp only
  split_ifs <;> simp

theorem map_nfcNo_set {card : NfcAuthCard} (same : card.nfcNo = (cards.getD index zeroAuthCard).nfcNo) :
    (cards.set index card).map NfcAuthCard.nfcNo = cards.map NfcAuthCard.nfcNo := by
  apply List.ext_getElem (by simp)
  intro j inSet inOld
  simp only [List.getElem_map, List.getElem_set]
  split_ifs with here
  · subst here
    rw [same, List.getD_eq_getElem _ _ (by simpa using inOld)]
  · rfl

@[simp] theorem map_nfcNo_consumeUnlock :
    (consumeUnlock cards index).map NfcAuthCard.nfcNo = cards.map NfcAuthCard.nfcNo := by
  unfold consumeUnlock
  dsimp only
  split_ifs
  · exact map_nfcNo_set rfl
  · rfl

theorem getD_consumeUnlock (j : Nat) : (consumeUnlock cards index).getD j zeroAuthCard =
    if j = index ∧ (cards.getD index zeroAuthCard).unlockTimes > 0 then
      { cards.getD index zeroAuthCard with unlockTimes := (cards.getD index zeroAuthCard).unlockTimes - 1 }
    else cards.getD j zeroAuthCard := by
  unfold consumeUnlock
  dsimp only
  by_cases positive : (cards.getD index zeroAuthCard).unlockTimes > 0
  · have inside : index < cards.length := by
      by_contra outside
      rw [List.getD_eq_default _ _ (by omega)] at positive
      simp [zeroAuthCard] at positive
    rw [if_pos positive, getD_set_zero]
    by_cases here : j = index
    · rw [if_pos ⟨here.symm, inside⟩, if_pos ⟨here, positive⟩]
    · rw [if_neg (fun both => here both.1.symm), if_neg (fun both => here both.1)]
  · rw [if_neg positive, if_neg (fun both => positive both.2)]

theorem unlockTimes_consumeUnlock_le (j : Nat) :
    ((consumeUnlock cards index).getD j zeroAuthCard).unlockTimes ≤ (cards.getD j zeroAuthCard).unlockTimes := by
  rw [getD_consumeUnlock]
  split_ifs with same
  · rw [same.1]
    exact Int.sub_le_self _ (by decide)
  · exact Int.le_refl _

end Consume

/-! ## The well-formed table -/

/-- What a stored card satisfies: the checks of SET, or the admin card of PSET, with the uses it has
left. -/
structure NfcAuthCard.Wf (card : NfcAuthCard) : Prop where
  nfcNo_pos : 0 < card.nfcNo.length
  nfcNo_lt : card.nfcNo.length < nfcNoSize
  unlockTimes_range : card.unlockTimes = -1 ∨ 0 ≤ card.unlockTimes ∧ card.unlockTimes ≤ 999
  area : card.latLonValid = true → 50 ≤ card.radius ∧ card.radius ≤ 999900 ∧
    -coordinateLimit true ≤ card.lat ∧ card.lat ≤ coordinateLimit true ∧
    -coordinateLimit false ≤ card.lon ∧ card.lon ≤ coordinateLimit false
  window : card.timeValid = true →
    TimeStrValid card.startTime ∧ TimeStrValid card.endTime ∧ card.startTime < card.endTime

/-- The table the handler keeps: at most ten cards, no number twice, every card well formed. -/
structure CardsWf (cards : List NfcAuthCard) : Prop where
  length_le : cards.length ≤ nfcauthCardMax
  nodup : (cards.map NfcAuthCard.nfcNo).Nodup
  card_wf : ∀ card ∈ cards, card.Wf

section Wf

variable {cards : List NfcAuthCard} {card : NfcAuthCard}

theorem CardsWf.nil : CardsWf [] := ⟨by decide, List.nodup_nil, fun _ member => nomatch member⟩

theorem NfcAuthCard.Wf.spend (wf : card.Wf) (positive : card.unlockTimes > 0) :
    ({ card with unlockTimes := card.unlockTimes - 1 } : NfcAuthCard).Wf where
  nfcNo_pos := wf.nfcNo_pos
  nfcNo_lt := wf.nfcNo_lt
  unlockTimes_range := by
    rcases wf.unlockTimes_range with unlimited | ⟨_, high⟩
    · simp only [unlimited] at positive
      omega
    · exact .inr ⟨by simp only; omega, by simp only; omega⟩
  area := wf.area
  window := wf.window

theorem CardsWf.getD_wf (wf : CardsWf cards) {index : Nat} (inside : index < cards.length) :
    (cards.getD index zeroAuthCard).Wf := by
  rw [List.getD_eq_getElem _ _ inside]
  exact wf.card_wf _ (List.getElem_mem inside)

theorem CardsWf.consumeUnlock (wf : CardsWf cards) (index : Nat) : CardsWf (consumeUnlock cards index) where
  length_le := by simpa using wf.length_le
  nodup := by simpa using wf.nodup
  card_wf := by
    intro spent member
    obtain ⟨j, inside, rfl⟩ := List.getElem_of_mem member
    rw [← List.getD_eq_getElem _ zeroAuthCard inside, getD_consumeUnlock]
    rw [length_consumeUnlock] at inside
    split_ifs with here
    · have stored : index < cards.length := here.1 ▸ inside
      exact (wf.getD_wf stored).spend here.2
    · exact wf.getD_wf inside

theorem CardsWf.store (wf : CardsWf cards) (cardWf : card.Wf) {stored : List NfcAuthCard}
    (put : nfcauthStore cards card = some stored) : CardsWf stored := by
  unfold nfcauthStore at put
  split at put
  next index found =>
    cases put
    have inside := findAuthCard_lt found
    have same := findAuthCard_nfcNo found
    refine ⟨by simpa using wf.length_le, ?_, ?_⟩
    · -- the card takes the slot of its own number, so the numbers stay as they were
      rw [map_nfcNo_set same.symm]
      exact wf.nodup
    · intro member memberIn
      rcases List.mem_or_eq_of_mem_set memberIn with old | rfl
      · exact wf.card_wf _ old
      · exact cardWf
  next absent =>
    split_ifs at put with full
    cases put
    refine ⟨by simp only [List.length_append, List.length_singleton, nfcauthCardMax] at full ⊢; omega, ?_, ?_⟩
    · rw [List.map_append, List.nodup_append]
      refine ⟨wf.nodup, List.nodup_singleton _, ?_⟩
      intro number old other otherIn
      rw [List.map_singleton, List.mem_singleton] at otherIn
      subst otherIn
      rintro rfl
      exact (findAuthCard_eq_none_iff.mp absent) old
    · intro member memberIn
      rcases List.mem_append.mp memberIn with old | added
      · exact wf.card_wf _ old
      · rw [List.mem_singleton.mp added]
        exact cardWf

theorem CardsWf.delete (wf : CardsWf cards) {nfcNo : List Char} {remaining : List NfcAuthCard}
    (deleted : nfcauthDelete cards nfcNo = some remaining) : CardsWf remaining := by
  obtain ⟨index, -, rfl⟩ := Option.map_eq_some_iff.mp deleted
  have sub := List.eraseIdx_sublist cards index
  exact ⟨le_trans sub.length_le wf.length_le, (sub.map _).nodup wf.nodup,
    fun card member => wf.card_wf card (sub.subset member)⟩

end Wf

/-! ## What SET and PSET store -/

section Stored

theorem parseCoordinateValue_range {coordStr : List Char} {isLatitude : Bool} {value : Int}
    (parsed : parseCoordinateValue coordStr isLatitude = some (value, true)) :
    -coordinateLimit isLatitude ≤ value ∧ value ≤ coordinateLimit isLatitude := by
  obtain ⟨_, _, _, _, _, _, low, high⟩ := (parseCoordinateValue_eq_some coordStr isLatitude value).mp parsed
  exact ⟨low, high⟩

theorem nfcauthUnlockTimes_range {text : List Char} {unlockTimes : Int}
    (parsed : nfcauthUnlockTimes text = some unlockTimes) :
    unlockTimes = -1 ∨ 1 ≤ unlockTimes ∧ unlockTimes ≤ 999 := by
  unfold nfcauthUnlockTimes at parsed
  split_ifs at parsed with nonempty notInteger inRange
  · cases parsed
    exact inRange
  · cases parsed
    exact .inl rfl

theorem nfcauthCoordinates_area {latStr lonStr : List Char} {latValue lonValue : Int}
    (parsed : nfcauthCoordinates latStr lonStr = some (latValue, lonValue, true)) :
    -coordinateLimit true ≤ latValue ∧ latValue ≤ coordinateLimit true ∧
      -coordinateLimit false ≤ lonValue ∧ lonValue ≤ coordinateLimit false := by
  unfold nfcauthCoordinates at parsed
  split at parsed
  next latParsed lonParsed =>
    split_ifs at parsed with differ
    simp only [Option.some.injEq, Prod.mk.injEq, Bool.and_eq_true] at parsed
    obtain ⟨rfl, rfl, latValid, lonValid⟩ := parsed
    rw [latValid] at latParsed
    rw [lonValid] at lonParsed
    exact ⟨(parseCoordinateValue_range latParsed).1, (parseCoordinateValue_range latParsed).2,
      (parseCoordinateValue_range lonParsed).1, (parseCoordinateValue_range lonParsed).2⟩
  next => cases parsed

theorem nfcauthRadius_range {radiusStr : List Char} {radius : Nat} (parsed : nfcauthRadius radiusStr = some radius) :
    50 ≤ radius ∧ radius ≤ 999900 := by
  unfold nfcauthRadius at parsed
  split_ifs at parsed with empty notInteger outside
  cases parsed
  omega

theorem nfcauthWindow_valid {startTime endTime : List Char} (parsed : nfcauthWindow startTime endTime = some true) :
    TimeStrValid startTime ∧ TimeStrValid endTime ∧ startTime < endTime := by
  unfold nfcauthWindow at parsed
  split at parsed
  next starttimeValid endtimeValid startParsed endParsed =>
    split_ifs at parsed with mismatch badOrder
    simp only [Option.some.injEq, Bool.and_eq_true] at parsed
    obtain ⟨rfl, rfl⟩ := parsed
    refine ⟨(validateTimeFormat_iff _).mp startParsed,
      (validateTimeFormat_iff _).mp endParsed, ?_⟩
    -- with both times given, the order check is what failed to reject them
    simpa using badOrder
  next => cases parsed

theorem nfcauthSetCard_wf {parm : List (List Char)} {card : NfcAuthCard} (set : nfcauthSetCard parm = some card) :
    card.Wf := by
  unfold nfcauthSetCard at set
  dsimp only at set
  split_ifs at set with badNumber
  obtain ⟨⟨latValue, lonValue, latLonValid⟩, coordinates, set⟩ := Option.bind_eq_some_iff.mp set
  obtain ⟨radius, radiusParsed, set⟩ := Option.bind_eq_some_iff.mp set
  obtain ⟨timeValid, window, set⟩ := Option.bind_eq_some_iff.mp set
  obtain ⟨unlockTimes, unlockParsed, rfl⟩ := Option.map_eq_some_iff.mp set
  refine ⟨by simp only; omega, by simp only; omega, ?_, ?_, ?_⟩
  · simp only
    rcases nfcauthUnlockTimes_range unlockParsed with unlimited | limited
    · exact .inl unlimited
    · exact .inr ⟨by omega, limited.2⟩
  · intro given
    subst given
    exact ⟨(nfcauthRadius_range radiusParsed).1, (nfcauthRadius_range radiusParsed).2,
      nfcauthCoordinates_area coordinates⟩
  · intro given
    subst given
    exact nfcauthWindow_valid window

theorem adminCard_wf {nfcNo : List Char} (nonempty : 0 < nfcNo.length) (short : nfcNo.length < nfcNoSize) :
    (adminCard nfcNo).Wf :=
  ⟨nonempty, short, .inl rfl, (fun given => nomatch given), (fun given => nomatch given)⟩

end Stored

/-! ## The command handler -/

section Handler

variable {cards : List NfcAuthCard} {name : List Char} {card : NfcAuthCard}

theorem nfcauthStoreResponse_table (cards : List NfcAuthCard) (name : List Char) (card : NfcAuthCard) :
    (nfcauthStoreResponse cards name card).2 = cards ∨
      nfcauthStore cards card = some (nfcauthStoreResponse cards name card).2 := by
  unfold nfcauthStoreResponse
  split
  next full => exact .inl rfl
  next stored put => exact .inr put

theorem CardsWf.storeResponse (wf : CardsWf cards) (cardWf : card.Wf) :
    CardsWf (nfcauthStoreResponse cards name card).2 := by
  rcases nfcauthStoreResponse_table cards name card with same | put
  · rw [same]
    exact wf
  · exact wf.store cardWf put

theorem CardsWf.nfcauthCmdHandler (wf : CardsWf cards) (parm : List (List Char)) :
    CardsWf (nfcauthCmdHandler cards parm).2 := by
  unfold Ctrl.nfcauthCmdHandler
  dsimp only
  split_ifs with few isSet count isPset pCount badNumber isDel dCount isAll isCheck one two
  · exact wf
  · exact wf
  · split
    · exact wf
    · exact wf.storeResponse (nfcauthSetCard_wf ‹_›)
  · exact wf
  · exact wf
  · exact wf.storeResponse (adminCard_wf (by omega) (by omega))
  · exact wf
  · exact CardsWf.nil
  · split
    · exact wf.delete ‹_›
    · exact wf
  · exact wf
  · exact wf
  · split <;> exact wf
  · exact wf
  · exact wf

theorem nfcauthStoreResponse_ok (moved : (nfcauthStoreResponse cards name card).2 ≠ cards) :
    (nfcauthStoreResponse cards name card).1 = "RETURN_".toList ++ name ++ "_OK".toList := by
  unfold nfcauthStoreResponse at moved ⊢
  split
  next full =>
    rw [full] at moved
    exact absurd rfl moved
  next => rfl

theorem nfcauthCmdHandler_changed (parm : List (List Char)) (changed : (nfcauthCmdHandler cards parm).2 ≠ cards) :
    (nfcauthCmdHandler cards parm).1 = "RETURN_".toList ++ parm.getD 0 [] ++ "_OK".toList ∨
      (nfcauthCmdHandler cards parm).1 = "NFC Delete ALL Success.".toList ∨
      (nfcauthCmdHandler cards parm).1 = "NFC ".toList ++ parm.getD 2 [] ++ " Delete Success.".toList := by
  revert changed
  unfold Ctrl.nfcauthCmdHandler
  dsimp only
  split_ifs
  · exact fun changed => absurd rfl changed
  · exact fun changed => absurd rfl changed
  · split
    · exact fun changed => absurd rfl changed
    · exact fun changed => .inl (nfcauthStoreResponse_ok changed)
  · exact fun changed => absurd rfl changed
  · exact fun changed => absurd rfl changed
  · exact fun changed => .inl (nfcauthStoreResponse_ok changed)
  · exact fun changed => absurd rfl changed
  · exact fun _ => .inr (.inl rfl)
  · split
    · exact fun _ => .inr (.inr rfl)
    · exact fun changed => absurd rfl changed
  · exact fun changed => absurd rfl changed
  · exact fun changed => absurd rfl changed
  · split <;> exact fun changed => absurd rfl changed
  · exact fun changed => absurd rfl changed
  · exact fun changed => absurd rfl changed

end Handler

end Ctrl
