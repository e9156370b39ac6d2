import NrfSdk.Ctrl.NfcAuthTable

/-! The authorisation as a system: the events it answers (a card swiped, a LOCATION response from the LTE
side, an NFCAUTH command over BLE) in any order, the state they share, and what holds along every run. A
swipe or a position report spends at most one use of one card and never changes the numbers in the table;
a command keeps the table well formed. From that, every reachable state keeps the table well formed with
g_nfc_card_index and g_last_card_index in range, and a card with limited uses opens the lock by swipes at
most as many times as it has uses, whatever responses arrive in between. A location response is the one
way to open the lock without spending a use: it opens for the card at g_nfc_card_index with no check of
its uses, so two responses for one card open twice. -/

namespace Ctrl

/-- The events the authorisation answers. -/
inductive AuthEvent where
  /-- handle_nfc_card_event for the id bytes of a card, with the times time(NULL) and
  my_get_system_time_sec return, and the outcome of its MY_MALLOC_BUFFER. -/
  | swipe (cardId : List UInt8) (swipeTime currentTime : Int) (allocated : Bool)
  /-- handle_verify_unlock for the parameters of a LOCATION response and their count. -/
  | locationRsp (params : List Char) (paramCount : Nat) (currentTime : Int)
  /-- nfcauth_cmd_handler for the fields of a command. -/
  | nfcauthCmd (parm : List (List Char))

/-- The card string a swipe checks, none for the other events. -/
def AuthEvent.swipeOf : AuthEvent → Option (List Char)
  | .swipe cardId _ _ _ => some (cardIdString cardId)
  | _ => none

def AuthEvent.isCommand : AuthEvent → Bool
  | .nfcauthCmd _ => true
  | _ => false

section System

variable (env : AuthEnv)

def authStep (s : AuthState) : AuthEvent → Option (AuthState × List AuthOutput)
  | .swipe cardId swipeTime currentTime allocated => handleNfcCardEvent env s cardId swipeTime currentTime allocated
  | .locationRsp params paramCount currentTime => some (handleVerifyUnlock s params paramCount currentTime)
  | .nfcauthCmd parm =>
    some ({ s with cards := (nfcauthCmdHandler s.cards parm).2 }, [.bleResponse (nfcauthCmdHandler s.cards parm).1])

/-- A run of events from a state: the state after them and every message sent, or none where a swipe
copies past the swipe cache. -/
def authRun : AuthState → List AuthEvent → Option (AuthState × List AuthOutput)
  | s, [] => some (s, [])
  | s, event :: rest =>
    match authStep env s event with
    | none => none
    | some (next, sent) =>
      match authRun next rest with
      | none => none
      | some (final, later) => some (final, sent ++ later)

/-- The swipes of a run that open the lock for a card number: swipe events of that card string whose step
sends MY_MSG_CTRL_OPENLOCKING. -/
def swipeOpenings (nfcNo : List Char) : AuthState → List AuthEvent → Nat
  | _, [] => 0
  | s, event :: rest =>
    match authStep env s event with
    | none => 0
    | some (next, sent) =>
      (if event.swipeOf = some nfcNo ∧ AuthOutput.openLock ∈ sent then 1 else 0) + swipeOpenings nfcNo next rest

end System

def AuthState.unlockTimesAt (s : AuthState) (index : Nat) : Int := (s.cards.getD index zeroAuthCard).unlockTimes

/-! ## What a swipe or a position report does to the table -/

def Spends (cards next : List NfcAuthCard) : Prop := next = cards ∨ ∃ index, next = consumeUnlock cards index

section Spends

variable {cards next : List NfcAuthCard}

theorem Spends.refl (cards : List NfcAuthCard) : Spends cards cards := .inl rfl

theorem Spends.consume (cards : List NfcAuthCard) (index : Nat) : Spends cards (consumeUnlock cards index) :=
  .inr ⟨index, rfl⟩

theorem Spends.map_nfcNo (spends : Spends cards next) :
    next.map NfcAuthCard.nfcNo = cards.map NfcAuthCard.nfcNo := by
  rcases spends with rfl | ⟨index, rfl⟩
  · rfl
  · exact map_nfcNo_consumeUnlock

theorem Spends.unlockTimes_le (spends : Spends cards next) (j : Nat) :
    (next.getD j zeroAuthCard).unlockTimes ≤ (cards.getD j zeroAuthCard).unlockTimes := by
  rcases spends with rfl | ⟨index, rfl⟩
  · exact Int.le_refl _
  · exact unlockTimes_consumeUnlock_le j

theorem Spends.limited (spends : Spends cards next) {j : Nat} (limited : 0 ≤ (cards.getD j zeroAuthCard).unlockTimes) :
    0 ≤ (next.getD j zeroAuthCard).unlockTimes := by
  rcases spends with rfl | ⟨index, rfl⟩
  · exact limited
  · rw [getD_consumeUnlock]
    split_ifs with here
    · have positive := here.2
      simp only
      omega
    · exact limited

theorem Spends.length_eq (spends : Spends cards next) : next.length = cards.length := by
  rcases spends with rfl | ⟨index, rfl⟩
  · rfl
  · exact length_consumeUnlock

theorem Spends.nfcNo_getD (spends : Spends cards next) (j : Nat) :
    (next.getD j zeroAuthCard).nfcNo = (cards.getD j zeroAuthCard).nfcNo := by
  rcases spends with rfl | ⟨index, rfl⟩
  · rfl
  · rw [getD_consumeUnlock]
    split_ifs with here
    · rw [here.1]
    · rfl

theorem Spends.wf (spends : Spends cards next) (wf : CardsWf cards) : CardsWf next := by
  rcases spends with rfl | ⟨index, rfl⟩
  · exact wf
  · exact wf.consumeUnlock index

end Spends

/-- What a swipe or a position report does to the table and the two indices: it spends at most one use,
moves g_nfc_card_index to a slot of the table or keeps it, and clears g_last_card_index, keeps it or sets it
to the new g_nfc_card_index. -/
structure AuthState.Moves (s next : AuthState) : Prop where
  spends : Spends s.cards next.cards
  index : next.nfcCardIndex = s.nfcCardIndex ∨ next.nfcCardIndex < s.cards.length
  last : next.lastCardIndex = -1 ∨ next.lastCardIndex = s.lastCardIndex ∨ next.lastCardIndex = next.nfcCardIndex

theorem AuthState.Moves.refl (s : AuthState) : s.Moves s := ⟨Spends.refl _, .inl rfl, .inr (.inl rfl)⟩

section Steps

variable (env : AuthEnv)

theorem nfcCardDetected_cardIndex {cards : List NfcAuthCard} {cardId : List Char} {currentTime : Int} {index : Nat}
    (stored : (nfcCardDetected env cards cardId currentTime).cardIndex = some index) :
    findAuthCard cards cardId = some index := by
  unfold nfcCardDetected at stored
  split at stored
  next => cases stored
  next found =>
    dsimp only at stored
    split_ifs at stored <;> cases stored <;> exact found

theorem nfcCardDetected_spends (cards : List NfcAuthCard) (cardId : List Char) (currentTime : Int) :
    Spends cards (nfcCardDetected env cards cardId currentTime).cards := by
  unfold nfcCardDetected
  split
  next => exact Spends.refl cards
  next index found =>
    dsimp only
    split_ifs
    · exact Spends.refl cards
    · exact Spends.refl cards
    · exact Spends.refl cards
    · exact Spends.consume cards index

theorem nfcCardDetected_of_ret_zero {cards : List NfcAuthCard} {cardId : List Char} {currentTime : Int}
    (passed : (nfcCardDetected env cards cardId currentTime).ret = 0) :
    ∃ index, findAuthCard cards cardId = some index ∧
      (nfcCardDetected env cards cardId currentTime).cardIndex = some index ∧
      (cards.getD index zeroAuthCard).unlockTimes ≠ 0 ∧
      (nfcCardDetected env cards cardId currentTime).cards = consumeUnlock cards index := by
  unfold nfcCardDetected at passed ⊢
  split at passed
  next => cases passed
  next index found =>
    rw [found]
    dsimp only at passed ⊢
    split_ifs at passed ⊢ with outside noUses area
    · simp at passed
    · simp at passed
    · simp at passed
    · exact ⟨index, rfl, rfl, noUses, rfl⟩

theorem nfcCardDetected_of_ret_one {cards : List NfcAuthCard} {cardId : List Char} {currentTime : Int}
    (located : (nfcCardDetected env cards cardId currentTime).ret = 1) :
    ∃ index, findAuthCard cards cardId = some index ∧
      (nfcCardDetected env cards cardId currentTime).cardIndex = some index ∧
      (cards.getD index zeroAuthCard).unlockTimes ≠ 0 ∧
      (nfcCardDetected env cards cardId currentTime).cards = cards := by
  unfold nfcCardDetected at located ⊢
  split at located
  next => cases located
  next index found =>
    rw [found]
    dsimp only at located ⊢
    split_ifs at located ⊢ with outside noUses area
    · simp at located
    · simp at located
    · exact ⟨index, rfl, rfl, noUses, rfl⟩
    · simp at located

theorem myVerifyOpenlock_cards (s : AuthState) (currentTime : Int) :
    (myVerifyOpenlock s currentTime).1.cards =
      if AuthOutput.openLock ∈ (myVerifyOpenlock s currentTime).2 then consumeUnlock s.cards s.nfcCardIndex
      else s.cards := by
  unfold myVerifyOpenlock
  dsimp only
  split_ifs <;> simp_all

theorem myVerifyOpenlock_nfcCardIndex (s : AuthState) (currentTime : Int) :
    (myVerifyOpenlock s currentTime).1.nfcCardIndex = s.nfcCardIndex := by
  unfold myVerifyOpenlock
  dsimp only
  split_ifs <;> rfl

theorem myVerifyOpenlock_lastCardIndex (s : AuthState) (currentTime : Int) :
    (myVerifyOpenlock s currentTime).1.lastCardIndex = -1 ∨
      (myVerifyOpenlock s currentTime).1.lastCardIndex = s.lastCardIndex := by
  unfold myVerifyOpenlock
  dsimp only
  split_ifs
  · exact .inl rfl
  · exact .inl rfl
  · exact .inr rfl

theorem handleVerifyUnlock_moves (s : AuthState) (params : List Char) (paramCount : Nat) (currentTime : Int) :
    s.Moves (handleVerifyUnlock s params paramCount currentTime).1 := by
  unfold handleVerifyUnlock
  dsimp only
  split_ifs
  · exact AuthState.Moves.refl s
  · exact AuthState.Moves.refl s
  · exact AuthState.Moves.refl s
  · exact AuthState.Moves.refl s
  · exact AuthState.Moves.refl s
  · split
    · split_ifs
      · exact ⟨Spends.refl _, .inl rfl, .inl rfl⟩
      · unfold verifyReportedPosition
        dsimp only
        split_ifs
        · exact ⟨Spends.refl _, .inl rfl, .inl rfl⟩
        · exact ⟨Spends.consume _ _, .inl rfl, .inl rfl⟩
    · exact ⟨Spends.refl _, .inl rfl, .inl rfl⟩

theorem openLock_not_mem_sent (cardIdStr : List Char) :
    AuthOutput.openLock ∉ [AuthOutput.nfcTrigEvent cardIdStr, .ltePwron, .nfcAlarm cardIdStr] := by
  simp

theorem nfcCardDetected_index (s : AuthState) (cardIdStr : List Char) (currentTime : Int) :
    (nfcCardDetected env s.cards cardIdStr currentTime).cardIndex.getD s.nfcCardIndex = s.nfcCardIndex ∨
      (nfcCardDetected env s.cards cardIdStr currentTime).cardIndex.getD s.nfcCardIndex < s.cards.length := by
  cases stored : (nfcCardDetected env s.cards cardIdStr currentTime).cardIndex with
  | none => exact .inl rfl
  | some index => exact .inr (findAuthCard_lt (nfcCardDetected_cardIndex env stored))

theorem nfcCardAuthorise_moves (s : AuthState) (cardIdStr : List Char) (currentTime : Int) :
    s.Moves (nfcCardAuthorise env s cardIdStr currentTime).1 := by
  have spent := nfcCardDetected_spends env s.cards cardIdStr currentTime
  have indexed := nfcCardDetected_index env s cardIdStr currentTime
  unfold nfcCardAuthorise
  dsimp only
  split_ifs with zero one waiting
  · exact ⟨spent, indexed, .inr (.inl rfl)⟩
  · exact ⟨spent, indexed, .inr (.inl rfl)⟩
  · -- the card waits for a position: nothing is spent before my_verify_openlock
    obtain ⟨_, _, _, _, kept⟩ := nfcCardDetected_of_ret_one env one
    refine ⟨?_, ?_, ?_⟩
    · rw [myVerifyOpenlock_cards]
      split_ifs
      · rw [kept]
        exact Spends.consume _ _
      · rw [kept]
        exact Spends.refl _
    · rw [myVerifyOpenlock_nfcCardIndex]
      exact indexed
    · rcases myVerifyOpenlock_lastCardIndex _ currentTime with cleared | kept
      · exact .inl cleared
      · rw [myVerifyOpenlock_nfcCardIndex]
        exact .inr (.inr kept)
  · exact ⟨spent, indexed, .inr (.inl rfl)⟩

theorem nfcCardAuthorise_openLock (s : AuthState) (cardIdStr : List Char) (currentTime : Int)
    (opened : AuthOutput.openLock ∈ (nfcCardAuthorise env s cardIdStr currentTime).2) :
    ∃ index, findAuthCard s.cards cardIdStr = some index ∧ (s.cards.getD index zeroAuthCard).unlockTimes ≠ 0 ∧
      (nfcCardAuthorise env s cardIdStr currentTime).1.cards = consumeUnlock s.cards index := by
  unfold nfcCardAuthorise at opened ⊢
  dsimp only at opened ⊢
  split_ifs at opened ⊢ with zero one waiting
  · obtain ⟨index, found, _, uses, spent⟩ := nfcCardDetected_of_ret_zero env zero
    exact ⟨index, found, uses, spent⟩
  · exact absurd opened (openLock_not_mem_sent cardIdStr)
  · obtain ⟨index, found, stored, uses, kept⟩ := nfcCardDetected_of_ret_one env one
    refine ⟨index, found, uses, ?_⟩
    rcases List.mem_append.mp opened with early | verified
    · exact absurd early (openLock_not_mem_sent cardIdStr)
    rw [myVerifyOpenlock_cards, if_pos verified]
    simp only [kept, stored, Option.getD_some]
  · rcases List.mem_append.mp opened with early | late
    · exact absurd early (openLock_not_mem_sent cardIdStr)
    · simp at late

theorem handleNfcCardEvent_moves {s next : AuthState} {cardId : List UInt8} {swipeTime currentTime : Int}
    {allocated : Bool} {sent : List AuthOutput}
    (stepped : handleNfcCardEvent env s cardId swipeTime currentTime allocated = some (next, sent)) :
    s.Moves next := by
  unfold handleNfcCardEvent at stepped
  split at stepped
  · cases stepped
  next ret cache _ =>
    split_ifs at stepped with held failed
    · cases stepped
      exact ⟨Spends.refl _, .inl rfl, .inr (.inl rfl)⟩
    · cases stepped
      exact ⟨Spends.refl _, .inl rfl, .inr (.inl rfl)⟩
    · have moves := nfcCardAuthorise_moves env { s with cache := cache } (cardIdString cardId) currentTime
      rw [Option.some.inj stepped] at moves
      exact ⟨moves.spends, moves.index, moves.last⟩

theorem handleNfcCardEvent_openLock {s next : AuthState} {cardId : List UInt8} {swipeTime currentTime : Int}
    {allocated : Bool} {sent : List AuthOutput}
    (stepped : handleNfcCardEvent env s cardId swipeTime currentTime allocated = some (next, sent))
    (opened : AuthOutput.openLock ∈ sent) :
    ∃ index, findAuthCard s.cards (cardIdString cardId) = some index ∧ s.unlockTimesAt index ≠ 0 ∧
      next.cards = consumeUnlock s.cards index := by
  unfold handleNfcCardEvent at stepped
  split at stepped
  · cases stepped
  next ret cache _ =>
    split_ifs at stepped with held failed
    · -- the swipe cache holds the card back and nothing is sent
      cases stepped
      cases opened
    · -- no buffer for the trigger message, and nothing is sent either
      cases stepped
      cases opened
    · have opening := nfcCardAuthorise_openLock env { s with cache := cache } (cardIdString cardId) currentTime
        (by rw [Option.some.inj stepped]; exact opened)
      rw [Option.some.inj stepped] at opening
      exact opening

theorem authStep_moves {s next : AuthState} {event : AuthEvent} {sent : List AuthOutput}
    (notCommand : event.isCommand = false) (stepped : authStep env s event = some (next, sent)) :
    s.Moves next := by
  cases event with
  | swipe cardId swipeTime currentTime allocated => exact handleNfcCardEvent_moves env stepped
  | locationRsp params paramCount currentTime =>
    have moves := handleVerifyUnlock_moves s params paramCount currentTime
    rw [Option.some.inj stepped] at moves
    exact moves
  | nfcauthCmd parm => cases notCommand

theorem authStep_uses {s next : AuthState} {event : AuthEvent} {sent : List AuthOutput} {j : Nat}
    (nodup : (s.cards.map NfcAuthCard.nfcNo).Nodup) (stored : j < s.cards.length)
    (limited : 0 ≤ s.unlockTimesAt j) (notCommand : event.isCommand = false)
    (stepped : authStep env s event = some (next, sent)) :
    (if event.swipeOf = some (s.cards.getD j zeroAuthCard).nfcNo ∧ AuthOutput.openLock ∈ sent then 1 else 0) +
      (next.unlockTimesAt j).toNat ≤ (s.unlockTimesAt j).toNat := by
  have kept : next.unlockTimesAt j ≤ s.unlockTimesAt j :=
    (authStep_moves env notCommand stepped).spends.unlockTimes_le j
  split_ifs with opening
  · obtain ⟨swiped, opened⟩ := opening
    cases event with
    | swipe cardId swipeTime currentTime allocated =>
      simp only [AuthEvent.swipeOf, Option.some.injEq] at swiped
      obtain ⟨index, found, uses, spent⟩ := handleNfcCardEvent_openLock env stepped opened
      -- no number is stored twice, so the card string finds slot j itself
      rw [swiped, findAuthCard_getD nodup stored, Option.some_inj] at found
      subst found
      have spend : next.unlockTimesAt j = s.unlockTimesAt j - 1 := by
        rw [AuthState.unlockTimesAt, spent, getD_consumeUnlock, if_pos ⟨rfl, by unfold AuthState.unlockTimesAt at uses limited; omega⟩]
        rfl
      omega
    | locationRsp => simp [AuthEvent.swipeOf] at swiped
    | nfcauthCmd => cases notCommand
  · omega

end Steps

/-! ## Along every run -/

/-- What every reachable state of the authorisation keeps: a well-formed table, and the two indices inside
the ten slots, g_last_card_index also -1 for no card awaiting its position. -/
structure AuthInv (s : AuthState) : Prop where
  cards_wf : CardsWf s.cards
  index_lt : s.nfcCardIndex < nfcauthCardMax
  last_ge : -1 ≤ s.lastCardIndex
  last_lt : s.lastCardIndex < nfcauthCardMax

section Run

variable (env : AuthEnv)

/-- The state at start-up: the table read from flash, g_nfc_card_index = 0 and g_last_card_index = -1. -/
theorem AuthInv.init {cards : List NfcAuthCard} (wf : CardsWf cards) (cache : Nat → NfcCardCache)
    (locationPoint : LocationStorage) : AuthInv ⟨cards, cache, 0, -1, locationPoint⟩ :=
  ⟨wf, show 0 < 10 by decide, show (-1 : Int) ≤ -1 by decide, show (-1 : Int) < 10 by decide⟩

theorem AuthInv.moves {s next : AuthState} (inv : AuthInv s) (moves : s.Moves next) : AuthInv next := by
  have length := inv.cards_wf.length_le
  have index : next.nfcCardIndex < nfcauthCardMax := by
    rcases moves.index with kept | inside
    · rw [kept]
      exact inv.index_lt
    · omega
  refine ⟨moves.spends.wf inv.cards_wf, index, ?_, ?_⟩
  · rcases moves.last with cleared | kept | set
    · omega
    · rw [kept]
      exact inv.last_ge
    · omega
  · rcases moves.last with cleared | kept | set
    · rw [cleared]
      decide
    · rw [kept]
      exact inv.last_lt
    · rw [set]
      exact_mod_cast index

theorem AuthInv.step {s next : AuthState} {event : AuthEvent} {sent : List AuthOutput} (inv : AuthInv s)
    (stepped : authStep env s event = some (next, sent)) : AuthInv next := by
  cases command : event.isCommand
  · exact inv.moves (authStep_moves env command stepped)
  · cases event with
    | nfcauthCmd parm =>
      cases stepped
      exact ⟨inv.cards_wf.nfcauthCmdHandler parm, inv.index_lt, inv.last_ge, inv.last_lt⟩
    | swipe => cases command
    | locationRsp => cases command

/-- Every state a run of swipes, position reports and commands reaches keeps the invariant. -/
theorem AuthInv.of_authRun {s final : AuthState} {events : List AuthEvent} {sent : List AuthOutput} (inv : AuthInv s)
    (ran : authRun env s events = some (final, sent)) : AuthInv final := by
  induction events generalizing s sent with
  | nil =>
    cases ran
    exact inv
  | cons event rest ih =>
    unfold authRun at ran
    split at ran
    · cases ran
    · next next stepSent stepped =>
      split at ran
      · cases ran
      · next final' later restRan =>
        cases ran
        exact ih (inv.step env stepped) restRan

theorem authInv_after_pset :
    ∃ final sent, authRun ⟨fun _ => 0⟩ ⟨[], fun _ => zeroCardCache, 0, -1, ⟨0, 0, 0⟩⟩
        [.nfcauthCmd ["NFCAUTH".toList, "PSET".toList, "1234".toList]] = some (final, sent) ∧ AuthInv final :=
  ⟨_, _, rfl, @AuthInv.of_authRun ⟨fun _ => 0⟩ ⟨[], fun _ => zeroCardCache, 0, -1, ⟨0, 0, 0⟩⟩ _
    [.nfcauthCmd ["NFCAUTH".toList, "PSET".toList, "1234".toList]] _ (AuthInv.init CardsWf.nil _ _) rfl⟩

/-- A card with limited uses opens the lock by swipes at most as many times as it has uses, over any run
of swipes and position reports with no command to reset them. -/
theorem swipeOpenings_le_unlockTimes (s : AuthState) (events : List AuthEvent) {j : Nat}
    (nodup : (s.cards.map NfcAuthCard.nfcNo).Nodup) (stored : j < s.cards.length)
    (limited : 0 ≤ s.unlockTimesAt j) (noCommand : ∀ event ∈ events, event.isCommand = false) :
    swipeOpenings env (s.cards.getD j zeroAuthCard).nfcNo s events ≤ (s.unlockTimesAt j).toNat := by
  induction events generalizing s with
  | nil => exact Nat.zero_le _
  | cons event rest ih =>
    unfold swipeOpenings
    split
    · exact Nat.zero_le _
    · next next sent stepped =>
      have notCommand := noCommand event List.mem_cons_self
      have spends := (authStep_moves env notCommand stepped).spends
      have step := authStep_uses env nodup stored limited notCommand stepped
      -- the run goes on from a table with the same numbers in the same slots
      have later := ih next (by rw [spends.map_nfcNo]; exact nodup) (by rw [spends.length_eq]; exact stored)
        (spends.limited limited) (fun event member => noCommand event (List.mem_cons_of_mem _ member))
      rw [spends.nfcNo_getD] at later
      omega

theorem swipeOpenings_single_use :
    swipeOpenings ⟨fun _ => 0⟩ "1234".toList
        ⟨[{ zeroAuthCard with nfcNo := "1234".toList, unlockTimes := 1 }], fun _ => zeroCardCache, 0, -1, ⟨0, 0, 0⟩⟩
        [.swipe [0x12, 0x34] 5 5 true, .locationRsp "OK,0,0,0".toList 4 6, .swipe [0x12, 0x34] 9 9 true] ≤ 1 :=
  @swipeOpenings_le_unlockTimes ⟨fun _ => 0⟩
    ⟨[{ zeroAuthCard with nfcNo := "1234".toList, unlockTimes := 1 }], fun _ => zeroCardCache, 0, -1, ⟨0, 0, 0⟩⟩
    [.swipe [0x12, 0x34] 5 5 true, .locationRsp "OK,0,0,0".toList 4 6, .swipe [0x12, 0x34] 9 9 true] 0
    (by decide) (by decide) (by decide) (by decide)

end Run

end Ctrl
