import NrfSdk.Ctrl.NfcAuth

/-! The card table as the map from card numbers to cards that it stands for. The slots of nfcauth_config
are how the application stores the map; what the commands mean is said on the map itself: SET and PSET
put a card under its number (refused when a new number finds the ten slots taken), DEL removes one
number or all of them, and CHECK of a number reads the map. nfcauth_cmd_handler refines this: every
command changes the map its table stands for as the command on the map says. -/

namespace Ctrl

def authLookup (cards : List NfcAuthCard) (nfcNo : List Char) : Option NfcAuthCard :=
  (findAuthCard cards nfcNo).map (cards.getD · zeroAuthCard)

def mapPut (table : List Char → Option NfcAuthCard) (count : Nat) (card : NfcAuthCard) :
    List Char → Option NfcAuthCard :=
  if table card.nfcNo = none ∧ count ≥ nfcauthCardMax then table
  else Function.update table card.nfcNo (some card)

def nfcauthMapCmd (table : List Char → Option NfcAuthCard) (count : Nat) (parm : List (List Char)) :
    List Char → Option NfcAuthCard :=
  let parmCount := parm.length - 1
  if parmCount < 1 then table
  else if parm.getD 1 [] = "SET".toList then
    if parmCount ≠ 8 then table
    else match nfcauthSetCard parm with
      | none => table
      | some card => mapPut table count card
  else if parm.getD 1 [] = "PSET".toList then
    if parmCount ≠ 2 then table
    else if (parm.getD 2 []).length = 0 ∨ (parm.getD 2 []).length ≥ nfcNoSize then table
    else mapPut table count (adminCard (parm.getD 2 []))
  else if parm.getD 1 [] = "DEL".toList then
    if parmCount ≠ 2 then table
    else if parm.getD 2 [] = "ALL".toList then fun _ => none
    else Function.update table (parm.getD 2 []) none
  else table

section Lookup

variable {cards : List NfcAuthCard} {card : NfcAuthCard} {nfcNo : List Char}

@[simp] theorem authLookup_nil (nfcNo : List Char) : authLookup [] nfcNo = none := rfl

theorem authLookup_cons (card : NfcAuthCard) (rest : List NfcAuthCard) (nfcNo : List Char) :
    authLookup (card :: rest) nfcNo = if card.nfcNo = nfcNo then some card else authLookup rest nfcNo := by
  rw [authLookup, authLookup, findAuthCard]
  split_ifs
  · rfl
  · rw [Option.map_map]
    rfl

theorem authLookup_eq_none_iff : authLookup cards nfcNo = none ↔ findAuthCard cards nfcNo = none :=
  Option.map_eq_none_iff

theorem authLookup_append_singleton (absent : card.nfcNo ∉ cards.map NfcAuthCard.nfcNo) :
    authLookup (cards ++ [card]) = Function.update (authLookup cards) card.nfcNo (some card) := by
  funext nfcNo
  rw [Function.update_apply]
  induction cards with
  | nil =>
    rw [List.nil_append, authLookup_cons, authLookup_nil]
    by_cases same : nfcNo = card.nfcNo
    · rw [if_pos same.symm, if_pos same]
    · rw [if_neg (Ne.symm same), if_neg same]
  | cons head rest ih =>
    rw [List.map_cons, List.mem_cons, not_or] at absent
    rw [List.cons_append, authLookup_cons, authLookup_cons, ih absent.2]
    by_cases here : head.nfcNo = nfcNo
    · -- the head holds the number asked for, which is not the new one
      have other : nfcNo ≠ card.nfcNo := fun same => absent.1 (same ▸ here).symm
      rw [if_pos here, if_neg other, if_pos here]
    · rw [if_neg here, if_neg here]

theorem authLookup_set_found {index : Nat} (found : findAuthCard cards card.nfcNo = some index) :
    authLookup (cards.set index card) = Function.update (authLookup cards) card.nfcNo (some card) := by
  funext nfcNo
  rw [Function.update_apply]
  induction cards generalizing index with
  | nil => cases found
  | cons head rest ih =>
    unfold findAuthCard at found
    split_ifs at found with first
    · cases found
      rw [List.set_cons_zero, authLookup_cons, authLookup_cons, first]
      by_cases same : nfcNo = card.nfcNo
      · rw [if_pos same.symm, if_pos same]
      · rw [if_neg (Ne.symm same), if_neg same, if_neg (Ne.symm same)]
    · obtain ⟨inner, innerFound, rfl⟩ := Option.map_eq_some_iff.mp found
      rw [List.set_cons_succ, authLookup_cons, authLookup_cons, ih innerFound]
      by_cases here : head.nfcNo = nfcNo
      · have other : nfcNo ≠ card.nfcNo := fun same => first (same ▸ here)
        rw [if_pos here, if_neg other, if_pos here]
      · rw [if_neg here, if_neg here]

theorem authLookup_eraseIdx_found (nodup : (cards.map NfcAuthCard.nfcNo).Nodup) {index : Nat}
    (found : findAuthCard cards nfcNo = some index) :
    authLookup (cards.eraseIdx index) = Function.update (authLookup cards) nfcNo none := by
  funext other
  rw [Function.update_apply]
  induction cards generalizing index with
  | nil => cases found
  | cons head rest ih =>
    rw [List.map_cons, List.nodup_cons] at nodup
    unfold findAuthCard at found
    split_ifs at found with first
    · cases found
      rw [List.eraseIdx_cons_zero, authLookup_cons]
      by_cases same : other = nfcNo
      · -- the number was in the first slot only
        subst same
        rw [if_pos rfl, authLookup_eq_none_iff, findAuthCard_eq_none_iff, ← first]
        exact nodup.1
      · rw [if_neg same, if_neg (fun (here : head.nfcNo = other) => same (here ▸ first))]
    · obtain ⟨inner, innerFound, rfl⟩ := Option.map_eq_some_iff.mp found
      rw [List.eraseIdx_cons_succ, authLookup_cons, authLookup_cons, ih nodup.2 innerFound]
      by_cases here : head.nfcNo = other
      · have differ : other ≠ nfcNo := fun same => first (same ▸ here)
        rw [if_pos here, if_neg differ, if_pos here]
      · rw [if_neg here, if_neg here]

theorem authLookup_store {stored : List NfcAuthCard} (put : nfcauthStore cards card = some stored) :
    authLookup stored = Function.update (authLookup cards) card.nfcNo (some card) := by
  unfold nfcauthStore at put
  split at put
  next index found =>
    cases put
    exact authLookup_set_found found
  next absent =>
    split_ifs at put
    cases put
    exact authLookup_append_singleton (findAuthCard_eq_none_iff.mp absent)

theorem authLookup_storeResponse (name : List Char) :
    authLookup (nfcauthStoreResponse cards name card).2 = mapPut (authLookup cards) cards.length card := by
  unfold nfcauthStoreResponse mapPut
  split
  next full =>
    unfold nfcauthStore at full
    split at full
    next => cases full
    next absent =>
      split_ifs at full with count
      rw [if_pos ⟨authLookup_eq_none_iff.mpr absent, count⟩]
  next stored put =>
    rw [authLookup_store put, if_neg]
    rintro ⟨absent, count⟩
    unfold nfcauthStore at put
    rw [authLookup_eq_none_iff.mp absent, if_pos count] at put
    cases put

theorem authLookup_delete (nodup : (cards.map NfcAuthCard.nfcNo).Nodup) {remaining : List NfcAuthCard}
    (deleted : nfcauthDelete cards nfcNo = some remaining) :
    authLookup remaining = Function.update (authLookup cards) nfcNo none := by
  obtain ⟨index, found, rfl⟩ := Option.map_eq_some_iff.mp deleted
  exact authLookup_eraseIdx_found nodup found

theorem authLookup_of_not_deleted (missing : nfcauthDelete cards nfcNo = none) :
    authLookup cards = Function.update (authLookup cards) nfcNo none := by
  have absent : authLookup cards nfcNo = none :=
    authLookup_eq_none_iff.mpr (Option.map_eq_none_iff.mp missing)
  rw [← absent, Function.update_eq_self]

end Lookup

/-- The handler refines the map: every command changes the map that a well-formed table stands for as the
command on the map says, the table's size deciding whether a new card finds room; and the table changes
only under a response of success. -/
theorem authLookup_nfcauthCmdHandler {cards : List NfcAuthCard} (wf : CardsWf cards) (parm : List (List Char)) :
    authLookup (nfcauthCmdHandler cards parm).2 = nfcauthMapCmd (authLookup cards) cards.length parm ∧
      ((nfcauthCmdHandler cards parm).2 ≠ cards →
        (nfcauthCmdHandler cards parm).1 = "RETURN_".toList ++ parm.getD 0 [] ++ "_OK".toList ∨
        (nfcauthCmdHandler cards parm).1 = "NFC Delete ALL Success.".toList ∨
        (nfcauthCmdHandler cards parm).1 = "NFC ".toList ++ parm.getD 2 [] ++ " Delete Success.".toList) := by
  refine ⟨?_, nfcauthCmdHandler_changed parm⟩
  unfold nfcauthCmdHandler nfcauthMapCmd
  dsimp only
  split_ifs
  · rfl
  · rfl
  · cases setCard : nfcauthSetCard parm with
    | none => rfl
    | some card => exact authLookup_storeResponse _
  · rfl
  · rfl
  · exact authLookup_storeResponse _
  · rfl
  · funext nfcNo
    rfl
  · split
    · exact authLookup_delete wf.nodup ‹_›
    · exact authLookup_of_not_deleted ‹_›
  · rfl
  · rfl
  · split <;> rfl
  · rfl
  · rfl

theorem authLookup_pset_empty :
    authLookup (nfcauthCmdHandler [] ["NFCAUTH".toList, "PSET".toList, "1234".toList]).2 =
        nfcauthMapCmd (authLookup []) 0 ["NFCAUTH".toList, "PSET".toList, "1234".toList] ∧
      ((nfcauthCmdHandler [] ["NFCAUTH".toList, "PSET".toList, "1234".toList]).2 ≠ [] →
        (nfcauthCmdHandler [] ["NFCAUTH".toList, "PSET".toList, "1234".toList]).1 =
            "RETURN_".toList ++ "NFCAUTH".toList ++ "_OK".toList ∨
          (nfcauthCmdHandler [] ["NFCAUTH".toList, "PSET".toList, "1234".toList]).1 =
            "NFC Delete ALL Success.".toList ∨
          (nfcauthCmdHandler [] ["NFCAUTH".toList, "PSET".toList, "1234".toList]).1 =
            "NFC ".toList ++ "1234".toList ++ " Delete Success.".toList) :=
  authLookup_nfcauthCmdHandler CardsWf.nil _

theorem nfcauthCmdHandler_check (cards : List NfcAuthCard) (name nfcNo : List Char) :
    nfcauthCmdHandler cards [name, "CHECK".toList, nfcNo] =
      ((match authLookup cards nfcNo with
        | some card => nfcauthCheckText card
        | none => nfcauthFailText name), cards) := by
  -- two fields after the name: past the tests for SET, PSET and DEL, and not the listing of all cards
  simp [nfcauthCmdHandler]
  unfold authLookup
  cases findAuthCard cards nfcNo <;> rfl

/-- A card that SET stores is the one CHECK of its number then answers with: the store finds the slot of
the number, or room for it. -/
theorem nfcauthCmdHandler_set_check {cards : List NfcAuthCard} {parm : List (List Char)} {card : NfcAuthCard}
    (isSet : parm.getD 1 [] = "SET".toList) (count : parm.length = 9) (setCard : nfcauthSetCard parm = some card)
    (room : authLookup cards card.nfcNo ≠ none ∨ cards.length < nfcauthCardMax) (name : List Char) :
    (nfcauthCmdHandler (nfcauthCmdHandler cards parm).2 [name, "CHECK".toList, card.nfcNo]).1 =
      nfcauthCheckText card := by
  have stored : (nfcauthCmdHandler cards parm).2 = (nfcauthStoreResponse cards (parm.getD 0 []) card).2 := by
    unfold nfcauthCmdHandler
    dsimp only
    rw [if_neg (by omega), if_pos isSet, if_neg (by omega), setCard]
  have found : authLookup (nfcauthCmdHandler cards parm).2 card.nfcNo = some card := by
    rw [stored, authLookup_storeResponse, mapPut, if_neg]
    · exact Function.update_self ..
    · rintro ⟨absent, full⟩
      rcases room with present | roomy
      · exact present absent
      · exact absurd full (Nat.not_le_of_lt roomy)
  rw [nfcauthCmdHandler_check, found]

theorem nfcauthCmdHandler_set_check_empty :
    (nfcauthCmdHandler
        (nfcauthCmdHandler [] ["NFCAUTH".toList, "SET".toList, "1234".toList, [], [], "100".toList, [], [], []]).2
        ["NFCAUTH".toList, "CHECK".toList, "1234".toList]).1 =
      nfcauthCheckText ⟨"1234".toList, 0, 0, false, 100, [], [], false, -1⟩ :=
  @nfcauthCmdHandler_set_check [] ["NFCAUTH".toList, "SET".toList, "1234".toList, [], [], "100".toList, [], [], []]
    ⟨"1234".toList, 0, 0, false, 100, [], [], false, -1⟩ (by decide) (by decide) (by decide) (.inr (by decide)) _

end Ctrl
