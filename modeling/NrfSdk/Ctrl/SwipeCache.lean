import Mathlib.Logic.Function.Basic

/-!
The NFC swipe cache of the LL311 application, my_ctrl.c: the ten most recently recorded cards with the
time of their last recording, used by is_need_location_upload to ignore a card swiped again within
NFC_REPEAT_INTERVAL seconds. A new card takes the first empty slot from slot 1 on, else the slot with
the strictly smallest time, slot 0 being the default.
-/

namespace Ctrl

def nfcCacheMaxNum : Nat := 10

def nfcRepeatInterval : Int := 1

def nfcCardIdSize : Nat := 16

/-- nfc_card_cache_t: the 16-byte card_id field, id_len and last_swipe_time. -/
structure NfcCardCache where
  cardId : List UInt8
  idLen : Nat
  lastSwipeTime : Int

def zeroCardCache : NfcCardCache := ⟨List.replicate nfcCardIdSize 0, 0, 0⟩

def findCardInCacheLoop (cache : Nat → NfcCardCache) (cardId : List UInt8) (idLen : Nat) (i : Nat) : Int :=
  if i < nfcCacheMaxNum then
    -- memcmp compares the first id_len bytes; it is only reached when the stored id_len is id_len
    if (cache i).idLen = idLen ∧ (cache i).cardId.take idLen = cardId.take idLen then i
    else findCardInCacheLoop cache cardId idLen (i + 1)
  else -1
termination_by nfcCacheMaxNum - i

def findCardInCache (cache : Nat → NfcCardCache) (cardId : List UInt8) (idLen : Nat) : Int :=
  findCardInCacheLoop cache cardId idLen 0

def oldestLoop (cache : Nat → NfcCardCache) (i oldestIndex : Nat) (oldestTime : Int) : Nat :=
  if i < nfcCacheMaxNum then
    if (cache i).lastSwipeTime = 0 then i
    else if (cache i).lastSwipeTime < oldestTime then oldestLoop cache (i + 1) i (cache i).lastSwipeTime
    else oldestLoop cache (i + 1) oldestIndex oldestTime
  else oldestIndex
termination_by nfcCacheMaxNum - i

def memcpyCardId (field src : List UInt8) (idLen : Nat) : Option (List UInt8) :=
  if idLen ≤ nfcCardIdSize then some (src.take idLen ++ field.drop idLen) else none

def updateCardCache (cache : Nat → NfcCardCache) (cardId : List UInt8) (idLen : Nat) (swipeTime : Int) :
    Option (Nat → NfcCardCache) :=
  let index := findCardInCache cache cardId idLen
  if index ≥ 0 then
    some (Function.update cache index.toNat { cache index.toNat with lastSwipeTime := swipeTime })
  else
    let oldestIndex := oldestLoop cache 1 0 (cache 0).lastSwipeTime
    (memcpyCardId (cache oldestIndex).cardId cardId idLen).map fun field =>
      Function.update cache oldestIndex ⟨field, idLen, swipeTime⟩

/-- is_need_location_upload at the time `now` that time(NULL) returns: 0 and no change for a card cached
with a time at most NFC_REPEAT_INTERVAL seconds before now, else 1 and the card recorded at now. -/
def isNeedLocationUpload (cache : Nat → NfcCardCache) (cardId : List UInt8) (idLen : Nat) (now : Int) :
    Option (Int × (Nat → NfcCardCache)) :=
  let index := findCardInCache cache cardId idLen
  if index ≥ 0 ∧ 0 ≤ now - (cache index.toNat).lastSwipeTime ∧
      now - (cache index.toNat).lastSwipeTime ≤ nfcRepeatInterval then
    some (0, cache)
  else (updateCardCache cache cardId idLen now).map fun cache => (1, cache)

/-! ### The two scans -/

section Scans

variable {cache : Nat → NfcCardCache} {cardId : List UInt8} {idLen : Nat}

/-- find_card_in_cache from slot i on returns a slot at or past i whose id_len and bytes agree, or -1
when no such slot exists. -/
theorem findCardInCacheLoop_spec (i : Nat) :
    (findCardInCacheLoop cache cardId idLen i = -1 ∧
        ∀ j, i ≤ j → j < nfcCacheMaxNum → ¬((cache j).idLen = idLen ∧ (cache j).cardId.take idLen = cardId.take idLen)) ∨
      ∃ j, i ≤ j ∧ j < nfcCacheMaxNum ∧ ((cache j).idLen = idLen ∧ (cache j).cardId.take idLen = cardId.take idLen) ∧
        findCardInCacheLoop cache cardId idLen i = j := by
  fun_induction findCardInCacheLoop cache cardId idLen i with
  | case1 i inside found => exact .inr ⟨i, Nat.le_refl i, inside, found, rfl⟩
  | case2 i inside notFound ih =>
    rcases ih with ⟨none, later⟩ | ⟨j, after, jInside, found, result⟩
    · refine .inl ⟨none, fun j atLeast jInside => ?_⟩
      rcases Nat.eq_or_lt_of_le atLeast with same | after
      · exact same ▸ notFound
      · exact later j after jInside
    · exact .inr ⟨j, by omega, jInside, found, result⟩
  | case3 i outside => exact .inl ⟨rfl, fun j atLeast jInside => absurd jInside (by omega)⟩

theorem oldestLoop_least (nonneg : ∀ j < nfcCacheMaxNum, 0 ≤ (cache j).lastSwipeTime) {i oldestIndex : Nat}
    {oldestTime : Int} (inside : oldestIndex < nfcCacheMaxNum) (current : (cache oldestIndex).lastSwipeTime = oldestTime)
    (least : ∀ j < i, j < nfcCacheMaxNum → oldestTime ≤ (cache j).lastSwipeTime) :
    oldestLoop cache i oldestIndex oldestTime < nfcCacheMaxNum ∧
      ∀ j < nfcCacheMaxNum, (cache (oldestLoop cache i oldestIndex oldestTime)).lastSwipeTime ≤ (cache j).lastSwipeTime := by
  fun_induction oldestLoop cache i oldestIndex oldestTime with
  | case1 i oldestIndex oldestTime going empty =>
    exact ⟨going, fun j jInside => empty ▸ nonneg j jInside⟩
  | case2 i oldestIndex oldestTime going occupied older ih =>
    apply ih going rfl
    intro j below jInside
    rcases Nat.lt_succ_iff_lt_or_eq.mp below with before | same
    · have earlier := least j before jInside
      omega
    · subst same
      exact Int.le_refl _
  | case3 i oldestIndex oldestTime going occupied notOlder ih =>
    apply ih inside current
    intro j below jInside
    rcases Nat.lt_succ_iff_lt_or_eq.mp below with before | same
    · exact least j before jInside
    · rw [same]
      omega
  | case4 i oldestIndex oldestTime done =>
    exact ⟨inside, fun j jInside => current ▸ least j (by omega) jInside⟩

end Scans

/-! ### The outcomes of a call -/

section Outcomes

variable {cache : Nat → NfcCardCache} {cardId : List UInt8} {idLen : Nat} {now : Int} {i : Nat}

theorem isNeedLocationUpload_of_repeat (found : findCardInCache cache cardId idLen = i)
    (within : 0 ≤ now - (cache i).lastSwipeTime ∧ now - (cache i).lastSwipeTime ≤ nfcRepeatInterval) :
    isNeedLocationUpload cache cardId idLen now = some (0, cache) := by
  simp only [isNeedLocationUpload, found, Int.toNat_natCast, ge_iff_le, Int.natCast_nonneg, within, and_self,
    if_true]

theorem isNeedLocationUpload_of_found (found : findCardInCache cache cardId idLen = i)
    (late : ¬(0 ≤ now - (cache i).lastSwipeTime ∧ now - (cache i).lastSwipeTime ≤ nfcRepeatInterval)) :
    isNeedLocationUpload cache cardId idLen now =
      some (1, Function.update cache i { cache i with lastSwipeTime := now }) := by
  simp only [isNeedLocationUpload, updateCardCache, found, Int.toNat_natCast, ge_iff_le, Int.natCast_nonneg,
    true_and, late, if_false, if_true, Option.map_some]

theorem isNeedLocationUpload_of_missing (missing : findCardInCache cache cardId idLen = -1)
    (fits : idLen ≤ nfcCardIdSize) :
    isNeedLocationUpload cache cardId idLen now =
      some (1, Function.update cache (oldestLoop cache 1 0 (cache 0).lastSwipeTime)
        ⟨cardId.take idLen ++ (cache (oldestLoop cache 1 0 (cache 0).lastSwipeTime)).cardId.drop idLen, idLen, now⟩) := by
  simp [isNeedLocationUpload, updateCardCache, memcpyCardId, missing, fits]

theorem isNeedLocationUpload_of_overflow (missing : findCardInCache cache cardId idLen = -1)
    (tooLong : nfcCardIdSize < idLen) : isNeedLocationUpload cache cardId idLen now = none := by
  simp [isNeedLocationUpload, updateCardCache, memcpyCardId, missing, Nat.not_le_of_lt tooLong]

end Outcomes

end Ctrl
