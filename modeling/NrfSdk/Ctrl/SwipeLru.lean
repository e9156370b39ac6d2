import NrfSdk.Ctrl.SwipeCache
import Mathlib.Data.Finset.Card
import Mathlib.Data.Finset.Image

/-!
What the swipe cache of my_ctrl.c keeps along any sequence of is_need_location_upload calls with cards
of 1 to 16 bytes and a clock that starts at 1 and never goes back: its slots hold distinct cards, as
many as the distinct cards recorded so far up to ten, each at the time it was last recorded, and a card
that was dropped was recorded no later than any card still held. A card longer than the 16-byte card_id
field makes the memcpy of update_card_cache run past it.
-/

namespace Ctrl

def NfcCardCache.card (entry : NfcCardCache) : List UInt8 := entry.cardId.take entry.idLen

def NfcCardCache.Occupied (entry : NfcCardCache) : Prop := entry.lastSwipeTime ≠ 0

instance (entry : NfcCardCache) : Decidable entry.Occupied := inferInstanceAs (Decidable (entry.lastSwipeTime ≠ 0))

/-- A 16-byte card_id, and either the zero entry's id_len and time or a card of 1 to 16 bytes stored at a
positive time. -/
structure NfcCardCache.Wf (entry : NfcCardCache) : Prop where
  field : entry.cardId.length = nfcCardIdSize
  shape : (entry.idLen = 0 ∧ entry.lastSwipeTime = 0) ∨
    (1 ≤ entry.idLen ∧ entry.idLen ≤ nfcCardIdSize ∧ 1 ≤ entry.lastSwipeTime)

def occupiedSlots (cache : Nat → NfcCardCache) : Finset Nat :=
  (Finset.range nfcCacheMaxNum).filter fun i => (cache i).Occupied

def cachedCards (cache : Nat → NfcCardCache) : Finset (List UInt8) :=
  (occupiedSlots cache).image fun i => (cache i).card

/-- The time of the last recording of a card, 0 if it was never recorded. -/
def latestTime (recorded : List (List UInt8 × Int)) (card : List UInt8) : Int :=
  recorded.foldl (fun latest r => if r.1 = card then r.2 else latest) 0

def recordedCards (recorded : List (List UInt8 × Int)) : Finset (List UInt8) := (recorded.map Prod.fst).toFinset

/-- A swipe: the card's bytes, of which is_need_location_upload is given the length, and time(NULL). -/
structure SwipeCall where
  cardId : List UInt8
  now : Int

/-- The cache, with the card and time of every call that returned 1, in order. -/
structure SwipeHistory where
  cache : Nat → NfcCardCache
  recorded : List (List UInt8 × Int)

def SwipeHistory.init : SwipeHistory := ⟨fun _ => zeroCardCache, []⟩

def SwipeHistory.call (history : SwipeHistory) (call : SwipeCall) : Option (Int × SwipeHistory) :=
  (isNeedLocationUpload history.cache call.cardId call.cardId.length call.now).map fun result =>
    (result.1, ⟨result.2, if result.1 = 1 then history.recorded ++ [(call.cardId, call.now)] else history.recorded⟩)

def SwipeHistory.run (history : SwipeHistory) : List SwipeCall → Option SwipeHistory
  | [] => some history
  | call :: calls => (history.call call).bind fun next => next.2.run calls

theorem SwipeHistory.call_of_upload {history : SwipeHistory} {call : SwipeCall} {cache : Nat → NfcCardCache}
    (upload : isNeedLocationUpload history.cache call.cardId call.cardId.length call.now = some (1, cache)) :
    history.call call = some (1, ⟨cache, history.recorded ++ [(call.cardId, call.now)]⟩) := by
  simp [SwipeHistory.call, upload]

theorem SwipeHistory.call_of_repeat {history : SwipeHistory} {call : SwipeCall} {cache : Nat → NfcCardCache}
    (upload : isNeedLocationUpload history.cache call.cardId call.cardId.length call.now = some (0, cache)) :
    history.call call = some (0, ⟨cache, history.recorded⟩) := by
  simp [SwipeHistory.call, upload]

/-! ### Recordings and slots -/

section Basics

variable {cache : Nat → NfcCardCache} {recorded : List (List UInt8 × Int)}

theorem latestTime_append (recorded : List (List UInt8 × Int)) (card : List UInt8) (time : Int)
    (other : List UInt8) :
    latestTime (recorded ++ [(card, time)]) other = if card = other then time else latestTime recorded other := by
  simp [latestTime, List.foldl_append]

theorem latestTime_le {bound : Int} (all : ∀ r ∈ recorded, r.2 ≤ bound) (nonneg : 0 ≤ bound) (card : List UInt8) :
    latestTime recorded card ≤ bound := by
  -- the fold keeps a value at most bound from any start at most bound
  have folded : ∀ (rs : List (List UInt8 × Int)) (start : Int), (∀ r ∈ rs, r.2 ≤ bound) → start ≤ bound →
      rs.foldl (fun latest r => if r.1 = card then r.2 else latest) start ≤ bound := by
    intro rs
    induction rs with
    | nil => exact fun _ _ start => start
    | cons r rs ih =>
      intro start all below
      apply ih _ (fun r' member => all r' (List.mem_cons_of_mem r member))
      show (if r.1 = card then r.2 else start) ≤ bound
      split
      · exact all r List.mem_cons_self
      · exact below
  exact folded recorded 0 all nonneg

theorem recordedCards_append (recorded : List (List UInt8 × Int)) (card : List UInt8) (time : Int) :
    recordedCards (recorded ++ [(card, time)]) = insert card (recordedCards recorded) := by
  ext c
  simp [recordedCards]

theorem mem_occupiedSlots {i : Nat} : i ∈ occupiedSlots cache ↔ i < nfcCacheMaxNum ∧ (cache i).Occupied := by
  simp [occupiedSlots]

theorem occupiedSlots_update_of_occupied {k : Nat} {entry : NfcCardCache} (was : (cache k).Occupied)
    (filled : entry.Occupied) : occupiedSlots (Function.update cache k entry) = occupiedSlots cache := by
  ext i
  by_cases same : i = k
  · subst same
    simp [mem_occupiedSlots, was, filled]
  · simp [mem_occupiedSlots, Function.update_of_ne same]

theorem occupiedSlots_update_of_empty {k : Nat} {entry : NfcCardCache} (inside : k < nfcCacheMaxNum)
    (was : ¬(cache k).Occupied) (filled : entry.Occupied) :
    occupiedSlots (Function.update cache k entry) = insert k (occupiedSlots cache) := by
  ext i
  by_cases same : i = k
  · subst same
    simp [mem_occupiedSlots, inside, filled]
  · simp [mem_occupiedSlots, same]

theorem NfcCardCache.Wf.occupied_iff {entry : NfcCardCache} (wf : entry.Wf) : entry.Occupied ↔ 1 ≤ entry.idLen := by
  unfold NfcCardCache.Occupied
  rcases wf.shape with ⟨zero, empty⟩ | ⟨one, -, positive⟩ <;> omega

theorem NfcCardCache.Wf.length_card {entry : NfcCardCache} (wf : entry.Wf) : entry.card.length = entry.idLen := by
  have fits : entry.idLen ≤ nfcCardIdSize := by rcases wf.shape with ⟨zero, -⟩ | ⟨-, fits, -⟩ <;> omega
  simp [NfcCardCache.card, wf.field, fits]

theorem NfcCardCache.Wf.matches_iff {entry : NfcCardCache} (wf : entry.Wf) {card : List UInt8}
    (nonempty : 1 ≤ card.length) :
    (entry.idLen = card.length ∧ entry.cardId.take card.length = card.take card.length) ↔
      entry.Occupied ∧ entry.card = card := by
  rw [List.take_length]
  constructor
  · rintro ⟨sameLength, sameBytes⟩
    refine ⟨wf.occupied_iff.mpr (by omega), ?_⟩
    rw [NfcCardCache.card, sameLength, sameBytes]
  · rintro ⟨-, held⟩
    have sameLength : entry.idLen = card.length := by rw [← held, wf.length_card]
    exact ⟨sameLength, by rw [← sameLength]; exact held⟩

theorem mem_cachedCards {card : List UInt8} :
    card ∈ cachedCards cache ↔ ∃ i < nfcCacheMaxNum, (cache i).Occupied ∧ (cache i).card = card := by
  simp [cachedCards, mem_occupiedSlots, and_assoc]

theorem card_occupiedSlots_lt {k : Nat} (inside : k < nfcCacheMaxNum) (empty : ¬(cache k).Occupied) :
    (occupiedSlots cache).card < nfcCacheMaxNum := by
  have smaller : occupiedSlots cache ⊂ Finset.range nfcCacheMaxNum :=
    Finset.filter_ssubset.mpr ⟨k, Finset.mem_range.mpr inside, empty⟩
  simpa using Finset.card_lt_card smaller

theorem occupiedSlots_eq_range (all : ∀ j < nfcCacheMaxNum, (cache j).Occupied) :
    occupiedSlots cache = Finset.range nfcCacheMaxNum :=
  Finset.filter_true_of_mem fun j member => all j (Finset.mem_range.mp member)

theorem card_retime (cache : Nat → NfcCardCache) (i j : Nat) (time : Int) :
    (Function.update cache i { cache i with lastSwipeTime := time } j).card = (cache j).card := by
  by_cases same : j = i
  · subst same
    rw [Function.update_self]
    rfl
  · rw [Function.update_of_ne same]

theorem occupied_retime {i : Nat} {time : Int} (was : (cache i).Occupied) (nonzero : time ≠ 0) (j : Nat) :
    (Function.update cache i { cache i with lastSwipeTime := time } j).Occupied ↔ (cache j).Occupied := by
  by_cases same : j = i
  · subst same
    rw [Function.update_self]
    exact iff_of_true nonzero was
  · rw [Function.update_of_ne same]

theorem cachedCards_retime {i : Nat} {time : Int} (was : (cache i).Occupied) (nonzero : time ≠ 0) :
    cachedCards (Function.update cache i { cache i with lastSwipeTime := time }) = cachedCards cache := by
  ext card
  simp only [mem_cachedCards, occupied_retime was nonzero, card_retime]

end Basics

/-! ### What the calls keep -/

/-- What a history keeps after calls at times up to `clock`: well-formed slots holding distinct cards,
each recorded and stored at its latest recording, as many as the distinct cards recorded up to ten, and
no card dropped from the cache recorded after a card still held. -/
structure SwipeHistory.Good (clock : Int) (history : SwipeHistory) : Prop where
  wf : ∀ i < nfcCacheMaxNum, (history.cache i).Wf
  distinct : ∀ i < nfcCacheMaxNum, ∀ j < nfcCacheMaxNum, i ≠ j → (history.cache i).Occupied →
    (history.cache j).Occupied → (history.cache i).card ≠ (history.cache j).card
  latest : ∀ i < nfcCacheMaxNum, (history.cache i).Occupied →
    (history.cache i).card ∈ recordedCards history.recorded ∧
      latestTime history.recorded (history.cache i).card = (history.cache i).lastSwipeTime
  count : (occupiedSlots history.cache).card = min nfcCacheMaxNum (recordedCards history.recorded).card
  lru : ∀ card ∈ recordedCards history.recorded, card ∉ cachedCards history.cache →
    ∀ i < nfcCacheMaxNum, (history.cache i).Occupied → latestTime history.recorded card ≤ (history.cache i).lastSwipeTime
  past : ∀ r ∈ history.recorded, 1 ≤ r.2 ∧ r.2 ≤ clock

section Good

variable {history : SwipeHistory} {clock now : Int}

theorem SwipeHistory.init_good : SwipeHistory.init.Good 0 where
  wf _ _ := ⟨List.length_replicate, .inl ⟨rfl, rfl⟩⟩
  distinct _ _ _ _ _ empty := absurd rfl empty
  latest _ _ empty := absurd rfl empty
  count := by
    have none : occupiedSlots SwipeHistory.init.cache = ∅ := Finset.filter_false_of_mem fun _ _ empty => empty rfl
    rw [none]
    rfl
  lru _ member := absurd member (Finset.notMem_empty _)
  past _ member := absurd member List.not_mem_nil

theorem SwipeHistory.Good.mono {bound : Int} (good : history.Good clock) (later : clock ≤ bound) :
    history.Good bound :=
  { good with past := fun r member => ⟨(good.past r member).1, Int.le_trans (good.past r member).2 later⟩ }

theorem SwipeHistory.Good.latest_le (good : history.Good clock) (positive : 1 ≤ now) (later : clock ≤ now)
    (card : List UInt8) : latestTime history.recorded card ≤ now :=
  latestTime_le (fun r member => Int.le_trans (good.past r member).2 later) (by omega) card

theorem SwipeHistory.Good.past_append (good : history.Good clock) (positive : 1 ≤ now) (later : clock ≤ now)
    (card : List UInt8) : ∀ r ∈ history.recorded ++ [(card, now)], 1 ≤ r.2 ∧ r.2 ≤ now := by
  intro r member
  rcases List.mem_append.mp member with old | new
  · exact ⟨(good.past r old).1, Int.le_trans (good.past r old).2 later⟩
  · rw [List.mem_singleton.mp new]
    exact ⟨positive, Int.le_refl now⟩

theorem SwipeHistory.Good.cached_subset (good : history.Good clock) :
    cachedCards history.cache ⊆ recordedCards history.recorded := by
  intro card member
  obtain ⟨i, inside, occupied, held⟩ := mem_cachedCards.mp member
  exact held ▸ (good.latest i inside occupied).1

theorem SwipeHistory.Good.card_cachedCards (good : history.Good clock) :
    (cachedCards history.cache).card = (occupiedSlots history.cache).card := by
  apply Finset.card_image_of_injOn
  intro i iMember j jMember same
  obtain ⟨iInside, iOccupied⟩ := mem_occupiedSlots.mp (Finset.mem_coe.mp iMember)
  obtain ⟨jInside, jOccupied⟩ := mem_occupiedSlots.mp (Finset.mem_coe.mp jMember)
  by_contra other
  exact good.distinct i iInside j jInside other iOccupied jOccupied same

theorem SwipeHistory.Good.full_of_dropped (good : history.Good clock) {card : List UInt8}
    (recorded : card ∈ recordedCards history.recorded) (dropped : card ∉ cachedCards history.cache) :
    (occupiedSlots history.cache).card = nfcCacheMaxNum := by
  have smaller : (cachedCards history.cache).card < (recordedCards history.recorded).card :=
    Finset.card_lt_card ((Finset.ssubset_iff_of_subset good.cached_subset).mpr ⟨card, recorded, dropped⟩)
  have same := good.card_cachedCards
  have count := good.count
  omega

theorem SwipeHistory.Good.findCardInCache_eq (good : history.Good clock) {card : List UInt8}
    (nonempty : 1 ≤ card.length) :
    (card ∉ cachedCards history.cache ∧ findCardInCache history.cache card card.length = -1) ∨
      ∃ i < nfcCacheMaxNum, (history.cache i).Occupied ∧ (history.cache i).card = card ∧
        findCardInCache history.cache card card.length = i := by
  rcases @findCardInCacheLoop_spec history.cache card card.length 0 with
    ⟨none, noMatch⟩ | ⟨j, -, inside, found, result⟩
  · refine .inl ⟨fun member => ?_, none⟩
    obtain ⟨i, inside, occupied, held⟩ := mem_cachedCards.mp member
    exact noMatch i (Nat.zero_le i) inside (((good.wf i inside).matches_iff nonempty).mpr ⟨occupied, held⟩)
  · obtain ⟨occupied, held⟩ := ((good.wf j inside).matches_iff nonempty).mp found
    exact .inr ⟨j, inside, occupied, held, result⟩

theorem SwipeHistory.Good.refresh (good : history.Good clock) {i : Nat} (inside : i < nfcCacheMaxNum)
    (occupied : (history.cache i).Occupied) (positive : 1 ≤ now) (later : clock ≤ now) :
    (⟨Function.update history.cache i { history.cache i with lastSwipeTime := now },
      history.recorded ++ [((history.cache i).card, now)]⟩ : SwipeHistory).Good now := by
  have nonzero : now ≠ 0 := by omega
  have filled : ({ history.cache i with lastSwipeTime := now } : NfcCardCache).Occupied := nonzero
  -- the card was recorded before, so the recorded cards stay the same
  have sameCards : recordedCards (history.recorded ++ [((history.cache i).card, now)]) =
      recordedCards history.recorded := by
    rw [recordedCards_append, Finset.insert_eq_of_mem (good.latest i inside occupied).1]
  refine ⟨?wf, ?distinct, ?latest, ?count, ?lru, good.past_append positive later _⟩
  case wf =>
    intro j jInside
    dsimp only
    by_cases same : j = i
    · rw [same, Function.update_self]
      rcases (good.wf i inside).shape with ⟨-, empty⟩ | ⟨one, fits, -⟩
      · exact absurd empty occupied
      · exact ⟨(good.wf i inside).field, .inr ⟨one, fits, positive⟩⟩
    · rw [Function.update_of_ne same]
      exact good.wf j jInside
  case distinct =>
    intro j jInside l lInside other jOccupied lOccupied
    dsimp only at jOccupied lOccupied ⊢
    rw [card_retime, card_retime]
    exact good.distinct j jInside l lInside other ((occupied_retime occupied nonzero j).mp jOccupied)
      ((occupied_retime occupied nonzero l).mp lOccupied)
  case latest =>
    intro j jInside jOccupied
    dsimp only at jOccupied ⊢
    have was := (occupied_retime occupied nonzero j).mp jOccupied
    rw [card_retime, sameCards, latestTime_append]
    refine ⟨(good.latest j jInside was).1, ?_⟩
    by_cases same : j = i
    · rw [same, if_pos rfl, Function.update_self]
    · rw [if_neg (good.distinct i inside j jInside (Ne.symm same) occupied was), Function.update_of_ne same]
      exact (good.latest j jInside was).2
  case count =>
    dsimp only
    rw [occupiedSlots_update_of_occupied occupied filled, sameCards]
    exact good.count
  case lru =>
    intro card member dropped j jInside jOccupied
    dsimp only at member dropped jOccupied ⊢
    rw [sameCards] at member
    rw [cachedCards_retime occupied nonzero] at dropped
    have other : (history.cache i).card ≠ card := fun same =>
      dropped (mem_cachedCards.mpr ⟨i, inside, occupied, same⟩)
    rw [latestTime_append, if_neg other]
    by_cases same : j = i
    · rw [same, Function.update_self]
      exact good.latest_le positive later card
    · rw [Function.update_of_ne same]
      exact good.lru card member dropped j jInside ((occupied_retime occupied nonzero j).mp jOccupied)

theorem SwipeHistory.Good.insert (good : history.Good clock) {card : List UInt8}
    (dropped : card ∉ cachedCards history.cache) (nonempty : 1 ≤ card.length) (fits : card.length ≤ nfcCardIdSize)
    (positive : 1 ≤ now) (later : clock ≤ now) {k : Nat} (inside : k < nfcCacheMaxNum)
    (least : ∀ j < nfcCacheMaxNum, (history.cache k).lastSwipeTime ≤ (history.cache j).lastSwipeTime) :
    (⟨Function.update history.cache k ⟨card ++ (history.cache k).cardId.drop card.length, card.length, now⟩,
      history.recorded ++ [(card, now)]⟩ : SwipeHistory).Good now := by
  have filled : (⟨card ++ (history.cache k).cardId.drop card.length, card.length, now⟩ : NfcCardCache).Occupied := by
    show now ≠ 0
    omega
  have entryCard : (⟨card ++ (history.cache k).cardId.drop card.length, card.length, now⟩ : NfcCardCache).card =
      card := List.take_left
  have others : ∀ j < nfcCacheMaxNum, (history.cache j).Occupied → (history.cache j).card ≠ card :=
    fun j jInside occupied same => dropped (mem_cachedCards.mpr ⟨j, jInside, occupied, same⟩)
  refine ⟨?wf, ?distinct, ?latest, ?count, ?lru, good.past_append positive later card⟩
  case wf =>
    intro j jInside
    dsimp only
    by_cases same : j = k
    · rw [same, Function.update_self]
      refine ⟨?_, .inr ⟨nonempty, fits, positive⟩⟩
      simp only [List.length_append, List.length_drop, (good.wf k inside).field]
      omega
    · rw [Function.update_of_ne same]
      exact good.wf j jInside
  case distinct =>
    intro a aInside b bInside other aOccupied bOccupied
    dsimp only at aOccupied bOccupied ⊢
    rcases eq_or_ne a k with aSame | aOther <;> rcases eq_or_ne b k with bSame | bOther
    · exact absurd (aSame.trans bSame.symm) other
    · rw [Function.update_of_ne bOther] at bOccupied ⊢
      rw [aSame, Function.update_self, entryCard]
      exact (others b bInside bOccupied).symm
    · rw [Function.update_of_ne aOther] at aOccupied ⊢
      rw [bSame, Function.update_self, entryCard]
      exact others a aInside aOccupied
    · rw [Function.update_of_ne aOther] at aOccupied ⊢
      rw [Function.update_of_ne bOther] at bOccupied ⊢
      exact good.distinct a aInside b bInside other aOccupied bOccupied
  case latest =>
    intro j jInside jOccupied
    dsimp only at jOccupied ⊢
    rw [recordedCards_append, latestTime_append]
    by_cases same : j = k
    · rw [same, Function.update_self, entryCard, if_pos rfl]
      exact ⟨Finset.mem_insert_self card _, rfl⟩
    · rw [Function.update_of_ne same] at jOccupied ⊢
      rw [if_neg (others j jInside jOccupied).symm]
      exact ⟨Finset.mem_insert_of_mem (good.latest j jInside jOccupied).1, (good.latest j jInside jOccupied).2⟩
  case count =>
    dsimp only
    rw [recordedCards_append]
    have count := good.count
    by_cases was : (history.cache k).Occupied
    · -- k has the least time, so every slot holds a card, and at least ten cards were recorded
      have one : 1 ≤ (history.cache k).lastSwipeTime := by
        rcases (good.wf k inside).shape with ⟨-, empty⟩ | ⟨-, -, one⟩
        · exact absurd empty was
        · exact one
      have all : ∀ j < nfcCacheMaxNum, (history.cache j).Occupied := by
        intro j jInside
        have atLeast := least j jInside
        show (history.cache j).lastSwipeTime ≠ 0
        omega
      have grown := Finset.card_le_card (Finset.subset_insert card (recordedCards history.recorded))
      rw [occupiedSlots_update_of_occupied was filled]
      rw [occupiedSlots_eq_range all, Finset.card_range] at count ⊢
      omega
    · -- an empty slot: the card cannot have been recorded, or the cache would be full
      have notFull := card_occupiedSlots_lt inside was
      have fresh : card ∉ recordedCards history.recorded := fun recorded =>
        absurd (good.full_of_dropped recorded dropped) notFull.ne
      have notThere : k ∉ occupiedSlots history.cache := fun member => was (mem_occupiedSlots.mp member).2
      rw [occupiedSlots_update_of_empty inside was filled, Finset.card_insert_of_notMem notThere,
        Finset.card_insert_of_notMem fresh]
      omega
  case lru =>
    intro m member mDropped j jInside jOccupied
    dsimp only at member mDropped jOccupied ⊢
    have cardHeld : card ∈ cachedCards (Function.update history.cache k
        ⟨card ++ (history.cache k).cardId.drop card.length, card.length, now⟩) := by
      refine mem_cachedCards.mpr ⟨k, inside, ?_, ?_⟩
      · rw [Function.update_self]
        exact filled
      · rw [Function.update_self, entryCard]
    have other : m ≠ card := fun same => mDropped (same ▸ cardHeld)
    have recordedBefore : m ∈ recordedCards history.recorded := by
      rw [recordedCards_append] at member
      exact (Finset.mem_insert.mp member).resolve_left other
    rw [latestTime_append, if_neg (Ne.symm other)]
    by_cases same : j = k
    · rw [same, Function.update_self]
      exact good.latest_le positive later m
    · rw [Function.update_of_ne same] at jOccupied ⊢
      by_cases wasHeld : m ∈ cachedCards history.cache
      · -- m is the card just evicted from slot k, whose time is least
        obtain ⟨i, iInside, iOccupied, iHeld⟩ := mem_cachedCards.mp wasHeld
        have evicted : i = k := by
          by_contra iOther
          refine mDropped (mem_cachedCards.mpr ⟨i, iInside, ?_, ?_⟩)
          · rw [Function.update_of_ne iOther]
            exact iOccupied
          · rw [Function.update_of_ne iOther]
            exact iHeld
        calc latestTime history.recorded m = (history.cache i).lastSwipeTime := iHeld ▸ (good.latest i iInside iOccupied).2
          _ ≤ (history.cache j).lastSwipeTime := evicted ▸ least j jInside
      · exact good.lru m recordedBefore wasHeld j jInside jOccupied

theorem SwipeHistory.Good.call (good : history.Good clock) {call : SwipeCall} (nonempty : 1 ≤ call.cardId.length)
    (fits : call.cardId.length ≤ nfcCardIdSize) (positive : 1 ≤ call.now) (later : clock ≤ call.now) :
    ∃ ret next, history.call call = some (ret, next) ∧ next.Good call.now ∧ (ret = 0 ∨ ret = 1) ∧
      (ret = 0 ↔ ∃ i < nfcCacheMaxNum, (history.cache i).Occupied ∧ (history.cache i).card = call.cardId ∧
        0 ≤ call.now - (history.cache i).lastSwipeTime ∧
          call.now - (history.cache i).lastSwipeTime ≤ nfcRepeatInterval) := by
  rcases good.findCardInCache_eq nonempty with ⟨dropped, missing⟩ | ⟨i, inside, occupied, held, found⟩
  · -- a new card goes into the slot the scan of update_card_cache picks, one of least time
    have nonneg : ∀ j < nfcCacheMaxNum, 0 ≤ (history.cache j).lastSwipeTime := fun j jInside => by
      rcases (good.wf j jInside).shape with ⟨-, zero⟩ | ⟨-, -, one⟩ <;> omega
    obtain ⟨kInside, least⟩ := oldestLoop_least nonneg (by decide : 0 < nfcCacheMaxNum) rfl
      (fun j below _ => by rw [Nat.lt_one_iff.mp below])
    refine ⟨1, _, SwipeHistory.call_of_upload (isNeedLocationUpload_of_missing missing fits), ?_, .inr rfl,
      iff_of_false (by decide) ?_⟩
    · rw [List.take_length]
      exact good.insert dropped nonempty fits positive later kInside least
    · rintro ⟨j, jInside, jOccupied, jHeld, -⟩
      exact dropped (mem_cachedCards.mpr ⟨j, jInside, jOccupied, jHeld⟩)
  · by_cases within : 0 ≤ call.now - (history.cache i).lastSwipeTime ∧
        call.now - (history.cache i).lastSwipeTime ≤ nfcRepeatInterval
    · exact ⟨0, history, SwipeHistory.call_of_repeat (isNeedLocationUpload_of_repeat found within),
        good.mono later, .inl rfl, iff_of_true rfl ⟨i, inside, occupied, held, within⟩⟩
    · refine ⟨1, _, SwipeHistory.call_of_upload (isNeedLocationUpload_of_found found within), ?_, .inr rfl,
        iff_of_false (by decide) ?_⟩
      · rw [← held]
        exact good.refresh inside occupied positive later
      · -- the card is held in slot i only, whose time is not within the interval
        rintro ⟨j, jInside, jOccupied, jHeld, jWithin⟩
        have same : j = i := by
          by_contra other
          exact good.distinct j jInside i inside other jOccupied occupied (jHeld.trans held.symm)
        exact within (same ▸ jWithin)

/-- A run of calls with cards of 1 to 16 bytes at positive, non-decreasing times no earlier than the
history's is defined and ends good at any time from the last call's on. -/
theorem SwipeHistory.Good.run (good : history.Good clock) (calls : List SwipeCall)
    (cards : ∀ call ∈ calls, 1 ≤ call.cardId.length ∧ call.cardId.length ≤ nfcCardIdSize)
    (positive : ∀ call ∈ calls, 1 ≤ call.now) (ordered : (calls.map SwipeCall.now).Pairwise (· ≤ ·))
    (after : ∀ call ∈ calls, clock ≤ call.now) :
    ∃ next, history.run calls = some next ∧
      ∀ bound, clock ≤ bound → (∀ call ∈ calls, call.now ≤ bound) → next.Good bound := by
  induction calls generalizing history clock with
  | nil => exact ⟨history, rfl, fun bound later _ => good.mono later⟩
  | cons call calls ih =>
    rw [List.map_cons, List.pairwise_cons] at ordered
    have first : call ∈ call :: calls := List.mem_cons_self
    obtain ⟨ret, stepped, called, steppedGood, -, -⟩ :=
      good.call (cards call first).1 (cards call first).2 (positive call first) (after call first)
    obtain ⟨next, ran, nextGood⟩ := ih steppedGood (fun c member => cards c (List.mem_cons_of_mem call member))
      (fun c member => positive c (List.mem_cons_of_mem call member)) ordered.2
      (fun c member => ordered.1 c.now (List.mem_map_of_mem member))
    refine ⟨next, ?_, fun bound later below =>
      nextGood bound (below call first) (fun c member => below c (List.mem_cons_of_mem call member))⟩
    rw [SwipeHistory.run, called, Option.bind_some]
    exact ran

end Good

/-- From the zeroed cache, after any calls with cards of 1 to 16 bytes at non-decreasing times from 1 on:
(a) no two slots hold the same card; (b) the cache holds min(10, D) distinct cards of the D recorded, each
at its latest recording, and a recorded card missing from it was recorded no later than any card held;
(c) the next such call returns 1, or 0 exactly when its card is held with a time at most
NFC_REPEAT_INTERVAL seconds before. -/
theorem isNeedLocationUpload_lru (calls : List SwipeCall) (next : SwipeCall)
    (cards : ∀ call ∈ calls ++ [next], 1 ≤ call.cardId.length ∧ call.cardId.length ≤ nfcCardIdSize)
    (positive : ∀ call ∈ calls ++ [next], 1 ≤ call.now)
    (ordered : ((calls ++ [next]).map SwipeCall.now).Pairwise (· ≤ ·)) :
    ∃ history, SwipeHistory.init.run calls = some history ∧
      (∀ i < nfcCacheMaxNum, ∀ j < nfcCacheMaxNum, i ≠ j → (history.cache i).Occupied →
        (history.cache j).Occupied → (history.cache i).card ≠ (history.cache j).card) ∧
      (cachedCards history.cache).card = min nfcCacheMaxNum (recordedCards history.recorded).card ∧
      (∀ i < nfcCacheMaxNum, (history.cache i).Occupied → (history.cache i).card ∈ recordedCards history.recorded ∧
        latestTime history.recorded (history.cache i).card = (history.cache i).lastSwipeTime) ∧
      (∀ card ∈ recordedCards history.recorded, card ∉ cachedCards history.cache → ∀ i < nfcCacheMaxNum,
        (history.cache i).Occupied → latestTime history.recorded card ≤ (history.cache i).lastSwipeTime) ∧
      ∃ ret after, history.call next = some (ret, after) ∧ (ret = 0 ∨ ret = 1) ∧
        (ret = 0 ↔ ∃ i < nfcCacheMaxNum, (history.cache i).Occupied ∧ (history.cache i).card = next.cardId ∧
          0 ≤ next.now - (history.cache i).lastSwipeTime ∧
            next.now - (history.cache i).lastSwipeTime ≤ nfcRepeatInterval) := by
  rw [List.map_append, List.pairwise_append] at ordered
  have early : ∀ call ∈ calls, call ∈ calls ++ [next] := fun call member => List.mem_append_left _ member
  have last : next ∈ calls ++ [next] := List.mem_append_right _ (List.mem_singleton_self next)
  obtain ⟨history, ran, good⟩ := SwipeHistory.init_good.run calls (fun c member => cards c (early c member))
    (fun c member => positive c (early c member)) ordered.1
    (fun c member => by have := positive c (early c member); omega)
  have current := good next.now (by have := positive next last; omega)
    (fun c member => ordered.2.2 c.now (List.mem_map_of_mem member) next.now (List.mem_singleton_self _))
  obtain ⟨ret, after, called, -, zeroOrOne, repeated⟩ :=
    current.call (cards next last).1 (cards next last).2 (positive next last) (Int.le_refl _)
  refine ⟨history, ran, current.distinct, ?_, current.latest, current.lru, ret, after, called, zeroOrOne, repeated⟩
  rw [current.card_cachedCards]
  exact current.count

theorem isNeedLocationUpload_lru_two_cards :
    let calls : List SwipeCall := [⟨[1, 2, 3, 4], 1⟩, ⟨[5, 6, 7, 8], 1⟩]
    let next : SwipeCall := ⟨[1, 2, 3, 4], 2⟩
    (∀ call ∈ calls ++ [next], 1 ≤ call.cardId.length ∧ call.cardId.length ≤ nfcCardIdSize) ∧
      (∀ call ∈ calls ++ [next], 1 ≤ call.now) ∧ ((calls ++ [next]).map SwipeCall.now).Pairwise (· ≤ ·) ∧
      ∃ history, SwipeHistory.init.run calls = some history ∧
        (∀ i < nfcCacheMaxNum, ∀ j < nfcCacheMaxNum, i ≠ j → (history.cache i).Occupied →
          (history.cache j).Occupied → (history.cache i).card ≠ (history.cache j).card) ∧
        (cachedCards history.cache).card = min nfcCacheMaxNum (recordedCards history.recorded).card ∧
        (∀ i < nfcCacheMaxNum, (history.cache i).Occupied → (history.cache i).card ∈ recordedCards history.recorded ∧
          latestTime history.recorded (history.cache i).card = (history.cache i).lastSwipeTime) ∧
        (∀ card ∈ recordedCards history.recorded, card ∉ cachedCards history.cache → ∀ i < nfcCacheMaxNum,
          (history.cache i).Occupied → latestTime history.recorded card ≤ (history.cache i).lastSwipeTime) ∧
        ∃ ret after, history.call next = some (ret, after) ∧ (ret = 0 ∨ ret = 1) ∧
          (ret = 0 ↔ ∃ i < nfcCacheMaxNum, (history.cache i).Occupied ∧ (history.cache i).card = next.cardId ∧
            0 ≤ next.now - (history.cache i).lastSwipeTime ∧
              next.now - (history.cache i).lastSwipeTime ≤ nfcRepeatInterval) :=
  ⟨by decide, by decide, by decide,
    isNeedLocationUpload_lru [⟨[1, 2, 3, 4], 1⟩, ⟨[5, 6, 7, 8], 1⟩] ⟨[1, 2, 3, 4], 2⟩ (by decide) (by decide)
      (by decide)⟩

theorem isNeedLocationUpload_long_card : SwipeHistory.init.call ⟨List.replicate 17 1, 1⟩ = none := by
  have missing : findCardInCache SwipeHistory.init.cache (List.replicate 17 1) 17 = -1 := by
    rcases @findCardInCacheLoop_spec SwipeHistory.init.cache (List.replicate 17 1) 17 0 with
      ⟨none, -⟩ | ⟨j, -, -, ⟨length, -⟩, -⟩
    · exact none
    · exact absurd length (by decide : (0 : Nat) ≠ 17)
  show (isNeedLocationUpload SwipeHistory.init.cache (List.replicate 17 1) 17 1).map _ = none
  rw [isNeedLocationUpload_of_overflow missing (by decide)]
  rfl

end Ctrl
