import NrfSdk.LteLc.Psm

namespace LteLc

open Machine

/-! The unit search of psm_encode_timer: after each round the selection is the first unit with the
least rounded-up reading among the units seen, or nothing when none of them has room. -/

def NoRoomBelow (requestedValue : Nat) (lookupTable : List Nat) (count : Nat) : Prop :=
  ∀ i < count, timerValueMax < requestedValue ⌈/⌉ lookupTable.getD i 0

/-- A selection among the units below count: a unit with room, its value the request rounded up, and its
reading at most that of every unit below count with room. -/
structure Selected (requestedValue : Nat) (lookupTable : List Nat) (count : Nat) (search : TimerSearch) :
    Prop where
  early : search.selectedIndex < count
  rounded : search.selectedTimerValue = requestedValue ⌈/⌉ lookupTable.getD search.selectedIndex 0
  room : search.selectedTimerValue ≤ timerValueMax
  value : search.selectedValue = lookupTable.getD search.selectedIndex 0 * search.selectedTimerValue
  least : ∀ i < count, requestedValue ⌈/⌉ lookupTable.getD i 0 ≤ timerValueMax →
    search.selectedValue ≤ lookupTable.getD i 0 * (requestedValue ⌈/⌉ lookupTable.getD i 0)

def SearchInvariant (requestedValue : Nat) (lookupTable : List Nat) (count : Nat) (search : TimerSearch) :
    Prop :=
  (search.selectedIndex = unselected ∧ search.selectedValue = unselected ∧
      NoRoomBelow requestedValue lookupTable count) ∨
    Selected requestedValue lookupTable count search

/-- The units of a lookup table the search can use: positive, and with room for 31 of them in a
uint32_t below the sentinel. -/
def UsableUnits (lookupTable : List Nat) (size : Nat) : Prop :=
  ∀ i < size, 0 < lookupTable.getD i 0 ∧ lookupTable.getD i 0 * timerValueMax < unselected

theorem u32_sub_of_le {a b : Nat} (le : b ≤ a) (small : a < 2 ^ 32) : u32 ((a : Int) - b) = a - b := by
  rw [u32, wrap_of_bounds (by omega) (by push_cast; omega)]
  omega

section Search

variable {requestedValue : Nat} {lookupTable : List Nat} {count size : Nat} {search : TimerSearch}

theorem SearchInvariant.skip (invariant : SearchInvariant requestedValue lookupTable count search)
    (tooSmall : timerValueMax < requestedValue ⌈/⌉ lookupTable.getD count 0) :
    SearchInvariant requestedValue lookupTable (count + 1) search := by
  rcases invariant with ⟨none, noValue, noRoom⟩ | selected
  · refine .inl ⟨none, noValue, fun i below => ?_⟩
    rcases Nat.lt_succ_iff_lt_or_eq.mp below with earlier | rfl
    · exact noRoom i earlier
    · exact tooSmall
  · refine .inr ⟨by have := selected.early; omega, selected.rounded, selected.room, selected.value,
      fun i below fits => ?_⟩
    rcases Nat.lt_succ_iff_lt_or_eq.mp below with earlier | rfl
    · exact selected.least i earlier fits
    · omega

theorem Selected.select (room : requestedValue ⌈/⌉ lookupTable.getD count 0 ≤ timerValueMax)
    (below : ∀ i < count, requestedValue ⌈/⌉ lookupTable.getD i 0 ≤ timerValueMax →
      lookupTable.getD count 0 * (requestedValue ⌈/⌉ lookupTable.getD count 0) ≤
        lookupTable.getD i 0 * (requestedValue ⌈/⌉ lookupTable.getD i 0)) :
    Selected requestedValue lookupTable (count + 1)
      ⟨count, lookupTable.getD count 0 * (requestedValue ⌈/⌉ lookupTable.getD count 0),
        requestedValue ⌈/⌉ lookupTable.getD count 0⟩ := by
  refine ⟨Nat.lt_succ_self count, rfl, room, rfl, fun i early fits => ?_⟩
  rcases Nat.lt_succ_iff_lt_or_eq.mp early with earlier | rfl
  · exact below i earlier fits
  · exact le_rfl

theorem Selected.keep (selected : Selected requestedValue lookupTable count search)
    (notWorse : search.selectedValue ≤
      lookupTable.getD count 0 * (requestedValue ⌈/⌉ lookupTable.getD count 0)) :
    Selected requestedValue lookupTable (count + 1) search := by
  refine ⟨by have := selected.early; omega, selected.rounded, selected.room, selected.value,
    fun i below fits => ?_⟩
  rcases Nat.lt_succ_iff_lt_or_eq.mp below with earlier | rfl
  · exact selected.least i earlier fits
  · exact notWorse

theorem Selected.bounds (usable : UsableUnits lookupTable size) (within : count ≤ size)
    (selected : Selected requestedValue lookupTable count search) :
    requestedValue ≤ search.selectedValue ∧ search.selectedValue < unselected := by
  obtain ⟨positive, fits⟩ := usable search.selectedIndex (by have := selected.early; omega)
  have cover : requestedValue ≤ lookupTable.getD search.selectedIndex 0 *
      (requestedValue ⌈/⌉ lookupTable.getD search.selectedIndex 0) := le_smul_ceilDiv positive
  have capped : lookupTable.getD search.selectedIndex 0 * search.selectedTimerValue ≤
      lookupTable.getD search.selectedIndex 0 * timerValueMax := Nat.mul_le_mul_left _ selected.room
  rw [← selected.rounded, ← selected.value] at cover
  rw [← selected.value] at capped
  exact ⟨cover, by omega⟩

theorem psmEncodeTimerStep_invariant (usable : UsableUnits lookupTable size) (early : count < size)
    (invariant : SearchInvariant requestedValue lookupTable count search) :
    SearchInvariant requestedValue lookupTable (count + 1)
      (psmEncodeTimerStep requestedValue lookupTable count search) := by
  obtain ⟨positive, fits⟩ := usable count early
  have rounded := @div_add_ite_mod_eq_ceilDiv requestedValue _ positive
  have cover : requestedValue ≤ lookupTable.getD count 0 * (requestedValue ⌈/⌉ lookupTable.getD count 0) :=
    le_smul_ceilDiv positive
  unfold psmEncodeTimerStep
  dsimp only
  rw [rounded]
  split_ifs with tooSmall better
  · exact invariant.skip tooSmall
  all_goals
    -- a unit with room: its reading fits the uint32_t arithmetic exactly
    have reading : lookupTable.getD count 0 * (requestedValue ⌈/⌉ lookupTable.getD count 0) < 2 ^ 32 := by
      have capped := Nat.mul_le_mul_left (lookupTable.getD count 0) (Nat.le_of_not_lt tooSmall)
      unfold unselected at fits
      omega
    have current : u32 (lookupTable.getD count 0 * (requestedValue ⌈/⌉ lookupTable.getD count 0) : Nat) =
        lookupTable.getD count 0 * (requestedValue ⌈/⌉ lookupTable.getD count 0) :=
      wrap_natCast_of_lt reading
  · rw [current] at better ⊢
    rcases invariant with ⟨-, -, noRoom⟩ | selected
    · exact .inr (Selected.select (Nat.le_of_not_lt tooSmall)
        (fun i earlier fits => absurd fits (Nat.not_le_of_lt (noRoom i earlier))))
    · obtain ⟨atLeast, below⟩ := selected.bounds usable (by omega)
      rcases better with none | closer
      · omega
      · rw [u32_sub_of_le cover reading, u32_sub_of_le atLeast (by unfold unselected at below; omega)] at closer
        exact .inr (Selected.select (Nat.le_of_not_lt tooSmall)
          (fun i earlier fits => by have := selected.least i earlier fits; omega))
  · -- the new unit's reading is not closer: the selection stays
    rw [current] at better
    simp only [not_or] at better
    obtain ⟨chosen, notCloser⟩ := better
    rcases invariant with ⟨-, noValue, -⟩ | selected
    · exact absurd noValue chosen
    · obtain ⟨atLeast, below⟩ := selected.bounds usable (by omega)
      rw [u32_sub_of_le cover reading, u32_sub_of_le atLeast (by unfold unselected at below; omega)] at notCloser
      exact .inr (selected.keep (by omega))

theorem psmEncodeTimer_search (usable : UsableUnits lookupTable size) :
    SearchInvariant requestedValue lookupTable size
      (forRange size (psmEncodeTimerStep requestedValue lookupTable) ⟨unselected, unselected, unselected⟩) :=
  forRange_invariant (SearchInvariant requestedValue lookupTable) size
    (.inl ⟨rfl, rfl, fun i below => absurd below (Nat.not_lt_zero i)⟩)
    (fun _ _ early invariant => psmEncodeTimerStep_invariant usable early invariant)

theorem psmEncodeTimer_of_room (usable : UsableUnits lookupTable size) (narrow : size ≤ 8)
    (room : ∃ i < size, requestedValue ⌈/⌉ lookupTable.getD i 0 ≤ timerValueMax) (encodedTimerStr : List Char) :
    ∃ i < size, requestedValue ⌈/⌉ lookupTable.getD i 0 ≤ timerValueMax ∧
      (∀ j < size, requestedValue ⌈/⌉ lookupTable.getD j 0 ≤ timerValueMax →
        lookupTable.getD i 0 * (requestedValue ⌈/⌉ lookupTable.getD i 0) ≤
          lookupTable.getD j 0 * (requestedValue ⌈/⌉ lookupTable.getD j 0)) ∧
      psmEncodeTimer encodedTimerStr requestedValue lookupTable size =
        (0, byteToBinaryStringArgs (i * 32 + requestedValue ⌈/⌉ lookupTable.getD i 0)) := by
  have invariant : SearchInvariant requestedValue lookupTable size _ := psmEncodeTimer_search usable
  unfold psmEncodeTimer
  dsimp only
  generalize forRange size (psmEncodeTimerStep requestedValue lookupTable) ⟨unselected, unselected, unselected⟩ =
    search at invariant ⊢
  rcases invariant with ⟨-, -, noRoom⟩ | selected
  · obtain ⟨i, early, fits⟩ := room
    exact absurd fits (Nat.not_le_of_lt (noRoom i early))
  · have early := selected.early
    have room := selected.room
    have chosen : search.selectedIndex ≠ unselected := by
      unfold unselected
      omega
    refine ⟨search.selectedIndex, early, selected.rounded ▸ room, fun j later fits => ?_, ?_⟩
    · rw [← selected.rounded, ← selected.value]
      exact selected.least j later fits
    · -- the index sits above the five bits of the timer value
      have packed : search.selectedIndex <<< 5 ||| search.selectedTimerValue =
          search.selectedIndex * 32 + search.selectedTimerValue := by
        rw [Nat.lor_comm, or_shiftLeft_of_lt (show search.selectedTimerValue < 2 ^ 5 by unfold timerValueMax at room; omega)]
        omega
      rw [if_pos chosen, packed, u8, wrap_natCast_of_lt (by unfold timerValueMax at room; omega), selected.rounded]

theorem psmEncodeTimer_of_no_room (usable : UsableUnits lookupTable size)
    (noRoom : NoRoomBelow requestedValue lookupTable size) (encodedTimerStr : List Char) :
    psmEncodeTimer encodedTimerStr requestedValue lookupTable size = (-22, encodedTimerStr) := by
  have invariant : SearchInvariant requestedValue lookupTable size _ := psmEncodeTimer_search usable
  unfold psmEncodeTimer
  dsimp only
  generalize forRange size (psmEncodeTimerStep requestedValue lookupTable) ⟨unselected, unselected, unselected⟩ =
    search at invariant ⊢
  rcases invariant with ⟨none, -, -⟩ | selected
  · rw [if_neg (not_not.mpr none)]
  · exact absurd (selected.rounded ▸ selected.room) (Nat.not_le_of_lt (noRoom _ selected.early))

end Search

end LteLc
