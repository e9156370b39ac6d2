import NrfSdk.Machine.Run
import NrfSdk.Mesh.TimeUtil

namespace Mesh

open Machine

def btMeshSchedulerAnyYear : Nat := 0x64
def btMeshSchedulerAnyDay : Nat := 0x00
def btMeshSchedulerAnyHour : Nat := 0x18
def btMeshSchedulerOnceADay : Nat := 0x19
def btMeshSchedulerAnyMinute : Nat := 0x3C
def btMeshSchedulerEvery15Minutes : Nat := 0x3D
def btMeshSchedulerEvery20Minutes : Nat := 0x3E
def btMeshSchedulerOnceAnHour : Nat := 0x3F
def btMeshSchedulerAnySecond : Nat := 0x3C
def btMeshSchedulerEvery15Seconds : Nat := 0x3D
def btMeshSchedulerEvery20Seconds : Nat := 0x3E
def btMeshSchedulerOnceAMinute : Nat := 0x3F

/-- The time fields of a Schedule Register entry; `month` is the 12-bit month mask and
`dayOfWeek` the 7-bit Monday-first weekday mask. -/
structure BtMeshScheduleEntry where
  year : Nat
  month : Nat
  day : Nat
  hour : Nat
  minute : Nat
  second : Nat
  dayOfWeek : Nat
  deriving DecidableEq, Repr

inductive Stage where
  | yearStage
  | monthStage
  | dayStage
  | hourStage
  | minuteStage
  | secondStage
  | protectorStage
  | finalStage
  | errorStage
  deriving DecidableEq, Repr

structure TmConverter where
  considerOvflw : Bool
  startYear : Int
  startMonth : Int
  startDay : Int
  startHour : Int
  startMinute : Int
  startSecond : Int
  deriving DecidableEq, Repr

/-- What the stage handlers write: the scheduled time, the entry (the day handler clamps its day),
the converter and the count of random numbers drawn so far. -/
structure ConvState where
  schedTime : Tm
  entry : BtMeshScheduleEntry
  info : TmConverter
  draws : Nat
  deriving DecidableEq, Repr

def u32CountTrailingZeros (value : Nat) : Nat :=
  ((List.range 32).find? fun bit => value.testBit bit).getD 32

def divRoundUp (n d : Int) : Int := (n + d - 1) / d

def getDaysInMonth (year month : Int) : Int := ((monthsOf (u32 year)).getD month.toNat 0 : Nat)

def getDayOfWeek (year month day : Int) : Int :=
  let year := year + tmStartYear
  let dayCnt : Int := forRange (year - tmStartYear).toNat (fun k dayCnt => dayCnt + daysInYear (tmStartYear + k)) 0
  let dayCnt := forRange month.toNat (fun i dayCnt => dayCnt + getDaysInMonth year i) dayCnt
  let dayCnt := dayCnt + day
  (dayCnt - 1).tmod weekdayCnt

def dayValidation (schedTime : Tm) (day : Int) : Bool :=
  day ≤ getDaysInMonth (schedTime.tmYear + tmStartYear) schedTime.tmMon

section Handlers

variable (random : Nat → Nat) (currentLocal : Tm)

def yearHandler (state : ConvState) : Stage × ConvState :=
  let entry := state.entry
  let info := state.info
  if info.startYear ≠ currentLocal.tmYear ∧ entry.year ≠ btMeshSchedulerAnyYear then (.errorStage, state)
  else
    let currentYear := u8 (info.startYear.tmod 100)
    let diff := u8 (if entry.year ≥ currentYear then (entry.year : Int) - currentYear
      else 100 - currentYear + entry.year)
    let tmYear := if entry.year = btMeshSchedulerAnyYear then info.startYear else info.startYear + diff
    let startMonth := if tmYear = currentLocal.tmYear then currentLocal.tmMon else 0
    (.monthStage, { state with
      schedTime := { state.schedTime with tmYear := tmYear }
      info := { info with startMonth := startMonth } })

def monthHandler (state : ConvState) : Stage × ConvState :=
  let info := state.info
  let month := state.entry.month &&& (0xFFF <<< info.startMonth.toNat)
  if month = 0 then (.yearStage, { state with info := { info with startYear := info.startYear + 1 } })
  else
    let tmMon : Int := u32CountTrailingZeros month
    let considerOvflw := decide (tmMon = currentLocal.tmMon ∧ state.schedTime.tmYear = currentLocal.tmYear)
    (.dayStage, { state with
      schedTime := { state.schedTime with tmMon := tmMon }
      info := { info with
        considerOvflw := considerOvflw
        startDay := if considerOvflw then currentLocal.tmMday else 1 } })

def dayHandler (state : ConvState) : Stage × ConvState :=
  let info := state.info
  -- a fixed day is clamped to the month's length in the entry itself
  let (dayOvflw, entry, schedTime) :=
    if state.entry.day = btMeshSchedulerAnyDay then
      (!dayValidation state.schedTime info.startDay, state.entry, { state.schedTime with tmMday := info.startDay })
    else
      let day := min (state.entry.day : Int)
        (getDaysInMonth (state.schedTime.tmYear + tmStartYear) state.schedTime.tmMon)
      (decide (day < currentLocal.tmMday), { state.entry with day := day.toNat },
        { state.schedTime with tmMday := day })
  let state := { state with entry := entry, schedTime := schedTime }
  if dayOvflw ∧ info.considerOvflw then
    (.monthStage, { state with info := { info with startMonth := info.startMonth + 1 } })
  else
    let tmWday := getDayOfWeek schedTime.tmYear schedTime.tmMon schedTime.tmMday
    let schedTime := { schedTime with tmWday := tmWday }
    let (dayOvflw, startDay, schedTime) :=
      if entry.dayOfWeek &&& (1 <<< tmWday.toNat) = 0 then
        if entry.day = btMeshSchedulerAnyDay then
          let restWday := entry.dayOfWeek >>> tmWday.toNat
          let delta : Int := if restWday ≠ 0 then u32CountTrailingZeros restWday
            else u32CountTrailingZeros entry.dayOfWeek + weekdayCnt - tmWday
          let startDay := info.startDay + delta
          let schedTime := { schedTime with tmMday := startDay }
          (dayOvflw || !dayValidation schedTime startDay, startDay, schedTime)
        else (true, info.startDay, schedTime)
      else (dayOvflw, info.startDay, schedTime)
    let info := { info with startDay := startDay }
    let state := { state with schedTime := schedTime, info := info }
    if dayOvflw ∧ info.considerOvflw then
      (.monthStage, { state with info := { info with startMonth := info.startMonth + 1 } })
    else
      let considerOvflw := info.considerOvflw && decide (schedTime.tmMday = currentLocal.tmMday)
      (.hourStage, { state with
        info := { info with
          considerOvflw := considerOvflw
          startHour := if considerOvflw then currentLocal.tmHour else 0 } })

def hourHandler (state : ConvState) : Stage × ConvState :=
  let info := state.info
  let entry := state.entry
  let (hourOvflw, tmHour, draws) :=
    if entry.hour = btMeshSchedulerOnceADay then (true, ((random state.draws % 24 : Nat) : Int), state.draws + 1)
    else if entry.hour = btMeshSchedulerAnyHour then
      (decide (info.startHour > 23), if info.startHour > 23 then 0 else info.startHour, state.draws)
    else (decide ((entry.hour : Int) < info.startHour), (entry.hour : Int), state.draws)
  let state := { state with schedTime := { state.schedTime with tmHour := tmHour }, draws := draws }
  if hourOvflw ∧ info.considerOvflw then
    let info := { info with startDay := info.startDay + 1 }
    if dayValidation state.schedTime info.startDay then (.dayStage, { state with info := info })
    else (.monthStage, { state with info := { info with startMonth := info.startMonth + 1 } })
  else
    let considerOvflw := info.considerOvflw && decide (tmHour = currentLocal.tmHour)
    (.minuteStage, { state with
      info := { info with
        considerOvflw := considerOvflw
        startMinute := if considerOvflw then currentLocal.tmMin else 0 } })

/-- The minute and second handlers: the field's value in the entry, its "every 15", "every 20",
"once" and "any" codes, the current value the rounding reads and the start value of the stage;
the overflow flag, the field written and the new start value. -/
def unitHandler (value every15 every20 once any : Nat) (current start : Int) (draw : Nat) :
    Bool × Int × Int :=
  if value = every15 then
    let start := 15 * divRoundUp (current + 1) 15
    (decide (start = 60), if start = 60 then 0 else start, start)
  else if value = every20 then
    let start := 20 * divRoundUp (current + 1) 20
    (decide (start = 60), if start = 60 then 0 else start, start)
  else if value = once then (true, ((draw % 60 : Nat) : Int), start)
  else if value = any then (decide (start > 59), if start > 59 then 0 else start, start)
  else (decide ((value : Int) < start), value, start)

def minuteHandler (state : ConvState) : Stage × ConvState :=
  let info := state.info
  let entry := state.entry
  let (minuteOvflw, tmMin, startMinute) := unitHandler entry.minute btMeshSchedulerEvery15Minutes
    btMeshSchedulerEvery20Minutes btMeshSchedulerOnceAnHour btMeshSchedulerAnyMinute currentLocal.tmMin
    info.startMinute (random state.draws)
  let draws := if entry.minute = btMeshSchedulerOnceAnHour then state.draws + 1 else state.draws
  let info := { info with startMinute := startMinute }
  let state := { state with schedTime := { state.schedTime with tmMin := tmMin }, info := info, draws := draws }
  if minuteOvflw ∧ info.considerOvflw then
    (.hourStage, { state with info := { info with startHour := info.startHour + 1 } })
  else
    let considerOvflw := info.considerOvflw && decide (tmMin = currentLocal.tmMin)
    (.secondStage, { state with
      info := { info with
        considerOvflw := considerOvflw
        startSecond := if considerOvflw then currentLocal.tmSec else 0 } })

def secondHandler (state : ConvState) : Stage × ConvState :=
  let info := state.info
  let entry := state.entry
  let (secondOvflw, tmSec, startSecond) := unitHandler entry.second btMeshSchedulerEvery15Seconds
    btMeshSchedulerEvery20Seconds btMeshSchedulerOnceAMinute btMeshSchedulerAnySecond currentLocal.tmSec
    info.startSecond (random state.draws)
  let draws := if entry.second = btMeshSchedulerOnceAMinute then state.draws + 1 else state.draws
  let info := { info with startSecond := startSecond }
  let state := { state with schedTime := { state.schedTime with tmSec := tmSec }, info := info, draws := draws }
  if secondOvflw ∧ info.considerOvflw then
    (.minuteStage, { state with info := { info with startMinute := info.startMinute + 1 } })
  else (.protectorStage, state)

def protectorHandler (state : ConvState) : Stage × ConvState :=
  let schedTime := state.schedTime
  let entry := state.entry
  let info := state.info
  -- prevent scheduling the fired action again
  if currentLocal.tmYear = schedTime.tmYear ∧ currentLocal.tmMon = schedTime.tmMon ∧
      currentLocal.tmMday = schedTime.tmMday ∧ currentLocal.tmHour = schedTime.tmHour ∧
      currentLocal.tmMin = schedTime.tmMin ∧ currentLocal.tmSec = schedTime.tmSec then
    let info := { info with considerOvflw := true }
    if entry.second = btMeshSchedulerAnySecond then
      (.secondStage, { state with info := { info with startSecond := info.startSecond + 1 } })
    else if entry.minute = btMeshSchedulerAnyMinute then
      (.minuteStage, { state with info := { info with startMinute := info.startMinute + 1 } })
    else if entry.hour = btMeshSchedulerAnyHour then
      (.hourStage, { state with info := { info with startHour := info.startHour + 1 } })
    else if entry.day = btMeshSchedulerAnyDay then
      (.dayStage, { state with info := { info with startDay := info.startDay + 1 } })
    else if entry.year = btMeshSchedulerAnyYear then
      (.yearStage, { state with info := { info with startYear := info.startYear + 1 } })
    else (.errorStage, { state with info := info })
  else (.finalStage, state)

def stageStep : Stage × ConvState → Stage × ConvState
  | (.yearStage, state) => yearHandler currentLocal state
  | (.monthStage, state) => monthHandler currentLocal state
  | (.dayStage, state) => dayHandler currentLocal state
  | (.hourStage, state) => hourHandler random currentLocal state
  | (.minuteStage, state) => minuteHandler random currentLocal state
  | (.secondStage, state) => secondHandler random currentLocal state
  | (.protectorStage, state) => protectorHandler currentLocal state
  | stopped => stopped

def stageDone (machine : Stage × ConvState) : Bool :=
  machine.1 = .finalStage || machine.1 = .errorStage

def convertSchedulerTimeToTm (fuel : Nat) (schedTime : Tm) (entry : BtMeshScheduleEntry) :
    Option (Bool × Tm × BtMeshScheduleEntry) :=
  if entry.month = 0 then some (false, schedTime, entry)
  else if entry.dayOfWeek = 0 then some (false, schedTime, entry)
  else
    let info : TmConverter := ⟨false, currentLocal.tmYear, 0, 0, 0, 0, 0⟩
    (runFor (stageStep random currentLocal) stageDone fuel (.yearStage, ⟨schedTime, entry, info, 0⟩)).map
      fun (stage, state) => (decide (stage = .finalStage), state.schedTime, state.entry)

end Handlers

/-- An entry for 1 February at 00:00:00 of any year, on Mondays only. -/
def mondayFirstOfFebruary : BtMeshScheduleEntry := ⟨btMeshSchedulerAnyYear, 0x2, 1, 0, 0, 0, 0x1⟩

def midJanuary2024 : Tm := ⟨0, 0, 12, 15, 0, 124, 1, 14, -1⟩

/-- In a month other than the current one the day handler ignores its own weekday mismatch, so the
converter schedules Thursday 1 February 2024; the first Monday 1 February after now is in 2027. -/
theorem convertSchedulerTimeToTm_ignores_weekday_in_later_month :
    convertSchedulerTimeToTm (fun _ => 0) midJanuary2024 16 ⟨0, 0, 0, 0, 0, 0, 0, 0, 0⟩ mondayFirstOfFebruary =
        some (true, ⟨0, 0, 0, 1, 1, 124, 3, 0, 0⟩, mondayFirstOfFebruary) ∧
      (daysBefore 2024 1 + 5) % 7 = 3 ∧ (daysBefore 2027 1 + 5) % 7 = 0 := by
  decide +kernel

/-! ## What a run does to the entry

Only the day handler writes the entry, replacing a fixed day by its minimum with the length of the month it
plans into, and only the month handler writes tm_mon. Over a whole run the entry is therefore lowered at
most in its day. -/

section Frame

variable (random : Nat → Nat) (currentLocal : Tm)

theorem u32CountTrailingZeros_lt {value width : Nat} (nonzero : value ≠ 0) (small : value < 2 ^ width)
    (wide : width ≤ 32) : u32CountTrailingZeros value < width := by
  obtain ⟨bit, set⟩ := Nat.exists_testBit_of_ne_zero nonzero
  have below : bit < width :=
    (Nat.pow_lt_pow_iff_right (by decide)).mp (lt_of_le_of_lt (Nat.ge_two_pow_of_testBit set) small)
  unfold u32CountTrailingZeros
  cases found : (List.range 32).find? (fun bit => value.testBit bit) with
  | none =>
    have clear := List.find?_range_eq_none.mp found bit (by omega)
    simp [set] at clear
  | some first =>
    obtain ⟨_, _, before⟩ := List.find?_range_eq_some.mp found
    rw [Option.getD_some]
    by_contra far
    have clear := before bit (by omega)
    simp [set] at clear

theorem getDaysInMonth_ge (year : Int) {month : Int} (low : 0 ≤ month) (high : month < 12) :
    28 ≤ getDaysInMonth year month := by
  have table : ∀ k < 12, 28 ≤ monthCfg.getD k 0 ∧ 28 ≤ monthLeapCfg.getD k 0 := by decide
  obtain ⟨plain, leap⟩ := table month.toNat (by omega)
  unfold getDaysInMonth monthsOf
  split <;> exact_mod_cast ‹_›

/-- An entry that differs from `original` at most in a lowered day: an ANY_DAY day stays, and under a 12-bit
month mask so does any day up to 28, and a longer day stays at least 28. -/
structure DayLowered (original entry : BtMeshScheduleEntry) : Prop where
  fields : entry = { original with day := entry.day }
  dayLe : entry.day ≤ original.day
  anyDay : original.day = btMeshSchedulerAnyDay → entry.day = btMeshSchedulerAnyDay
  shortDay : original.month < 2 ^ 12 → original.day ≤ 28 → entry.day = original.day
  longDay : original.month < 2 ^ 12 → 28 ≤ original.day → 28 ≤ entry.day

/-- What each stage of the converter keeps: the entry lowered at most in its day and, for a 12-bit month
mask, a month index within the year. -/
structure EntryKept (original : BtMeshScheduleEntry) (machine : Stage × ConvState) : Prop where
  lowered : DayLowered original machine.2.entry
  monthIndex : original.month < 2 ^ 12 → 0 ≤ machine.2.schedTime.tmMon ∧ machine.2.schedTime.tmMon < 12


theorem dayHandler_entry (state : ConvState) :
    (dayHandler currentLocal state).2.entry =
      if state.entry.day = btMeshSchedulerAnyDay then state.entry
      else { state.entry with
        day := (min (state.entry.day : Int) (getDaysInMonth (state.schedTime.tmYear + tmStartYear) state.schedTime.tmMon)).toNat } := by
  unfold dayHandler
  by_cases any : state.entry.day = btMeshSchedulerAnyDay
  · simp only [any, if_true]
    split_ifs <;> rfl
  · simp only [any, if_false]
    split_ifs <;> rfl

theorem dayHandler_tmMon (state : ConvState) :
    (dayHandler currentLocal state).2.schedTime.tmMon = state.schedTime.tmMon := by
  unfold dayHandler
  by_cases any : state.entry.day = btMeshSchedulerAnyDay
  · simp only [any, if_true]
    split_ifs <;> rfl
  · simp only [any, if_false]
    split_ifs <;> rfl

theorem yearHandler_entry (state : ConvState) : (yearHandler currentLocal state).2.entry = state.entry := by
  dsimp only [yearHandler]
  split_ifs <;> rfl
theorem monthHandler_entry (state : ConvState) : (monthHandler currentLocal state).2.entry = state.entry := by
  dsimp only [monthHandler]
  split_ifs <;> rfl
theorem yearHandler_tmMon (state : ConvState) :
    (yearHandler currentLocal state).2.schedTime.tmMon = state.schedTime.tmMon := by
  dsimp only [yearHandler]
  split_ifs <;> rfl

/-- What the handlers after the day stage keep: the entry and the planned year, month and day. -/
structure SameDay (state state' : ConvState) : Prop where
  entry : state'.entry = state.entry
  tmYear : state'.schedTime.tmYear = state.schedTime.tmYear
  tmMon : state'.schedTime.tmMon = state.schedTime.tmMon
  tmMday : state'.schedTime.tmMday = state.schedTime.tmMday

theorem hourHandler_sameDay (state : ConvState) : SameDay state (hourHandler random currentLocal state).2 := by
  dsimp only [hourHandler]
  split_ifs <;> exact ⟨rfl, rfl, rfl, rfl⟩
theorem minuteHandler_sameDay (state : ConvState) : SameDay state (minuteHandler random currentLocal state).2 := by
  dsimp only [minuteHandler]
  split_ifs <;> exact ⟨rfl, rfl, rfl, rfl⟩
theorem secondHandler_sameDay (state : ConvState) : SameDay state (secondHandler random currentLocal state).2 := by
  dsimp only [secondHandler]
  split_ifs <;> exact ⟨rfl, rfl, rfl, rfl⟩
theorem protectorHandler_sameDay (state : ConvState) : SameDay state (protectorHandler currentLocal state).2 := by
  dsimp only [protectorHandler]
  split_ifs <;> exact ⟨rfl, rfl, rfl, rfl⟩

theorem EntryKept.of_same {original : BtMeshScheduleEntry} {stage stage' : Stage} {state state' : ConvState}
    (kept : EntryKept original (stage, state)) (entry : state'.entry = state.entry)
    (tmMon : state'.schedTime.tmMon = state.schedTime.tmMon) : EntryKept original (stage', state') :=
  ⟨entry ▸ kept.lowered, tmMon ▸ kept.monthIndex⟩

theorem EntryKept.of_sameDay {original : BtMeshScheduleEntry} {stage stage' : Stage} {state state' : ConvState}
    (kept : EntryKept original (stage, state)) (same : SameDay state state') : EntryKept original (stage', state') :=
  kept.of_same same.entry same.tmMon

theorem monthHandler_tmMon (state : ConvState) :
    (monthHandler currentLocal state).2.schedTime.tmMon = state.schedTime.tmMon ∨
      ∃ month, month ≠ 0 ∧ month = state.entry.month &&& (0xFFF <<< state.info.startMonth.toNat) ∧
        (monthHandler currentLocal state).2.schedTime.tmMon = u32CountTrailingZeros month := by
  dsimp only [monthHandler]
  by_cases empty : state.entry.month &&& (0xFFF <<< state.info.startMonth.toNat) = 0
  · rw [if_pos empty]
    exact .inl rfl
  · rw [if_neg empty]
    exact .inr ⟨_, empty, rfl, rfl⟩

theorem EntryKept.monthHandler {original : BtMeshScheduleEntry} {state : ConvState}
    (kept : EntryKept original (.monthStage, state)) : EntryKept original (monthHandler currentLocal state) := by
  have entry := monthHandler_entry currentLocal state
  refine ⟨entry ▸ kept.lowered, fun small => ?_⟩
  rcases monthHandler_tmMon currentLocal state with same | ⟨month, nonzero, masked, written⟩
  · rw [same]
    exact kept.monthIndex small
  · -- the month left in the mask is a bit of the 12-bit entry month
    have sameMonth : state.entry.month = original.month := by
      rw [kept.lowered.fields]
    have bounded : month < 2 ^ 12 := by
      rw [masked]
      exact lt_of_le_of_lt Nat.and_le_left (sameMonth ▸ small)
    rw [written]
    exact ⟨Int.natCast_nonneg _, by exact_mod_cast u32CountTrailingZeros_lt nonzero bounded (by decide)⟩

theorem EntryKept.dayHandler {original : BtMeshScheduleEntry} {state : ConvState}
    (kept : EntryKept original (.dayStage, state)) : EntryKept original (dayHandler currentLocal state) := by
  obtain ⟨⟨fields, dayLe, anyDay, shortDay, longDay⟩, monthIndex⟩ := kept
  dsimp only at fields dayLe anyDay shortDay longDay monthIndex
  refine ⟨?_, by rw [dayHandler_tmMon]; exact monthIndex⟩
  rw [dayHandler_entry]
  split_ifs with any
  · exact ⟨fields, dayLe, anyDay, shortDay, longDay⟩
  · -- a fixed day is replaced by its minimum with the length of the month, which is at least 28
    have notAny : original.day ≠ btMeshSchedulerAnyDay := fun same => any (anyDay same)
    refine ⟨by rw [fields], by dsimp only; omega, fun same => absurd same notAny, fun small short => ?_,
      fun small long => ?_⟩
    · have month := getDaysInMonth_ge (state.schedTime.tmYear + tmStartYear) (monthIndex small).1 (monthIndex small).2
      have kept := shortDay small short
      dsimp only
      omega
    · have month := getDaysInMonth_ge (state.schedTime.tmYear + tmStartYear) (monthIndex small).1 (monthIndex small).2
      have kept := longDay small long
      dsimp only
      omega

theorem stageStep_entryKept {original : BtMeshScheduleEntry} (machine : Stage × ConvState)
    (kept : EntryKept original machine) : EntryKept original (stageStep random currentLocal machine) := by
  obtain ⟨stage, state⟩ := machine
  cases stage with
  | yearStage => exact kept.of_same (yearHandler_entry currentLocal state) (yearHandler_tmMon currentLocal state)
  | monthStage => exact kept.monthHandler currentLocal
  | dayStage => exact kept.dayHandler currentLocal
  | hourStage => exact kept.of_sameDay (hourHandler_sameDay random currentLocal state)
  | minuteStage => exact kept.of_sameDay (minuteHandler_sameDay random currentLocal state)
  | secondStage => exact kept.of_sameDay (secondHandler_sameDay random currentLocal state)
  | protectorStage => exact kept.of_sameDay (protectorHandler_sameDay currentLocal state)
  | finalStage => exact kept
  | errorStage => exact kept

theorem convertSchedulerTimeToTm_entry {fuel : Nat} {schedTime schedTime' : Tm} {entry entry' : BtMeshScheduleEntry}
    {converted : Bool} (month : 0 ≤ schedTime.tmMon ∧ schedTime.tmMon < 12)
    (ran : convertSchedulerTimeToTm random currentLocal fuel schedTime entry = some (converted, schedTime', entry')) :
    DayLowered entry entry' := by
  have unchanged : DayLowered entry entry := ⟨rfl, le_refl _, id, fun _ _ => rfl, fun _ long => long⟩
  unfold convertSchedulerTimeToTm at ran
  split_ifs at ran
  · cases ran
    exact unchanged
  · cases ran
    exact unchanged
  · obtain ⟨final, run, result⟩ := Option.map_eq_some_iff.mp ran
    have kept := runFor_invariant (EntryKept entry) (fun machine _ kept => stageStep_entryKept random currentLocal machine kept)
      ⟨unchanged, fun _ => month⟩ run
    cases result
    exact kept.lowered

/-! ## The day a plan lands on

The day handler writes the clamped day into both the entry and tm_mday, and no later stage of the pass
touches either. So whenever the converter returns true for a fixed day, the entry it leaves holds exactly
the day of the month it planned. -/

def Stage.afterDay : Stage → Bool
  | .hourStage | .minuteStage | .secondStage | .protectorStage | .finalStage => true
  | _ => false

def DayPlanned (machine : Stage × ConvState) : Prop :=
  machine.1.afterDay = true → machine.2.entry.day ≠ btMeshSchedulerAnyDay →
    machine.2.schedTime.tmMday = machine.2.entry.day ∧
      (machine.2.entry.day : Int) ≤ getDaysInMonth (machine.2.schedTime.tmYear + tmStartYear) machine.2.schedTime.tmMon

theorem DayPlanned.of_sameDay {stage stage' : Stage} {state state' : ConvState} (planned : DayPlanned (stage, state))
    (after : stage.afterDay = true) (same : SameDay state state') : DayPlanned (stage', state') := by
  intro _ fixed
  dsimp only at fixed ⊢
  rw [same.entry] at fixed ⊢
  rw [same.tmMday, same.tmYear, same.tmMon]
  exact planned after fixed

theorem yearHandler_afterDay (state : ConvState) : (yearHandler currentLocal state).1.afterDay = false := by
  dsimp only [yearHandler]
  split_ifs <;> rfl

theorem monthHandler_afterDay (state : ConvState) : (monthHandler currentLocal state).1.afterDay = false := by
  dsimp only [monthHandler]
  split_ifs <;> rfl

theorem dayHandler_schedTime_of_fixed (state : ConvState) (fixed : state.entry.day ≠ btMeshSchedulerAnyDay)
    (nonzero : (min (state.entry.day : Int)
      (getDaysInMonth (state.schedTime.tmYear + tmStartYear) state.schedTime.tmMon)).toNat ≠ btMeshSchedulerAnyDay) :
    (dayHandler currentLocal state).2.schedTime.tmMday =
        min (state.entry.day : Int) (getDaysInMonth (state.schedTime.tmYear + tmStartYear) state.schedTime.tmMon) ∧
      (dayHandler currentLocal state).2.schedTime.tmYear = state.schedTime.tmYear ∧
      (dayHandler currentLocal state).2.schedTime.tmMon = state.schedTime.tmMon := by
  unfold dayHandler
  simp only [fixed, if_false]
  -- split_ifs drops the weekday search that moves tm_mday: it is the ANY_DAY branch, against `nonzero`
  split_ifs <;> exact ⟨rfl, rfl, rfl⟩

theorem dayHandler_dayPlanned (state : ConvState)
    (fixed : (dayHandler currentLocal state).2.entry.day ≠ btMeshSchedulerAnyDay) :
    (dayHandler currentLocal state).2.schedTime.tmMday = (dayHandler currentLocal state).2.entry.day ∧
      ((dayHandler currentLocal state).2.entry.day : Int) ≤ getDaysInMonth
        ((dayHandler currentLocal state).2.schedTime.tmYear + tmStartYear) (dayHandler currentLocal state).2.schedTime.tmMon := by
  have entry := dayHandler_entry currentLocal state
  by_cases any : state.entry.day = btMeshSchedulerAnyDay
  · rw [entry, if_pos any] at fixed
    exact absurd any fixed
  rw [entry, if_neg any] at fixed ⊢
  dsimp only at fixed ⊢
  obtain ⟨tmMday, tmYear, tmMon⟩ := dayHandler_schedTime_of_fixed currentLocal state any fixed
  have nonneg : 0 ≤ min (state.entry.day : Int) (getDaysInMonth (state.schedTime.tmYear + tmStartYear) state.schedTime.tmMon) :=
    le_min (Int.natCast_nonneg _) (Int.natCast_nonneg _)
  rw [tmMday, tmYear, tmMon, Int.toNat_of_nonneg nonneg]
  exact ⟨rfl, min_le_right _ _⟩

theorem stageStep_dayPlanned (machine : Stage × ConvState) (planned : DayPlanned machine) :
    DayPlanned (stageStep random currentLocal machine) := by
  obtain ⟨stage, state⟩ := machine
  cases stage with
  | yearStage =>
    intro after
    rw [stageStep, yearHandler_afterDay] at after
    cases after
  | monthStage =>
    intro after
    rw [stageStep, monthHandler_afterDay] at after
    cases after
  | dayStage => exact fun _ fixed => dayHandler_dayPlanned currentLocal state fixed
  | hourStage => exact planned.of_sameDay rfl (hourHandler_sameDay random currentLocal state)
  | minuteStage => exact planned.of_sameDay rfl (minuteHandler_sameDay random currentLocal state)
  | secondStage => exact planned.of_sameDay rfl (secondHandler_sameDay random currentLocal state)
  | protectorStage => exact planned.of_sameDay rfl (protectorHandler_sameDay currentLocal state)
  | finalStage => exact planned
  | errorStage => exact planned

theorem convertSchedulerTimeToTm_plans_day {fuel : Nat} {schedTime schedTime' : Tm}
    {entry entry' : BtMeshScheduleEntry}
    (ran : convertSchedulerTimeToTm random currentLocal fuel schedTime entry = some (true, schedTime', entry'))
    (fixed : entry'.day ≠ btMeshSchedulerAnyDay) :
    schedTime'.tmMday = entry'.day ∧ (entry'.day : Int) ≤ getDaysInMonth (schedTime'.tmYear + tmStartYear) schedTime'.tmMon := by
  unfold convertSchedulerTimeToTm at ran
  split_ifs at ran
  · cases ran
  · cases ran
  · obtain ⟨⟨stage, state⟩, run, result⟩ := Option.map_eq_some_iff.mp ran
    have planned := runFor_invariant DayPlanned
      (fun machine _ planned => stageStep_dayPlanned random currentLocal machine planned) (by intro after; exact (Bool.false_ne_true after).elim) run
    simp only [Prod.mk.injEq, decide_eq_true_eq] at result
    obtain ⟨final, rfl, rfl⟩ := result
    exact planned (by rw [final]; rfl) fixed

end Frame

end Mesh
