import NrfSdk.Machine.Bits
import NrfSdk.Mesh.Scheduler

/-!
The Scheduler Server's register (scheduler_srv.c, scheduler_internal.h). Scheduler Action Set unpacks an
entry, stores it in sch_reg and plans it with schedule_action, and an Action Get packs sch_reg back into
an Action Status. schedule_action hands the converter a pointer into sch_reg itself, so when the day
handler clamps a fixed day to the length of the month it plans into, the register keeps the clamped day.
-/

namespace Mesh

open Machine

def btMeshSchedulerActionEntryCount : Nat := 16
def maxDay : Nat := 0x1F

def btMeshSchedulerTurnOn : Nat := 1
def btMeshSchedulerSceneRecall : Nat := 2
def btMeshSchedulerNoActions : Nat := 0xf

/-- A struct bt_mesh_schedule_entry: the time fields the converter reads, and the action to take. -/
structure SchRegEntry where
  time : BtMeshScheduleEntry
  action : Nat
  transitionTime : Nat
  sceneNumber : Nat
  deriving DecidableEq, Repr

/-- The fields of struct bt_mesh_scheduler_srv that planning reads and writes. -/
structure BtMeshSchedulerSrv where
  schReg : Fin 16 → SchRegEntry
  schedTai : Fin 16 → BtMeshTimeTai
  activeBitmap : Nat

def tmZero : Tm := ⟨0, 0, 0, 0, 0, 0, 0, 0, 0⟩

/-- schedule_action for the local time bt_mesh_time_srv_localtime returns (none for NULL), with the
converter run for at most `fuel` handler calls: the server it leaves, none when the fuel runs out. -/
def scheduleAction (random : Nat → Nat) (fuel : Nat) (localTime : Option Tm) (srv : BtMeshSchedulerSrv)
    (idx : Fin 16) : Option BtMeshSchedulerSrv :=
  match localTime with
  | none => some srv
  | some currentLocal =>
    (convertSchedulerTimeToTm random currentLocal fuel tmZero (srv.schReg idx).time).map
      fun (converted, schedTime, time) =>
        -- the converter works on srv->sch_reg[idx] itself, whatever it returns
        let srv := { srv with schReg := Function.update srv.schReg idx { srv.schReg idx with time := time } }
        if converted then
          match tsToTai schedTime with
          | .ok tai =>
            { srv with
              schedTai := Function.update srv.schedTai idx tai
              activeBitmap := srv.activeBitmap ||| (1 <<< idx.val) }
          | .error _ => srv
        else srv

theorem scheduleAction_schReg_eq {random : Nat → Nat} {fuel : Nat} {currentLocal : Tm} {srv srv' : BtMeshSchedulerSrv}
    {idx : Fin 16} (planned : scheduleAction random fuel (some currentLocal) srv idx = some srv') :
    ∃ converted schedTime time,
      convertSchedulerTimeToTm random currentLocal fuel tmZero (srv.schReg idx).time = some (converted, schedTime, time) ∧
        srv'.schReg = Function.update srv.schReg idx { srv.schReg idx with time := time } := by
  obtain ⟨⟨converted, schedTime, time⟩, ran, result⟩ := Option.map_eq_some_iff.mp planned
  refine ⟨converted, schedTime, time, ran, ?_⟩
  rw [← result]
  dsimp only
  split_ifs
  · split <;> rfl
  · rfl

theorem scheduleAction_lowers_only_day {random : Nat → Nat} {fuel : Nat} {localTime : Option Tm}
    {srv srv' : BtMeshSchedulerSrv} {idx : Fin 16} (planned : scheduleAction random fuel localTime srv idx = some srv') :
    (∀ other, other ≠ idx → srv'.schReg other = srv.schReg other) ∧
      srv'.schReg idx = { srv.schReg idx with time := (srv'.schReg idx).time } ∧
      DayLowered (srv.schReg idx).time (srv'.schReg idx).time := by
  cases localTime with
  | none =>
    cases planned
    exact ⟨fun _ _ => rfl, rfl, ⟨rfl, le_refl _, id, fun _ _ => rfl, fun _ long => long⟩⟩
  | some currentLocal =>
    obtain ⟨converted, schedTime, time, ran, register⟩ := scheduleAction_schReg_eq planned
    have lowered := convertSchedulerTimeToTm_entry random currentLocal (by decide) ran
    rw [register]
    refine ⟨fun other different => Function.update_of_ne different _ _, ?_, ?_⟩
    · rw [Function.update_self]
    · rw [Function.update_self]
      exact lowered

/-- When schedule_action plans a fixed day (the converter returns true), the register's day becomes the day
of the month it planned, within the planned month's length: the day set if that fits every month visited,
else lowered. Every other field and entry stays as it was. -/
theorem scheduleAction_register_day_planned {random : Nat → Nat} {fuel : Nat} {currentLocal : Tm}
    {srv srv' : BtMeshSchedulerSrv} {idx : Fin 16} {schedTime : Tm} {time : BtMeshScheduleEntry}
    (planned : scheduleAction random fuel (some currentLocal) srv idx = some srv')
    (ran : convertSchedulerTimeToTm random currentLocal fuel tmZero (srv.schReg idx).time = some (true, schedTime, time))
    (fixed : (srv.schReg idx).time.day ≠ btMeshSchedulerAnyDay) (month : (srv.schReg idx).time.month < 2 ^ 12) :
    DayLowered (srv.schReg idx).time (srv'.schReg idx).time ∧
      schedTime.tmMday = (srv'.schReg idx).time.day ∧
      ((srv'.schReg idx).time.day : Int) ≤ getDaysInMonth (schedTime.tmYear + tmStartYear) schedTime.tmMon := by
  obtain ⟨-, -, lowered⟩ := scheduleAction_lowers_only_day planned
  obtain ⟨converted, schedTime', time', ran', register⟩ := scheduleAction_schReg_eq planned
  rw [ran] at ran'
  cases ran'
  have written : (srv'.schReg idx).time = time := by
    rw [register, Function.update_self]
  -- the lowered day stays fixed: the day set if at most 28, else at least 28
  have stillFixed : time.day ≠ btMeshSchedulerAnyDay := by
    rw [← written]
    unfold btMeshSchedulerAnyDay at fixed ⊢
    by_cases short : (srv.schReg idx).time.day ≤ 28
    · rw [lowered.shortDay month short]
      exact fixed
    · have long := lowered.longDay month (by omega)
      omega
  rw [written] at lowered ⊢
  exact ⟨lowered, convertSchedulerTimeToTm_plans_day random currentLocal ran stillFixed⟩

def lastOfAprilMay : SchRegEntry := ⟨⟨btMeshSchedulerAnyYear, 0x18, 31, 0, 0, 0, 0x7F⟩, btMeshSchedulerTurnOn, 0, 0⟩

def emptySchedulerSrv : BtMeshSchedulerSrv :=
  ⟨fun _ => ⟨⟨0, 0, 0, 0, 0, 0, 0⟩, btMeshSchedulerNoActions, 0, 0⟩, fun _ => ⟨bits 40 0, bits 8 0⟩, 0⟩

def lastOfAprilMaySrv : BtMeshSchedulerSrv :=
  { emptySchedulerSrv with schReg := Function.update emptySchedulerSrv.schReg 0 lastOfAprilMay }

theorem scheduleAction_register_day_planned_in_april :
    scheduleAction (fun _ => 0) 16 (some midJanuary2024) lastOfAprilMaySrv 0 =
        some { lastOfAprilMaySrv with
          schReg := Function.update lastOfAprilMaySrv.schReg 0 { lastOfAprilMay with time := { lastOfAprilMay.time with day := 30 } }
          schedTai := Function.update lastOfAprilMaySrv.schedTai 0 ⟨bits 40 767750400, bits 8 0⟩
          activeBitmap := 1 } ∧
      convertSchedulerTimeToTm (fun _ => 0) midJanuary2024 16 tmZero (lastOfAprilMaySrv.schReg 0).time =
        some (true, ⟨0, 0, 0, 30, 3, 124, 1, 0, 0⟩, { lastOfAprilMay.time with day := 30 }) ∧
      (lastOfAprilMaySrv.schReg 0).time.day ≠ btMeshSchedulerAnyDay ∧ (lastOfAprilMaySrv.schReg 0).time.month < 2 ^ 12 ∧
      DayLowered (lastOfAprilMaySrv.schReg 0).time { lastOfAprilMay.time with day := 30 } ∧
      (⟨0, 0, 0, 30, 3, 124, 1, 0, 0⟩ : Tm).tmMday = 30 ∧
      ((30 : Nat) : Int) ≤ getDaysInMonth (124 + tmStartYear) 3 := by
  have converted : convertSchedulerTimeToTm (fun _ => 0) midJanuary2024 16 tmZero (lastOfAprilMaySrv.schReg 0).time =
      some (true, ⟨0, 0, 0, 30, 3, 124, 1, 0, 0⟩, { lastOfAprilMay.time with day := 30 }) := by
    decide +kernel
  have tai : tsToTai ⟨0, 0, 0, 30, 3, 124, 1, 0, 0⟩ = .ok ⟨bits 40 767750400, bits 8 0⟩ := by decide +kernel
  have planned : scheduleAction (fun _ => 0) 16 (some midJanuary2024) lastOfAprilMaySrv 0 =
      some { lastOfAprilMaySrv with
        schReg := Function.update lastOfAprilMaySrv.schReg 0 { lastOfAprilMay with time := { lastOfAprilMay.time with day := 30 } }
        schedTai := Function.update lastOfAprilMaySrv.schedTai 0 ⟨bits 40 767750400, bits 8 0⟩
        activeBitmap := 1 } := by
    simp only [scheduleAction, converted, Option.map_some, if_true, tai]
    rfl
  have fixed : (lastOfAprilMaySrv.schReg 0).time.day ≠ btMeshSchedulerAnyDay := by decide
  have month : (lastOfAprilMaySrv.schReg 0).time.month < 2 ^ 12 := by decide
  exact ⟨planned, converted, fixed, month, scheduleAction_register_day_planned planned converted fixed month⟩

/-! ## Action Set and Action Get -/

def bitMask (n : Nat) : Nat := (1 <<< n) - 1

/-- An Action Set or Action Status body: two little-endian 32-bit words and a 16-bit scene number. -/
structure ActionMessage where
  first : Fin (2 ^ 32)
  second : Fin (2 ^ 32)
  sceneNumber : Fin (2 ^ 16)
  deriving DecidableEq, Repr

def schedulerActionPack (idx : Nat) (entry : SchRegEntry) : ActionMessage :=
  -- the first word is computed in 32 bits, which keep only the low four bits of the hour
  ⟨bits 32 (((((idx &&& bitMask 4) ||| ((entry.time.year &&& bitMask 7) <<< 4)) |||
      ((entry.time.month &&& bitMask 12) <<< 11)) ||| ((entry.time.day &&& bitMask 5) <<< 23)) |||
      ((entry.time.hour &&& bitMask 5) <<< 28)),
    bits 32 ((((((entry.time.hour >>> 4) &&& bitMask 1) ||| ((entry.time.minute &&& bitMask 6) <<< 1)) |||
      ((entry.time.second &&& bitMask 6) <<< 7)) ||| ((entry.time.dayOfWeek &&& bitMask 7) <<< 13)) |||
      ((entry.action &&& bitMask 4) <<< 20) ||| ((entry.transitionTime &&& bitMask 8) <<< 24)),
    bits 16 entry.sceneNumber⟩

def schedulerActionUnpack (message : ActionMessage) : Nat × SchRegEntry :=
  let first := message.first.val
  let second := message.second.val
  (first &&& bitMask 4,
    ⟨⟨(first >>> 4) &&& bitMask 7, (first >>> 11) &&& bitMask 12, (first >>> 23) &&& bitMask 5,
        (first >>> 28) ||| ((second &&& bitMask 1) <<< 4), (second >>> 1) &&& bitMask 6,
        (second >>> 7) &&& bitMask 6, (second >>> 13) &&& bitMask 7⟩,
      (second >>> 20) &&& bitMask 4, (second >>> 24) &&& bitMask 8, message.sceneNumber.val⟩)

def schedulerActionValid (entry : SchRegEntry) (idx : Nat) : Bool :=
  !(entry.time.year > btMeshSchedulerAnyYear || entry.time.day > maxDay ||
    entry.time.hour > btMeshSchedulerOnceADay || entry.time.minute > btMeshSchedulerOnceAnHour ||
    entry.time.second > btMeshSchedulerOnceAMinute ||
    (entry.action > btMeshSchedulerSceneRecall && entry.action != btMeshSchedulerNoActions) ||
    idx ≥ btMeshSchedulerActionEntryCount)

def isEntryDefined (srv : BtMeshSchedulerSrv) (idx : Fin 16) : Bool :=
  (srv.schReg idx).action != btMeshSchedulerNoActions

/-- action_set: -EINVAL for an entry scheduler_action_valid rejects, else the index and the server after
storing the entry, planning it, and clearing its active bit when it has no action; none when planning
runs out of fuel. Storing to flash, the callback and the status messages change nothing of the server. -/
def actionSet (random : Nat → Nat) (fuel : Nat) (localTime : Option Tm) (srv : BtMeshSchedulerSrv)
    (message : ActionMessage) : Option (Except Errno (Fin 16 × BtMeshSchedulerSrv)) :=
  let (idx, tmp) := schedulerActionUnpack message
  if !schedulerActionValid tmp idx then some (.error .EINVAL)
  else
    let idx : Fin 16 := Fin.ofNat 16 idx
    let srv := { srv with schReg := Function.update srv.schReg idx tmp }
    let planned :=
      if (srv.schReg idx).action < btMeshSchedulerSceneRecall ∨
          ((srv.schReg idx).action = btMeshSchedulerSceneRecall ∧ (srv.schReg idx).sceneNumber ≠ 0) then
        scheduleAction random fuel localTime srv idx
      else some srv
    planned.map fun srv =>
      if (srv.schReg idx).action = btMeshSchedulerNoActions ∧ srv.activeBitmap &&& (1 <<< idx.val) ≠ 0 then
        -- WRITE_BIT(active_bitmap, idx, 0): the complement of BIT(idx) is taken in 32 bits
        .ok (idx, { srv with activeBitmap := srv.activeBitmap &&& ((2 ^ 32 - 1) ^^^ (1 <<< idx.val)) })
      else .ok (idx, srv)

/-- An Action Status: the index alone, or the index and the packed entry. -/
inductive ActionStatus where
  | reduced (idx : Nat)
  | full (message : ActionMessage)
  deriving DecidableEq, Repr

def encodeActionStatus (srv : BtMeshSchedulerSrv) (idx : Fin 16) (isReduced : Bool) : ActionStatus :=
  if isReduced then .reduced idx.val else .full (schedulerActionPack idx.val (srv.schReg idx))

/-- handle_scheduler_action_get: the status it sends, none where it returns -ENOENT. -/
def handleSchedulerActionGet (srv : BtMeshSchedulerSrv) (idx : Nat) : Option ActionStatus :=
  if h : idx < btMeshSchedulerActionEntryCount then
    some (encodeActionStatus srv ⟨idx, h⟩ (!isEntryDefined srv ⟨idx, h⟩))
  else none

/-! What the register can hold, and what an Action Status reports of it -/

theorem bitMask_eq (n : Nat) : bitMask n = 2 ^ n - 1 := by
  rw [bitMask, Nat.one_shiftLeft]

/-- The widths the message gives the entry's fields. -/
structure SchRegEntry.Fits (entry : SchRegEntry) : Prop where
  year : entry.time.year < 2 ^ 7
  month : entry.time.month < 2 ^ 12
  day : entry.time.day < 2 ^ 5
  hour : entry.time.hour < 2 ^ 5
  minute : entry.time.minute < 2 ^ 6
  second : entry.time.second < 2 ^ 6
  dayOfWeek : entry.time.dayOfWeek < 2 ^ 7
  action : entry.action < 2 ^ 4
  transitionTime : entry.transitionTime < 2 ^ 8
  sceneNumber : entry.sceneNumber < 2 ^ 16

theorem schedulerActionUnpack_pack {idx : Nat} {entry : SchRegEntry} (index : idx < 16) (fits : entry.Fits) :
    schedulerActionUnpack (schedulerActionPack idx entry) = (idx, entry) := by
  obtain ⟨⟨year, month, day, hour, minute, second, dayOfWeek⟩, action, transitionTime, sceneNumber⟩ := entry
  obtain ⟨yearFits, monthFits, dayFits, hourFits, minuteFits, secondFits, weekFits, actionFits, transitionFits,
    sceneFits⟩ := fits
  dsimp only at yearFits monthFits dayFits hourFits minuteFits secondFits weekFits actionFits transitionFits sceneFits
  simp (disch := omega) only [schedulerActionPack, schedulerActionUnpack, bits, wrap_natCast, bitMask_eq,
    Nat.and_two_pow_sub_one_eq_mod, or_shiftLeft_of_lt, Nat.shiftRight_eq_div_pow, Prod.mk.injEq,
    SchRegEntry.mk.injEq, BtMeshScheduleEntry.mk.injEq]
  omega

def firstOfMay2024 : Tm := ⟨0, 0, 12, 1, 4, 124, 3, 121, -1⟩

def aprilMayPlanned : BtMeshSchedulerSrv :=
  { lastOfAprilMaySrv with
    schReg := Function.update lastOfAprilMaySrv.schReg 0 { lastOfAprilMay with time := { lastOfAprilMay.time with day := 30 } }
    schedTai := Function.update lastOfAprilMaySrv.schedTai 0 ⟨bits 40 767750400, bits 8 0⟩
    activeBitmap := 1 }

/-- Action Set of day 31 of April and May in January 2024 leaves day 30 in the register: an Action Get
reports day 30, and planning the index again in May (as bt_mesh_scheduler_srv_time_update does) lands on
30 May 2024, where the entry that was set gives 31 May 2024. -/
theorem actionSet_replans_lowered_day :
    actionSet (fun _ => 0) 16 (some midJanuary2024) emptySchedulerSrv (schedulerActionPack 0 lastOfAprilMay) =
        some (.ok (0, aprilMayPlanned)) ∧
      handleSchedulerActionGet aprilMayPlanned 0 =
        some (.full (schedulerActionPack 0 { lastOfAprilMay with time := { lastOfAprilMay.time with day := 30 } })) ∧
      (scheduleAction (fun _ => 0) 16 (some firstOfMay2024) aprilMayPlanned 0).map (fun srv => srv.schedTai 0) =
        some ⟨bits 40 770342400, bits 8 0⟩ ∧
      (scheduleAction (fun _ => 0) 16 (some firstOfMay2024) lastOfAprilMaySrv 0).map (fun srv => srv.schedTai 0) =
        some ⟨bits 40 770428800, bits 8 0⟩ := by
  have converted : convertSchedulerTimeToTm (fun _ => 0) midJanuary2024 16 tmZero lastOfAprilMay.time =
      some (true, ⟨0, 0, 0, 30, 3, 124, 1, 0, 0⟩, { lastOfAprilMay.time with day := 30 }) := by
    decide +kernel
  have set : actionSet (fun _ => 0) 16 (some midJanuary2024) emptySchedulerSrv (schedulerActionPack 0 lastOfAprilMay) =
      some (.ok (0, aprilMayPlanned)) := by
    have unpacked : schedulerActionUnpack (schedulerActionPack 0 lastOfAprilMay) = (0, lastOfAprilMay) :=
      schedulerActionUnpack_pack (by decide) (by constructor <;> decide)
    have tai : tsToTai ⟨0, 0, 0, 30, 3, 124, 1, 0, 0⟩ = .ok ⟨bits 40 767750400, bits 8 0⟩ := by decide +kernel
    simp only [actionSet, unpacked, scheduleAction, Function.update_self, converted, Option.map_some, if_true, tai]
    rfl
  refine ⟨set, by decide, ?_, ?_⟩ <;> decide +kernel

end Mesh
