import NrfSdk.Mesh.TimeUtil

namespace Mesh

open Machine

def subsecSteps : Nat := 256
def msecPerSec : Nat := 1000

structure BtMeshTimeStatus where
  tai : BtMeshTimeTai
  taiUtcDelta : Int16
  timeZoneOffset : Int16
  deriving DecidableEq, Repr

structure BtMeshTimeZoneChange where
  newOffset : Int16
  timestamp : Nat
  deriving DecidableEq, Repr

structure BtMeshTimeTaiUtcChange where
  deltaNew : Int16
  timestamp : Nat
  deriving DecidableEq, Repr

/-- The device uptime in milliseconds and the time status at the last sync point. -/
structure SyncPoint where
  uptime : Int
  status : BtMeshTimeStatus
  deriving DecidableEq, Repr

structure BtMeshTimeSrvData where
  sync : SyncPoint
  timeZoneChange : BtMeshTimeZoneChange
  taiUtcChange : BtMeshTimeTaiUtcChange
  deriving DecidableEq, Repr

def zoneOffsetToSec (rawZone : Int16) : Int := rawZone.toInt * 15 * secPerMin

def taiToMs (tai : BtMeshTimeTai) : Nat := msecPerSec * tai.sec.val + msecPerSec * tai.subsec.val / subsecSteps

def taiIsUnknown (tai : BtMeshTimeTai) : Bool := tai.sec.val = 0 && tai.subsec.val = 0

def taiAt (data : BtMeshTimeSrvData) (uptime : Int) : BtMeshTimeTai :=
  let sync := data.sync.status.tai
  let steps := (subsecSteps * (uptime - data.sync.uptime)).tdiv msecPerSec
  if taiIsUnknown sync then sync
  else
    let subsec := sync.subsec.val + steps
    let sec := sync.sec.val + subsec.tdiv subsecSteps
    let subsec := if subsec ≥ subsecSteps then subsec.tmod subsecSteps else subsec
    ⟨bits 40 sec, bits 8 subsec⟩

def getZoneOffset (data : BtMeshTimeSrvData) (uptime : Int) : Int16 :=
  let tai := taiAt data uptime
  if data.timeZoneChange.timestamp ≠ 0 ∧ tai.sec.val ≥ data.timeZoneChange.timestamp then
    data.timeZoneChange.newOffset
  else data.sync.status.timeZoneOffset

def getUtcDelta (data : BtMeshTimeSrvData) (uptime : Int) : Int16 :=
  let tai := taiAt data uptime
  if data.taiUtcChange.timestamp ≠ 0 ∧ tai.sec.val ≥ data.taiUtcChange.timestamp then
    data.taiUtcChange.deltaNew
  else data.sync.status.taiUtcDelta

def btMeshTimeSrvLocaltimeR (data : BtMeshTimeSrvData) (uptime : Int) : Option Tm :=
  if taiIsUnknown data.sync.status.tai ∨ data.sync.uptime > uptime then none
  else
    let tai := taiAt data uptime
    let sec := bits 40 (tai.sec.val + zoneOffsetToSec (getZoneOffset data uptime))
    let sec := bits 40 (sec.val - (getUtcDelta data uptime).toInt)
    some (taiToTs ⟨sec, tai.subsec⟩)

def btMeshTimeSrvMktime (data : BtMeshTimeSrvData) (timeptr : Tm) : Except Errno Int :=
  let currUtcDelta := data.sync.status.taiUtcDelta.toInt
  let currTimeZone := zoneOffsetToSec data.sync.status.timeZoneOffset
  match tsToTai timeptr with
  | .error err => .error err
  | .ok tai =>
    let newTimeZone := zoneOffsetToSec data.timeZoneChange.newOffset
    -- the thresholds are unsigned 64-bit sums, and sec is converted to unsigned to compare with them
    let sec : Int :=
      if data.timeZoneChange.timestamp ≠ 0 ∧
          wrap 64 tai.sec.val ≥ wrap 64 (data.timeZoneChange.timestamp + newTimeZone) then
        tai.sec.val - newTimeZone
      else tai.sec.val - currTimeZone
    let newUtcDelta := data.taiUtcChange.deltaNew.toInt
    let sec :=
      if data.taiUtcChange.timestamp ≠ 0 ∧
          wrap 64 sec ≥ wrap 64 (data.taiUtcChange.timestamp - newUtcDelta) then
        sec + newUtcDelta
      else sec + currUtcDelta
    if sec < 0 ∨ sec < data.sync.status.tai.sec.val then .error .EINVAL
    else
      let tai : BtMeshTimeTai := ⟨bits 40 sec, tai.subsec⟩
      .ok (signed 64 ((taiToMs tai : Int) - taiToMs data.sync.status.tai + data.sync.uptime))

theorem taiAt_sec_of_known {data : BtMeshTimeSrvData} {uptime : Int}
    (known : taiIsUnknown data.sync.status.tai = false) (after : data.sync.uptime ≤ uptime) :
    (taiAt data uptime).sec.val = wrap 40 (data.sync.status.tai.sec.val +
      (data.sync.status.tai.subsec.val + subsecSteps * (uptime - data.sync.uptime) / msecPerSec) /
        subsecSteps) := by
  have elapsed : 0 ≤ (subsecSteps : Int) * (uptime - data.sync.uptime) := by
    simp only [subsecSteps]
    omega
  have steps : 0 ≤ (subsecSteps * (uptime - data.sync.uptime) : Int) / msecPerSec :=
    Int.ediv_nonneg elapsed (by simp [msecPerSec])
  simp only [taiAt, known, Bool.false_eq_true, if_false, Int.tdiv_eq_ediv_of_nonneg elapsed]
  rw [Int.tdiv_eq_ediv_of_nonneg (by omega)]
  rfl

theorem btMeshTimeSrvLocaltimeR_of_known {data : BtMeshTimeSrvData} {uptime : Int}
    (known : taiIsUnknown data.sync.status.tai = false) (after : data.sync.uptime ≤ uptime) :
    ∃ subsec, btMeshTimeSrvLocaltimeR data uptime = some (taiToTs ⟨bits 40
      (wrap 40 ((taiAt data uptime).sec.val + zoneOffsetToSec (getZoneOffset data uptime)) -
        (getUtcDelta data uptime).toInt), subsec⟩) := by
  refine ⟨(taiAt data uptime).subsec, ?_⟩
  simp only [btMeshTimeSrvLocaltimeR, known, Bool.false_eq_true, false_or,
    if_neg (show ¬ data.sync.uptime > uptime by omega)]
  rfl

def zoneChangeAhead : BtMeshTimeSrvData :=
  ⟨⟨0, ⟨⟨bits 40 700000000, bits 8 0⟩, 37, 0⟩⟩, ⟨4, 700000001⟩, ⟨37, 0⟩⟩

/-- One second after the sync, localtime_r has already applied the new zone, but mktime compares the
local time with the change timestamp plus the new offset without the delta and applies the old zone:
it returns an uptime one hour late. That local time belongs to no other TAI second. -/
theorem btMeshTimeSrvMktime_zone_change_misses_delta :
    (btMeshTimeSrvLocaltimeR zoneChangeAhead 1000).map (btMeshTimeSrvMktime zoneChangeAhead) =
        some (.ok 3601000) ∧
      ∀ uptime < 2 ^ 48, btMeshTimeSrvLocaltimeR zoneChangeAhead uptime =
        btMeshTimeSrvLocaltimeR zoneChangeAhead 1000 → 1000 ≤ uptime ∧ uptime < 2000 := by
  refine ⟨by decide +kernel, ?_⟩
  intro uptime bound same
  have known : taiIsUnknown zoneChangeAhead.sync.status.tai = false := by decide
  have started : zoneChangeAhead.sync.uptime ≤ uptime := by
    by_contra early
    simp only [btMeshTimeSrvLocaltimeR, known, Bool.false_eq_true, false_or,
      if_pos (show zoneChangeAhead.sync.uptime > uptime by omega)] at same
    exact absurd same (by decide +kernel)
  have nonneg : 0 ≤ uptime := started
  obtain ⟨subsec, atUptime⟩ := btMeshTimeSrvLocaltimeR_of_known known started
  obtain ⟨subsec', atSecond⟩ :=
    btMeshTimeSrvLocaltimeR_of_known known (show zoneChangeAhead.sync.uptime ≤ 1000 by decide)
  rw [atUptime, atSecond, Option.some.injEq] at same
  have localSame := congrArg Fin.val (taiToTs_sec_injective same)
  have atSecondSec : (bits 40 (wrap 40 ((taiAt zoneChangeAhead 1000).sec.val +
      zoneOffsetToSec (getZoneOffset zoneChangeAhead 1000)) - (getUtcDelta zoneChangeAhead 1000).toInt)).val =
      700003564 := by decide +kernel
  have delta : (getUtcDelta zoneChangeAhead uptime).toInt = 37 := by
    simp only [getUtcDelta]
    split <;> decide
  have zone : zoneOffsetToSec (getZoneOffset zoneChangeAhead uptime) =
      if 700000001 ≤ (taiAt zoneChangeAhead uptime).sec.val then 3600 else 0 := by
    by_cases changed : 700000001 ≤ (taiAt zoneChangeAhead uptime).sec.val
    · have offset : getZoneOffset zoneChangeAhead uptime = 4 := if_pos ⟨by decide, changed⟩
      rw [offset, if_pos changed]
      decide
    · have offset : getZoneOffset zoneChangeAhead uptime = 0 := if_neg fun applied => changed applied.2
      rw [offset, if_neg changed]
      decide
  have taiSec : ((taiAt zoneChangeAhead uptime).sec.val : Int) = 700000000 + 256 * uptime / 1000 / 256 := by
    have syncSec : ((zoneChangeAhead.sync.status.tai.sec.val : Nat) : Int) = 700000000 := rfl
    have syncSubsec : ((zoneChangeAhead.sync.status.tai.subsec.val : Nat) : Int) = 0 := rfl
    have syncUptime : zoneChangeAhead.sync.uptime = 0 := rfl
    rw [taiAt_sec_of_known known started, syncSec, syncSubsec, syncUptime]
    simp only [subsecSteps, msecPerSec, Nat.cast_ofNat]
    rw [wrap_of_bounds (by omega) (by omega)]
    omega
  rw [atSecondSec, zone, delta] at localSame
  simp only [bits] at localSame
  -- the new zone applies exactly from TAI 700000001 on; before it the local time is 37 s behind TAI
  split at localSame
  · have shifted : wrap 40 (((taiAt zoneChangeAhead uptime).sec.val : Int) + 3600) =
        (((taiAt zoneChangeAhead uptime).sec.val : Int) + 3600).toNat := wrap_of_bounds (by omega) (by omega)
    rw [shifted, wrap_of_bounds (by omega) (by omega)] at localSame
    omega
  · have unshifted : wrap 40 (((taiAt zoneChangeAhead uptime).sec.val : Int) + 0) =
        (((taiAt zoneChangeAhead uptime).sec.val : Int) + 0).toNat := wrap_of_bounds (by omega) (by omega)
    rw [unshifted, wrap_of_bounds (by omega) (by omega)] at localSame
    omega

end Mesh
