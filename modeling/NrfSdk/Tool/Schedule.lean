import NrfSdk.Machine.Word

namespace Tool

open Machine

def daySeconds : Int := 86400

def digitValue (c : Char) : Nat := c.toNat - '0'.toNat

def startHour (startTime : List Char) : Int :=
  digitValue (startTime.getD 0 '0') * 10 + digitValue (startTime.getD 1 '0')

def startMinute (startTime : List Char) : Int :=
  digitValue (startTime.getD 2 '0') * 10 + digitValue (startTime.getD 3 '0')

/-- calculate_remaining_seconds: the seconds from `utcTimestamp` to the next report point of the day plan
that starts at `startTime` and repeats every `intervalMin` minutes, or -1 for arguments it rejects. -/
def calculateRemainingSeconds (startTime : List Char) (intervalMin utcTimestamp : Int) : Int :=
  if startTime.length ≠ 4 then -1
  else if ¬startTime.all Char.isDigit then -1
  else if intervalMin ≤ 0 then -1
  else if utcTimestamp < 0 then -1
  else
    let hour := startHour startTime
    let minute := startMinute startTime
    if hour < 0 ∨ hour > 23 ∨ minute < 0 ∨ minute > 59 then -1
    else
      let baseSeconds := hour * 3600 + minute * 60
      let intervalSeconds := signed 32 (intervalMin * 60)
      let currentSecondsOfDay := utcTimestamp % daySeconds
      if currentSecondsOfDay < baseSeconds then baseSeconds - currentSecondsOfDay
      else
        let n := (currentSecondsOfDay - baseSeconds).tdiv intervalSeconds
        let nextPoint := signed 32 (baseSeconds + (n + 1) * intervalSeconds)
        if nextPoint < daySeconds then nextPoint - currentSecondsOfDay
        else baseSeconds + daySeconds - currentSecondsOfDay

/-- long_battery_mode_t: the reporting plan of the long-battery work mode. -/
structure LongBatteryMode where
  reportingIntervalMin : Nat
  startTime : List Char
  deriving DecidableEq, Repr

def atoi (digits : List Char) : Nat := digits.foldl (fun value c => value * 10 + digitValue c) 0

def setLongBatteryParams (workmode : LongBatteryMode) (reportingInterval : Nat) (startTimeStr : List Char) :
    Int × LongBatteryMode :=
  if reportingInterval < 5 ∨ reportingInterval > 1440 then (-1, workmode)
  else if startTimeStr.length ≠ 4 then (-1, workmode)
  else if ¬startTimeStr.all Char.isDigit then (-1, workmode)
  else
    let startTime := u16 (atoi startTimeStr : Nat)
    let hh := u8 (startTime / 100 : Nat)
    let mm := u8 (startTime % 100 : Nat)
    if ¬(hh ≤ 24 ∧ mm ≤ 59 ∧ ¬(hh = 24 ∧ mm ≠ 0)) then (-1, workmode)
    else (0, ⟨reportingInterval, startTimeStr⟩)

/-- set_reset_lte_timer: the LTE power timer it starts, in ms, after a random offset of 0 to 120 s when
the random source answers; nothing when calculate_remaining_seconds fails. -/
def setResetLteTimer (longBattery : LongBatteryMode) (currentTime : Int) (random : Option Nat) : Option Int :=
  let timerInterval := calculateRemainingSeconds longBattery.startTime longBattery.reportingIntervalMin currentTime
  if timerInterval = -1 then none
  else some ((timerInterval + (random.getD 0 : Int)) * 1000)

theorem setLongBatteryParams_midnight_never_rearms (workmode : LongBatteryMode) (reportingInterval : Nat)
    (low : 5 ≤ reportingInterval) (high : reportingInterval ≤ 1440) (t : Int) (random : Option Nat) :
    setLongBatteryParams workmode reportingInterval ['2', '4', '0', '0'] =
        (0, ⟨reportingInterval, ['2', '4', '0', '0']⟩) ∧
      calculateRemainingSeconds ['2', '4', '0', '0'] reportingInterval t = -1 ∧
      setResetLteTimer ⟨reportingInterval, ['2', '4', '0', '0']⟩ t random = none := by
  have rejected : calculateRemainingSeconds ['2', '4', '0', '0'] reportingInterval t = -1 := by
    unfold calculateRemainingSeconds
    rw [if_neg (by decide), if_neg (by decide), if_neg (by omega)]
    by_cases negative : t < 0
    · rw [if_pos negative]
    -- hour 24 fails the last check of the start time, whatever the interval and the time
    rw [if_neg negative]
    dsimp only
    rw [if_pos (by decide)]
  refine ⟨?_, rejected, ?_⟩
  · unfold setLongBatteryParams
    rw [if_neg (by omega), if_neg (by decide), if_neg (by decide)]
    dsimp only
    rw [if_neg (by decide)]
  · unfold setResetLteTimer
    dsimp only
    rw [rejected, if_pos rfl]

theorem setLongBatteryParams_midnight_never_rearms_hourly :
    5 ≤ 60 ∧ 60 ≤ 1440 ∧
      (setLongBatteryParams ⟨5, ['0', '8', '0', '0']⟩ 60 ['2', '4', '0', '0'] = (0, ⟨60, ['2', '4', '0', '0']⟩) ∧
        calculateRemainingSeconds ['2', '4', '0', '0'] (60 : Nat) 1700000000 = -1 ∧
        setResetLteTimer ⟨60, ['2', '4', '0', '0']⟩ 1700000000 none = none) :=
  ⟨by decide, by decide,
    setLongBatteryParams_midnight_never_rearms ⟨5, ['0', '8', '0', '0']⟩ 60 (by decide) (by decide) 1700000000 none⟩

end Tool
