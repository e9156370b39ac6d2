import NrfSdk.Machine.Blocks

namespace Mesh

open Machine

def taiStartYear : Nat := 2000
def tmStartYear : Nat := 1900
def taiStartDay : Nat := 6
def daysYear : Nat := 365
def daysLeapYear : Nat := 366
def weekdayCnt : Nat := 7
def secPerMin : Nat := 60
def secPerHour : Nat := 3600
def secPerDay : Nat := 86400

def isLeapYear (year : Nat) : Bool := year % 4 = 0 && (year % 100 != 0 || year % 400 = 0)

def monthCfg : List Nat := [31, 28, 31, 30, 31, 30, 31, 31, 30, 31, 30, 31]
def monthLeapCfg : List Nat := [31, 29, 31, 30, 31, 30, 31, 31, 30, 31, 30, 31]

def daysInYear (year : Nat) : Nat := if isLeapYear year then daysLeapYear else daysYear

def monthsOf (year : Nat) : List Nat := if isLeapYear year then monthLeapCfg else monthCfg

/-- The 40-bit seconds and 8-bit 1/256 seconds of a TAI time. -/
structure BtMeshTimeTai where
  sec : Fin (2 ^ 40)
  subsec : Fin (2 ^ 8)
  deriving DecidableEq, Repr

structure Tm where
  tmSec : Int
  tmMin : Int
  tmHour : Int
  tmMday : Int
  tmMon : Int
  tmYear : Int
  tmWday : Int
  tmYday : Int
  tmIsdst : Int
  deriving DecidableEq, Repr

def tsToTai (timeptr : Tm) : Except Errno BtMeshTimeTai :=
  let currentYear := u32 (timeptr.tmYear + tmStartYear)
  if currentYear < taiStartYear then .error .EAGAIN
  else
    let days := forRange (currentYear - taiStartYear)
      (fun k days => u32 (days + daysInYear (taiStartYear + k))) 0
    let months := monthsOf currentYear
    -- a month index past December reads outside month_cfg; the model reads 0 there
    let days := forRange timeptr.tmMon.toNat (fun i days => u32 (days + months.getD i 0)) days
    let days := u32 (days + (timeptr.tmMday - 1))
    .ok ⟨bits 40 (days * secPerDay + timeptr.tmHour * secPerHour + timeptr.tmMin * secPerMin + timeptr.tmSec),
      0⟩

def taiToTs (tai : BtMeshTimeTai) : Tm :=
  let dayCnt := tai.sec.val / secPerDay
  let years := peel daysInYear taiStartYear dayCnt
  let months := peelList (monthsOf years.1) 0 years.2
  { tmSec := (tai.sec.val % secPerMin : Nat)
    tmMin := (tai.sec.val % secPerHour / secPerMin : Nat)
    tmHour := (tai.sec.val % secPerDay / secPerHour : Nat)
    tmMday := (months.2 + 1 : Nat)
    tmMon := months.1
    tmYear := (years.1 : Int) - tmStartYear
    tmWday := ((taiStartDay + dayCnt) % weekdayCnt : Nat)
    tmYday := years.2
    tmIsdst := -1 }

/-! The calendar the two conversions implement: days counted from 2000-01-01. -/

def daysBefore (year month : Nat) : Nat :=
  blockSum daysInYear taiStartYear (year - taiStartYear) + blockSum (fun k => (monthsOf year).getD k 0) 0 month

theorem daysInYear_pos (year : Nat) : 0 < daysInYear year := by
  unfold daysInYear
  split <;> decide

theorem blockSum_monthsOf (year : Nat) :
    blockSum (fun k => (monthsOf year).getD k 0) 0 12 = daysInYear year := by
  unfold monthsOf daysInYear
  split <;> decide

theorem monthsOf_length (year : Nat) : (monthsOf year).length = 12 := by
  unfold monthsOf
  split <;> rfl

theorem seconds_split (sec : Nat) :
    sec / secPerDay * secPerDay + sec % secPerDay / secPerHour * secPerHour +
      sec % secPerHour / secPerMin * secPerMin + sec % secPerMin = sec := by
  simp only [secPerDay, secPerHour, secPerMin]
  omega

theorem tsToTai_spec {year month day hour minute second : Nat} (wday yday isdst : Int)
    (after : taiStartYear ≤ year) (yearFits : year < 2 ^ 32)
    (daysFit : daysBefore year month + day < 2 ^ 32) :
    tsToTai ⟨second, minute, hour, (day + 1 : Nat), month, (year : Int) - tmStartYear, wday, yday, isdst⟩ =
      .ok ⟨bits 40 (((daysBefore year month + day) * secPerDay + hour * secPerHour + minute * secPerMin +
        second : Nat) : Int), 0⟩ := by
  have currentYear : u32 ((year : Int) - tmStartYear + tmStartYear) = year := by
    rw [Int.sub_add_cancel]
    exact wrap_natCast_of_lt yearFits
  have split : daysBefore year month = (∑ k ∈ Finset.range (year - taiStartYear), daysInYear (taiStartYear + k)) +
      ∑ k ∈ Finset.range month, (monthsOf year).getD k 0 := by
    simp only [daysBefore, blockSum, Nat.zero_add]
  rw [split] at daysFit ⊢
  simp only [tsToTai, currentYear, if_neg (show ¬ year < taiStartYear by omega)]
  simp only [u32]
  rw [forRange_wrap_add 32 (fun k => daysInYear (taiStartYear + k)) _ 0 (by omega), Nat.zero_add,
    Int.toNat_natCast, forRange_wrap_add 32 (fun k => (monthsOf year).getD k 0) _ _ (by omega)]
  have dayOf : ((day + 1 : Nat) : Int) - 1 = day := by omega
  rw [dayOf, ← Nat.cast_add, wrap_natCast_of_lt daysFit]
  push_cast
  rfl

/-- The fields tai_to_ts writes: a date of the calendar and the time of day of the TAI second. -/
theorem taiToTs_spec (tai : BtMeshTimeTai) :
    ∃ year month day, taiStartYear ≤ year ∧ month < 12 ∧ day < (monthsOf year).getD month 0 ∧
      daysBefore year month + day = tai.sec.val / secPerDay ∧
      taiToTs tai = ⟨(tai.sec.val % secPerMin : Nat), (tai.sec.val % secPerHour / secPerMin : Nat),
        (tai.sec.val % secPerDay / secPerHour : Nat), (day + 1 : Nat), month, (year : Int) - tmStartYear,
        ((taiStartDay + tai.sec.val / secPerDay) % weekdayCnt : Nat),
        (blockSum (fun k => (monthsOf year).getD k 0) 0 month + day : Nat), -1⟩ := by
  obtain ⟨taken, years, within, fits⟩ := peel_spec daysInYear_pos taiStartYear (tai.sec.val / secPerDay)
  obtain ⟨month, inside, months, monthsWithin, monthFits⟩ := peelList_spec (monthsOf (taiStartYear + taken)) 0
    (tai.sec.val / secPerDay - blockSum daysInYear taiStartYear taken)
  rw [monthsOf_length] at inside monthFits
  have beforeDecember : month < 12 := by
    rcases Nat.lt_or_eq_of_le inside with before | rfl
    · exact before
    · rw [blockSum_monthsOf] at monthsWithin
      omega
  refine ⟨taiStartYear + taken, month, _, by omega, beforeDecember, monthFits beforeDecember, ?_, ?_⟩
  · simp only [daysBefore, Nat.add_sub_cancel_left]
    omega
  · simp only [taiToTs, years, months, Nat.zero_add]
    congr 2
    omega

theorem tsToTai_taiToTs (tai : BtMeshTimeTai) : tsToTai (taiToTs tai) = .ok ⟨tai.sec, 0⟩ := by
  obtain ⟨year, month, day, after, -, -, days, result⟩ := taiToTs_spec tai
  have secBound := tai.sec.isLt
  have dayBound : tai.sec.val / secPerDay < 2 ^ 24 := by
    simp only [secPerDay]
    omega
  have yearBound : year < 2 ^ 32 := by
    have := le_blockSum daysInYear_pos taiStartYear (year - taiStartYear)
    simp only [daysBefore, taiStartYear] at days this after ⊢
    omega
  rw [result, tsToTai_spec _ _ _ after yearBound (by omega)]
  congr
  apply Fin.ext
  rw [days, seconds_split, bits_natCast_of_lt secBound]

/-! Counting the days in closed form, to evaluate the calendar far from 2000. -/

def leapsBefore (year : Nat) : Nat := (year + 3) / 4 - (year + 99) / 100 + (year + 399) / 400

theorem leapsBefore_succ (year : Nat) :
    leapsBefore (year + 1) = leapsBefore year + if isLeapYear year then 1 else 0 := by
  -- each count of multiples grows by one exactly at a multiple
  have four : (year + 1 + 3) / 4 = (year + 3) / 4 + if year % 4 = 0 then 1 else 0 := by split <;> omega
  have hundred : (year + 1 + 99) / 100 = (year + 99) / 100 + if year % 100 = 0 then 1 else 0 := by
    split <;> omega
  have fourHundred : (year + 1 + 399) / 400 = (year + 399) / 400 + if year % 400 = 0 then 1 else 0 := by
    split <;> omega
  have ordered : (year + 99) / 100 ≤ (year + 3) / 4 := by omega
  unfold leapsBefore isLeapYear
  rw [four, hundred, fourHundred]
  by_cases by4 : year % 4 = 0 <;> by_cases by100 : year % 100 = 0 <;> by_cases by400 : year % 400 = 0 <;>
    simp [by4, by100, by400] <;> omega
theorem daysInYear_eq (year : Nat) : daysInYear year = 365 + if isLeapYear year then 1 else 0 := by
  unfold daysInYear
  split <;> rfl

theorem blockSum_daysInYear (start count : Nat) :
    blockSum daysInYear start count + leapsBefore start = 365 * count + leapsBefore (start + count) := by
  induction count with
  | zero => simp
  | succ count ih =>
    rw [blockSum_succ_right, ← Nat.add_assoc start, leapsBefore_succ, daysInYear_eq]
    omega

theorem taiToTs_sec_injective {tai other : BtMeshTimeTai} (same : taiToTs tai = taiToTs other) :
    tai.sec = other.sec := by
  have roundTrip := tsToTai_taiToTs tai
  rw [same, tsToTai_taiToTs other] at roundTrip
  simp only [Except.ok.injEq, BtMeshTimeTai.mk.injEq] at roundTrip
  exact roundTrip.1.symm

theorem taiToTs_of_daysBefore {year month day : Nat} (after : taiStartYear ≤ year) (inside : month < 12)
    (fits : day < (monthsOf year).getD month 0) (tai : BtMeshTimeTai)
    (days : tai.sec.val / secPerDay = daysBefore year month + day) :
    (taiToTs tai).tmYear = (year : Int) - tmStartYear ∧ (taiToTs tai).tmMon = month ∧
      (taiToTs tai).tmMday = (day + 1 : Nat) := by
  have inYear : blockSum (fun k => (monthsOf year).getD k 0) 0 month + day <
      daysInYear (taiStartYear + (year - taiStartYear)) := by
    have upTo := blockSum_mono (fun k => (monthsOf year).getD k 0) 0 (show month + 1 ≤ 12 by omega)
    rw [blockSum_succ_right, blockSum_monthsOf, Nat.zero_add] at upTo
    rw [Nat.add_sub_cancel' after]
    omega
  have years : peel daysInYear taiStartYear (tai.sec.val / secPerDay) =
      (year, blockSum (fun k => (monthsOf year).getD k 0) 0 month + day) := by
    rw [days, daysBefore, Nat.add_assoc, peel_of_blockSum daysInYear_pos inYear, Nat.add_sub_cancel' after]
  have months : peelList (monthsOf year) 0 (blockSum (fun k => (monthsOf year).getD k 0) 0 month + day) =
      (month, day) := by
    rw [peelList_of_blockSum (by rw [monthsOf_length]; exact inside) fits, Nat.zero_add]
  simp only [taiToTs, years, months, and_self]

theorem taiToTs_calendar (tai : BtMeshTimeTai) :
    ∃ year month day : Nat, taiStartYear ≤ year ∧ month < 12 ∧ day < (monthsOf year).getD month 0 ∧
      daysBefore year month + day = tai.sec.val / 86400 ∧
      (taiToTs tai).tmYear = (year : Int) - tmStartYear ∧ (taiToTs tai).tmMon = month ∧
      (taiToTs tai).tmMday = (day + 1 : Nat) ∧
      (taiToTs tai).tmYday = (tai.sec.val / 86400 - daysBefore year 0 : Nat) ∧
      (0 ≤ (taiToTs tai).tmHour ∧ (taiToTs tai).tmHour < 24) ∧
      (0 ≤ (taiToTs tai).tmMin ∧ (taiToTs tai).tmMin < 60) ∧
      (0 ≤ (taiToTs tai).tmSec ∧ (taiToTs tai).tmSec < 60) ∧
      (taiToTs tai).tmWday = ((6 + tai.sec.val / 86400) % 7 : Nat) := by
  obtain ⟨year, month, day, after, inside, fits, days, result⟩ := taiToTs_spec tai
  have yearStart : daysBefore year 0 = blockSum daysInYear taiStartYear (year - taiStartYear) := by
    simp [daysBefore]
  refine ⟨year, month, day, after, inside, fits, days, ?_⟩
  simp only [daysBefore, secPerDay] at days
  rw [result]
  simp only [secPerDay, secPerHour, secPerMin, taiStartDay, weekdayCnt, true_and, and_true]
  exact ⟨by omega, ⟨by omega, by omega⟩, ⟨by omega, by omega⟩, ⟨by omega, by omega⟩⟩

theorem taiToTs_tsToTai_of_fits {year month day hour minute second : Nat} (wday yday isdst : Int)
    (after : taiStartYear ≤ year) (inside : month < 12) (first : 1 ≤ day)
    (last : day ≤ (monthsOf year).getD month 0) (hourRange : hour < 24) (minuteRange : minute < 60)
    (secondRange : second < 60)
    (fits : (daysBefore year month + (day - 1)) * 86400 + hour * 3600 + minute * 60 + second < 2 ^ 40) :
    ∃ tai, tsToTai ⟨second, minute, hour, day, month, (year : Int) - tmStartYear, wday, yday, isdst⟩ = .ok tai ∧
      (taiToTs tai).tmYear = (year : Int) - tmStartYear ∧ (taiToTs tai).tmMon = month ∧
      (taiToTs tai).tmMday = day ∧ (taiToTs tai).tmHour = hour ∧ (taiToTs tai).tmMin = minute ∧
      (taiToTs tai).tmSec = second := by
  obtain ⟨day, rfl⟩ : ∃ d, day = d + 1 := ⟨day - 1, by omega⟩
  simp only [Nat.add_sub_cancel] at fits
  -- the 40-bit bound keeps the year and the day count inside ts_to_tai's 32-bit words
  have yearsBefore := le_blockSum daysInYear_pos taiStartYear (year - taiStartYear)
  have yearFits : year < 2 ^ 32 := by
    simp only [daysBefore, taiStartYear] at fits yearsBefore after ⊢
    omega
  have daysFit : daysBefore year month + day < 2 ^ 32 := by omega
  have converted := @tsToTai_spec year month day hour minute second wday yday isdst after yearFits daysFit
  refine ⟨_, converted, ?_⟩
  set total := (daysBefore year month + day) * secPerDay + hour * secPerHour + minute * secPerMin + second
    with totalDef
  have sec : (bits 40 (total : Int)).val = total :=
    bits_natCast_of_lt (by simpa [totalDef, secPerDay, secPerHour, secPerMin] using fits)
  have days : (bits 40 (total : Int)).val / secPerDay = daysBefore year month + day := by
    rw [sec, totalDef]
    simp only [secPerDay, secPerHour, secPerMin]
    omega
  obtain ⟨year_eq, month_eq, day_eq⟩ := taiToTs_of_daysBefore after inside
    (show day < (monthsOf year).getD month 0 by omega) ⟨bits 40 total, 0⟩ days
  have hourOf : total % secPerDay / secPerHour = hour := by
    simp only [totalDef, secPerDay, secPerHour, secPerMin]
    omega
  have minuteOf : total % secPerHour / secPerMin = minute := by
    simp only [totalDef, secPerDay, secPerHour, secPerMin]
    omega
  have secondOf : total % secPerMin = second := by
    simp only [totalDef, secPerDay, secPerHour, secPerMin]
    omega
  refine ⟨year_eq, month_eq, day_eq, ?_⟩
  simp only [taiToTs, sec, hourOf, minuteOf, secondOf, and_self]

/-- Every 40-bit TAI second reads as a valid date and time and converts back to itself; every valid date
and time from 2000 on whose second count fits in 40 bits converts to TAI and reads back unchanged. -/
theorem taiToTs_tsToTai_calendar :
    (∀ tai : BtMeshTimeTai,
      (∃ year month day : Nat, taiStartYear ≤ year ∧ month < 12 ∧ day < (monthsOf year).getD month 0 ∧
        daysBefore year month + day = tai.sec.val / 86400 ∧
        (taiToTs tai).tmYear = (year : Int) - tmStartYear ∧ (taiToTs tai).tmMon = month ∧
        (taiToTs tai).tmMday = (day + 1 : Nat) ∧
        (taiToTs tai).tmYday = (tai.sec.val / 86400 - daysBefore year 0 : Nat) ∧
        (0 ≤ (taiToTs tai).tmHour ∧ (taiToTs tai).tmHour < 24) ∧
        (0 ≤ (taiToTs tai).tmMin ∧ (taiToTs tai).tmMin < 60) ∧
        (0 ≤ (taiToTs tai).tmSec ∧ (taiToTs tai).tmSec < 60) ∧
        (taiToTs tai).tmWday = ((6 + tai.sec.val / 86400) % 7 : Nat)) ∧
      tsToTai (taiToTs tai) = .ok ⟨tai.sec, 0⟩) ∧
    (∀ (year month day hour minute second : Nat) (wday yday isdst : Int),
      taiStartYear ≤ year → month < 12 → 1 ≤ day → day ≤ (monthsOf year).getD month 0 →
      hour < 24 → minute < 60 → second < 60 →
      (daysBefore year month + (day - 1)) * 86400 + hour * 3600 + minute * 60 + second < 2 ^ 40 →
      ∃ tai, tsToTai ⟨second, minute, hour, day, month, (year : Int) - tmStartYear, wday, yday, isdst⟩ = .ok tai ∧
        (taiToTs tai).tmYear = (year : Int) - tmStartYear ∧ (taiToTs tai).tmMon = month ∧
        (taiToTs tai).tmMday = day ∧ (taiToTs tai).tmHour = hour ∧ (taiToTs tai).tmMin = minute ∧
        (taiToTs tai).tmSec = second) :=
  ⟨fun tai => ⟨taiToTs_calendar tai, tsToTai_taiToTs tai⟩,
    fun _ _ _ _ _ _ wday yday isdst after inside first last hourRange minuteRange secondRange fits =>
      taiToTs_tsToTai_of_fits wday yday isdst after inside first last hourRange minuteRange secondRange fits⟩

theorem tsToTai_wraps_at_40_bits :
    tsToTai ⟨16, 36, 0, 19, 1, 36842 - 1900, 0, 0, -1⟩ = .ok ⟨0, 0⟩ ∧
      taiToTs ⟨0, 0⟩ = ⟨0, 0, 0, 1, 0, 100, 6, 0, -1⟩ := by
  have count : 36842 - taiStartYear = 34842 := rfl
  have years := blockSum_daysInYear taiStartYear 34842
  have leaps : leapsBefore taiStartYear = 485 ∧ leapsBefore (taiStartYear + 34842) = 8935 := by decide
  have january : blockSum (fun k => (monthsOf 36842).getD k 0) 0 1 = 31 := by
    simp [blockSum, monthsOf, isLeapYear, monthCfg]
  have days : daysBefore 36842 1 + 18 = 12725829 := by
    rw [daysBefore, january, count]
    -- an opaque total keeps the kernel from summing 34842 years while it checks the arithmetic
    generalize blockSum daysInYear taiStartYear 34842 = total at years ⊢
    omega
  have converted := @tsToTai_spec 36842 1 18 0 36 16 0 0 (-1) (by decide) (by decide) (by omega)
  rw [days] at converted
  exact ⟨converted.trans (by decide), by decide⟩

end Mesh
