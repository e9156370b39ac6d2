import NrfSdk.Mesh.TimeUtil
import NrfSdk.Tool.Schedule
import NrfSdk.Downloader.Http

/-! is_integer_array and validate_time_format of my_tool.c, and atoi of the C library, as the command
handlers apply them to the text of one parameter (a C string is the list of its characters before the
NUL). validate_time_format tells a leap year by the rule applied to the two digits YY; for the years 2000
to 2099 that the strings name, that is the Gregorian rule of the mesh calendar. -/

namespace Tool

def isIntegerArray (arr : List Char) : Bool :=
  match arr with
  | [] => false
  | first :: rest =>
    -- has_digit is set by the first pass of the digit loop, so after a sign the digits must be nonempty
    if first = '+' ∨ first = '-' then !rest.isEmpty && rest.all Char.isDigit
    else arr.all Char.isDigit

/-- isspace in the C locale. -/
def isSpaceChar (c : Char) : Bool :=
  c = ' ' || c = '\t' || c = '\n' || c = '\x0b' || c = '\x0c' || c = '\r'

/-- atoi of the C library on any text, (int)strtol(nptr, NULL, 10) with a 32-bit long: white space, a
sign, the digits, saturating at the range of int. -/
def cAtoi (nptr : List Char) : Int :=
  let text := nptr.dropWhile isSpaceChar
  let digits := (if text.head? = some '-' ∨ text.head? = some '+' then text.drop 1 else text).takeWhile Char.isDigit
  Dl.atoiValue (text.head? == some '-') (atoi digits)

def timeField (timeStr : List Char) (k : Nat) : Nat :=
  ((timeStr.getD (2 * k) '0').toNat - '0'.toNat) * 10 + ((timeStr.getD (2 * k + 1) '0').toNat - '0'.toNat)

def isLeapYearYy (year : Nat) : Bool := (year % 4 = 0 && year % 100 != 0) || year % 400 = 0

def maxDay (month : Nat) (isLeapYear : Bool) : Nat :=
  if month = 4 ∨ month = 6 ∨ month = 9 ∨ month = 11 then 30
  else if month = 2 then (if isLeapYear then 29 else 28)
  else 31

/-- validate_time_format: none where it returns -1, else the flag it writes to *valid; the empty string
is accepted with valid = 0. -/
def validateTimeFormat (timeStr : List Char) : Option Bool :=
  if timeStr.length ≠ 10 then
    if timeStr.length = 0 then some false else none
  else if !timeStr.all Char.isDigit then none
  else
    let year := timeField timeStr 0
    let month := timeField timeStr 1
    let day := timeField timeStr 2
    let hour := timeField timeStr 3
    let minute := timeField timeStr 4
    if month < 1 ∨ month > 12 then none
    else if day < 1 ∨ day > maxDay month (isLeapYearYy year) then none
    -- the fields are sums of digits, so of hour < 0 || hour > 23 only the upper bound can fail
    else if hour > 23 then none
    else if minute > 59 then none
    else some true

/-- One %2d of sscanf: white space skipped, then at most two characters, a sign and a digit or one or two
digits; none for a matching or an input failure. -/
def scanTwoDigits (text : List Char) : Option (Int × List Char) :=
  match text.dropWhile isSpaceChar with
  | c :: rest =>
    if c = '+' ∨ c = '-' then
      match rest with
      | d :: after => if d.isDigit then some ((if c = '-' then -1 else 1) * (digitValue d : Int), after) else none
      | [] => none
    else if c.isDigit then
      match rest with
      | d :: after =>
        if d.isDigit then some ((digitValue c * 10 + digitValue d : Nat), after) else some ((digitValue c : Nat), rest)
      | [] => some ((digitValue c : Nat), [])
    else none
  | [] => none

/-- sscanf with `count` conversions %2d: the values, none unless every one of them converts. -/
def scanTwoDigitFields : Nat → List Char → Option (List Int)
  | 0, _ => some []
  | count + 1, text =>
    match scanTwoDigits text with
    | none => none
    | some (value, rest) => (scanTwoDigitFields count rest).map (value :: ·)

/-- time_str_to_timestamp: the five fields of a YYMMDDHHMM string handed to the C library's mktime, -1
unless sscanf converts all five. The source leaves tm_wday and tm_yday unset; mktime does not read them. -/
def timeStrToTimestamp (mktime : Mesh.Tm → Int) (timeStr : List Char) : Int :=
  match scanTwoDigitFields 5 timeStr with
  | some [year, month, day, hour, min] => mktime ⟨0, min, hour, day, month - 1, year + 100, 0, 0, -1⟩
  | _ => -1

def TimeStrValid (timeStr : List Char) : Prop :=
  timeStr.length = 10 ∧ (∀ c ∈ timeStr, c.isDigit) ∧
    1 ≤ timeField timeStr 1 ∧ timeField timeStr 1 ≤ 12 ∧
    1 ≤ timeField timeStr 2 ∧
    timeField timeStr 2 ≤ (Mesh.monthsOf (2000 + timeField timeStr 0)).getD (timeField timeStr 1 - 1) 0 ∧
    timeField timeStr 3 ≤ 23 ∧ timeField timeStr 4 ≤ 59

section TimeFormat

theorem digit_toNat_sub_le {c : Char} (digit : c.isDigit) : c.toNat - '0'.toNat ≤ 9 := by
  simp only [Char.isDigit, Bool.and_eq_true, decide_eq_true_eq] at digit
  have high : c.val.toNat ≤ 57 := digit.2
  change c.val.toNat - 48 ≤ 9
  omega

theorem timeField_lt {timeStr : List Char} (digits : ∀ c ∈ timeStr, c.isDigit) (k : Nat) :
    timeField timeStr k < 100 := by
  have digitAt : ∀ i, (timeStr.getD i '0').toNat - '0'.toNat ≤ 9 := by
    intro i
    rw [List.getD_eq_getElem?_getD]
    cases lookup : timeStr[i]? with
    | none => decide
    | some c => exact digit_toNat_sub_le (digits c (List.mem_of_getElem? lookup))
  have high := digitAt (2 * k)
  have low := digitAt (2 * k + 1)
  unfold timeField
  omega

theorem isLeapYearYy_eq {year : Nat} (small : year < 100) : isLeapYearYy year = Mesh.isLeapYear (2000 + year) := by
  rw [Bool.eq_iff_iff]
  simp only [isLeapYearYy, Mesh.isLeapYear, Bool.or_eq_true, Bool.and_eq_true, decide_eq_true_eq,
    bne_iff_ne, ne_eq]
  omega

theorem maxDay_eq_getD {month : Nat} (low : 1 ≤ month) (high : month ≤ 12) (year : Nat) :
    maxDay month (Mesh.isLeapYear year) = (Mesh.monthsOf year).getD (month - 1) 0 := by
  unfold Mesh.monthsOf
  cases Mesh.isLeapYear year <;> interval_cases month <;> rfl

theorem not_space_of_isDigit {c : Char} (digit : c.isDigit) : isSpaceChar c = false ∧ ¬(c = '+' ∨ c = '-') := by
  have notDigit : ∀ other ∈ [' ', '\t', '\n', '\x0b', '\x0c', '\r', '+', '-'], other.isDigit = false := by
    simp [Char.isDigit]
  constructor
  · simp only [isSpaceChar, Bool.or_eq_false_iff, decide_eq_false_iff_not]
    refine ⟨⟨⟨⟨⟨?_, ?_⟩, ?_⟩, ?_⟩, ?_⟩, ?_⟩ <;> rintro rfl <;> simp_all
  · rintro (rfl | rfl) <;> simp_all

theorem scanTwoDigits_digits {high low : Char} (highDigit : high.isDigit) (lowDigit : low.isDigit)
    (rest : List Char) :
    scanTwoDigits (high :: low :: rest) = some (((digitValue high * 10 + digitValue low : Nat) : Int), rest) := by
  obtain ⟨notSpace, notSign⟩ := not_space_of_isDigit highDigit
  simp only [scanTwoDigits, List.dropWhile_cons, notSpace, Bool.false_eq_true, if_false, if_neg notSign,
    if_pos highDigit, if_pos lowDigit]

theorem timeStrToTimestamp_of_digits (mktime : Mesh.Tm → Int) {timeStr : List Char} (ten : timeStr.length = 10)
    (digits : ∀ c ∈ timeStr, c.isDigit) :
    timeStrToTimestamp mktime timeStr =
      mktime ⟨0, timeField timeStr 4, timeField timeStr 3, timeField timeStr 2, (timeField timeStr 1 : Int) - 1,
        (timeField timeStr 0 : Int) + 100, 0, 0, -1⟩ := by
  match timeStr, ten with
  | [c0, c1, c2, c3, c4, c5, c6, c7, c8, c9], _ =>
    simp only [List.mem_cons, List.not_mem_nil, or_false, forall_eq_or_imp, forall_eq] at digits
    obtain ⟨d0, d1, d2, d3, d4, d5, d6, d7, d8, d9⟩ := digits
    simp only [timeStrToTimestamp, scanTwoDigitFields, scanTwoDigits_digits d0 d1, scanTwoDigits_digits d2 d3,
      scanTwoDigits_digits d4 d5, scanTwoDigits_digits d6 d7, scanTwoDigits_digits d8 d9, Option.map_some]
    rfl

theorem validateTimeFormat_iff (timeStr : List Char) :
    validateTimeFormat timeStr = some true ↔ TimeStrValid timeStr := by
  unfold validateTimeFormat TimeStrValid
  by_cases ten : timeStr.length = 10
  · by_cases digits : ∀ c ∈ timeStr, c.isDigit
    · have allDigits : timeStr.all Char.isDigit = true := List.all_eq_true.mpr digits
      have leap := isLeapYearYy_eq (timeField_lt digits 0)
      simp only [ten, ne_eq, not_true_eq_false, if_false, allDigits, Bool.not_true, Bool.false_eq_true,
        leap, true_and]
      rw [and_iff_right digits]
      by_cases month : 1 ≤ timeField timeStr 1 ∧ timeField timeStr 1 ≤ 12
      · -- inside the month range max_day is the length the mesh calendar gives the month
        rw [maxDay_eq_getD month.1 month.2]
        split_ifs <;> simp only [false_iff, true_iff, not_and, not_le] <;> omega
      · rw [if_pos (by omega)]
        simp only [reduceCtorEq, false_iff]
        omega
    · have notAll : timeStr.all Char.isDigit = false := by
        rw [← Bool.not_eq_true, List.all_eq_true]
        exact digits
      simp [ten, notAll, digits]
  · by_cases empty : timeStr.length = 0 <;> simp [ten, empty]

/-- validate_time_format sets valid to 1 on exactly the strings that name a minute of the years 2000 to
2099: its leap-year rule on the two digits agrees with the full-year rule there. On such a string
time_str_to_timestamp hands mktime the minute it names. -/
theorem validateTimeFormat_eq_some_true_iff (timeStr : List Char) :
    (validateTimeFormat timeStr = some true ↔ TimeStrValid timeStr) ∧
      (validateTimeFormat timeStr = some true → ∀ mktime : Mesh.Tm → Int,
        timeStrToTimestamp mktime timeStr =
          mktime ⟨0, timeField timeStr 4, timeField timeStr 3, timeField timeStr 2, (timeField timeStr 1 : Int) - 1,
            (timeField timeStr 0 : Int) + 100, 0, 0, -1⟩) := by
  refine ⟨validateTimeFormat_iff timeStr, fun valid mktime => ?_⟩
  obtain ⟨ten, digits, _⟩ := (validateTimeFormat_iff timeStr).mp valid
  exact timeStrToTimestamp_of_digits mktime ten digits

end TimeFormat

end Tool
