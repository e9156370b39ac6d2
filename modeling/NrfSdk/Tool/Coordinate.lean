import NrfSdk.Tool.Schedule

/-! parse_coordinate_value of my_tool.c: a latitude or longitude in microdegrees, with an optional N/S, E/W or
'+'/'-' prefix. The digits are accumulated in an int32_t with no overflow check; the model reads that
accumulator, and the product with the sign, as two's complement words. -/

namespace Tool

open Machine

def isDirection (c : Char) : Bool := c = 'N' || c = 'S' || c = 'E' || c = 'W'

def hasSignPrefix (c : Char) : Bool := isDirection c || c = '+' || c = '-'

/-- The sign the first character gives, or none where parse_coordinate_value returns -1 on it. -/
def coordinateSign (firstChar : Char) (isLatitude : Bool) : Option Int :=
  if isDirection firstChar then
    if isLatitude then
      if firstChar ≠ 'N' ∧ firstChar ≠ 'S' then none
      else if firstChar = 'S' then some (-1) else some 1
    else
      if firstChar ≠ 'E' ∧ firstChar ≠ 'W' then none
      else if firstChar = 'W' then some (-1) else some 1
  else if firstChar = '+' ∨ firstChar = '-' then
    if firstChar = '-' then some (-1) else some 1
  else if ¬firstChar.isDigit then none
  else some 1

/-- The digit loop: abs_value and digit_count, or none at a character that is not a digit. -/
def parseDigits : List Char → Int → Nat → Option (Int × Nat)
  | [], absValue, digitCount => some (absValue, digitCount)
  | c :: rest, absValue, digitCount =>
    if c.isDigit then
      parseDigits rest (signed 32 (absValue * 10 + ((c.toNat : Int) - '0'.toNat))) (digitCount + 1)
    else none

def coordinateLimit (isLatitude : Bool) : Int := if isLatitude then 90000000 else 180000000

/-- parse_coordinate_value: none where it returns -1, else the *value and *valid it writes. -/
def parseCoordinateValue (coordStr : List Char) (isLatitude : Bool) : Option (Int × Bool) :=
  match coordStr with
  | [] => some (0, false)
  | firstChar :: rest =>
    match coordinateSign firstChar isLatitude with
    | none => none
    | some sign =>
      match parseDigits ((firstChar :: rest).drop (if hasSignPrefix firstChar then 1 else 0)) 0 0 with
      | none => none
      | some (absValue, digitCount) =>
        if digitCount = 0 then none
        else if signed 32 (absValue * sign) < -coordinateLimit isLatitude ∨
            signed 32 (absValue * sign) > coordinateLimit isLatitude then none
        else some (signed 32 (absValue * sign), true)

/-- The forms of a coordinate: the digits alone, after '+' or '-', or after N/S for a latitude and E/W for a
longitude, with the sign each gives. -/
inductive CoordinateForm (isLatitude : Bool) : List Char → Int → List Char → Prop
  | plain (digits : List Char) : CoordinateForm isLatitude digits 1 digits
  | plus (digits : List Char) : CoordinateForm isLatitude ('+' :: digits) 1 digits
  | minus (digits : List Char) : CoordinateForm isLatitude ('-' :: digits) (-1) digits
  | north (digits : List Char) (latitude : isLatitude = true) : CoordinateForm isLatitude ('N' :: digits) 1 digits
  | south (digits : List Char) (latitude : isLatitude = true) : CoordinateForm isLatitude ('S' :: digits) (-1) digits
  | east (digits : List Char) (longitude : isLatitude = false) : CoordinateForm isLatitude ('E' :: digits) 1 digits
  | west (digits : List Char) (longitude : isLatitude = false) : CoordinateForm isLatitude ('W' :: digits) (-1) digits

theorem toNat_of_isDigit {c : Char} (digit : c.isDigit = true) : '0'.toNat ≤ c.toNat := by
  simp only [Char.isDigit, Bool.and_eq_true, decide_eq_true_eq] at digit
  exact digit.1

theorem parseDigits_eq (digits : List Char) :
    ∀ (start count : Nat), parseDigits digits (signed 32 start) count =
      if digits.all Char.isDigit then
        some (signed 32 (digits.foldl (fun value c => value * 10 + digitValue c) start : Nat), count + digits.length)
      else none := by
  induction digits with
  | nil =>
    intro start count
    simp [parseDigits]
  | cons c rest ih =>
    intro start count
    by_cases digit : c.isDigit
    · have stored : signed 32 (signed 32 start * 10 + ((c.toNat : Int) - '0'.toNat)) =
          signed 32 (start * 10 + digitValue c : Nat) := by
        have low := toNat_of_isDigit digit
        rw [signed_signed_mul_add]
        congr 1
        simp only [digitValue]
        omega
      rw [parseDigits, if_pos digit, stored, ih]
      simp [digit, Nat.add_assoc, Nat.add_comm 1]
    · simp [parseDigits, digit]

theorem coordinateSign_form {firstChar : Char} {isLatitude : Bool} {sign : Int} (rest : List Char)
    (signEq : coordinateSign firstChar isLatitude = some sign) :
    CoordinateForm isLatitude (firstChar :: rest) sign
      ((firstChar :: rest).drop (if hasSignPrefix firstChar then 1 else 0)) := by
  unfold coordinateSign at signEq
  split_ifs at signEq with direction latitude _ south _ west signChar minus <;> cases signEq
  · subst south
    exact .south rest latitude
  · obtain rfl : firstChar = 'N' := by tauto
    exact .north rest latitude
  · subst west
    exact .west rest (by simpa using latitude)
  · obtain rfl : firstChar = 'E' := by tauto
    exact .east rest (by simpa using latitude)
  · subst minus
    exact .minus rest
  · obtain rfl : firstChar = '+' := by tauto
    exact .plus rest
  · have plain : hasSignPrefix firstChar = false := by simpa [hasSignPrefix, direction] using signChar
    rw [plain]
    exact .plain _

theorem hasSignPrefix_of_isDigit {c : Char} (digit : c.isDigit = true) :
    isDirection c = false ∧ ¬(c = '+' ∨ c = '-') := by
  have notDigit : ∀ letter ∈ ['N', 'S', 'E', 'W', '+', '-'], letter.isDigit = false := by simp
  constructor
  · simp only [isDirection, Bool.or_eq_false_iff, decide_eq_false_iff_not]
    refine ⟨⟨⟨?_, ?_⟩, ?_⟩, ?_⟩ <;> rintro rfl <;> simp_all
  · rintro (rfl | rfl) <;> simp_all

theorem form_coordinateSign {isLatitude : Bool} {coordStr : List Char} {sign : Int} {digits : List Char}
    (form : CoordinateForm isLatitude coordStr sign digits) (nonempty : digits ≠ [])
    (allDigits : digits.all Char.isDigit = true) :
    ∃ firstChar rest, coordStr = firstChar :: rest ∧ coordinateSign firstChar isLatitude = some sign ∧
      (firstChar :: rest).drop (if hasSignPrefix firstChar then 1 else 0) = digits := by
  cases form with
  | plain =>
    obtain ⟨first, rest, rfl⟩ := List.exists_cons_of_ne_nil nonempty
    have digit : first.isDigit = true := by simp_all
    obtain ⟨direction, signChar⟩ := hasSignPrefix_of_isDigit digit
    refine ⟨first, rest, rfl, ?_, ?_⟩
    · simp [coordinateSign, direction, signChar, digit]
    · simp [hasSignPrefix, direction, signChar]
  | plus => exact ⟨'+', digits, rfl, rfl, rfl⟩
  | minus => exact ⟨'-', digits, rfl, rfl, rfl⟩
  | north _ latitude =>
    subst latitude
    exact ⟨'N', digits, rfl, rfl, rfl⟩
  | south _ latitude =>
    subst latitude
    exact ⟨'S', digits, rfl, rfl, rfl⟩
  | east _ longitude =>
    subst longitude
    exact ⟨'E', digits, rfl, rfl, rfl⟩
  | west _ longitude =>
    subst longitude
    exact ⟨'W', digits, rfl, rfl, rfl⟩

theorem parseCoordinateValue_of_form {isLatitude : Bool} {coordStr : List Char} {sign : Int} {digits : List Char}
    (form : CoordinateForm isLatitude coordStr sign digits) (nonempty : digits ≠ [])
    (allDigits : digits.all Char.isDigit = true) :
    parseCoordinateValue coordStr isLatitude =
      if signed 32 (sign * atoi digits) < -coordinateLimit isLatitude ∨
          signed 32 (sign * atoi digits) > coordinateLimit isLatitude then none
      else some (signed 32 (sign * atoi digits), true) := by
  obtain ⟨first, rest, rfl, signEq, read⟩ := form_coordinateSign form nonempty allDigits
  have start : (0 : Int) = signed 32 (0 : Nat) := by decide
  have product : signed 32 (signed 32 (atoi digits : Nat) * sign) = signed 32 (sign * atoi digits) := by
    simpa [mul_comm] using signed_signed_mul_add 32 (atoi digits) sign 0
  have counted : 0 + digits.length ≠ 0 := by simpa using nonempty
  simp only [parseCoordinateValue, signEq, read]
  rw [start, parseDigits_eq, if_pos allDigits]
  simp only [if_neg counted]
  rw [← atoi, product]

theorem parseCoordinateValue_eq_some (coordStr : List Char) (isLatitude : Bool) (value : Int) :
    parseCoordinateValue coordStr isLatitude = some (value, true) ↔
      ∃ sign digits, CoordinateForm isLatitude coordStr sign digits ∧ digits ≠ [] ∧ digits.all Char.isDigit ∧
        value = signed 32 (sign * atoi digits) ∧
        -coordinateLimit isLatitude ≤ value ∧ value ≤ coordinateLimit isLatitude := by
  constructor
  · intro parsed
    cases coordStr with
    | nil => simp [parseCoordinateValue] at parsed
    | cons first rest =>
      cases signEq : coordinateSign first isLatitude with
      | none => simp [parseCoordinateValue, signEq] at parsed
      | some sign =>
        have form := coordinateSign_form rest signEq
        generalize read : (first :: rest).drop (if hasSignPrefix first then 1 else 0) = digits at form
        have start : (0 : Int) = signed 32 (0 : Nat) := by decide
        by_cases allDigits : digits.all Char.isDigit
        · by_cases nonempty : digits = []
          · simp [parseCoordinateValue, signEq, read, nonempty, parseDigits] at parsed
          · rw [parseCoordinateValue_of_form form nonempty allDigits] at parsed
            split_ifs at parsed with outside
            cases parsed
            exact ⟨sign, digits, form, nonempty, allDigits, rfl, by omega, by omega⟩
        · simp only [parseCoordinateValue, signEq, read] at parsed
          rw [start, parseDigits_eq, if_neg allDigits] at parsed
          cases parsed
  · rintro ⟨sign, digits, form, nonempty, allDigits, rfl, low, high⟩
    rw [parseCoordinateValue_of_form form nonempty allDigits, if_neg (by omega)]

/-- Ten digits wrap: 2 ^ 32 + 90000000 is read as the north pole. -/
theorem parseCoordinateValue_accepts_wrapped_north :
    parseCoordinateValue "N4384967296".toList true = some (90000000, true) ∧
      coordinateLimit true < atoi "4384967296".toList := by
  decide

/-! ## The circle around a card's position -/

def mPi : Float := 3.1415926

/-- calculate_distance: the haversine distance in metres between two points given in microdegrees, computed
in doubles and truncated to a uint32_t. -/
def calculateDistance (lat1 lon1 lat2 lon2 : Int) : Nat :=
  let earthRadius : Float := 6371000.0
  let radLat1 := Float.ofInt lat1 * mPi / 180000000.0
  let radLat2 := Float.ofInt lat2 * mPi / 180000000.0
  let radLon1 := Float.ofInt lon1 * mPi / 180000000.0
  let radLon2 := Float.ofInt lon2 * mPi / 180000000.0
  let dLat := radLat2 - radLat1
  let dLon := radLon2 - radLon1
  let a := Float.sin (dLat / 2) * Float.sin (dLat / 2) +
    Float.cos radLat1 * Float.cos radLat2 * Float.sin (dLon / 2) * Float.sin (dLon / 2)
  let c := 2 * Float.atan2 (Float.sqrt a) (Float.sqrt (1 - a))
  (earthRadius * c).toUInt32.toNat

def isPointInCircle (lat lon centerLat centerLon : Int) (radius : Nat) : Bool :=
  decide (calculateDistance lat lon centerLat centerLon ≤ radius)

end Tool
