import NrfSdk.Machine.Memory

/-! my_get_str_at_pos and macstr_to_hex of my_tool.c, over C strings (the list of the characters before
the NUL). macstr_to_hex reads a MAC address of 12 hex digits, or of six pairs with ':' between them, into six
bytes. Its loop reads a ':' wherever one of the five offsets allows it and a pair of hex digits anywhere
else, so it does not tie the colons to the length. -/

namespace Tool

open Machine

def myGetStrAtPosLoop (iPos : Nat) (cSplit : Char) (iBuffLen : Nat) :
    List Char → Nat → List Char → List Char × Bool
  | [], _, out => (out, false)
  | c :: rest, i, out =>
    if i = iPos ∧ c ≠ cSplit then
      if out.length + 1 ≥ iBuffLen - 1 then (out ++ [c], false)
      else myGetStrAtPosLoop iPos cSplit iBuffLen rest i (out ++ [c])
    else if i > iPos then (out, true)
    else myGetStrAtPosLoop iPos cSplit iBuffLen rest (if c = cSplit then i + 1 else i) out

def myGetStrAtPos (szInput : List Char) (iPos : Nat) (cSplit : Char) (iBuffLen : Nat) : List Char × Bool :=
  myGetStrAtPosLoop iPos cSplit iBuffLen szInput 0 []

def fieldAt (sep : Char) : Nat → List Char → List Char
  | _, [] => []
  | 0, c :: rest => if c = sep then [] else c :: fieldAt sep 0 rest
  | i + 1, c :: rest => if c = sep then fieldAt sep i rest else fieldAt sep (i + 1) rest

def afterField (sep : Char) : Nat → List Char → List Char
  | _, [] => []
  | 0, c :: rest => if c = sep then rest else afterField sep 0 rest
  | i + 1, c :: rest => if c = sep then afterField sep i rest else afterField sep (i + 1) rest

section Split

variable {sep : Char}

theorem fieldAt_zero_of_not_mem {f : List Char} (none : sep ∉ f) : fieldAt sep 0 f = f := by
  induction f with
  | nil => rfl
  | cons c rest ih =>
    rw [List.mem_cons, not_or] at none
    simp [fieldAt, Ne.symm none.1, ih none.2]

theorem fieldAt_append {f : List Char} (none : sep ∉ f) (i : Nat) (rest : List Char) :
    fieldAt sep i (f ++ sep :: rest) = if i = 0 then f else fieldAt sep (i - 1) rest := by
  induction f with
  | nil => cases i <;> simp [fieldAt]
  | cons c more ih =>
    rw [List.mem_cons, not_or] at none
    cases i <;> simp_all [fieldAt, Ne.symm none.1]

theorem afterField_append {f : List Char} (none : sep ∉ f) (i : Nat) (rest : List Char) :
    afterField sep i (f ++ sep :: rest) = if i = 0 then rest else afterField sep (i - 1) rest := by
  induction f with
  | nil => cases i <;> simp [afterField]
  | cons c more ih =>
    rw [List.mem_cons, not_or] at none
    cases i <;> simp_all [afterField, Ne.symm none.1]

theorem not_mem_fieldAt_zero (l : List Char) : sep ∉ fieldAt sep 0 l := by
  induction l with
  | nil => simp [fieldAt]
  | cons c rest ih =>
    by_cases split : c = sep
    · simp [fieldAt, split]
    · simp [fieldAt, split, Ne.symm split, ih]

theorem fieldAt_zero_take (l : List Char) (n : Nat) : fieldAt sep 0 (l.take n) = (fieldAt sep 0 l).take n := by
  induction l generalizing n with
  | nil => simp [fieldAt]
  | cons c rest ih =>
    cases n with
    | zero => simp [fieldAt]
    | succ n =>
      by_cases split : c = sep
      · simp [fieldAt, split]
      · simp [fieldAt, split, ih]

end Split

section Loop

variable {iPos : Nat} {cSplit : Char} {iBuffLen : Nat}

theorem myGetStrAtPosLoop_past (s : List Char) {i : Nat} (past : iPos < i) (out : List Char) :
    myGetStrAtPosLoop iPos cSplit iBuffLen s i out = (out, !s.isEmpty) := by
  cases s with
  | nil => rfl
  | cons c rest =>
    rw [myGetStrAtPosLoop, if_neg (by omega), if_pos past]
    rfl

theorem myGetStrAtPosLoop_copy (s out : List Char) (room : out.length < iBuffLen - 1) :
    myGetStrAtPosLoop iPos cSplit iBuffLen s iPos out =
      (out ++ (fieldAt cSplit 0 s).take (iBuffLen - 1 - out.length),
        decide ((out ++ fieldAt cSplit 0 s).length < iBuffLen - 1) && !(afterField cSplit 0 s).isEmpty) := by
  induction s generalizing out with
  | nil => simp [myGetStrAtPosLoop, fieldAt, afterField]
  | cons c rest ih =>
    by_cases split : c = cSplit
    · subst split
      rw [myGetStrAtPosLoop, if_neg (by simp), if_neg (by omega), if_pos rfl,
        myGetStrAtPosLoop_past rest (by omega)]
      simp [fieldAt, afterField, room]
    · rw [myGetStrAtPosLoop, if_pos ⟨rfl, split⟩]
      simp only [fieldAt, afterField, split, if_false]
      split_ifs with full
      · have last : iBuffLen - 1 - out.length = 1 := by simp at full; omega
        simp only [last, List.take_succ_cons, List.take_zero, List.length_append, List.length_cons]
        simp at full
        simp
        omega
      · rw [ih (out ++ [c]) (by simp at full ⊢; omega)]
        have shift : iBuffLen - 1 - out.length = iBuffLen - 1 - (out ++ [c]).length + 1 := by
          simp at full ⊢
          omega
        simp [shift, List.take_succ_cons]

theorem myGetStrAtPosLoop_skip (s : List Char) {i : Nat} (before : i ≤ iPos) (room : 2 ≤ iBuffLen) :
    myGetStrAtPosLoop iPos cSplit iBuffLen s i [] =
      ((fieldAt cSplit (iPos - i) s).take (iBuffLen - 1),
        decide ((fieldAt cSplit (iPos - i) s).length < iBuffLen - 1) &&
          !(afterField cSplit (iPos - i) s).isEmpty) := by
  induction s generalizing i with
  | nil => simp [myGetStrAtPosLoop, fieldAt, afterField]
  | cons c rest ih =>
    rcases Nat.lt_or_eq_of_le before with earlier | rfl
    · obtain ⟨k, gap⟩ : ∃ k, iPos - i = k + 1 := ⟨iPos - i - 1, by omega⟩
      rw [myGetStrAtPosLoop, if_neg (by omega), if_neg (by omega), gap]
      by_cases split : c = cSplit
      · rw [if_pos split, ih (by omega), show iPos - (i + 1) = k by omega]
        simp [fieldAt, afterField, split]
      · rw [if_neg split, ih before, gap]
        simp [fieldAt, afterField, split]
    · rw [myGetStrAtPosLoop_copy (c :: rest) [] (by simp; omega)]
      simp

end Loop

theorem myGetStrAtPos_eq (szInput : List Char) (iPos : Nat) (cSplit : Char) {iBuffLen : Nat} (room : 2 ≤ iBuffLen) :
    myGetStrAtPos szInput iPos cSplit iBuffLen =
      ((fieldAt cSplit iPos szInput).take (iBuffLen - 1),
        decide ((fieldAt cSplit iPos szInput).length < iBuffLen - 1) &&
          !(afterField cSplit iPos szInput).isEmpty) := by
  rw [myGetStrAtPos, myGetStrAtPosLoop_skip szInput (Nat.zero_le iPos) room, Nat.sub_zero]

example : myGetStrAtPos "MACINFO,001,x".toList 1 ',' 16 = ("001".toList, true) := by decide

theorem myGetStrAtPos_first {sep : Char} {f : List Char} (none : sep ∉ f) (rest : List Char) {iBuffLen : Nat}
    (fits : f.length + 2 ≤ iBuffLen) : myGetStrAtPos (f ++ sep :: rest) 0 sep iBuffLen = (f, !rest.isEmpty) := by
  rw [myGetStrAtPos_eq _ 0 sep (by omega), fieldAt_append none, afterField_append none, if_pos rfl, if_pos rfl,
    List.take_of_length_le (by omega)]
  simp only [Prod.mk.injEq, true_and]
  rw [decide_eq_true (by omega), Bool.true_and]

def hexChar2HexData (c : Char) : Nat :=
  if c ≥ '0' ∧ c ≤ '9' then c.toNat - '0'.toNat
  else if c ≥ 'A' ∧ c ≤ 'F' then c.toNat - 'A'.toNat + 0x0A
  else if c ≥ 'a' ∧ c ≤ 'f' then c.toNat - 'a'.toNat + 0x0A
  else 0xFF

/-- *hex_p++ = ((hex_H << 4) & 0xF0) + (hex_L & 0x0F), stored into a uint8_t. -/
def macByte (hexH hexL : Nat) : UInt8 := (((hexH <<< 4) &&& 0xF0) + (hexL &&& 0x0F)).toUInt8

/-- The while loop over mystr, a copy of the string in a zeroed buffer: none where it returns false, else
the bytes written through hex_p, in order. -/
def macstrToHexLoop (mystr : List Char) (len : Nat) : Nat → Nat → Nat → List UInt8 → Option (List UInt8)
  | 0, _, _, hex => some hex
  | fuel + 1, offset, hexDataCount, hex =>
    if offset < len then
      if mystr.getD offset '\x00' = ':' then
        if offset = 2 ∨ offset = 5 ∨ offset = 8 ∨ offset = 11 ∨ offset = 14 then
          macstrToHexLoop mystr len fuel (offset + 1) hexDataCount hex
        else none
      else
        if hexChar2HexData (mystr.getD offset '\x00') = 0xFF ∨ hexChar2HexData (mystr.getD (offset + 1) '\x00') = 0xFF then
          none
        else if hexDataCount + 1 > 6 then none
        else
          macstrToHexLoop mystr len fuel (offset + 2) (hexDataCount + 1)
            (hex ++ [macByte (hexChar2HexData (mystr.getD offset '\x00')) (hexChar2HexData (mystr.getD (offset + 1) '\x00'))])
    else some hex

/-- macstr_to_hex: none where it returns false, else the bytes it wrote to hex[0], hex[1], ... -/
def macstrToHex (macStr : List Char) : Option (List UInt8) :=
  if macStr.length = 12 ∨ macStr.length = 17 then macstrToHexLoop macStr macStr.length macStr.length 0 0 []
  else none

def IsHex (c : Char) : Prop := hexChar2HexData c ≠ 0xFF

instance (c : Char) : Decidable (IsHex c) := inferInstanceAs (Decidable (hexChar2HexData c ≠ 0xFF))

theorem hexChar2HexData_lt {c : Char} (hex : IsHex c) : hexChar2HexData c < 16 := by
  unfold IsHex hexChar2HexData at *
  split_ifs at hex ⊢ with digit upper lower
  · have atMost : c.toNat ≤ '9'.toNat := digit.2
    have nine : '9'.toNat = 57 := rfl
    have zero : '0'.toNat = 48 := rfl
    omega
  · have atMost : c.toNat ≤ 'F'.toNat := upper.2
    have atLeast : 'A'.toNat ≤ c.toNat := upper.1
    have letterF : 'F'.toNat = 70 := rfl
    have letterA : 'A'.toNat = 65 := rfl
    omega
  · have atMost : c.toNat ≤ 'f'.toNat := lower.2
    have atLeast : 'a'.toNat ≤ c.toNat := lower.1
    have letterF : 'f'.toNat = 102 := rfl
    have letterA : 'a'.toNat = 97 := rfl
    omega
  · exact absurd rfl hex

theorem macByte_eq {hexH hexL : Nat} (high : hexH < 16) (low : hexL < 16) :
    macByte hexH hexL = (hexH * 16 + hexL).toUInt8 := by
  have shifted : ∀ h < 16, (h <<< 4) &&& 0xF0 = h * 16 := by decide
  have masked : ∀ l < 16, l &&& 0x0F = l := by decide
  rw [macByte, shifted hexH high, masked hexL low]

/-- The byte a pair of hex digits stands for. -/
def pairByte (pair : Char × Char) : UInt8 := macByte (hexChar2HexData pair.1) (hexChar2HexData pair.2)

def macPlain (pairs : List (Char × Char)) : List Char := pairs.flatMap (fun pair => [pair.1, pair.2])

/-- Twelve characters with ':' at offsets 2 and 5 pass the length check and are accepted with five bytes
written: the sixth byte of hex is left as it was. -/
theorem macstrToHex_accepts_five_bytes :
    "AB:CD:EF0123".toList.length = 12 ∧
      macstrToHex "AB:CD:EF0123".toList = some [0xAB, 0xCD, 0xEF, 0x01, 0x23] := by
  decide

end Tool
