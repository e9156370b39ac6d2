import NrfSdk.Machine.Memory

namespace Sms

open Machine

def strMaxCharacters : Nat := 160
def str7bitEscapeInd : Nat := 0x80
def str7bitCodeMask : Nat := 0x7F
def str7bitEscapeCode : UInt8 := 0x1B

def asciiTo7bitTable : List UInt8 := [
    0x20, 0x20, 0x20, 0x20, 0x20, 0x20, 0x20, 0x20, 0x20, 0x20, 0x0A, 0x20, 0x20, 0x0D, 0x20, 0x20,
    0x20, 0x20, 0x20, 0x20, 0x20, 0x20, 0x20, 0x20, 0x20, 0x20, 0x20, 0x20, 0x20, 0x20, 0x20, 0x20,
    0x20, 0x21, 0x22, 0x23, 0x02, 0x25, 0x26, 0x27, 0x28, 0x29, 0x2A, 0x2B, 0x2C, 0x2D, 0x2E, 0x2F,
    0x30, 0x31, 0x32, 0x33, 0x34, 0x35, 0x36, 0x37, 0x38, 0x39, 0x3A, 0x3B, 0x3C, 0x3D, 0x3E, 0x3F,
    0x00, 0x41, 0x42, 0x43, 0x44, 0x45, 0x46, 0x47, 0x48, 0x49, 0x4A, 0x4B, 0x4C, 0x4D, 0x4E, 0x4F,
    0x50, 0x51, 0x52, 0x53, 0x54, 0x55, 0x56, 0x57, 0x58, 0x59, 0x5A, 0xBC, 0xAF, 0xBE, 0x94, 0x11,
    0x27, 0x61, 0x62, 0x63, 0x64, 0x65, 0x66, 0x67, 0x68, 0x69, 0x6A, 0x6B, 0x6C, 0x6D, 0x6E, 0x6F,
    0x70, 0x71, 0x72, 0x73, 0x74, 0x75, 0x76, 0x77, 0x78, 0x79, 0x7A, 0xA8, 0xC0, 0xA9, 0xBD, 0x20,
    0x20, 0x20, 0x20, 0x20, 0x20, 0x20, 0x20, 0x20, 0x20, 0x20, 0x20, 0x20, 0x20, 0x20, 0x20, 0x20,
    0x20, 0x20, 0x20, 0x20, 0x20, 0x20, 0x20, 0x20, 0x20, 0x20, 0x20, 0x20, 0x20, 0x20, 0x20, 0x20,
    0x20, 0x40, 0x63, 0x01, 0xE5, 0x03, 0x53, 0x5F, 0x73, 0x63, 0x20, 0x20, 0x20, 0x2D, 0x20, 0x20,
    0x20, 0x20, 0x20, 0x20, 0x5A, 0x75, 0x0A, 0x20, 0x7A, 0x20, 0x20, 0x20, 0x20, 0x20, 0x59, 0x60,
    0x41, 0x41, 0x41, 0x41, 0x5B, 0x0E, 0x1C, 0x09, 0x45, 0x1F, 0x45, 0x45, 0x49, 0x49, 0x49, 0x49,
    0x44, 0x5D, 0x4F, 0x4F, 0x4F, 0x4F, 0x5C, 0x2A, 0x0B, 0x55, 0x55, 0x55, 0x5E, 0x59, 0x20, 0x1E,
    0x7F, 0x61, 0x61, 0x61, 0x7B, 0x0F, 0x1D, 0x63, 0x04, 0x05, 0x65, 0x65, 0x07, 0x69, 0x69, 0x69,
    0x20, 0x7D, 0x08, 0x6F, 0x6F, 0x6F, 0x7C, 0x2F, 0x0C, 0x06, 0x75, 0x75, 0x7E, 0x79, 0x20, 0x79]

def gsm7bitToAsciiTable : List UInt8 := [
    0x40, 0xA3, 0x24, 0xA5, 0xE8, 0xE9, 0xF9, 0xEC, 0xF2, 0xC7, 0x0A, 0xD8, 0xF8, 0x0D, 0xC5, 0xE5,
    0x20, 0x5F, 0x20, 0x20, 0x20, 0x20, 0x20, 0x20, 0x20, 0x20, 0x20, 0x20, 0xC6, 0xE6, 0xDF, 0xC9,
    0x20, 0x21, 0x22, 0x23, 0x20, 0x25, 0x26, 0x27, 0x28, 0x29, 0x2A, 0x2B, 0x2C, 0x2D, 0x2E, 0x2F,
    0x30, 0x31, 0x32, 0x33, 0x34, 0x35, 0x36, 0x37, 0x38, 0x39, 0x3A, 0x3B, 0x3C, 0x3D, 0x3E, 0x3F,
    0xA1, 0x41, 0x42, 0x43, 0x44, 0x45, 0x46, 0x47, 0x48, 0x49, 0x4A, 0x4B, 0x4C, 0x4D, 0x4E, 0x4F,
    0x50, 0x51, 0x52, 0x53, 0x54, 0x55, 0x56, 0x57, 0x58, 0x59, 0x5A, 0xC4, 0xD6, 0xD1, 0xDC, 0xA7,
    0xBF, 0x61, 0x62, 0x63, 0x64, 0x65, 0x66, 0x67, 0x68, 0x69, 0x6A, 0x6B, 0x6C, 0x6D, 0x6E, 0x6F,
    0x70, 0x71, 0x72, 0x73, 0x74, 0x75, 0x76, 0x77, 0x78, 0x79, 0x7A, 0xE4, 0xF6, 0xF1, 0xFC, 0xE0,
    0x20, 0x20, 0x20, 0x20, 0x20, 0x20, 0x20, 0x20, 0x20, 0x20, 0x20, 0x20, 0x20, 0x20, 0x20, 0x20,
    0x20, 0x20, 0x20, 0x20, 0x5E, 0x20, 0x20, 0x20, 0x20, 0x20, 0x20, 0x20, 0x20, 0x20, 0x20, 0x20,
    0x20, 0x20, 0x20, 0x20, 0x20, 0x20, 0x20, 0x20, 0x7B, 0x7D, 0x20, 0x20, 0x20, 0x20, 0x20, 0x5C,
    0x20, 0x20, 0x20, 0x20, 0x20, 0x20, 0x20, 0x20, 0x20, 0x20, 0x20, 0x20, 0x5B, 0x7E, 0x5D, 0x20,
    0x7C, 0x20, 0x20, 0x20, 0x20, 0x20, 0x20, 0x20, 0x20, 0x20, 0x20, 0x20, 0x20, 0x20, 0x20, 0x20,
    0x20, 0x20, 0x20, 0x20, 0x20, 0x20, 0x20, 0x20, 0x20, 0x20, 0x20, 0x20, 0x20, 0x20, 0x20, 0x20,
    0x20, 0x20, 0x20, 0x20, 0x20, 0xA4, 0x20, 0x20, 0x20, 0x20, 0x20, 0x20, 0x20, 0x20, 0x20, 0x20,
    0x20, 0x20, 0x20, 0x20, 0x20, 0x20, 0x20, 0x20, 0x20, 0x20, 0x20, 0x20, 0x20, 0x20, 0x20, 0x20]

def asciiTo7bit (char : UInt8) : Nat := (asciiTo7bitTable.getD char.toNat 0).toNat

def gsm7bitToAscii (index : Nat) : UInt8 := gsm7bitToAsciiTable.getD index 0

/-- The septets of the characters of `data`, after the `septets` already written: how many characters
were converted, and all the septets. A character that no longer fits in 160 septets ends the loop, so
an escape pair is never split. -/
def toSeptets : List UInt8 → List UInt8 → Nat × List UInt8
  | [], septets => (0, septets)
  | char :: rest, septets =>
    let code := asciiTo7bit char
    if code &&& str7bitEscapeInd = 0 then
      if septets.length < strMaxCharacters then
        let (count, septets) := toSeptets rest (septets ++ [code.toUInt8])
        (count + 1, septets)
      else (0, septets)
    else if septets.length < strMaxCharacters - 1 then
      let (count, septets) := toSeptets rest (septets ++ [str7bitEscapeCode, (code &&& str7bitCodeMask).toUInt8])
      (count + 1, septets)
    else (0, septets)

def packFrom (septets : List UInt8) : Nat → Nat → Nat → List UInt8
  | 0, _, _ => []
  | fuel + 1, src, shift =>
    if src < septets.length then
      let low := (septets.getD src 0).toNat >>> shift
      if src + 1 < septets.length then
        let octet := (low ||| (septets.getD (src + 1) 0).toNat <<< (7 - shift)).toUInt8
        let (src, shift) := if shift + 1 = 7 then (src + 2, 0) else (src + 1, shift + 1)
        octet :: packFrom septets fuel src shift
      else [low.toUInt8]
    else []

def stringConversion7bitSmsPacking (septets : List UInt8) : List UInt8 := packFrom septets septets.length 0 0

def unpackFrom (packed : List UInt8) : Nat → Nat → Nat → List UInt8
  | 0, _, _ => []
  | count + 1, indexPack, shift =>
    let septet := ((packed.getD indexPack 0).toNat <<< shift ||| (packed.getD (indexPack - 1) 0).toNat >>> (8 - shift)) &&&
      str7bitCodeMask
    let (indexPack, shift) := if shift + 1 = 8 then (indexPack, 0) else (indexPack + 1, shift + 1)
    septet.toUInt8 :: unpackFrom packed count indexPack shift

def stringConversion7bitSmsUnpacking (packed : List UInt8) (numChar : Nat) : List UInt8 :=
  if numChar = 0 then []
  else ((packed.getD 0 0).toNat &&& str7bitCodeMask).toUInt8 :: unpackFrom packed (numChar - 1) 1 1

/-- What string_conversion_ascii_to_gsm7bit returns and writes: the characters converted, out_data
(packed when asked), out_bytes and out_chars. -/
structure Gsm7bitEncoded where
  consumed : Nat
  outData : List UInt8
  outBytes : Nat
  outChars : Nat
  deriving DecidableEq, Repr

def stringConversionAsciiToGsm7bit (data : List UInt8) (dataLen : Nat) (packing : Bool) : Gsm7bitEncoded :=
  let (consumed, septets) := toSeptets (data.take (u8 dataLen)) []
  let outData := if packing then stringConversion7bitSmsPacking septets else septets
  ⟨consumed, outData, outData.length, septets.length⟩

def septetsToAscii : List UInt8 → List UInt8
  | [] => []
  | septet :: rest =>
    if septet = str7bitEscapeCode then
      match rest with
      | [] => []
      | ext :: rest => gsm7bitToAscii (128 + ext.toNat) :: septetsToAscii rest
    else gsm7bitToAscii septet.toNat :: septetsToAscii rest

def stringConversionGsm7bitToAscii (data : List UInt8) (numChar : Nat) (packed : Bool) : List UInt8 :=
  septetsToAscii (if packed then stringConversion7bitSmsUnpacking data numChar else data.take numChar)

theorem toSeptets_count_le (data septets : List UInt8) : (toSeptets data septets).1 ≤ data.length := by
  induction data generalizing septets with
  | nil => simp [toSeptets]
  | cons char rest ih =>
    simp only [toSeptets, List.length_cons]
    split
    · split
      · have := ih (septets ++ [(asciiTo7bit char).toUInt8])
        omega
      · omega
    · split
      · have := ih (septets ++ [str7bitEscapeCode, (asciiTo7bit char &&& str7bitCodeMask).toUInt8])
        omega
      · omega

def IsPlain (char : UInt8) : Prop := asciiTo7bit char &&& str7bitEscapeInd = 0

instance (char : UInt8) : Decidable (IsPlain char) := inferInstanceAs (Decidable (_ = _))

theorem toSeptets_plain (data septets : List UInt8) (plain : ∀ char ∈ data, IsPlain char)
    (fits : septets.length + data.length ≤ strMaxCharacters) :
    toSeptets data septets = (data.length, septets ++ data.map fun char => (asciiTo7bit char).toUInt8) := by
  induction data generalizing septets with
  | nil => simp [toSeptets]
  | cons char rest ih =>
    have head : IsPlain char := plain char List.mem_cons_self
    have tail := ih (septets ++ [(asciiTo7bit char).toUInt8]) (fun other member => plain other (List.mem_cons_of_mem _ member))
      (by simp only [List.length_append, List.length_cons, List.length_nil] at fits ⊢; omega)
    simp only [List.length_cons] at fits
    rw [toSeptets, if_pos (show asciiTo7bit char &&& str7bitEscapeInd = 0 from head), if_pos (by omega), tail]
    simp

/-! The round trip of the septets, unpacked -/

def encodeChar (char : UInt8) : List UInt8 :=
  if IsPlain char then [(asciiTo7bit char).toUInt8]
  else [str7bitEscapeCode, (asciiTo7bit char &&& str7bitCodeMask).toUInt8]

def Gsm7bitInvertible (char : UInt8) : Prop := septetsToAscii (encodeChar char) = [char]

instance (char : UInt8) : Decidable (Gsm7bitInvertible char) := inferInstanceAs (Decidable (_ = _))

def septetCount (chars : List UInt8) : Nat := (chars.flatMap encodeChar).length

def fittingCount (used : Nat) : List UInt8 → Nat
  | [] => 0
  | char :: rest =>
    if used + (encodeChar char).length ≤ strMaxCharacters then fittingCount (used + (encodeChar char).length) rest + 1
    else 0

@[simp] theorem septetCount_nil : septetCount [] = 0 := rfl

@[simp] theorem septetCount_cons (char : UInt8) (rest : List UInt8) :
    septetCount (char :: rest) = (encodeChar char).length + septetCount rest := by
  simp [septetCount]

theorem encodeChar_length (char : UInt8) : (encodeChar char).length = if IsPlain char then 1 else 2 := by
  unfold encodeChar
  split <;> rfl

theorem toSeptets_eq (data septets : List UInt8) :
    toSeptets data septets =
      (fittingCount septets.length data, septets ++ (data.take (fittingCount septets.length data)).flatMap encodeChar) := by
  induction data generalizing septets with
  | nil => simp [toSeptets, fittingCount]
  | cons char rest ih =>
    have length := encodeChar_length char
    by_cases plain : IsPlain char
    · rw [if_pos plain] at length
      rw [toSeptets, if_pos (show asciiTo7bit char &&& str7bitEscapeInd = 0 from plain), fittingCount, length]
      by_cases room : septets.length < strMaxCharacters
      · rw [if_pos room, if_pos (by omega), ih]
        simp [encodeChar, plain]
      · rw [if_neg room, if_neg (by omega)]
        simp
    · rw [if_neg plain] at length
      rw [toSeptets, if_neg (show ¬ asciiTo7bit char &&& str7bitEscapeInd = 0 from plain), fittingCount, length]
      by_cases room : septets.length < strMaxCharacters - 1
      · rw [if_pos room, if_pos (by unfold strMaxCharacters at room ⊢; omega), ih]
        simp [encodeChar, plain]
      · rw [if_neg room, if_neg (by unfold strMaxCharacters at room ⊢; omega)]
        simp

theorem fittingCount_le (used : Nat) (data : List UInt8) : fittingCount used data ≤ data.length := by
  induction data generalizing used with
  | nil => simp [fittingCount]
  | cons char rest ih =>
    rw [fittingCount]
    split
    · have := ih (used + (encodeChar char).length)
      simp only [List.length_cons]
      omega
    · omega

theorem fittingCount_fits {used : Nat} (room : used ≤ strMaxCharacters) (data : List UInt8) :
    used + septetCount (data.take (fittingCount used data)) ≤ strMaxCharacters := by
  induction data generalizing used with
  | nil => simpa [fittingCount]
  | cons char rest ih =>
    rw [fittingCount]
    split
    · next fits =>
      have := ih fits
      rw [List.take_succ_cons, septetCount_cons]
      omega
    · simpa

theorem fittingCount_longest (used : Nat) (data : List UInt8) {longer : Nat}
    (more : fittingCount used data < longer) (within : longer ≤ data.length) :
    strMaxCharacters < used + septetCount (data.take longer) := by
  induction data generalizing used longer with
  | nil => simp at within; omega
  | cons char rest ih =>
    obtain ⟨shorter, rfl⟩ : ∃ shorter, longer = shorter + 1 := ⟨longer - 1, by omega⟩
    rw [List.take_succ_cons, septetCount_cons]
    rw [fittingCount] at more
    split at more
    · have := @ih (used + (encodeChar char).length) shorter (by omega) (by simpa using within)
      omega
    · omega

theorem septetsToAscii_encodeChar_append {char : UInt8} (invertible : Gsm7bitInvertible char) (rest : List UInt8) :
    septetsToAscii (encodeChar char ++ rest) = char :: septetsToAscii rest := by
  unfold Gsm7bitInvertible encodeChar at invertible
  unfold encodeChar
  split
  · next plain =>
    rw [if_pos plain] at invertible
    generalize (asciiTo7bit char).toUInt8 = code at invertible ⊢
    by_cases escape : code = str7bitEscapeCode
    · -- an escape code alone decodes to nothing
      simp [septetsToAscii, escape] at invertible
    · simp only [septetsToAscii, escape, if_false, List.cons.injEq, and_true] at invertible
      -- the equations of septetsToAscii split on what follows an escape code, so unfold it whole
      rw [List.singleton_append, septetsToAscii.eq_def]
      simp only [escape, if_false, invertible]
  · next plain =>
    rw [if_neg plain] at invertible
    generalize (asciiTo7bit char &&& str7bitCodeMask).toUInt8 = ext at invertible ⊢
    simp only [List.cons_append, List.nil_append, septetsToAscii, if_true, List.cons.injEq, and_true]
      at invertible ⊢
    exact invertible

theorem septetsToAscii_flatMap_encodeChar {chars : List UInt8} (invertible : ∀ char ∈ chars, Gsm7bitInvertible char) :
    septetsToAscii (chars.flatMap encodeChar) = chars := by
  induction chars with
  | nil => rfl
  | cons char rest ih =>
    rw [List.flatMap_cons, septetsToAscii_encodeChar_append (invertible char List.mem_cons_self),
      ih (fun other member => invertible other (List.mem_cons_of_mem _ member))]

theorem stringConversionAsciiToGsm7bit_unpacked (data : List UInt8) (dataLen : Nat) :
    stringConversionAsciiToGsm7bit data dataLen false =
      let chars := data.take (u8 dataLen)
      let septets := (chars.take (fittingCount 0 chars)).flatMap encodeChar
      ⟨fittingCount 0 chars, septets, septets.length, septets.length⟩ := by
  simp [stringConversionAsciiToGsm7bit, toSeptets_eq]

/-- Unpacked, a text of invertible characters converts the longest prefix whose septets fit in 160,
escape pairs whole, and its septets convert back to exactly that prefix. -/
theorem stringConversionAsciiToGsm7bit_roundTrip (data : List UInt8) (dataLen : Nat)
    (invertible : ∀ char ∈ data.take (u8 dataLen), Gsm7bitInvertible char) :
    let chars := data.take (u8 dataLen)
    let encoded := stringConversionAsciiToGsm7bit data dataLen false
    encoded.consumed ≤ chars.length ∧
      septetCount (chars.take encoded.consumed) ≤ strMaxCharacters ∧
      (∀ longer, encoded.consumed < longer → longer ≤ chars.length →
        strMaxCharacters < septetCount (chars.take longer)) ∧
      encoded.outData = (chars.take encoded.consumed).flatMap encodeChar ∧
      encoded.outBytes = septetCount (chars.take encoded.consumed) ∧ encoded.outChars = encoded.outBytes ∧
      stringConversionGsm7bitToAscii encoded.outData encoded.outBytes false = chars.take encoded.consumed := by
  intro chars encoded
  have unpacked : encoded = ⟨fittingCount 0 chars, (chars.take (fittingCount 0 chars)).flatMap encodeChar,
      septetCount (chars.take (fittingCount 0 chars)), septetCount (chars.take (fittingCount 0 chars))⟩ :=
    stringConversionAsciiToGsm7bit_unpacked data dataLen
  have prefixInvertible : ∀ char ∈ chars.take (fittingCount 0 chars), Gsm7bitInvertible char :=
    fun char member => invertible char (List.mem_of_mem_take member)
  rw [unpacked]
  refine ⟨fittingCount_le 0 chars, by simpa using fittingCount_fits (Nat.zero_le _) chars,
    fun longer more within => by simpa using fittingCount_longest 0 chars more within, rfl, rfl, rfl, ?_⟩
  rw [stringConversionGsm7bitToAscii, if_neg Bool.false_ne_true, septetCount, List.take_length]
  exact septetsToAscii_flatMap_encodeChar prefixInvertible

/-- "Hi{": the brace takes an escape pair, and all three characters come back. -/
theorem stringConversionAsciiToGsm7bit_roundTrip_brace :
    (∀ char ∈ ([72, 105, 123] : List UInt8).take (u8 3), Gsm7bitInvertible char) ∧
      let chars := ([72, 105, 123] : List UInt8).take (u8 3)
      let encoded := stringConversionAsciiToGsm7bit [72, 105, 123] 3 false
      encoded.consumed ≤ chars.length ∧
        septetCount (chars.take encoded.consumed) ≤ strMaxCharacters ∧
        (∀ longer, encoded.consumed < longer → longer ≤ chars.length →
          strMaxCharacters < septetCount (chars.take longer)) ∧
        encoded.outData = (chars.take encoded.consumed).flatMap encodeChar ∧
        encoded.outBytes = septetCount (chars.take encoded.consumed) ∧ encoded.outChars = encoded.outBytes ∧
        stringConversionGsm7bitToAscii encoded.outData encoded.outBytes false = chars.take encoded.consumed :=
  have invertible : ∀ char ∈ ([72, 105, 123] : List UInt8).take (u8 3), Gsm7bitInvertible char :=
    @of_decide_eq_true _ (List.decidableBAll _ _) rfl
  ⟨invertible, stringConversionAsciiToGsm7bit_roundTrip [72, 105, 123] 3 invertible⟩

end Sms
