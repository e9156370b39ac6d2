import NrfSdk.Tool.MacStr

/-! hexstr_to_hex, hex2ascii and hex2hexstr of my_tool.c: a byte array written as upper-case hex digits,
and a hex string of either case read back into bytes. hexstr_to_hex counts the characters it reads in a
uint8_t and returns half that count, so it returns the number of bytes only while the count stays below 256. -/

namespace Tool

open Machine

def hexstrToHexLoop (destSize : Nat) : List Char → Nat → Nat → Nat → List (Nat × UInt8) → Nat × List (Nat × UInt8)
  | [], offset, _, _, writes => (offset / 2 + offset % 2, writes)
  | c :: rest, offset, hexData, byteCount, writes =>
    if c = '\x00' then (offset / 2 + offset % 2, writes)
    -- the three digit ranges the source tests are those of HexChar2HexData
    else if hexChar2HexData c = 0xFF then (0, writes)
    else
      let tempData := hexChar2HexData c
      if offset % 2 = 1 then
        let hexData := hexData ||| (tempData &&& 0x0F)
        let writes := writes ++ [(byteCount, hexData.toUInt8)]
        let byteCount := u8 (byteCount + 1)
        -- the break leaves offset one short of the characters read
        if byteCount ≥ destSize then (offset / 2 + offset % 2, writes)
        else hexstrToHexLoop destSize rest (u8 (offset + 1)) hexData byteCount writes
      else hexstrToHexLoop destSize rest (u8 (offset + 1)) ((tempData <<< 4) &&& 0xf0) byteCount writes

/-- hexstr_to_hex with non-NULL dest and src: the value it returns and the bytes it writes to dest. -/
def hexstrToHex (destSize : Nat) (src : List Char) : Nat × List (Nat × UInt8) :=
  if destSize = 0 then (0, []) else hexstrToHexLoop destSize src 0 0 0 []

def hex2ascii (digit : UInt8) : Char :=
  if digit ≤ 9 then Char.ofNat (u8 (digit.toNat - 0x0 + '0'.toNat))
  else Char.ofNat (u8 (digit.toNat - 0xA + 'A'.toNat))

/-- hex2hexstr for the hex_len bytes at hex: none where str_len is too small and nothing is written, else
the characters written from str[0] on, two digits per byte and the closing NUL. -/
def hex2hexstr (hex : List UInt8) (strLen : Nat) : Option (List Char) :=
  if strLen < 2 * hex.length then none
  else some (hex.flatMap (fun (byte : UInt8) => [hex2ascii ((byte >>> 4) &&& 0x0f), hex2ascii (byte &&& 0x0f)]) ++ ['\x00'])

/-! The specification: upper-case digits, and the count the uint8_t offset leaves. -/

def upperHexDigits : List Char := "0123456789ABCDEF".toList

def byteHexDigits (byte : UInt8) : Char × Char :=
  (upperHexDigits.getD (byte.toNat / 16) '0', upperHexDigits.getD (byte.toNat % 16) '0')

/-- What hexstr_to_hex returns after storing `count` bytes into a buffer of `destSize`: the uint8_t offset
has counted 2 * count characters, or one fewer when the buffer filled up and the loop broke before
counting the last one, modulo 256. -/
def hexstrCount (count destSize : Nat) : Nat :=
  if count < destSize then count % 128 else (count - 1) % 128 + 1

/-! Reading hex digits -/

theorem not_nul_of_isHex {c : Char} (hex : IsHex c) : c ≠ '\x00' := by
  rintro rfl
  exact hex (by decide)

theorem combine_nibbles {high low : Nat} (highSmall : high < 16) (lowSmall : low < 16) :
    ((high <<< 4) &&& 0xf0) ||| (low &&& 0x0F) = high * 16 + low := by
  have table : ∀ h < 16, ∀ l < 16, ((h <<< 4) &&& 0xf0) ||| (l &&& 0x0F) = h * 16 + l := by decide
  exact table high highSmall low lowSmall

theorem pairByte_toNat {high low : Char} (highHex : IsHex high) (lowHex : IsHex low) :
    (pairByte (high, low)).toNat = hexChar2HexData high * 16 + hexChar2HexData low := by
  have := hexChar2HexData_lt highHex
  have := hexChar2HexData_lt lowHex
  rw [pairByte, macByte_eq (hexChar2HexData_lt highHex) (hexChar2HexData_lt lowHex), Nat.toUInt8_eq,
    UInt8.toNat_ofNat']
  omega

theorem hexstrToHexLoop_pair {destSize offset hexData byteCount : Nat} {writes : List (Nat × UInt8)}
    {high low : Char} (rest : List Char) (highHex : IsHex high) (lowHex : IsHex low) (even : offset % 2 = 0)
    (stored : offset < 256) (counted : byteCount < 255) :
    hexstrToHexLoop destSize (high :: low :: rest) offset hexData byteCount writes =
      if byteCount + 1 ≥ destSize then
        ((offset + 1) / 2 + (offset + 1) % 2, writes ++ [(byteCount, pairByte (high, low))])
      else
        hexstrToHexLoop destSize rest ((offset + 2) % 256) (hexChar2HexData high * 16 + hexChar2HexData low)
          (byteCount + 1) (writes ++ [(byteCount, pairByte (high, low))]) := by
  have next : u8 ((offset : Int) + 1) = offset + 1 := by
    rw [u8_natCast_add_one]
    omega
  have count : u8 ((byteCount : Int) + 1) = byteCount + 1 := by
    rw [u8_natCast_add_one]
    omega
  rw [hexstrToHexLoop, if_neg (not_nul_of_isHex highHex), if_neg highHex, if_neg (by omega), next, hexstrToHexLoop,
    if_neg (not_nul_of_isHex lowHex), if_neg lowHex, if_pos (by omega)]
  simp only [combine_nibbles (hexChar2HexData_lt highHex) (hexChar2HexData_lt lowHex), count, u8_natCast_add_one,
    ← pairByte_toNat highHex lowHex, Nat.toUInt8_eq, UInt8.ofNat_toNat, Nat.add_assoc]

theorem hexstrToHexLoop_pairs (pairs : List (Char × Char)) (hexes : ∀ pair ∈ pairs, IsHex pair.1 ∧ IsHex pair.2)
    {destSize : Nat} (small : destSize ≤ 255) (rest : List Char) :
    ∀ byteCount hexData writes, byteCount < destSize → byteCount + pairs.length ≤ destSize →
      hexstrToHexLoop destSize (macPlain pairs ++ '\x00' :: rest) (2 * byteCount % 256) hexData byteCount writes =
        (hexstrCount (byteCount + pairs.length) destSize,
          writes ++ (List.range' byteCount pairs.length).zip (pairs.map pairByte)) := by
  induction pairs with
  | nil =>
    intro byteCount hexData writes inside _
    rw [macPlain, List.flatMap_nil, List.nil_append, hexstrToHexLoop, if_pos rfl, hexstrCount, List.length_nil,
      Nat.add_zero, if_pos inside]
    simp only [List.range'_zero, List.zip_nil_left, List.append_nil, Prod.mk.injEq, and_true]
    omega
  | cons pair pairs ih =>
    intro byteCount hexData writes inside room
    obtain ⟨high, low⟩ := hexes pair List.mem_cons_self
    simp only [List.length_cons] at room
    have read : macPlain (pair :: pairs) ++ '\x00' :: rest = pair.1 :: pair.2 :: (macPlain pairs ++ '\x00' :: rest) := by
      simp [macPlain]
    rw [read, hexstrToHexLoop_pair _ high low (by omega) (by omega) (by omega)]
    split_ifs with full
    · -- the pair fills the buffer: it was the last one
      have last : pairs = [] := List.eq_nil_of_length_eq_zero (by omega)
      subst last
      simp only [List.length_cons, List.length_nil, Nat.zero_add, List.range'_one, List.map_cons, List.map_nil,
        List.zip_cons_cons, List.zip_nil_left, Prod.mk.injEq, and_true]
      unfold hexstrCount
      split_ifs <;> omega
    · have offset : (2 * byteCount % 256 + 2) % 256 = 2 * (byteCount + 1) % 256 := by omega
      rw [offset, ih (fun other member => hexes other (List.mem_cons_of_mem _ member)) (byteCount + 1) _ _
        (by omega) (by omega)]
      simp only [List.length_cons, List.range'_succ, List.map_cons, List.zip_cons_cons, List.append_assoc,
        List.singleton_append]
      rw [Nat.add_assoc, Nat.add_comm 1]

theorem hexstrToHex_pairs (pairs : List (Char × Char)) (hexes : ∀ pair ∈ pairs, IsHex pair.1 ∧ IsHex pair.2)
    {destSize : Nat} (positive : 0 < destSize) (room : pairs.length ≤ destSize) (small : destSize ≤ 255) :
    hexstrToHex destSize (macPlain pairs ++ ['\x00']) =
      (hexstrCount pairs.length destSize, (List.range pairs.length).zip (pairs.map pairByte)) := by
  rw [hexstrToHex, if_neg (by omega), List.range_eq_range']
  have start := hexstrToHexLoop_pairs pairs hexes small [] 0 0 [] positive (by omega)
  rw [Nat.zero_add, Nat.mul_zero, Nat.zero_mod, List.nil_append] at start
  exact start

/-! Writing hex digits -/

theorem nibbles_toNat (byte : UInt8) :
    ((byte >>> 4) &&& 0x0f).toNat = byte.toNat / 16 ∧ (byte &&& 0x0f).toNat = byte.toNat % 16 := by
  have mask : UInt8.toNat 0x0f = 2 ^ 4 - 1 := rfl
  have shift : UInt8.toNat 4 % 8 = 4 := rfl
  have bound := byte.toNat_lt
  constructor
  · rw [UInt8.toNat_and, UInt8.toNat_shiftRight, mask, Nat.and_two_pow_sub_one_eq_mod, shift,
      Nat.shiftRight_eq_div_pow]
    omega
  · rw [UInt8.toNat_and, mask, Nat.and_two_pow_sub_one_eq_mod]

theorem hex2ascii_of_lt {digit : Nat} (small : digit < 16) :
    hex2ascii (UInt8.ofNat digit) = upperHexDigits.getD digit '0' := by
  have table : ∀ d < 16, hex2ascii (UInt8.ofNat d) = upperHexDigits.getD d '0' := by decide
  exact table digit small

theorem hex2ascii_nibbles (byte : UInt8) :
    [hex2ascii ((byte >>> 4) &&& 0x0f), hex2ascii (byte &&& 0x0f)] = [(byteHexDigits byte).1, (byteHexDigits byte).2] := by
  obtain ⟨high, low⟩ := nibbles_toNat byte
  have bound := byte.toNat_lt
  rw [← UInt8.ofNat_toNat (x := (byte >>> 4) &&& 0x0f), ← UInt8.ofNat_toNat (x := byte &&& 0x0f), high, low,
    hex2ascii_of_lt (by omega), hex2ascii_of_lt (by omega)]
  rfl

theorem hex2hexstr_eq {hex : List UInt8} {strLen : Nat} (room : 2 * hex.length ≤ strLen) :
    hex2hexstr hex strLen = some (macPlain (hex.map byteHexDigits) ++ ['\x00']) := by
  rw [hex2hexstr, if_neg (by omega)]
  simp only [hex2ascii_nibbles, macPlain, List.flatMap_map]

/-! The round trips -/

theorem hexChar2HexData_upperHexDigits {digit : Nat} (small : digit < 16) :
    hexChar2HexData (upperHexDigits.getD digit '0') = digit := by
  have table : ∀ d < 16, hexChar2HexData (upperHexDigits.getD d '0') = d := by decide
  exact table digit small

theorem isHex_byteHexDigits (byte : UInt8) : IsHex (byteHexDigits byte).1 ∧ IsHex (byteHexDigits byte).2 := by
  have bound := byte.toNat_lt
  constructor
  · show hexChar2HexData (upperHexDigits.getD (byte.toNat / 16) '0') ≠ 0xFF
    rw [hexChar2HexData_upperHexDigits (by omega)]
    omega
  · show hexChar2HexData (upperHexDigits.getD (byte.toNat % 16) '0') ≠ 0xFF
    rw [hexChar2HexData_upperHexDigits (by omega)]
    omega

theorem pairByte_byteHexDigits (byte : UInt8) : pairByte (byteHexDigits byte) = byte := by
  have bound := byte.toNat_lt
  obtain ⟨high, low⟩ := isHex_byteHexDigits byte
  apply UInt8.toNat_inj.mp
  rw [pairByte_toNat high low]
  show hexChar2HexData (upperHexDigits.getD (byte.toNat / 16) '0') * 16 +
    hexChar2HexData (upperHexDigits.getD (byte.toNat % 16) '0') = byte.toNat
  rw [hexChar2HexData_upperHexDigits (by omega), hexChar2HexData_upperHexDigits (by omega)]
  omega

theorem hexstrToHex_hex2hexstr (bytes : List UInt8) {destSize : Nat} (positive : 0 < destSize)
    (room : bytes.length ≤ destSize) (small : destSize ≤ 255) :
    hex2hexstr bytes (2 * bytes.length + 1) = some (macPlain (bytes.map byteHexDigits) ++ ['\x00']) ∧
      hexstrToHex destSize (macPlain (bytes.map byteHexDigits) ++ ['\x00']) =
        (hexstrCount bytes.length destSize, (List.range bytes.length).zip bytes) := by
  have hexes : ∀ pair ∈ bytes.map byteHexDigits, IsHex pair.1 ∧ IsHex pair.2 := by
    intro pair member
    obtain ⟨byte, _, rfl⟩ := List.mem_map.mp member
    exact isHex_byteHexDigits byte
  refine ⟨hex2hexstr_eq (by omega), ?_⟩
  rw [hexstrToHex_pairs _ hexes positive (by simpa using room) small, List.length_map, List.map_map]
  have roundTrip : pairByte ∘ byteHexDigits = id := funext pairByte_byteHexDigits
  rw [roundTrip, List.map_id]

/-- 128 bytes written as 256 digits and read into a buffer of 255: all 128 bytes are stored, and the
uint8_t offset, back at 0 after 256 characters, makes hexstr_to_hex return 0, its error value. -/
theorem hexstrToHex_returns_zero_after_128_bytes :
    hex2hexstr (List.replicate 128 0xAB) 257 = some (macPlain (List.replicate 128 ('A', 'B')) ++ ['\x00']) ∧
      hexstrToHex 255 (macPlain (List.replicate 128 ('A', 'B')) ++ ['\x00']) =
        (0, (List.range 128).zip (List.replicate 128 0xAB)) := by
  have digits : byteHexDigits 0xAB = ('A', 'B') := by decide
  obtain ⟨written, read⟩ := hexstrToHex_hex2hexstr (List.replicate 128 (0xAB : UInt8)) (by decide : 0 < 255)
    (by simp) (by decide)
  rw [List.map_replicate, digits, List.length_replicate] at written read
  exact ⟨written, read.trans (by decide)⟩

end Tool
