import NrfSdk.Sms.StringConversion
import NrfSdk.Machine.BitWindow
import NrfSdk.Machine.RingView

/-!
The 7-bit packing of string_conversion.c, as 3GPP TS 23.038 6.1.2.1 describes it: the septets laid one
after another, least significant bit first, into one bit string, which is cut into octets. The packer
works in place over the septets and leaves ceil(7n/8) octets at the front of the buffer; the unpacker
cuts the octets' bit string back into septets. For n divisible by 8 the unpacker's last character also
reads the octet after the packed ones, whose bits it masks away.
-/

namespace Sms

open Machine

/-! ### The packer in place and what the unpacker reads -/

def packInPlaceFrom (dataLen : Nat) : Nat → List UInt8 → Nat → Nat → Nat → List UInt8 × Nat
  | 0, data, _, dst, _ => (data, dst)
  | fuel + 1, data, src, dst, shift =>
    if src < dataLen then
      let data := data.set dst ((data.getD src 0).toNat >>> shift).toUInt8
      if src + 1 < dataLen then
        let data := data.set dst ((data.getD dst 0).toNat ||| (data.getD (src + 1) 0).toNat <<< (7 - shift)).toUInt8
        let (src, shift) := if shift + 1 = 7 then (src + 2, 0) else (src + 1, shift + 1)
        packInPlaceFrom dataLen fuel data src (dst + 1) shift
      else packInPlaceFrom dataLen fuel data (src + 1) (dst + 1) shift
    else (data, dst)

def stringConversion7bitSmsPackingInPlace (data : List UInt8) (dataLen : Nat) : List UInt8 × Nat :=
  packInPlaceFrom dataLen dataLen data 0 0 0

def unpackReadsFrom : Nat → Nat → Nat → List Nat
  | 0, _, _ => []
  | count + 1, indexPack, shift =>
    let (next, shift) := if shift + 1 = 8 then (indexPack, 0) else (indexPack + 1, shift + 1)
    indexPack :: (indexPack - 1) :: unpackReadsFrom count next shift

def stringConversion7bitSmsUnpackingReads (numChar : Nat) : List Nat :=
  if numChar = 0 then [] else 0 :: unpackReadsFrom (numChar - 1) 1 1

/-! ### The bit strings -/

def septetStream (septets : List UInt8) : Nat := Nat.ofDigits (2 ^ 7) (septets.map UInt8.toNat)

def octetStream (octets : List UInt8) : Nat := Nat.ofDigits (2 ^ 8) (octets.map UInt8.toNat)

def octetsFrom (stream start count : Nat) : List UInt8 :=
  (List.range count).map fun i => ((stream >>> (start + 8 * i)) % 2 ^ 8).toUInt8

def septetsFrom (stream start count : Nat) : List UInt8 :=
  (List.range count).map fun i => ((stream >>> (start + 7 * i)) % 2 ^ 7).toUInt8

def packedOctets (septets : List UInt8) : List UInt8 :=
  octetsFrom (septetStream septets) 0 ((7 * septets.length + 7) / 8)

section Rounds

/-! ### The rounds, with the next indices as plain conditionals -/

theorem packFrom_succ (septets : List UInt8) (fuel src shift : Nat) :
    packFrom septets (fuel + 1) src shift =
      if src < septets.length then
        if src + 1 < septets.length then
          ((septets.getD src 0).toNat >>> shift ||| (septets.getD (src + 1) 0).toNat <<< (7 - shift)).toUInt8 ::
            packFrom septets fuel (if shift + 1 = 7 then src + 2 else src + 1) (if shift + 1 = 7 then 0 else shift + 1)
        else [((septets.getD src 0).toNat >>> shift).toUInt8]
      else [] := by
  rw [packFrom]
  by_cases wrap : shift + 1 = 7 <;> simp only [wrap, if_true, if_false]

theorem packInPlaceFrom_succ (dataLen fuel : Nat) (data : List UInt8) (src dst shift : Nat) :
    packInPlaceFrom dataLen (fuel + 1) data src dst shift =
      if src < dataLen then
        if src + 1 < dataLen then
          packInPlaceFrom dataLen fuel
            ((data.set dst ((data.getD src 0).toNat >>> shift).toUInt8).set dst
              (((data.set dst ((data.getD src 0).toNat >>> shift).toUInt8).getD dst 0).toNat |||
                ((data.set dst ((data.getD src 0).toNat >>> shift).toUInt8).getD (src + 1) 0).toNat <<<
                  (7 - shift)).toUInt8)
            (if shift + 1 = 7 then src + 2 else src + 1) (dst + 1) (if shift + 1 = 7 then 0 else shift + 1)
        else packInPlaceFrom dataLen fuel (data.set dst ((data.getD src 0).toNat >>> shift).toUInt8) (src + 1)
          (dst + 1) shift
      else (data, dst) := by
  rw [packInPlaceFrom]
  by_cases wrap : shift + 1 = 7 <;> simp only [wrap, if_true, if_false]

theorem unpackFrom_succ (packed : List UInt8) (count indexPack shift : Nat) :
    unpackFrom packed (count + 1) indexPack shift =
      (((packed.getD indexPack 0).toNat <<< shift ||| (packed.getD (indexPack - 1) 0).toNat >>> (8 - shift)) &&&
          str7bitCodeMask).toUInt8 ::
        unpackFrom packed count (if shift + 1 = 8 then indexPack else indexPack + 1)
          (if shift + 1 = 8 then 0 else shift + 1) := by
  rw [unpackFrom]
  by_cases wrap : shift + 1 = 8 <;> simp only [wrap, if_true, if_false]

theorem unpackReadsFrom_succ (count indexPack shift : Nat) :
    unpackReadsFrom (count + 1) indexPack shift =
      indexPack :: (indexPack - 1) ::
        unpackReadsFrom count (if shift + 1 = 8 then indexPack else indexPack + 1) (if shift + 1 = 8 then 0 else shift + 1) := by
  rw [unpackReadsFrom]
  by_cases wrap : shift + 1 = 8 <;> simp only [wrap, if_true, if_false]

theorem packStep_offset {src shift : Nat} (small : shift < 7) :
    (if shift + 1 = 7 then 0 else shift + 1) < 7 ∧ src + 1 ≤ (if shift + 1 = 7 then src + 2 else src + 1) ∧
      7 * (if shift + 1 = 7 then src + 2 else src + 1) + (if shift + 1 = 7 then 0 else shift + 1) =
        7 * src + shift + 8 := by
  split <;> omega

theorem unpackStep_offset {indexPack shift : Nat} (inside : 1 ≤ indexPack) (small : shift < 8) :
    1 ≤ (if shift + 1 = 8 then indexPack else indexPack + 1) ∧ (if shift + 1 = 8 then 0 else shift + 1) < 8 ∧
      8 * (if shift + 1 = 8 then indexPack else indexPack + 1) - (if shift + 1 = 8 then 0 else shift + 1) =
        8 * indexPack - shift + 7 := by
  split <;> omega

theorem octetsFrom_succ (stream start count : Nat) :
    octetsFrom stream start (count + 1) = ((stream >>> start) % 2 ^ 8).toUInt8 :: octetsFrom stream (start + 8) count := by
  simp only [octetsFrom, List.range_succ_eq_map, List.map_cons, List.map_map, Nat.mul_zero, Nat.add_zero]
  congr 1
  apply List.map_congr_left
  intro i _
  simp only [Function.comp, Nat.succ_eq_add_one, Nat.mul_succ]
  congr 3
  omega

theorem septetsFrom_succ (stream start count : Nat) :
    septetsFrom stream start (count + 1) = ((stream >>> start) % 2 ^ 7).toUInt8 :: septetsFrom stream (start + 7) count := by
  simp only [septetsFrom, List.range_succ_eq_map, List.map_cons, List.map_map, Nat.mul_zero, Nat.add_zero]
  congr 1
  apply List.map_congr_left
  intro i _
  simp only [Function.comp, Nat.succ_eq_add_one, Nat.mul_succ]
  congr 3
  omega

end Rounds

section Streams

/-! ### The windows of the bit strings -/

theorem getD_map_toNat (bytes : List UInt8) (k : Nat) : (bytes.map UInt8.toNat).getD k 0 = (bytes.getD k 0).toNat :=
  List.getD_map bytes 0 UInt8.toNat

theorem toUInt8_mod_two_pow_eight (x : Nat) : (x % 2 ^ 8).toUInt8 = x.toUInt8 := by
  apply UInt8.toNat_inj.mp
  simp

theorem octets_lt (octets : List UInt8) : ∀ d ∈ octets.map UInt8.toNat, d < 2 ^ 8 := by
  intro d member
  obtain ⟨octet, -, rfl⟩ := List.mem_map.mp member
  exact UInt8.toNat_lt octet

theorem septets_lt {septets : List UInt8} (seven : ∀ septet ∈ septets, septet.toNat < 2 ^ 7) :
    ∀ d ∈ septets.map UInt8.toNat, d < 2 ^ 7 := by
  intro d member
  obtain ⟨septet, inside, rfl⟩ := List.mem_map.mp member
  exact seven septet inside

theorem septetStream_window {septets : List UInt8} (seven : ∀ septet ∈ septets, septet.toNat < 2 ^ 7) (src : Nat)
    {shift : Nat} (small : shift < 7) :
    (septetStream septets >>> (7 * src + shift)) % 2 ^ 8 =
      ((septets.getD src 0).toNat >>> shift ||| (septets.getD (src + 1) 0).toNat <<< (7 - shift)) % 2 ^ 8 := by
  rw [septetStream, ofDigits_window src (septets_lt seven) (by omega) (by omega), getD_map_toNat, getD_map_toNat]

theorem octetStream_window (packed : List UInt8) {indexPack shift : Nat} (inside : 1 ≤ indexPack) (small : shift < 8) :
    ((packed.getD indexPack 0).toNat <<< shift ||| (packed.getD (indexPack - 1) 0).toNat >>> (8 - shift)) &&&
        str7bitCodeMask = (octetStream packed >>> (8 * indexPack - shift)) % 2 ^ 7 := by
  have offset : 8 * indexPack - shift = 8 * (indexPack - 1) + (8 - shift) := by omega
  rw [show str7bitCodeMask = 2 ^ 7 - 1 from rfl, Nat.and_two_pow_sub_one_eq_mod, offset, octetStream,
    ofDigits_window (indexPack - 1) (octets_lt packed) (by omega) (by omega), getD_map_toNat, getD_map_toNat,
    Nat.sub_add_cancel inside, Nat.sub_sub_self (by omega), Nat.or_comm]

end Streams

section Packer

variable {septets : List UInt8}

/-! ### The packer cuts the septets' bit string into octets -/

theorem packFrom_of_le {src : Nat} (past : septets.length ≤ src) (fuel shift : Nat) :
    packFrom septets fuel src shift = [] := by
  cases fuel with
  | zero => rfl
  | succ fuel => rw [packFrom_succ, if_neg (by omega)]

theorem packFrom_eq (seven : ∀ septet ∈ septets, septet.toNat < 2 ^ 7) (fuel : Nat) :
    ∀ src shift, septets.length ≤ src + fuel → shift < 7 →
      packFrom septets fuel src shift =
        octetsFrom (septetStream septets) (7 * src + shift) ((7 * septets.length - (7 * src + shift) + 7) / 8) := by
  induction fuel with
  | zero =>
    intro src shift enough _
    rw [packFrom_of_le (by omega), show (7 * septets.length - (7 * src + shift) + 7) / 8 = 0 by omega]
    rfl
  | succ fuel ih =>
    intro src shift enough small
    rw [packFrom_succ]
    by_cases inside : src < septets.length
    · rw [if_pos inside]
      by_cases following : src + 1 < septets.length
      · -- two septets make the octet; the next round starts 8 bits further on
        obtain ⟨small', moved, offset⟩ := @packStep_offset src shift small
        rw [if_pos following, ih _ _ (by omega) small', offset,
          show (7 * septets.length - (7 * src + shift) + 7) / 8 = (7 * septets.length - (7 * src + shift + 8) + 7) / 8 + 1
            by omega, octetsFrom_succ, septetStream_window seven src small, toUInt8_mod_two_pow_eight]
      · -- the last septet alone makes the last octet
        have last : septets.getD (src + 1) 0 = 0 := List.getD_eq_default _ _ (by omega)
        rw [if_neg following, show (7 * septets.length - (7 * src + shift) + 7) / 8 = 0 + 1 by omega, octetsFrom_succ,
          septetStream_window seven src small, last, UInt8.toNat_zero, Nat.zero_shiftLeft, Nat.or_zero,
          toUInt8_mod_two_pow_eight]
        rfl
    · rw [if_neg inside, show (7 * septets.length - (7 * src + shift) + 7) / 8 = 0 by omega]
      rfl

theorem stringConversion7bitSmsPacking_eq (seven : ∀ septet ∈ septets, septet.toNat < 2 ^ 7) :
    stringConversion7bitSmsPacking septets = packedOctets septets := by
  rw [stringConversion7bitSmsPacking, packFrom_eq seven septets.length 0 0 (by omega) (by decide), packedOctets,
    Nat.mul_zero, Nat.add_zero, Nat.sub_zero]

theorem length_packedOctets (septets : List UInt8) : (packedOctets septets).length = (7 * septets.length + 7) / 8 := by
  simp [packedOctets, octetsFrom]

theorem octetStream_packedOctets (seven : ∀ septet ∈ septets, septet.toNat < 2 ^ 7) :
    octetStream (packedOctets septets) = septetStream septets := by
  have below : septetStream septets < 2 ^ (8 * ((7 * septets.length + 7) / 8)) := by
    calc septetStream septets < (2 ^ 7) ^ (septets.map UInt8.toNat).length :=
          Nat.ofDigits_lt_base_pow_length (by decide) (septets_lt seven)
      _ = 2 ^ (7 * septets.length) := by rw [List.length_map, ← Nat.pow_mul]
      _ ≤ 2 ^ (8 * ((7 * septets.length + 7) / 8)) := Nat.pow_le_pow_right (by decide) (by omega)
  have octets : (packedOctets septets).map UInt8.toNat =
      (List.range ((7 * septets.length + 7) / 8)).map fun i => (septetStream septets >>> (8 * i)) % 2 ^ 8 := by
    simp [packedOctets, octetsFrom]
  rw [octetStream, octets, ofDigits_chunks, Nat.mod_eq_of_lt below]

end Packer

section Unpacker

/-! ### The unpacker cuts the octets' bit string into septets -/

theorem unpackFrom_eq (packed : List UInt8) (count : Nat) :
    ∀ indexPack shift, 1 ≤ indexPack → shift < 8 →
      unpackFrom packed count indexPack shift = septetsFrom (octetStream packed) (8 * indexPack - shift) count := by
  induction count with
  | zero => intro _ _ _ _; rfl
  | succ count ih =>
    intro indexPack shift inside small
    obtain ⟨inside', small', offset⟩ := unpackStep_offset inside small
    rw [unpackFrom_succ, octetStream_window packed inside small, ih _ _ inside' small', offset, septetsFrom_succ]

theorem stringConversion7bitSmsUnpacking_eq (packed : List UInt8) (numChar : Nat) :
    stringConversion7bitSmsUnpacking packed numChar = septetsFrom (octetStream packed) 0 numChar := by
  cases numChar with
  | zero => rfl
  | succ count =>
    -- the first septet is the low 7 bits of the first octet
    have first : (packed.getD 0 0).toNat &&& str7bitCodeMask = (octetStream packed >>> 0) % 2 ^ 7 := by
      rw [show str7bitCodeMask = 2 ^ 7 - 1 from rfl, Nat.and_two_pow_sub_one_eq_mod, ← getD_map_toNat,
        ← ofDigits_shiftRight_mod 0 (octets_lt packed), Nat.mul_zero, Nat.mod_mod_of_dvd _ (by decide), octetStream]
    rw [stringConversion7bitSmsUnpacking, if_neg (Nat.succ_ne_zero count), Nat.add_sub_cancel,
      unpackFrom_eq packed count 1 1 (Nat.le_refl 1) (by decide), septetsFrom_succ, first]

theorem unpackReadsFrom_le (count : Nat) :
    ∀ indexPack shift, 1 ≤ indexPack → shift < 8 →
      ∀ i ∈ unpackReadsFrom count indexPack shift, i ≤ (8 * indexPack - shift + 7 * count) / 8 := by
  induction count with
  | zero => intro _ _ _ _ i member; exact absurd member List.not_mem_nil
  | succ count ih =>
    intro indexPack shift inside small i member
    obtain ⟨inside', small', offset⟩ := unpackStep_offset inside small
    rw [unpackReadsFrom_succ] at member
    rcases List.mem_cons.mp member with rfl | member
    · omega
    rcases List.mem_cons.mp member with rfl | member
    · omega
    have later := ih _ _ inside' small' i member
    omega

theorem mem_unpackReadsFrom (count : Nat) :
    ∀ indexPack shift, 1 ≤ indexPack → shift < 8 → 0 < count →
      (8 * indexPack - shift + 7 * count) / 8 ∈ unpackReadsFrom count indexPack shift := by
  induction count with
  | zero => intro _ _ _ _ none; omega
  | succ count ih =>
    intro indexPack shift inside small _
    obtain ⟨inside', small', offset⟩ := unpackStep_offset inside small
    rw [unpackReadsFrom_succ]
    rcases Nat.eq_zero_or_pos count with last | more
    · rw [show (8 * indexPack - shift + 7 * (count + 1)) / 8 = indexPack by omega]
      exact List.mem_cons_self
    · have later := ih _ _ inside' small' more
      rw [offset, show 8 * indexPack - shift + 7 + 7 * count = 8 * indexPack - shift + 7 * (count + 1) by omega]
        at later
      exact List.mem_cons_of_mem _ (List.mem_cons_of_mem _ later)

theorem stringConversion7bitSmsUnpackingReads_le (numChar : Nat) :
    ∀ i ∈ stringConversion7bitSmsUnpackingReads numChar, i ≤ 7 * numChar / 8 := by
  intro i member
  unfold stringConversion7bitSmsUnpackingReads at member
  split at member
  · exact absurd member List.not_mem_nil
  · rcases List.mem_cons.mp member with rfl | member
    · exact Nat.zero_le _
    · have bound := unpackReadsFrom_le (numChar - 1) 1 1 (Nat.le_refl 1) (by decide) i member
      omega

theorem mem_stringConversion7bitSmsUnpackingReads {numChar : Nat} (positive : 0 < numChar) :
    7 * numChar / 8 ∈ stringConversion7bitSmsUnpackingReads numChar := by
  rw [stringConversion7bitSmsUnpackingReads, if_neg (by omega)]
  rcases Nat.lt_or_ge numChar 2 with one | more
  · rw [show 7 * numChar / 8 = 0 by omega]
    exact List.mem_cons_self
  · have last := mem_unpackReadsFrom (numChar - 1) 1 1 (Nat.le_refl 1) (by decide) (by omega)
    rw [show (8 * 1 - 1 + 7 * (numChar - 1)) / 8 = 7 * numChar / 8 by omega] at last
    exact List.mem_cons_of_mem _ last

theorem stringConversion7bitSmsUnpacking_take (packed : List UInt8) (numChar : Nat) :
    stringConversion7bitSmsUnpacking packed numChar =
      stringConversion7bitSmsUnpacking (packed.take ((7 * numChar + 7) / 8)) numChar := by
  have kept : octetStream (packed.take ((7 * numChar + 7) / 8)) = octetStream packed % 2 ^ (8 * ((7 * numChar + 7) / 8)) := by
    rw [octetStream, octetStream, ofDigits_mod_pow (by decide) _ (octets_lt packed), List.map_take]
  rw [stringConversion7bitSmsUnpacking_eq, stringConversion7bitSmsUnpacking_eq, kept]
  apply List.map_congr_left
  intro k member
  -- each septet lies below bit 7n, inside the first ceil(7n/8) octets
  rw [shiftRight_mod_of_le (by have := List.mem_range.mp member; omega)]

end Unpacker

section InPlace

/-! ### The packer in place writes behind what it reads -/

variable {original : List UInt8}

theorem getD_append_drop (octets : List UInt8) {k i : Nat} (written : octets.length = k) (past : k ≤ i) :
    (octets ++ original.drop k).getD i 0 = original.getD i 0 := by
  rw [List.getD_append_right _ _ _ _ (written ▸ past), List.getD_eq_getElem?_getD, List.getD_eq_getElem?_getD,
    List.getElem?_drop, written, Nat.add_sub_cancel' past]

theorem set_append_drop (octets : List UInt8) (value : UInt8) (inside : octets.length < original.length) :
    (octets ++ original.drop octets.length).set octets.length value =
      (octets ++ [value]) ++ original.drop (octets.length + 1) := by
  rw [List.set_append_right _ _ (Nat.le_refl _), Nat.sub_self, List.drop_eq_getElem_cons inside, List.set_cons_zero,
    List.append_assoc, List.singleton_append]

theorem getD_append_singleton (octets rest : List UInt8) (value : UInt8) :
    ((octets ++ [value]) ++ rest).getD octets.length 0 = value := by
  rw [List.append_assoc, List.getD_append_right _ _ _ _ (Nat.le_refl _), Nat.sub_self, List.singleton_append]
  rfl

theorem set_append_singleton (octets rest : List UInt8) (value other : UInt8) :
    ((octets ++ [value]) ++ rest).set octets.length other = (octets ++ [other]) ++ rest := by
  rw [List.append_assoc, List.append_assoc, List.set_append_right _ _ (Nat.le_refl _), Nat.sub_self,
    List.singleton_append, List.singleton_append, List.set_cons_zero]

theorem toNat_toUInt8_shiftRight (septet : UInt8) (shift : Nat) :
    ((septet.toNat >>> shift).toUInt8).toNat = septet.toNat >>> shift := by
  have below : septet.toNat >>> shift < 2 ^ 8 := Nat.lt_of_le_of_lt (Nat.shiftRight_le _ _) (UInt8.toNat_lt septet)
  simpa using Nat.mod_eq_of_lt below

theorem packInPlaceFrom_eq {dataLen : Nat} (within : dataLen ≤ original.length) (fuel : Nat) :
    ∀ (data octets : List UInt8) (src dst shift : Nat), data = octets ++ original.drop dst → octets.length = dst →
      dst ≤ src →
      packInPlaceFrom dataLen fuel data src dst shift =
        (octets ++ packFrom (original.take dataLen) fuel src shift ++
            original.drop (dst + (packFrom (original.take dataLen) fuel src shift).length),
          dst + (packFrom (original.take dataLen) fuel src shift).length) := by
  have length : (original.take dataLen).length = dataLen := List.length_take_of_le within
  have septet : ∀ i < dataLen, (original.take dataLen).getD i 0 = original.getD i 0 := fun i below => by
    rw [List.getD_eq_getElem?_getD, List.getD_eq_getElem?_getD, List.getElem?_take_of_lt below]
  induction fuel with
  | zero =>
    intro data octets src dst shift buffer written _
    subst buffer written
    simp [packInPlaceFrom, packFrom]
  | succ fuel ih =>
    intro data octets src dst shift buffer written behind
    subst buffer written
    rw [packInPlaceFrom_succ, packFrom_succ, length]
    by_cases inside : src < dataLen
    · rw [if_pos inside, if_pos inside, getD_append_drop octets rfl behind, set_append_drop octets _ (by omega),
        septet src inside]
      by_cases following : src + 1 < dataLen
      · -- the octet is written, read back and completed with the next septet, still unwritten
        rw [if_pos following, if_pos following, getD_append_singleton,
          getD_append_drop (octets ++ [_]) (by simp) (by omega), set_append_singleton, septet (src + 1) following,
          toNat_toUInt8_shiftRight]
        refine (ih _ (octets ++ [_]) _ _ _ rfl (by simp) (by split <;> omega)).trans ?_
        simp only [List.length_cons, List.append_assoc, List.cons_append, List.nil_append, Nat.add_assoc,
          Nat.add_comm 1]
      · -- the last septet: one octet, and the loop ends
        rw [if_neg following, if_neg following]
        refine (ih _ (octets ++ [_]) _ _ _ rfl (by simp) (by omega)).trans ?_
        rw [packFrom_of_le (by omega)]
        simp
    · rw [if_neg inside, if_neg inside]
      simp

theorem stringConversion7bitSmsPackingInPlace_eq {data : List UInt8} {dataLen : Nat} (within : dataLen ≤ data.length) :
    stringConversion7bitSmsPackingInPlace data dataLen =
      (stringConversion7bitSmsPacking (data.take dataLen) ++
          data.drop (stringConversion7bitSmsPacking (data.take dataLen)).length,
        (stringConversion7bitSmsPacking (data.take dataLen)).length) := by
  have packed := packInPlaceFrom_eq within dataLen data [] 0 0 0 rfl rfl (Nat.le_refl 0)
  rw [stringConversion7bitSmsPackingInPlace, packed, stringConversion7bitSmsPacking, List.length_take_of_le within]
  simp

end InPlace

section RoundTrip

variable {septets : List UInt8}

/-! ### The round trip -/

theorem stringConversion7bitSmsUnpacking_packedOctets (seven : ∀ septet ∈ septets, septet.toNat < 2 ^ 7) :
    stringConversion7bitSmsUnpacking (packedOctets septets) septets.length = septets := by
  have each : ∀ k, ((septetStream septets >>> (0 + 7 * k)) % 2 ^ 7).toUInt8 = septets.getD k 0 := by
    intro k
    rw [Nat.zero_add, septetStream, ofDigits_shiftRight_mod k (septets_lt seven), getD_map_toNat]
    simp
  rw [stringConversion7bitSmsUnpacking_eq, octetStream_packedOctets seven, septetsFrom,
    List.map_congr_left fun k _ => each k, map_range_getD 0 (Nat.le_refl _), List.take_length]

theorem div_eight_lt_or_dvd (n : Nat) : 7 * n / 8 < (7 * n + 7) / 8 ∨ n % 8 = 0 := by
  have below := Nat.mod_lt n (show 8 > 0 by decide)
  interval_cases h : n % 8 <;> omega

/-- For n septets below 128, string_conversion_7bit_sms_packing in place returns ceil(7n/8) and leaves
the 3GPP packing of the septets at the front of the buffer, and string_conversion_7bit_sms_unpacking of
those octets gives the n septets back. The unpacker reads packed[0 .. ceil(7n/8) - 1] and, when 8 divides
n, packed[ceil(7n/8)] too, on which its result does not depend. -/
theorem stringConversion7bitSms_packing_roundTrip (septets : List UInt8)
    (seven : ∀ septet ∈ septets, septet.toNat < 128) :
    (stringConversion7bitSmsPackingInPlace septets septets.length).2 = (7 * septets.length + 7) / 8 ∧
      (stringConversion7bitSmsPackingInPlace septets septets.length).1.take ((7 * septets.length + 7) / 8) =
        packedOctets septets ∧
      stringConversion7bitSmsUnpacking (packedOctets septets) septets.length = septets ∧
      (∀ i ∈ stringConversion7bitSmsUnpackingReads septets.length,
        i < (7 * septets.length + 7) / 8 ∨ (septets.length % 8 = 0 ∧ i = (7 * septets.length + 7) / 8)) ∧
      (0 < septets.length → septets.length % 8 = 0 →
        (7 * septets.length + 7) / 8 ∈ stringConversion7bitSmsUnpackingReads septets.length) ∧
      ∀ packed : List UInt8, stringConversion7bitSmsUnpacking packed septets.length =
        stringConversion7bitSmsUnpacking (packed.take ((7 * septets.length + 7) / 8)) septets.length := by
  have inPlace := stringConversion7bitSmsPackingInPlace_eq (Nat.le_refl septets.length)
  rw [List.take_length, stringConversion7bitSmsPacking_eq seven, length_packedOctets] at inPlace
  refine ⟨by rw [inPlace], by rw [inPlace, List.take_left' (length_packedOctets septets)],
    stringConversion7bitSmsUnpacking_packedOctets seven, ?_, ?_,
    fun packed => stringConversion7bitSmsUnpacking_take packed septets.length⟩
  · intro i member
    have bound := stringConversion7bitSmsUnpackingReads_le septets.length i member
    rcases div_eight_lt_or_dvd septets.length with last | divisible
    · exact .inl (by omega)
    · rcases Nat.lt_or_ge i ((7 * septets.length + 7) / 8) with before | atLeast
      · exact .inl before
      · exact .inr ⟨divisible, by omega⟩
  · intro positive divisible
    rw [show (7 * septets.length + 7) / 8 = 7 * septets.length / 8 by omega]
    exact mem_stringConversion7bitSmsUnpackingReads positive

/-- "Hello wo": eight septets, packed into seven octets. -/
theorem stringConversion7bitSms_packing_roundTrip_eight :
    let septets : List UInt8 := [72, 101, 108, 108, 111, 32, 119, 111]
    (∀ septet ∈ septets, septet.toNat < 128) ∧
      ((stringConversion7bitSmsPackingInPlace septets septets.length).2 = (7 * septets.length + 7) / 8 ∧
        (stringConversion7bitSmsPackingInPlace septets septets.length).1.take ((7 * septets.length + 7) / 8) =
          packedOctets septets ∧
        stringConversion7bitSmsUnpacking (packedOctets septets) septets.length = septets ∧
        (∀ i ∈ stringConversion7bitSmsUnpackingReads septets.length,
          i < (7 * septets.length + 7) / 8 ∨ (septets.length % 8 = 0 ∧ i = (7 * septets.length + 7) / 8)) ∧
        (0 < septets.length → septets.length % 8 = 0 →
          (7 * septets.length + 7) / 8 ∈ stringConversion7bitSmsUnpackingReads septets.length) ∧
        ∀ packed : List UInt8, stringConversion7bitSmsUnpacking packed septets.length =
          stringConversion7bitSmsUnpacking (packed.take ((7 * septets.length + 7) / 8)) septets.length) :=
  ⟨by decide +kernel,
    stringConversion7bitSms_packing_roundTrip [72, 101, 108, 108, 111, 32, 119, 111] (by decide +kernel)⟩

theorem stringConversion7bitSmsUnpacking_reads_past :
    (packedOctets (List.replicate 8 0)).length = 7 ∧ 7 ∈ stringConversion7bitSmsUnpackingReads 8 :=
  ⟨by rw [length_packedOctets]; rfl, by decide⟩

end RoundTrip

end Sms
