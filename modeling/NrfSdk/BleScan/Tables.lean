import NrfSdk.BleScan.AdParse

/-! The tables of my_ble_scan.c: the prefix table a scan response's name must match, the result table
tag_scan_result_save keeps per address (replacing the weakest tag when it is full), the ADV cache that
holds an advertisement's FF data until the scan response of the same device arrives, the transparent-MAC
list of the configuration and the table of advertisements from those MACs. A table of the source is an
array with a count; it is the list of its first count items here. -/

namespace BleScan

def tagPrefixMaxNum : Nat := 10
def tagPrefixMaxLen : Nat := 16
def advCacheMaxNum : Nat := 10
def tagResultMaxNum : Nat := 50
def tranMacAdvDataMaxLen : Nat := 31
def tranMacMaxNum : Nat := 20

def enoent : Int := 2
def enomem : Int := 12
def eexist : Int := 17
def einval : Int := 22

/-- bt_addr_le_t: the address type and the six bytes of a.val; bt_addr_le_cmp is their memcmp. -/
structure BtAddrLe where
  type : UInt8
  val : Vector UInt8 6
deriving DecidableEq, Repr

def zeroAddr : BtAddrLe := ⟨0, Vector.replicate 6 0⟩

/-- tag_scan_result_t, each array as the bytes its length field counts (the bytes past it are never
read); name is the C string before its NUL. -/
structure TagScanResult where
  addr : BtAddrLe
  rssi : Int
  name : List UInt8
  ffData : List UInt8
  uuid : List UInt8
  batteryPercent : UInt8
deriving DecidableEq, Repr

/-! ## The least key -/

section Least

variable {α β : Type} [LinearOrder β] (key : α → β)

def leastIndexLoop : List α → Nat → Nat × β → Nat × β
  | [], _, best => best
  | item :: rest, i, best => leastIndexLoop rest (i + 1) (if key item < best.2 then (i, key item) else best)

def leastIndex (first : α) (rest : List α) : Nat := (leastIndexLoop key rest 1 (0, key first)).1

theorem leastIndexLoop_le (rest : List α) (i : Nat) (best : Nat × β) :
    (leastIndexLoop key rest i best).2 ≤ best.2 ∧ ∀ item ∈ rest, (leastIndexLoop key rest i best).2 ≤ key item := by
  induction rest generalizing i best with
  | nil => exact ⟨le_refl _, fun _ member => nomatch member⟩
  | cons item rest ih =>
    obtain ⟨first, others⟩ := ih (i + 1) (if key item < best.2 then (i, key item) else best)
    -- the kept key only goes down, so the end is below the head and below what came before it
    have step : (if key item < best.2 then (i, key item) else best).2 ≤ best.2 ∧
        (if key item < best.2 then (i, key item) else best).2 ≤ key item := by
      split_ifs with lower
      · exact ⟨le_of_lt lower, le_refl _⟩
      · exact ⟨le_refl _, le_of_not_gt lower⟩
    refine ⟨first.trans step.1, ?_⟩
    intro other member
    rcases List.mem_cons.mp member with rfl | later
    · exact first.trans step.2
    · exact others other later

theorem leastIndexLoop_index (rest : List α) (i : Nat) (best : Nat × β) :
    leastIndexLoop key rest i best = best ∨
      ∃ j, ∃ inside : j < rest.length, (leastIndexLoop key rest i best).1 = i + j ∧
        (leastIndexLoop key rest i best).2 = key rest[j] := by
  induction rest generalizing i best with
  | nil => exact .inl rfl
  | cons item rest ih =>
    rcases ih (i + 1) (if key item < best.2 then (i, key item) else best) with kept | ⟨j, inside, index, least⟩
    · -- nothing later is lower: the loop ends where the head left it
      rw [leastIndexLoop, kept]
      split_ifs
      · exact .inr ⟨0, by simp, rfl, rfl⟩
      · exact .inl rfl
    · refine .inr ⟨j + 1, by simp [inside], ?_, ?_⟩
      · rw [leastIndexLoop, index]
        omega
      · rw [leastIndexLoop, least]
        rfl

/-- The least key of a nonempty table, at the first index that has it. -/
theorem leastIndex_spec (first : α) (rest : List α) :
    ∃ inside : leastIndex key first rest < (first :: rest).length,
      ∀ item ∈ first :: rest, key (first :: rest)[leastIndex key first rest] ≤ key item := by
  obtain ⟨belowFirst, belowRest⟩ := leastIndexLoop_le key rest 1 (0, key first)
  have least : ∀ item ∈ first :: rest, (leastIndexLoop key rest 1 (0, key first)).2 ≤ key item := by
    intro item member
    rcases List.mem_cons.mp member with rfl | later
    · exact belowFirst
    · exact belowRest item later
  unfold leastIndex
  rcases leastIndexLoop_index key rest 1 (0, key first) with kept | ⟨j, inside, index, keyed⟩
  · rw [kept] at least ⊢
    exact ⟨by simp, least⟩
  · have shifted : (leastIndexLoop key rest 1 (0, key first)).1 = j + 1 := by omega
    refine ⟨by simp [shifted, inside], ?_⟩
    simp only [shifted, List.getElem_cons_succ]
    rw [← keyed]
    exact least

end Least

/-! ## The name filter -/

/-- tag_prefix_t: the len bytes of prefix (the rest of the array is zero), and valid. -/
structure TagPrefixItem where
  text : List UInt8
  len : Nat
  valid : Bool
deriving DecidableEq, Repr

def cStrncmpEq (a b : List UInt8) (n : Nat) : Bool := a.take n == b.take n

def tagNameMatch (table : List TagPrefixItem) (name : List UInt8) (len : Nat) : Bool :=
  if len = 0 then false
  else table.any fun item => item.valid && decide (len ≥ item.len) && cStrncmpEq name item.text item.len

def myTagPrefixAdd (table : List TagPrefixItem) (text : List UInt8) : Int × List TagPrefixItem :=
  if table.length ≥ tagPrefixMaxNum then (-enomem, table)
  else if text.length = 0 ∨ text.length ≥ tagPrefixMaxLen then (-einval, table)
  else (0, table ++ [⟨text, text.length, true⟩])

def tagPrefixTableInit : List TagPrefixItem :=
  [[0x4c, 0x37, 0x38, 0x30], [0x50, 0x42, 0x37], [0x4c, 0x4c, 0x33, 0x31, 0x31], [0x50, 0x45, 0x54]].foldl
    (fun table text => (myTagPrefixAdd table text).2) []

/-- The prefix table my_tag_prefix_add builds: at most TAG_PREFIX_MAX_NUM valid prefixes, each of the
length it records, none empty. -/
structure PrefixTableWf (table : List TagPrefixItem) : Prop where
  length_le : table.length ≤ tagPrefixMaxNum
  item_wf : ∀ item ∈ table, item.valid ∧ item.len = item.text.length ∧ 0 < item.len

theorem PrefixTableWf.add {table : List TagPrefixItem} (wf : PrefixTableWf table) (text : List UInt8) :
    PrefixTableWf (myTagPrefixAdd table text).2 := by
  unfold myTagPrefixAdd
  split_ifs with full bad
  · exact wf
  · exact wf
  · refine ⟨by simp only [List.length_append, List.length_singleton]; omega, ?_⟩
    intro item member
    rcases List.mem_append.mp member with old | new
    · exact wf.item_wf item old
    · rw [List.mem_singleton.mp new]
      exact ⟨rfl, rfl, show 0 < text.length by omega⟩

theorem prefixTableWf_init : PrefixTableWf tagPrefixTableInit :=
  ⟨by decide, by decide⟩

/-! ## The result table -/

def tagScanResultSave (items : List TagScanResult) (result : TagScanResult) : List TagScanResult :=
  match items.findIdx? (·.addr == result.addr) with
  | some i =>
    items.modify i fun item =>
      { item with name := result.name, rssi := result.rssi,
                  ffData := if result.ffData.length > 0 then result.ffData else item.ffData,
                  uuid := if result.uuid.length > 0 then result.uuid else item.uuid,
                  batteryPercent := result.batteryPercent }
  | none =>
    if items.length < tagResultMaxNum then items ++ [result]
    else match items with
      | [] => items
      | first :: rest =>
        let replaceIdx := leastIndex TagScanResult.rssi first rest
        if result.rssi > (items.getD replaceIdx result).rssi then items.set replaceIdx result else items

theorem mem_set_of_ne {α : Type} {items : List α} {item value : α} {i : Nat} (inside : i < items.length)
    (member : item ∈ items) (other : item ≠ items[i]) : item ∈ items.set i value := by
  obtain ⟨j, hj, rfl⟩ := List.mem_iff_getElem.mp member
  have differ : i ≠ j := fun same => other (by simp [same])
  exact List.mem_iff_getElem.mpr ⟨j, by simpa using hj, by rw [List.getElem_set_ne differ]⟩

theorem mem_set_self {α : Type} {items : List α} {value : α} {i : Nat} (inside : i < items.length) :
    value ∈ items.set i value :=
  List.mem_iff_getElem.mpr ⟨i, by simpa using inside, List.getElem_set_self _⟩

theorem findIdx_addr_of_absent {items : List TagScanResult} {addr : BtAddrLe}
    (absent : addr ∉ items.map (·.addr)) : items.findIdx? (·.addr == addr) = none := by
  rw [List.findIdx?_eq_none_iff]
  intro item member
  simp only [beq_eq_false_iff_ne, ne_eq]
  intro same
  exact absent (List.mem_map.mpr ⟨item, member, same⟩)

/-- The result table: at most TAG_RESULT_MAX_NUM tags, one per address. -/
structure TagTableWf (items : List TagScanResult) : Prop where
  length_le : items.length ≤ tagResultMaxNum
  nodup : (items.map (·.addr)).Nodup

theorem map_modify_of_keeps {α β : Type} (key : α → β) (f : α → α) (keeps : ∀ item, key (f item) = key item)
    (items : List α) (i : Nat) : (items.modify i f).map key = items.map key := by
  apply List.ext_getElem
  · simp
  · intro j inside _
    simp only [List.getElem_map, List.getElem_modify]
    split_ifs
    · exact keeps _
    · rfl

theorem addr_absent_of_findIdx {items : List TagScanResult} {addr : BtAddrLe}
    (missing : items.findIdx? (·.addr == addr) = none) : addr ∉ items.map (·.addr) := by
  rw [List.findIdx?_eq_none_iff] at missing
  intro present
  obtain ⟨item, member, same⟩ := List.mem_map.mp present
  have differ := missing item member
  simp [same] at differ

theorem TagTableWf.save {items : List TagScanResult} (wf : TagTableWf items) (result : TagScanResult) :
    TagTableWf (tagScanResultSave items result) := by
  unfold tagScanResultSave
  split
  next i found =>
    -- an update keeps the address of the tag it updates
    refine ⟨by rw [List.length_modify]; exact wf.length_le, ?_⟩
    rw [map_modify_of_keeps (fun item : TagScanResult => item.addr)]
    · exact wf.nodup
    · intro item
      rfl
  next missing =>
    have absent := addr_absent_of_findIdx missing
    split_ifs with room
    · refine ⟨by simp only [List.length_append, List.length_singleton]; omega, ?_⟩
      rw [List.map_append, List.nodup_append]
      refine ⟨wf.nodup, List.nodup_singleton _, ?_⟩
      intro address old other new same
      simp only [List.map_cons, List.map_nil, List.mem_singleton] at new
      rw [same, new] at old
      exact absent old
    · split
      · exact wf
      · dsimp only
        split_ifs
        · refine ⟨by rw [List.length_set]; exact wf.length_le, ?_⟩
          rw [List.map_set]
          exact wf.nodup.set absent
        · exact wf

/-- What the table holds after tags of distinct addresses were offered to it: only tags offered, all of
them while there is room, and every tag left out no stronger than any tag kept. -/
structure KeepsStrongest (offered table : List TagScanResult) : Prop where
  subset : ∀ item ∈ table, item ∈ offered
  length_eq : table.length = min offered.length tagResultMaxNum
  all_kept : table.length < tagResultMaxNum → ∀ item ∈ offered, item ∈ table
  weaker : ∀ left ∈ offered, left ∉ table → ∀ kept ∈ table, left.rssi ≤ kept.rssi

section Strongest

variable {offered table : List TagScanResult} {result : TagScanResult}

theorem KeepsStrongest.nil : KeepsStrongest [] [] :=
  ⟨fun _ member => member, rfl, fun _ _ member => member, fun _ member => nomatch member⟩

theorem KeepsStrongest.append (keeps : KeepsStrongest offered table) (room : table.length < tagResultMaxNum) :
    KeepsStrongest (offered ++ [result]) (table ++ [result]) := by
  have length := keeps.length_eq
  have all := keeps.all_kept room
  refine ⟨?_, ?_, ?_, ?_⟩
  · intro item member
    rcases List.mem_append.mp member with old | new
    · exact List.mem_append_left _ (keeps.subset item old)
    · exact List.mem_append_right _ new
  · simp only [List.length_append, List.length_singleton]
    omega
  · intro _ item member
    rcases List.mem_append.mp member with old | new
    · exact List.mem_append_left _ (all item old)
    · exact List.mem_append_right _ new
  · -- with room left nothing was ever left out
    intro left member outside
    rcases List.mem_append.mp member with old | new
    · exact absurd (List.mem_append_left _ (all left old)) outside
    · exact absurd (List.mem_append_right _ new) outside

theorem KeepsStrongest.drop (keeps : KeepsStrongest offered table) (full : ¬table.length < tagResultMaxNum)
    (weakest : ∀ kept ∈ table, result.rssi ≤ kept.rssi) : KeepsStrongest (offered ++ [result]) table := by
  have length := keeps.length_eq
  refine ⟨fun item member => List.mem_append_left _ (keeps.subset item member), ?_, fun room => absurd room full, ?_⟩
  · simp only [List.length_append, List.length_singleton]
    omega
  · intro left member outside kept stays
    rcases List.mem_append.mp member with old | new
    · exact keeps.weaker left old outside kept stays
    · rw [List.mem_singleton.mp new]
      exact weakest kept stays

theorem KeepsStrongest.replace (keeps : KeepsStrongest offered table) (full : ¬table.length < tagResultMaxNum)
    {i : Nat} (inside : i < table.length) (least : ∀ kept ∈ table, table[i].rssi ≤ kept.rssi)
    (stronger : table[i].rssi < result.rssi) : KeepsStrongest (offered ++ [result]) (table.set i result) := by
  have length := keeps.length_eq
  refine ⟨?_, ?_, ?_, ?_⟩
  · intro item member
    rcases List.mem_or_eq_of_mem_set member with old | rfl
    · exact List.mem_append_left _ (keeps.subset item old)
    · exact List.mem_append_right _ (List.mem_singleton_self _)
  · simp only [List.length_set, List.length_append, List.length_singleton]
    omega
  · intro room
    rw [List.length_set] at room
    exact absurd room full
  · -- what is left out now is the weakest tag, or was left out before and is no stronger than it
    have above : ∀ kept ∈ table.set i result, table[i].rssi ≤ kept.rssi := by
      intro kept stays
      rcases List.mem_or_eq_of_mem_set stays with old | rfl
      · exact least kept old
      · exact le_of_lt stronger
    intro left member outside kept stays
    rcases List.mem_append.mp member with old | new
    · by_cases held : left ∈ table
      · have replaced : left = table[i] := by
          by_contra other
          exact outside (mem_set_of_ne inside held other)
        rw [replaced]
        exact above kept stays
      · exact (keeps.weaker left old held _ (List.getElem_mem inside)).trans (above kept stays)
    · rw [List.mem_singleton.mp new] at outside
      exact absurd (mem_set_self inside) outside

theorem KeepsStrongest.save (keeps : KeepsStrongest offered table) (fresh : result.addr ∉ offered.map (·.addr)) :
    KeepsStrongest (offered ++ [result]) (tagScanResultSave table result) := by
  have absent : result.addr ∉ table.map (·.addr) := by
    intro present
    obtain ⟨item, member, same⟩ := List.mem_map.mp present
    exact fresh (List.mem_map.mpr ⟨item, keeps.subset item member, same⟩)
  unfold tagScanResultSave
  rw [findIdx_addr_of_absent absent]
  dsimp only
  split_ifs with room
  · exact keeps.append room
  · rcases table with _ | ⟨first, rest⟩
    · exact absurd (by decide) room
    · obtain ⟨inside, least⟩ := leastIndex_spec TagScanResult.rssi first rest
      dsimp only
      rw [List.getD_eq_getElem?_getD, List.getElem?_eq_getElem inside, Option.getD_some]
      split_ifs with stronger
      · exact keeps.replace room inside least stronger
      · exact keeps.drop room fun kept stays => (le_of_not_gt stronger).trans (least kept stays)

end Strongest

/-- Over any run of scan responses from distinct devices, the result table keeps the strongest: it holds
TAG_RESULT_MAX_NUM of the tags (all of them when there are fewer), and no tag left out is stronger than a tag
kept. -/
theorem tagScanResultSave_keeps_strongest (results : List TagScanResult) (distinct : (results.map (·.addr)).Nodup) :
    KeepsStrongest results (results.foldl tagScanResultSave []) := by
  -- the run from any point: the tags offered so far and the table they left
  have run : ∀ (rest offered table : List TagScanResult), KeepsStrongest offered table →
      ((offered ++ rest).map (·.addr)).Nodup → KeepsStrongest (offered ++ rest) (rest.foldl tagScanResultSave table) := by
    intro rest
    induction rest with
    | nil =>
      intro offered table keeps _
      rw [List.append_nil]
      exact keeps
    | cons result rest ih =>
      intro offered table keeps nodup
      have fresh : result.addr ∉ offered.map (·.addr) := by
        rw [List.map_append, List.map_cons, List.nodup_append] at nodup
        exact fun present => nodup.2.2 _ present _ List.mem_cons_self rfl
      rw [List.foldl_cons, ← List.singleton_append, ← List.append_assoc]
      exact ih _ _ (keeps.save fresh) (by rw [List.append_assoc, List.singleton_append]; exact nodup)
  exact run results [] [] KeepsStrongest.nil distinct

theorem tagScanResultSave_keeps_strongest_two :
    KeepsStrongest [⟨zeroAddr, -70, [0x50, 0x45, 0x54], [], [], 0⟩, ⟨⟨0, Vector.replicate 6 1⟩, -40, [0x50, 0x42, 0x37], [], [], 0⟩]
      ([⟨zeroAddr, -70, [0x50, 0x45, 0x54], [], [], 0⟩, ⟨⟨0, Vector.replicate 6 1⟩, -40, [0x50, 0x42, 0x37], [], [], 0⟩].foldl
        tagScanResultSave []) :=
  tagScanResultSave_keeps_strongest
    [⟨zeroAddr, -70, [0x50, 0x45, 0x54], [], [], 0⟩, ⟨⟨0, Vector.replicate 6 1⟩, -40, [0x50, 0x42, 0x37], [], [], 0⟩]
    (by decide)

/-! ## The ADV cache -/

/-- adv_cache_item_t, ff_data as its ff_data_len bytes. -/
structure AdvCacheItem where
  addr : BtAddrLe
  ffData : List UInt8
  valid : Bool
  seqNum : UInt32
deriving DecidableEq, Repr

def zeroAdvCacheItem : AdvCacheItem := ⟨zeroAddr, [], false, 0⟩

/-- s_adv_cache_table with s_cache_seq_counter. -/
structure AdvCache where
  items : List AdvCacheItem
  seqCounter : UInt32
deriving DecidableEq, Repr

def AdvCache.empty : AdvCache := ⟨List.replicate advCacheMaxNum zeroAdvCacheItem, 0⟩

def AdvCache.find (cache : AdvCache) (addr : BtAddrLe) : Option Nat :=
  cache.items.findIdx? fun item => item.valid && item.addr == addr

def advCacheStore (cache : AdvCache) (addr : BtAddrLe) (ffData : List UInt8) : AdvCache :=
  let entry : AdvCacheItem := ⟨addr, ffData, true, cache.seqCounter⟩
  match cache.find addr with
  | some i =>
    ⟨cache.items.modify i fun item => { item with ffData := ffData, seqNum := cache.seqCounter }, cache.seqCounter + 1⟩
  | none =>
    match cache.items.findIdx? fun item => !item.valid with
    | some i => ⟨cache.items.set i entry, cache.seqCounter + 1⟩
    | none =>
      match cache.items with
      | [] => cache
      -- seq_num < min_seq compares the two uint32_t values
      | first :: rest =>
        ⟨cache.items.set (leastIndex (fun item => item.seqNum.toNat) first rest) entry, cache.seqCounter + 1⟩

def advCacheRelease (cache : AdvCache) (addr : BtAddrLe) : AdvCache :=
  match cache.find addr with
  | some i => { cache with items := cache.items.modify i fun item => { item with valid := false } }
  | none => cache

def AdvCache.lookup (cache : AdvCache) (addr : BtAddrLe) : Option (List UInt8) :=
  (cache.find addr).map fun i => (cache.items.getD i zeroAdvCacheItem).ffData

/-- The cache: its ten slots, and no address in two valid slots. -/
structure AdvCache.Wf (cache : AdvCache) : Prop where
  length_eq : cache.items.length = advCacheMaxNum
  addr_inj : ∀ i j (hi : i < cache.items.length) (hj : j < cache.items.length),
    cache.items[i].valid → cache.items[j].valid → cache.items[i].addr = cache.items[j].addr → i = j

section Cache

variable {cache : AdvCache} {addr : BtAddrLe} {i : Nat}

theorem AdvCache.wf_empty : AdvCache.empty.Wf :=
  ⟨by simp [AdvCache.empty], fun i _ _ _ valid => by simp [AdvCache.empty, zeroAdvCacheItem] at valid⟩

theorem AdvCache.find_spec (found : cache.find addr = some i) :
    ∃ inside : i < cache.items.length, cache.items[i].valid ∧ cache.items[i].addr = addr := by
  obtain ⟨inside, holds, _⟩ := List.findIdx?_eq_some_iff_getElem.mp found
  simp only [Bool.and_eq_true, beq_iff_eq] at holds
  exact ⟨inside, holds⟩

theorem AdvCache.find_none (missing : cache.find addr = none) :
    ∀ k (inside : k < cache.items.length), cache.items[k].valid → cache.items[k].addr ≠ addr := by
  intro k inside valid same
  have differ := List.findIdx?_eq_none_iff.mp missing _ (List.getElem_mem inside)
  simp [valid, same] at differ

theorem AdvCache.Wf.find_eq (wf : cache.Wf) (inside : i < cache.items.length) (valid : cache.items[i].valid)
    (same : cache.items[i].addr = addr) : cache.find addr = some i := by
  apply List.findIdx?_eq_some_iff_getElem.mpr
  refine ⟨inside, by simp [valid, same], ?_⟩
  intro j before holds
  simp only [Bool.and_eq_true, beq_iff_eq] at holds
  have equal := wf.addr_inj j i (by omega) inside holds.1 valid (holds.2.trans same.symm)
  omega

theorem AdvCache.Wf.set_fresh (wf : cache.Wf) (fresh : ∀ k (inside : k < cache.items.length),
    cache.items[k].valid → cache.items[k].addr ≠ addr) {j : Nat} (ffData : List UInt8) (seqNum counter : UInt32) :
    (⟨cache.items.set j ⟨addr, ffData, true, seqNum⟩, counter⟩ : AdvCache).Wf := by
  refine ⟨by rw [List.length_set]; exact wf.length_eq, ?_⟩
  intro k l hk hl validK validL same
  simp only [List.length_set] at hk hl
  simp only [List.getElem_set] at validK validL same
  -- the new entry's address is in no other valid slot
  split_ifs at validK validL same with atK atL atL
  · omega
  · exact absurd same.symm (fresh l hl validL)
  · exact absurd same (fresh k hk validK)
  · exact wf.addr_inj k l hk hl validK validL same

/-- An entry changed in its data and number only keeps the cache well formed. -/
theorem AdvCache.Wf.modify_keeps (wf : cache.Wf) (f : AdvCacheItem → AdvCacheItem)
    (keeps : ∀ item, (f item).valid = item.valid ∧ (f item).addr = item.addr) (counter : UInt32) :
    (⟨cache.items.modify i f, counter⟩ : AdvCache).Wf := by
  have kept : ∀ k (hk : k < (cache.items.modify i f).length) (inside : k < cache.items.length),
      (cache.items.modify i f)[k].valid = cache.items[k].valid ∧
        (cache.items.modify i f)[k].addr = cache.items[k].addr := by
    intro k hk inside
    rw [List.getElem_modify]
    split_ifs
    · exact keeps _
    · exact ⟨rfl, rfl⟩
  refine ⟨by rw [List.length_modify]; exact wf.length_eq, ?_⟩
  intro k l hk hl validK validL same
  dsimp only at hk hl validK validL same
  have insideK : k < cache.items.length := by simpa using hk
  have insideL : l < cache.items.length := by simpa using hl
  rw [(kept k hk insideK).1] at validK
  rw [(kept l hl insideL).1] at validL
  rw [(kept k hk insideK).2, (kept l hl insideL).2] at same
  exact wf.addr_inj k l insideK insideL validK validL same

theorem AdvCache.Wf.store (wf : cache.Wf) (ffData : List UInt8) : (advCacheStore cache addr ffData).Wf := by
  unfold advCacheStore
  dsimp only
  split
  next i found =>
    apply wf.modify_keeps
    intro item
    exact ⟨rfl, rfl⟩
  next missing =>
    split
    · exact wf.set_fresh (AdvCache.find_none missing) _ _ _
    · split
      · exact wf
      · exact wf.set_fresh (AdvCache.find_none missing) _ _ _

theorem AdvCache.Wf.store_slot (wf : cache.Wf) (ffData : List UInt8) :
    ∃ j, ∃ inside : j < (advCacheStore cache addr ffData).items.length,
      (advCacheStore cache addr ffData).items[j].valid ∧ (advCacheStore cache addr ffData).items[j].addr = addr ∧
        (advCacheStore cache addr ffData).items[j].ffData = ffData := by
  unfold advCacheStore
  dsimp only
  split
  next i found =>
    obtain ⟨inside, valid, same⟩ := AdvCache.find_spec found
    exact ⟨i, by rw [List.length_modify]; exact inside, by simp [valid], by simp [same], by simp⟩
  next missing =>
    split
    next j free =>
      obtain ⟨inside, _, _⟩ := List.findIdx?_eq_some_iff_getElem.mp free
      exact ⟨j, by rw [List.length_set]; exact inside, by simp, by simp, by simp⟩
    next =>
      split
      next empty =>
        have length := wf.length_eq
        rw [empty] at length
        cases length
      next first rest whole =>
        obtain ⟨inside, _⟩ := leastIndex_spec (fun item : AdvCacheItem => item.seqNum.toNat) first rest
        rw [← whole] at inside
        exact ⟨_, by rw [List.length_set]; exact inside, by simp, by simp, by simp⟩

theorem AdvCache.Wf.lookup_store (wf : cache.Wf) (ffData : List UInt8) :
    (advCacheStore cache addr ffData).lookup addr = some ffData := by
  obtain ⟨j, inside, valid, same, data⟩ := @AdvCache.Wf.store_slot cache addr wf ffData
  rw [AdvCache.lookup, (wf.store ffData).find_eq inside valid same, Option.map_some, List.getD_eq_getElem?_getD,
    List.getElem?_eq_getElem inside, Option.getD_some, data]

theorem AdvCache.Wf.release (wf : cache.Wf) (addr : BtAddrLe) : (advCacheRelease cache addr).Wf := by
  unfold advCacheRelease
  split
  next i found =>
    refine ⟨by rw [List.length_modify]; exact wf.length_eq, ?_⟩
    intro k l hk hl validK validL same
    simp only [List.length_modify] at hk hl
    -- the released slot is not valid any more; the others are as they were
    by_cases atK : i = k
    · simp [atK] at validK
    by_cases atL : i = l
    · simp [atL] at validL
    simp only [List.getElem_modify, if_neg atK, if_neg atL] at validK validL same
    exact wf.addr_inj k l hk hl validK validL same
  next => exact wf

theorem AdvCache.Wf.lookup_release (wf : cache.Wf) (addr : BtAddrLe) : (advCacheRelease cache addr).lookup addr = none := by
  unfold advCacheRelease
  split
  next i found =>
    obtain ⟨inside, valid, same⟩ := AdvCache.find_spec found
    rw [AdvCache.lookup, Option.map_eq_none_iff, AdvCache.find, List.findIdx?_eq_none_iff]
    intro item member
    obtain ⟨k, hk, rfl⟩ := List.mem_iff_getElem.mp member
    simp only [List.length_modify] at hk
    simp only [List.getElem_modify, Bool.and_eq_false_iff, beq_eq_false_iff_ne]
    -- the released slot is no longer valid; any other valid slot holds another address
    split_ifs with here
    · exact .inl rfl
    · by_cases validK : cache.items[k].valid
      · exact .inr fun sameK => here (wf.addr_inj i k inside hk valid validK (same.trans sameK.symm))
      · exact .inl (by simpa using validK)
  next missing =>
    rw [AdvCache.lookup, missing, Option.map_none]

end Cache

/-! ## The transparent MACs -/

def myTranMacCheck (macs : List BtAddrLe) (addr : BtAddrLe) : Bool := macs.any fun mac => mac == addr

def myTranMacAdd (macs : List BtAddrLe) (addr : BtAddrLe) : Int × List BtAddrLe :=
  if macs.length ≥ tranMacMaxNum then (-enomem, macs)
  else if myTranMacCheck macs addr then (-eexist, macs)
  else (0, macs ++ [addr])

def myTranMacDel (macs : List BtAddrLe) (addr : BtAddrLe) : Int × List BtAddrLe :=
  match macs.findIdx? fun mac => mac == addr with
  | some i => (0, macs.eraseIdx i)
  | none => (-enoent, macs)

def myTranMacDelAll : List BtAddrLe := []

/-- tran_mac_result_item_t and tran_mac_process_msg_t, adv_data as its adv_data_len bytes. -/
structure TranMacResultItem where
  addr : BtAddrLe
  advData : List UInt8
deriving DecidableEq, Repr

def tranMacDataHandle (items : List TranMacResultItem) (msg : TranMacResultItem) : List TranMacResultItem :=
  if msg.advData.length = 0 then items
  else match items.findIdx? fun item => item.addr == msg.addr with
    | some i => items.modify i fun item => { item with advData := msg.advData }
    | none => if items.length < tranMacMaxNum then items ++ [msg] else items

/-- The MAC list of the configuration: at most TRAN_MAC_MAX_NUM addresses, none twice. -/
structure MacListWf (macs : List BtAddrLe) : Prop where
  length_le : macs.length ≤ tranMacMaxNum
  nodup : macs.Nodup

section Macs

variable {macs : List BtAddrLe} {addr : BtAddrLe}

@[simp] theorem myTranMacCheck_iff : myTranMacCheck macs addr = true ↔ addr ∈ macs := by
  unfold myTranMacCheck
  rw [List.any_eq_true]
  simp only [beq_iff_eq]
  exact ⟨fun ⟨mac, member, same⟩ => same ▸ member, fun member => ⟨addr, member, rfl⟩⟩

theorem MacListWf.add (wf : MacListWf macs) (addr : BtAddrLe) : MacListWf (myTranMacAdd macs addr).2 := by
  unfold myTranMacAdd
  split_ifs with full present
  · exact wf
  · exact wf
  · rw [myTranMacCheck_iff] at present
    exact ⟨by simp only [List.length_append, List.length_singleton]; omega,
      List.nodup_append.mpr ⟨wf.nodup, List.nodup_singleton _, fun _ old _ new same =>
        present (by rw [List.mem_singleton.mp new] at same; exact same ▸ old)⟩⟩

theorem MacListWf.del (wf : MacListWf macs) (addr : BtAddrLe) : MacListWf (myTranMacDel macs addr).2 := by
  unfold myTranMacDel
  split
  · exact ⟨(List.length_eraseIdx_le _ _).trans wf.length_le, wf.nodup.eraseIdx _⟩
  · exact wf

end Macs

/-- The table of advertisements from listed MACs: at most TRAN_MAC_MAX_NUM entries, one per address. -/
structure TranMacTableWf (items : List TranMacResultItem) : Prop where
  length_le : items.length ≤ tranMacMaxNum
  nodup : (items.map (·.addr)).Nodup

section TranMac

variable {items : List TranMacResultItem} {msg : TranMacResultItem}

theorem TranMacTableWf.handle (wf : TranMacTableWf items) (msg : TranMacResultItem) :
    TranMacTableWf (tranMacDataHandle items msg) := by
  unfold tranMacDataHandle
  by_cases empty : msg.advData.length = 0
  · rw [if_pos empty]
    exact wf
  · rw [if_neg empty]
    split
    next i found =>
      refine ⟨by rw [List.length_modify]; exact wf.length_le, ?_⟩
      rw [map_modify_of_keeps (fun item : TranMacResultItem => item.addr)]
      · exact wf.nodup
      · intro item
        rfl
    next missing =>
      split_ifs with room
      · refine ⟨by simp only [List.length_append, List.length_singleton]; omega, ?_⟩
        rw [List.map_append, List.nodup_append]
        refine ⟨wf.nodup, List.nodup_singleton _, ?_⟩
        intro address old other new same
        simp only [List.map_cons, List.map_nil, List.mem_singleton] at new
        obtain ⟨item, member, rfl⟩ := List.mem_map.mp old
        have differ := List.findIdx?_eq_none_iff.mp missing item member
        simp only [beq_eq_false_iff_ne] at differ
        exact differ (same.trans new)
      · exact wf

/-- While the table holds advertisements of listed MACs only, an advertisement of a listed MAC always finds
its place: the table then holds it as the latest of its address. The list has room for at most as many
addresses as the table. -/
theorem TranMacTableWf.handle_keeps (wf : TranMacTableWf items) {macs : List BtAddrLe} (listWf : MacListWf macs)
    (listed : ∀ item ∈ items, item.addr ∈ macs) (member : msg.addr ∈ macs) (nonempty : msg.advData ≠ []) :
    ∃ item ∈ tranMacDataHandle items msg, item = msg := by
  unfold tranMacDataHandle
  rw [if_neg (by simpa using nonempty)]
  split
  next i found =>
    obtain ⟨inside, holds, _⟩ := List.findIdx?_eq_some_iff_getElem.mp found
    simp only [beq_iff_eq] at holds
    have modified : i < (items.modify i fun item => { item with advData := msg.advData }).length := by
      simpa using inside
    refine ⟨(items.modify i fun item => { item with advData := msg.advData })[i], List.getElem_mem _, ?_⟩
    rw [List.getElem_modify, if_pos rfl, holds]
  next missing =>
    -- the table's addresses are listed and distinct, and msg's is listed but not among them
    have absent : msg.addr ∉ items.map (·.addr) := by
      intro present
      obtain ⟨item, old, same⟩ := List.mem_map.mp present
      have differ := List.findIdx?_eq_none_iff.mp missing item old
      simp [same] at differ
    have within : items.map (·.addr) ⊆ macs.erase msg.addr := by
      intro address present
      obtain ⟨item, old, rfl⟩ := List.mem_map.mp present
      exact (List.mem_erase_of_ne (fun same => absent (by rw [← same]; exact List.mem_map_of_mem old))).mpr
        (listed item old)
    have fewer := wf.nodup.length_le_of_subset within
    rw [List.length_map, List.length_erase_of_mem member] at fewer
    have short := listWf.length_le
    rw [if_pos (show items.length < tranMacMaxNum by unfold tranMacMaxNum at short ⊢; omega)]
    exact ⟨msg, List.mem_append_right _ (List.mem_singleton_self _), rfl⟩

theorem TranMacTableWf.handle_keeps_first :
    ∃ item ∈ tranMacDataHandle [] ⟨zeroAddr, [0x02, 0x01, 0x06]⟩, item = ⟨zeroAddr, [0x02, 0x01, 0x06]⟩ :=
  @TranMacTableWf.handle_keeps [] ⟨zeroAddr, [0x02, 0x01, 0x06]⟩ ⟨by decide, List.nodup_nil⟩ [zeroAddr]
    ⟨by decide, by decide⟩ (fun _ member => nomatch member) (by decide) (by decide)

end TranMac

/-! ## tag_scan_data_handle -/

def btGapAdvTypeAdvInd : UInt8 := 0x00
def btGapAdvTypeScanRsp : UInt8 := 0x04

/-- tag_scan_process_msg_t. -/
structure TagScanProcessMsg where
  advType : UInt8
  result : TagScanResult
deriving DecidableEq, Repr

/-- What tag_scan_data_handle works on. -/
structure ScanTables where
  prefixes : List TagPrefixItem
  cache : AdvCache
  results : List TagScanResult
deriving DecidableEq, Repr

/-- tag_scan_data_handle: an advertisement's FF data goes into the cache; a scan response whose name passes
the filter takes the cached FF data of its address and is saved, one that does not frees the cache entry. -/
def tagScanDataHandle (tables : ScanTables) (msg : TagScanProcessMsg) : ScanTables :=
  if msg.advType = btGapAdvTypeAdvInd then
    { tables with cache := advCacheStore tables.cache msg.result.addr msg.result.ffData }
  else if !tagNameMatch tables.prefixes msg.result.name msg.result.name.length then
    { tables with cache := advCacheRelease tables.cache msg.result.addr }
  else
    let result := match tables.cache.find msg.result.addr with
      | some i => { msg.result with ffData := (tables.cache.items.getD i zeroAdvCacheItem).ffData }
      | none => msg.result
    { tables with cache := advCacheRelease tables.cache msg.result.addr,
                  results := tagScanResultSave tables.results result }

theorem tagScanDataHandle_results_of_match {tables : ScanTables} {msg : TagScanProcessMsg}
    (response : msg.advType ≠ btGapAdvTypeAdvInd)
    (matched : tagNameMatch tables.prefixes msg.result.name msg.result.name.length = true) :
    (tagScanDataHandle tables msg).results =
      tagScanResultSave tables.results
        (match tables.cache.lookup msg.result.addr with
          | some ffData => { msg.result with ffData := ffData }
          | none => msg.result) := by
  unfold tagScanDataHandle AdvCache.lookup
  rw [if_neg response, matched]
  dsimp only
  cases tables.cache.find msg.result.addr <;> rfl

/-- An advertisement and then the scan response of the same device, whose name passes the filter: the
result saved carries the advertisement's FF data, and the cache keeps nothing of the device. -/
theorem tagScanDataHandle_merges {tables : ScanTables} (wf : tables.cache.Wf) (adv rsp : TagScanResult)
    (same : rsp.addr = adv.addr) (matched : tagNameMatch tables.prefixes rsp.name rsp.name.length = true) :
    (tagScanDataHandle (tagScanDataHandle tables ⟨btGapAdvTypeAdvInd, adv⟩) ⟨btGapAdvTypeScanRsp, rsp⟩).results =
        tagScanResultSave tables.results { rsp with ffData := adv.ffData } ∧
      (tagScanDataHandle (tagScanDataHandle tables ⟨btGapAdvTypeAdvInd, adv⟩)
        ⟨btGapAdvTypeScanRsp, rsp⟩).cache.lookup rsp.addr = none := by
  have stored : tagScanDataHandle tables ⟨btGapAdvTypeAdvInd, adv⟩ =
      { tables with cache := advCacheStore tables.cache adv.addr adv.ffData } := by
    simp [tagScanDataHandle]
  have response : btGapAdvTypeScanRsp ≠ btGapAdvTypeAdvInd := by decide
  constructor
  · rw [tagScanDataHandle_results_of_match response (by rw [stored]; exact matched), stored]
    dsimp only
    rw [same, wf.lookup_store]
  · rw [stored]
    unfold tagScanDataHandle
    rw [if_neg response]
    dsimp only
    split_ifs
    · exact (wf.store adv.ffData).lookup_release rsp.addr
    · exact (wf.store adv.ffData).lookup_release rsp.addr

theorem tagScanDataHandle_merges_pet :
    (tagScanDataHandle (tagScanDataHandle ⟨tagPrefixTableInit, AdvCache.empty, []⟩
        ⟨btGapAdvTypeAdvInd, ⟨zeroAddr, -60, [], [0xaa], [], 0⟩⟩)
        ⟨btGapAdvTypeScanRsp, ⟨zeroAddr, -58, [0x50, 0x45, 0x54], [], [], 90⟩⟩).results =
        tagScanResultSave [] { (⟨zeroAddr, -58, [0x50, 0x45, 0x54], [], [], 90⟩ : TagScanResult) with ffData := [0xaa] } ∧
      (tagScanDataHandle (tagScanDataHandle ⟨tagPrefixTableInit, AdvCache.empty, []⟩
        ⟨btGapAdvTypeAdvInd, ⟨zeroAddr, -60, [], [0xaa], [], 0⟩⟩)
        ⟨btGapAdvTypeScanRsp, ⟨zeroAddr, -58, [0x50, 0x45, 0x54], [], [], 90⟩⟩).cache.lookup zeroAddr = none :=
  @tagScanDataHandle_merges ⟨tagPrefixTableInit, AdvCache.empty, []⟩ AdvCache.wf_empty
    ⟨zeroAddr, -60, [], [0xaa], [], 0⟩ ⟨zeroAddr, -58, [0x50, 0x45, 0x54], [], [], 90⟩ rfl (by decide)

end BleScan
