import NrfSdk.Dfu.Steps
import NrfSdk.Machine.Run

namespace Jimi

open Machine

/-! ## What a transfer should do

The requests, blocks and erased sectors of a transfer of `file`, stated without the device. -/

def requestSize (mtu fileSize addr : Nat) : Nat :=
  jimiDfuCalcPktSize mtu (fileSize - addr) (dfuBufferSize - addr % dfuBufferSize)

def chunkLength (mtu fileSize addr : Nat) : Nat := min (requestSize mtu fileSize addr) (fileSize - addr)

def blockCount (fileSize : Nat) : Nat := (fileSize + dfuBufferSize - 1) / dfuBufferSize

def imageBlock (file : List UInt8) (k : Nat) : List UInt8 :=
  let bytes := (file.drop (k * dfuBufferSize)).take dfuBufferSize
  bytes ++ List.replicate (dfuBufferSize - bytes.length) 0xFF

def imageBlocks (file : List UInt8) (count : Nat) : List (Nat × List UInt8) :=
  (List.range count).map fun k => (k * dfuBufferSize, imageBlock file k)

def cachedBytes (file : List UInt8) (blockAddr offset : Nat) : List UInt8 :=
  (file.drop blockAddr).take offset ++ List.replicate (dfuBufferSize - offset) 0xFF

def InsideErased (erased : List Nat) (write : Nat × List UInt8) : Prop :=
  ∃ sector ∈ erased, sector ≤ write.1 ∧ write.1 + write.2.length ≤ sector + flashSectorSize

/-- The image requests sent so far: from address 0 on, each repeats the one before (a retry) or asks for
the fragment that follows it; the last is for `current`, and each is sized by the cache at its address. -/
structure RequestLog (mtu fileSize current : Nat) (log : List (Nat × Nat)) : Prop where
  first : (log.map Prod.fst).head? = some 0
  contiguous : (log.map Prod.fst).IsChain fun a b => b = a ∨ b = a + chunkLength mtu fileSize a
  last : log.getLast? = some (current, requestSize mtu fileSize current)
  sized : ∀ request ∈ log, request.2 = requestSize mtu fileSize request.1
  upTo : ∀ request ∈ log, request.1 ≤ current

/-! ## Packet sizes along a transfer -/

section Chunks

variable {mtu fileSize addr : Nat}

theorem chunkLength_cases (mtu : Nat) (aligned : addr % 128 = 0) (below : addr < fileSize) :
    addr % dfuBufferSize + chunkLength mtu fileSize addr ≤ dfuBufferSize ∧ 0 < chunkLength mtu fileSize addr ∧
      (addr + chunkLength mtu fileSize addr = fileSize ∨
        addr + chunkLength mtu fileSize addr < fileSize ∧ chunkLength mtu fileSize addr % 128 = 0) := by
  obtain ⟨fits, rest⟩ := jimiDfuCalcPktSize_fits mtu (fileSize - addr) (dfuBufferSize - addr % dfuBufferSize)
    (by simp only [dfuBufferSize]; omega) (by simp only [dfuBufferSize]; omega) (by simp only [dfuBufferSize]; omega)
  have bounded : addr % dfuBufferSize < dfuBufferSize := Nat.mod_lt _ (by simp [dfuBufferSize])
  unfold chunkLength requestSize
  rcases rest with covers | units
  · rw [Nat.min_eq_right covers]
    omega
  · by_cases ends : fileSize - addr ≤ jimiDfuCalcPktSize mtu (fileSize - addr) (dfuBufferSize - addr % dfuBufferSize)
    · rw [Nat.min_eq_right ends]
      omega
    · rw [Nat.min_eq_left (by omega)]
      omega

theorem length_requestFragment (file : List UInt8) (addr : Nat) :
    (requestFragment file (addr, requestSize mtu file.length addr)).length = chunkLength mtu file.length addr := by
  simp [requestFragment, chunkLength]

theorem requestFragment_chunk (file : List UInt8) (addr : Nat) :
    requestFragment file (addr, requestSize mtu file.length addr) =
      requestFragment file (addr, chunkLength mtu file.length addr) := by
  simp only [requestFragment, chunkLength]
  rw [List.take_eq_take_min, List.length_drop]

end Chunks

/-! ## The cache and the blocks -/

section Blocks

variable {file : List UInt8}

theorem length_cachedBytes {blockAddr offset : Nat} (inFile : blockAddr + offset ≤ file.length)
    (fits : offset ≤ dfuBufferSize) : (cachedBytes file blockAddr offset).length = dfuBufferSize := by
  simp only [cachedBytes, List.length_append, List.length_take, List.length_drop, List.length_replicate]
  omega

theorem cachedBytes_split (file : List UInt8) {blockAddr offset : Nat} (more : Nat) (inFile : blockAddr + offset ≤ file.length) :
    (cachedBytes file blockAddr offset).take offset = (file.drop blockAddr).take offset ∧
      (cachedBytes file blockAddr offset).drop (offset + more) =
        List.replicate (dfuBufferSize - offset - more) 0xFF := by
  have prefixLength : ((file.drop blockAddr).take offset).length = offset := by
    simp only [List.length_take, List.length_drop]
    omega
  constructor
  · exact List.take_left' prefixLength
  · rw [cachedBytes, List.drop_append, prefixLength, List.drop_eq_nil_of_le (by omega), List.nil_append,
      List.drop_replicate, Nat.add_sub_cancel_left, Nat.sub_sub]

theorem storeBytes_cachedBytes {blockAddr offset length : Nat}
    (inFile : blockAddr + offset + length ≤ file.length) (fits : offset + length ≤ dfuBufferSize) :
    storeBytes (cachedBytes file blockAddr offset) offset (requestFragment file (blockAddr + offset, length)) =
      cachedBytes file blockAddr (offset + length) := by
  have fragmentLength : (requestFragment file (blockAddr + offset, length)).length = length := by
    simp only [requestFragment, List.length_take, List.length_drop]
    omega
  obtain ⟨before, after⟩ := cachedBytes_split file length (by omega : blockAddr + offset ≤ file.length)
  rw [storeBytes_eq_append (by rw [fragmentLength, length_cachedBytes (by omega) (by omega)]; omega),
    fragmentLength, before, after, cachedBytes, List.take_add, List.drop_drop, Nat.sub_sub]
  rfl

theorem padBuffer_cachedBytes (s : DfuState) {blockAddr : Nat} (inFile : blockAddr + s.bufOffset ≤ file.length)
    (fits : s.bufOffset ≤ dfuBufferSize) (cached : s.buffer = cachedBytes file blockAddr s.bufOffset) :
    padBuffer s = cachedBytes file blockAddr s.bufOffset := by
  unfold padBuffer
  split
  · obtain ⟨before, after⟩ := cachedBytes_split file (dfuBufferSize - s.bufOffset) inFile
    rw [storeBytes_eq_append (by rw [cached, length_cachedBytes inFile fits]; simp; omega), cached,
      List.length_replicate, before, after, Nat.sub_self, List.replicate_zero, List.append_nil]
    rfl
  · exact cached

theorem cachedBytes_eq_imageBlock {k offset : Nat} (fits : offset ≤ dfuBufferSize)
    (inFile : k * dfuBufferSize + offset ≤ file.length)
    (whole : offset = dfuBufferSize ∨ k * dfuBufferSize + offset = file.length) :
    cachedBytes file (k * dfuBufferSize) offset = imageBlock file k := by
  have same : (file.drop (k * dfuBufferSize)).take offset = (file.drop (k * dfuBufferSize)).take dfuBufferSize := by
    rcases whole with full | ends
    · rw [full]
    · rw [List.take_of_length_le (by simp; omega), List.take_of_length_le (by simp; omega)]
  have bytesLength : ((file.drop (k * dfuBufferSize)).take offset).length = offset := by
    simp only [List.length_take, List.length_drop]
    omega
  unfold cachedBytes imageBlock
  dsimp only
  rw [← same, bytesLength]

theorem length_imageBlock (k : Nat) : (imageBlock file k).length = dfuBufferSize := by
  simp only [imageBlock, List.length_append, List.length_replicate, List.length_take, List.length_drop]
  omega

theorem imageBlocks_succ (count : Nat) :
    imageBlocks file (count + 1) = imageBlocks file count ++ [(count * dfuBufferSize, imageBlock file count)] := by
  simp [imageBlocks, List.range_succ]

@[simp] theorem length_imageBlocks (count : Nat) : (imageBlocks file count).length = count := by
  simp [imageBlocks]

end Blocks

/-! ## The erased sectors -/

theorem jimiDfuFlashEraseLoop_eq (eraseAddr eraseSize : Nat) :
    jimiDfuFlashEraseLoop eraseAddr eraseSize =
      (List.range ((eraseSize + flashSectorSize - 1) / flashSectorSize)).map
        fun j => eraseAddr + j * flashSectorSize := by
  induction eraseSize using Nat.strong_induction_on generalizing eraseAddr with
  | _ eraseSize ih =>
    rw [jimiDfuFlashEraseLoop]
    by_cases empty : eraseSize = 0
    · subst empty
      rfl
    by_cases more : eraseSize > flashSectorSize
    · -- one sector, then the loop on the rest
      have sectors : (eraseSize + flashSectorSize - 1) / flashSectorSize =
          (eraseSize - flashSectorSize + flashSectorSize - 1) / flashSectorSize + 1 := by
        simp only [flashSectorSize] at more ⊢
        omega
      rw [if_neg empty, if_pos more, ih _ (by simp only [flashSectorSize] at more ⊢; omega), sectors,
        List.range_succ_eq_map, List.map_cons, List.map_map]
      congr 1
      apply List.map_congr_left
      intro j _
      simp only [Function.comp_apply, Nat.succ_eq_add_one]
      ring
    · have one : (eraseSize + flashSectorSize - 1) / flashSectorSize = 1 := by
        simp only [flashSectorSize] at more ⊢
        omega
      rw [if_neg empty, if_neg more, one]
      rfl

theorem mem_jimiDfuFlashEraseLoop {sector eraseSize : Nat} :
    sector ∈ jimiDfuFlashEraseLoop 0 eraseSize ↔
      ∃ j < (eraseSize + flashSectorSize - 1) / flashSectorSize, sector = j * flashSectorSize := by
  rw [jimiDfuFlashEraseLoop_eq]
  simp only [List.mem_map, List.mem_range, Nat.zero_add]
  constructor
  · rintro ⟨j, bound, rfl⟩
    exact ⟨j, bound, rfl⟩
  · rintro ⟨j, bound, rfl⟩
    exact ⟨j, bound, rfl⟩

theorem insideErased_imageBlocks (file : List UInt8) :
    ∀ write ∈ imageBlocks file (blockCount file.length),
      InsideErased (jimiDfuFlashEraseLoop 0 file.length) write := by
  intro write member
  obtain ⟨k, bound, rfl⟩ := List.mem_map.mp member
  rw [List.mem_range] at bound
  refine ⟨k / 4 * flashSectorSize, mem_jimiDfuFlashEraseLoop.mpr ⟨k / 4, ?_, rfl⟩, ?_, ?_⟩
  · simp only [blockCount, dfuBufferSize, flashSectorSize] at bound ⊢
    omega
  · simp only [dfuBufferSize, flashSectorSize]
    omega
  · simp only [length_imageBlock, dfuBufferSize, flashSectorSize]
    omega

theorem not_insideErased_of_end {fileSize : Nat} (boundary : fileSize % flashSectorSize = 0)
    {write : Nat × List UInt8} (past : fileSize ≤ write.1) (nonempty : 0 < write.2.length) :
    ¬InsideErased (jimiDfuFlashEraseLoop 0 fileSize) write := by
  rintro ⟨sector, member, -, inside⟩
  obtain ⟨j, bound, rfl⟩ := mem_jimiDfuFlashEraseLoop.mp member
  simp only [flashSectorSize] at bound boundary inside
  have ends : (j + 1) * 4096 ≤ fileSize := by omega
  omega

theorem foldl_flashEraseSector_blank {offset : Nat} (sectors : List Nat) {flash : Nat → UInt8}
    (blank : flash offset = 0xFF) : sectors.foldl flashEraseSector flash offset = 0xFF := by
  induction sectors generalizing flash with
  | nil => exact blank
  | cons sector sectors ih =>
    apply ih
    simp only [flashEraseSector]
    split_ifs
    · rfl
    · exact blank

theorem foldl_flashEraseSector_of_mem {sectors : List Nat} {sector offset : Nat} (member : sector ∈ sectors)
    (inSector : sector ≤ offset ∧ offset < sector + flashSectorSize) (flash : Nat → UInt8) :
    sectors.foldl flashEraseSector flash offset = 0xFF := by
  induction sectors generalizing flash with
  | nil => cases member
  | cons first sectors ih =>
    rw [List.foldl_cons]
    rcases List.mem_cons.mp member with rfl | later
    · exact foldl_flashEraseSector_blank sectors (by simp [flashEraseSector, inSector])
    · exact ih later _

theorem eraseLoop_blank (fileSize : Nat) (flash : Nat → UInt8) {offset : Nat}
    (inImage : offset < blockCount fileSize * dfuBufferSize) :
    (jimiDfuFlashEraseLoop 0 fileSize).foldl flashEraseSector flash offset = 0xFF := by
  refine foldl_flashEraseSector_of_mem (mem_jimiDfuFlashEraseLoop.mpr ⟨offset / flashSectorSize, ?_, rfl⟩) ?_ flash
  · simp only [blockCount, dfuBufferSize, flashSectorSize] at inImage ⊢
    omega
  · simp only [flashSectorSize]
    omega

/-! ## The log of image requests -/

@[simp] theorem imageRequests_nil : imageRequests [] = [] := rfl

@[simp] theorem imageRequests_append (sent more : List DfuResponse) :
    imageRequests (sent ++ more) = imageRequests sent ++ imageRequests more := List.filterMap_append

@[simp] theorem imageRequests_imageReq (addr length : Nat) :
    imageRequests [.imageReq addr length] = [(addr, length)] := rfl

@[simp] theorem imageRequests_fileEnd (code : Nat) : imageRequests [.fileEnd code] = [] := rfl

@[simp] theorem imageRequests_start : imageRequests [.start] = [] := rfl

section Log

variable {mtu fileSize current : Nat} {log : List (Nat × Nat)}

theorem RequestLog.start : RequestLog mtu fileSize 0 [(0, requestSize mtu fileSize 0)] where
  first := rfl
  contiguous := List.isChain_singleton _
  last := rfl
  sized := by simp
  upTo := by simp

theorem RequestLog.append (requests : RequestLog mtu fileSize current log) {next : Nat}
    (follows : next = current ∨ next = current + chunkLength mtu fileSize current) :
    RequestLog mtu fileSize next (log ++ [(next, requestSize mtu fileSize next)]) where
  first := by
    have nonempty : log ≠ [] := fun empty => by simp [empty] at requests; exact absurd requests.last (by simp)
    rw [List.map_append, List.head?_append_of_ne_nil _ (by simpa using nonempty)]
    exact requests.first
  contiguous := by
    rw [List.map_append, List.isChain_append]
    refine ⟨requests.contiguous, List.isChain_singleton _, ?_⟩
    intro a lastAddr b firstAddr
    rw [List.getLast?_map, requests.last] at lastAddr
    simp only [Option.map_some, Option.mem_def, Option.some.injEq] at lastAddr
    simp only [List.map_cons, List.map_nil, List.head?_cons, Option.mem_def, Option.some.injEq] at firstAddr
    subst lastAddr firstAddr
    exact follows
  last := by simp
  sized := by
    intro request member
    rcases List.mem_append.mp member with old | new
    · exact requests.sized request old
    · rw [List.mem_singleton.mp new]
  upTo := by
    intro request member
    rcases List.mem_append.mp member with old | new
    · have := requests.upTo request old
      omega
    · rw [List.mem_singleton.mp new]

end Log

end Jimi
