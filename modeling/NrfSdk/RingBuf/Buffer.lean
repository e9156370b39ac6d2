import NrfSdk.Machine.Word
import NrfSdk.Machine.RingView

/-!
The byte ring buffer of the LL311 application, my_ring_buf.c. One producer writes at `head`, one
consumer reads at `tail`, and one cell is kept free, so that `head = tail` means empty and the cell after
`head` being `tail` means full. For every size up to 2^31 the buffer implements the bounded FIFO
`Machine.fifoPut` / `Machine.fifoTake` of `size - 1` bytes; past that the uint32 sum in
my_rb_get_used_size can wrap.
-/

namespace RingBuf

open Machine

/-- ring_buffer_t, with the caller's array `buf` as the byte held in each cell. -/
structure RingBuffer where
  head : Nat
  tail : Nat
  buf : Nat → UInt8
  size : Nat

def myRbInit (rb : RingBuffer) (buf : Nat → UInt8) (size : Nat) : Int × RingBuffer :=
  if size < 2 then (-1, rb) else (0, ⟨0, 0, buf, size⟩)

def myRbClear (rb : RingBuffer) : RingBuffer := { rb with head := 0, tail := 0 }

def myRbWriteLoop (data : List UInt8) (len : Nat) (rb : RingBuffer) (written : Nat) : RingBuffer × Nat :=
  if written < len then
    let nextHead := u32 ((rb.head : Int) + 1) % rb.size
    if nextHead = rb.tail then (rb, written)
    else
      myRbWriteLoop data len
        { rb with buf := Function.update rb.buf rb.head (data.getD written 0), head := nextHead } (written + 1)
  else (rb, written)
termination_by len - written

def myRbWrite (rb : RingBuffer) (data : List UInt8) (len : Nat) : RingBuffer × Nat :=
  myRbWriteLoop data len rb 0

def myRbReadLoop (len : Nat) (rb : RingBuffer) (read : Nat) (data : List UInt8) :
    RingBuffer × Nat × List UInt8 :=
  if read < len then
    if rb.head = rb.tail then (rb, read, data)
    else
      let nextTail := u32 ((rb.tail : Int) + 1) % rb.size
      myRbReadLoop len { rb with tail := nextTail } (read + 1) (data ++ [rb.buf rb.tail])
  else (rb, read, data)
termination_by len - read

def myRbRead (rb : RingBuffer) (len : Nat) : RingBuffer × Nat × List UInt8 := myRbReadLoop len rb 0 []

/-- my_rb_get_used_size, in uint32_t: the sum wraps at 2^32 before the remainder is taken. -/
def myRbGetUsedSize (rb : RingBuffer) : Nat := u32 ((rb.head : Int) - rb.tail + rb.size) % rb.size

def myRbGetFreeSize (rb : RingBuffer) : Nat := u32 ((rb.size : Int) - 1 - myRbGetUsedSize rb)

/-! ### The FIFO a buffer holds -/

def RingBuffer.count (rb : RingBuffer) : Nat := ringDistance rb.tail rb.head rb.size

def RingBuffer.contents (rb : RingBuffer) : List UInt8 := ringView rb.buf rb.tail rb.count rb.size

/-- What every call keeps: a size that init accepts and for which the uint32 sum of
my_rb_get_used_size cannot wrap, and both indices inside the array. -/
structure RingBuffer.Valid (rb : RingBuffer) : Prop where
  sized : 2 ≤ rb.size
  small : rb.size ≤ 2 ^ 31
  headInside : rb.head < rb.size
  tailInside : rb.tail < rb.size

@[simp] theorem length_contents (rb : RingBuffer) : rb.contents.length = rb.count := by
  simp [RingBuffer.contents]

theorem u32_add_one_of_lt {n : Nat} (small : n + 1 < 2 ^ 32) : u32 ((n : Int) + 1) = n + 1 := by
  rw [show (n : Int) + 1 = ((n + 1 : Nat) : Int) by push_cast; rfl, u32, wrap_natCast_of_lt small]

section Valid

variable {rb : RingBuffer}

theorem RingBuffer.Valid.count_lt (valid : rb.Valid) : rb.count < rb.size :=
  ringDistance_lt (by have := valid.sized; omega)

theorem RingBuffer.Valid.head_eq (valid : rb.Valid) : (rb.tail + rb.count) % rb.size = rb.head :=
  add_ringDistance valid.tailInside valid.headInside

theorem myRbGetUsedSize_eq (valid : rb.Valid) : myRbGetUsedSize rb = rb.count := by
  have small := valid.small
  have head := valid.headInside
  have tail := valid.tailInside
  -- head - tail + size lies in [1, 2 * size), inside uint32 for a size up to 2^31
  have sum : u32 ((rb.head : Int) - rb.tail + rb.size) = rb.head + rb.size - rb.tail := by
    rw [u32, wrap_of_bounds (by omega) (by push_cast; omega)]
    omega
  rw [myRbGetUsedSize, sum]
  rfl

theorem myRbGetFreeSize_eq (valid : rb.Valid) : myRbGetFreeSize rb = rb.size - 1 - rb.count := by
  have below := valid.count_lt
  have small := valid.small
  rw [myRbGetFreeSize, myRbGetUsedSize_eq valid, u32, wrap_of_bounds (by omega) (by push_cast; omega)]
  omega

theorem RingBuffer.Valid.nextHead_eq (valid : rb.Valid) :
    u32 ((rb.head : Int) + 1) % rb.size = (rb.tail + (rb.count + 1)) % rb.size := by
  rw [u32_add_one_of_lt (by have := valid.headInside; have := valid.small; omega), ← valid.head_eq,
    Nat.mod_add_mod, Nat.add_assoc]

theorem nextHead_eq_tail_iff (valid : rb.Valid) :
    u32 ((rb.head : Int) + 1) % rb.size = rb.tail ↔ rb.count = rb.size - 1 := by
  have below := valid.count_lt
  have sized := valid.sized
  rw [valid.nextHead_eq]
  constructor
  · intro back
    by_contra notFull
    have apart := @add_mod_ne_of_lt rb.tail 0 (rb.count + 1) rb.size (by omega) (by omega)
    rw [Nat.add_zero, Nat.mod_eq_of_lt valid.tailInside] at apart
    exact apart back.symm
  · intro full
    rw [full, show rb.size - 1 + 1 = rb.size by omega, Nat.add_mod_right, Nat.mod_eq_of_lt valid.tailInside]

theorem head_eq_tail_iff (valid : rb.Valid) : rb.head = rb.tail ↔ rb.count = 0 := by
  constructor
  · intro same
    rw [RingBuffer.count, ringDistance, same, Nat.add_sub_cancel_left, Nat.mod_self]
  · intro empty
    rw [← valid.head_eq, empty, Nat.add_zero, Nat.mod_eq_of_lt valid.tailInside]

theorem write_round (valid : rb.Valid) (room : rb.count < rb.size - 1) (byte : UInt8) :
    ({ rb with buf := Function.update rb.buf rb.head byte, head := u32 ((rb.head : Int) + 1) % rb.size } :
        RingBuffer).Valid ∧
      ({ rb with buf := Function.update rb.buf rb.head byte, head := u32 ((rb.head : Int) + 1) % rb.size } :
        RingBuffer).count = rb.count + 1 ∧
      ({ rb with buf := Function.update rb.buf rb.head byte, head := u32 ((rb.head : Int) + 1) % rb.size } :
        RingBuffer).contents = rb.contents ++ [byte] := by
  have sized := valid.sized
  have nextHead := valid.nextHead_eq
  have counted : ringDistance rb.tail ((rb.tail + (rb.count + 1)) % rb.size) rb.size = rb.count + 1 :=
    ringDistance_add valid.tailInside (by omega)
  refine ⟨⟨sized, valid.small, Nat.mod_lt _ (by omega), valid.tailInside⟩, ?_, ?_⟩
  · show ringDistance rb.tail (u32 ((rb.head : Int) + 1) % rb.size) rb.size = rb.count + 1
    rw [nextHead, counted]
  · show ringView (Function.update rb.buf rb.head byte) rb.tail
      (ringDistance rb.tail (u32 ((rb.head : Int) + 1) % rb.size) rb.size) rb.size = rb.contents ++ [byte]
    rw [nextHead, counted]
    -- the byte goes into the cell just after the contents
    conv => lhs; rw [← valid.head_eq]
    rw [ringView_update_succ _ _ (by omega)]
    rfl

theorem read_round (valid : rb.Valid) (held : 0 < rb.count) :
    ({ rb with tail := u32 ((rb.tail : Int) + 1) % rb.size } : RingBuffer).Valid ∧
      ({ rb with tail := u32 ((rb.tail : Int) + 1) % rb.size } : RingBuffer).count = rb.count - 1 ∧
      rb.contents = rb.buf rb.tail :: ({ rb with tail := u32 ((rb.tail : Int) + 1) % rb.size } : RingBuffer).contents := by
  have sized := valid.sized
  have below := valid.count_lt
  have nextTail : u32 ((rb.tail : Int) + 1) % rb.size = (rb.tail + 1) % rb.size := by
    rw [u32_add_one_of_lt (by have := valid.tailInside; have := valid.small; omega)]
  have ahead : ((rb.tail + 1) % rb.size + (rb.count - 1)) % rb.size = rb.head := by
    rw [Nat.mod_add_mod, show rb.tail + 1 + (rb.count - 1) = rb.tail + rb.count by omega, valid.head_eq]
  have counted : ringDistance ((rb.tail + 1) % rb.size) rb.head rb.size = rb.count - 1 := by
    rw [← ahead, ringDistance_add (Nat.mod_lt _ (by omega)) (by omega)]
  refine ⟨⟨sized, valid.small, valid.headInside, Nat.mod_lt _ (by omega)⟩, ?_, ?_⟩
  · show ringDistance (u32 ((rb.tail : Int) + 1) % rb.size) rb.head rb.size = rb.count - 1
    rw [nextTail, counted]
  · show ringView rb.buf rb.tail rb.count rb.size = rb.buf rb.tail :: ringView rb.buf
      (u32 ((rb.tail : Int) + 1) % rb.size) (ringDistance (u32 ((rb.tail : Int) + 1) % rb.size) rb.head rb.size)
      rb.size
    rw [nextTail, counted]
    obtain ⟨rest, more⟩ : ∃ rest, rb.count = rest + 1 := ⟨rb.count - 1, by omega⟩
    rw [more, ringView_advance, Nat.mod_eq_of_lt valid.tailInside, Nat.add_sub_cancel]

end Valid

/-! ### The loops -/

section Loops

/-- The write loop from `written` on writes the next bytes of data, as many as are asked for and fit,
after the contents. -/
theorem myRbWriteLoop_spec (data : List UInt8) (len : Nat) (rb : RingBuffer) (written : Nat) (valid : rb.Valid) :
    (myRbWriteLoop data len rb written).1.Valid ∧ (myRbWriteLoop data len rb written).1.size = rb.size ∧
      (myRbWriteLoop data len rb written).2 = written + min (len - written) (rb.size - 1 - rb.count) ∧
      (myRbWriteLoop data len rb written).1.contents = rb.contents ++
        (List.range (min (len - written) (rb.size - 1 - rb.count))).map fun i => data.getD (written + i) 0 := by
  fun_induction myRbWriteLoop data len rb written with
  | case1 rb written going nextHead full =>
    have none : rb.size - 1 - rb.count = 0 := by
      rw [(nextHead_eq_tail_iff valid).mp full]
      omega
    simp only [none, Nat.min_zero, Nat.add_zero, List.range_zero, List.map_nil, List.append_nil, and_true]
    exact valid
  | case2 rb written going nextHead notFull ih =>
    simp only [nextHead] at notFull ih ⊢
    have below := valid.count_lt
    have room : rb.count < rb.size - 1 := by
      have := (nextHead_eq_tail_iff valid).not.mp notFull
      omega
    obtain ⟨valid', counted, appended⟩ := write_round valid room (data.getD written 0)
    obtain ⟨validFinal, sized, total, contents⟩ := ih valid'
    -- this round takes one byte of both what is asked for and the room
    have fewer : min (len - (written + 1)) (rb.size - 1 - (rb.count + 1)) + 1 =
        min (len - written) (rb.size - 1 - rb.count) := by
      omega
    refine ⟨validFinal, sized, ?_, ?_⟩
    · rw [total, counted]
      omega
    · rw [contents, appended, counted, List.append_assoc, ← fewer, List.range_succ_eq_map, List.map_cons,
        List.map_map, List.singleton_append, Nat.add_zero]
      congr 2
      apply List.map_congr_left
      intro i _
      simp only [Function.comp, show written + (i + 1) = written + 1 + i by omega]
  | case3 rb written done =>
    simp only [show len - written = 0 by omega, Nat.zero_min, Nat.add_zero, List.range_zero, List.map_nil,
      List.append_nil, and_true]
    exact valid

/-- The read loop from `read` on moves the front of the contents, as much as is asked for, into data. -/
theorem myRbReadLoop_spec (len : Nat) (rb : RingBuffer) (read : Nat) (data : List UInt8) (valid : rb.Valid) :
    (myRbReadLoop len rb read data).1.Valid ∧ (myRbReadLoop len rb read data).1.size = rb.size ∧
      (myRbReadLoop len rb read data).2.1 = read + min (len - read) rb.count ∧
      (myRbReadLoop len rb read data).2.2 = data ++ rb.contents.take (len - read) ∧
      (myRbReadLoop len rb read data).1.contents = rb.contents.drop (len - read) := by
  fun_induction myRbReadLoop len rb read data with
  | case1 rb read data going empty =>
    have none : rb.count = 0 := (head_eq_tail_iff valid).mp empty
    have nothing : rb.contents = [] := List.eq_nil_of_length_eq_zero (by rw [length_contents, none])
    simp only [none, nothing, Nat.min_zero, Nat.add_zero, List.take_nil, List.drop_nil, List.append_nil, and_true]
    exact valid
  | case2 rb read data going notEmpty nextTail ih =>
    simp only [nextTail] at ih ⊢
    have held : 0 < rb.count := by
      have := (head_eq_tail_iff valid).not.mp notEmpty
      omega
    obtain ⟨valid', counted, front⟩ := read_round valid held
    obtain ⟨validFinal, sized, total, bytes, rest⟩ := ih valid'
    -- this round takes one byte of what is asked for
    have asked : len - read = len - (read + 1) + 1 := by omega
    refine ⟨validFinal, sized, ?_, ?_, ?_⟩
    · rw [total, counted]
      omega
    · rw [bytes, front, asked, List.take_succ_cons, List.append_assoc, List.singleton_append]
    · rw [rest, front, asked, List.drop_succ_cons]
  | case3 rb read data done =>
    simp only [show len - read = 0 by omega, Nat.zero_min, Nat.add_zero, List.take_zero, List.drop_zero,
      List.append_nil, and_true]
    exact valid

end Loops

/-! ### The calls -/

section Calls

variable {rb : RingBuffer}

theorem myRbInit_valid (rb : RingBuffer) (buf : Nat → UInt8) {size : Nat} (sized : 2 ≤ size)
    (small : size ≤ 2 ^ 31) :
    (myRbInit rb buf size).1 = 0 ∧ (myRbInit rb buf size).2.Valid ∧ (myRbInit rb buf size).2.size = size ∧
      (myRbInit rb buf size).2.contents = [] := by
  have accepted : ¬size < 2 := by omega
  refine ⟨by simp [myRbInit, accepted], ?_, by simp [myRbInit, accepted], ?_⟩
  · simp only [myRbInit, accepted, if_false]
    exact ⟨sized, small, show 0 < size by omega, show 0 < size by omega⟩
  · simp [myRbInit, accepted, RingBuffer.contents, RingBuffer.count, ringDistance]

theorem myRbClear_valid (valid : rb.Valid) :
    (myRbClear rb).Valid ∧ (myRbClear rb).size = rb.size ∧ (myRbClear rb).contents = [] := by
  have sized := valid.sized
  refine ⟨⟨sized, valid.small, by simp [myRbClear]; omega, by simp [myRbClear]; omega⟩, rfl, ?_⟩
  simp [myRbClear, RingBuffer.contents, RingBuffer.count, ringDistance]

theorem myRbWrite_written (valid : rb.Valid) (data : List UInt8) (len : Nat) :
    (myRbWrite rb data len).2 = min len (myRbGetFreeSize rb) := by
  rw [myRbWrite, (myRbWriteLoop_spec data len rb 0 valid).2.2.1, myRbGetFreeSize_eq valid]
  omega

theorem myRbRead_read (valid : rb.Valid) (len : Nat) : (myRbRead rb len).2.1 = min len (myRbGetUsedSize rb) := by
  rw [myRbRead, (myRbReadLoop_spec len rb 0 [] valid).2.2.1, myRbGetUsedSize_eq valid]
  omega

/-- my_rb_write, given the whole of data, is the bounded FIFO's put of size - 1 bytes. -/
theorem myRbWrite_refines (valid : rb.Valid) (data : List UInt8) :
    (myRbWrite rb data data.length).1.Valid ∧ (myRbWrite rb data data.length).1.size = rb.size ∧
      ((myRbWrite rb data data.length).1.contents, (myRbWrite rb data data.length).2) =
        fifoPut (rb.size - 1) rb.contents data := by
  obtain ⟨valid', sized, written, contents⟩ := myRbWriteLoop_spec data data.length rb 0 valid
  have fits : min (data.length - 0) (rb.size - 1 - rb.count) ≤ data.length := by omega
  refine ⟨valid', sized, ?_⟩
  rw [myRbWrite, fifoPut, contents, written, length_contents, Nat.zero_add, Nat.sub_zero]
  simp only [Nat.zero_add]
  rw [map_range_getD 0 (by omega)]

/-- my_rb_read is the bounded FIFO's take. -/
theorem myRbRead_refines (valid : rb.Valid) (len : Nat) :
    (myRbRead rb len).1.Valid ∧ (myRbRead rb len).1.size = rb.size ∧
      ((myRbRead rb len).2.2, (myRbRead rb len).1.contents) = fifoTake rb.contents len := by
  obtain ⟨valid', sized, -, bytes, rest⟩ := myRbReadLoop_spec len rb 0 [] valid
  refine ⟨valid', sized, ?_⟩
  rw [myRbRead, fifoTake, bytes, rest, List.nil_append, Nat.sub_zero]

end Calls

end RingBuf
