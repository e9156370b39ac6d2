import NrfSdk.RingBuf.Buffer

/-!
A session of the ring buffer as the LTE UART receive path uses it: my_rb_init, then any sequence of
my_rb_write, my_rb_read and my_rb_clear calls. Along it the bytes the reads have returned since the last
clear, followed by the bytes still held, are exactly the bytes the writes have accepted since then.
-/

namespace RingBuf

open Machine

/-- A call after init: a write of all of data, a read of up to len bytes, or a clear. -/
inductive RbCall where
  | write (data : List UInt8)
  | read (len : Nat)
  | clear

/-- The buffer, with the bytes the writes accepted and the reads returned since the last clear. -/
structure Session where
  rb : RingBuffer
  accepted : List UInt8
  returned : List UInt8

def Session.call (session : Session) : RbCall → Session
  | .write data =>
    ⟨(myRbWrite session.rb data data.length).1,
      session.accepted ++ data.take (myRbWrite session.rb data data.length).2, session.returned⟩
  | .read len => ⟨(myRbRead session.rb len).1, session.accepted, session.returned ++ (myRbRead session.rb len).2.2⟩
  | .clear => ⟨myRbClear session.rb, [], []⟩

def Session.run (session : Session) (calls : List RbCall) : Session := calls.foldl Session.call session

def Session.init (rb : RingBuffer) (buf : Nat → UInt8) (size : Nat) : Session := ⟨(myRbInit rb buf size).2, [], []⟩

/-- What a session keeps: a valid buffer of the size given to init, whose bytes still held follow the
bytes returned and make up, with them, all that was accepted. -/
structure Session.Good (size : Nat) (session : Session) : Prop where
  valid : session.rb.Valid
  sized : session.rb.size = size
  fifo : session.returned ++ session.rb.contents = session.accepted

section Good

variable {size : Nat} {session : Session}

theorem Session.init_good (rb : RingBuffer) (buf : Nat → UInt8) (sized : 2 ≤ size) (small : size ≤ 2 ^ 31) :
    (Session.init rb buf size).Good size := by
  obtain ⟨-, valid, sizeKept, empty⟩ := myRbInit_valid rb buf sized small
  refine ⟨valid, sizeKept, ?_⟩
  show [] ++ (myRbInit rb buf size).2.contents = []
  rw [empty]
  rfl

theorem Session.Good.call (good : session.Good size) (call : RbCall) : (session.call call).Good size := by
  cases call with
  | write data =>
    obtain ⟨valid, sized, put⟩ := myRbWrite_refines good.valid data
    simp only [fifoPut, Prod.mk.injEq] at put
    refine ⟨valid, sized.trans good.sized, ?_⟩
    show session.returned ++ (myRbWrite session.rb data data.length).1.contents =
      session.accepted ++ data.take (myRbWrite session.rb data data.length).2
    rw [put.1, put.2, ← good.fifo, List.append_assoc]
  | read len =>
    obtain ⟨valid, sized, taken⟩ := myRbRead_refines good.valid len
    simp only [fifoTake, Prod.mk.injEq] at taken
    refine ⟨valid, sized.trans good.sized, ?_⟩
    show session.returned ++ (myRbRead session.rb len).2.2 ++ (myRbRead session.rb len).1.contents =
      session.accepted
    rw [taken.1, taken.2, List.append_assoc, List.take_append_drop, good.fifo]
  | clear =>
    obtain ⟨valid, sized, empty⟩ := myRbClear_valid good.valid
    refine ⟨valid, sized.trans good.sized, ?_⟩
    show [] ++ (myRbClear session.rb).contents = []
    rw [empty]
    rfl

theorem Session.Good.run (good : session.Good size) (calls : List RbCall) : (session.run calls).Good size := by
  induction calls generalizing session with
  | nil => exact good
  | cons call calls ih => exact ih (good.call call)

end Good

/-- After init with a size from 2 to 2^31, and after any calls: both indices stay inside the array, the
used and free sizes add up to size - 1, a write takes as many bytes as are asked for and free, a read
returns as many as are asked for and held, and the bytes returned since the last clear, followed by the
used bytes still held, are the bytes accepted since then. -/
theorem myRb_session_fifo (rb : RingBuffer) (buf : Nat → UInt8) (size : Nat) (sized : 2 ≤ size)
    (small : size ≤ 2 ^ 31) (calls : List RbCall) :
    ((Session.init rb buf size).run calls).rb.head < size ∧ ((Session.init rb buf size).run calls).rb.tail < size ∧
      myRbGetUsedSize ((Session.init rb buf size).run calls).rb +
        myRbGetFreeSize ((Session.init rb buf size).run calls).rb = size - 1 ∧
      (∀ (data : List UInt8) (len : Nat), (myRbWrite ((Session.init rb buf size).run calls).rb data len).2 =
        min len (myRbGetFreeSize ((Session.init rb buf size).run calls).rb)) ∧
      (∀ len : Nat, (myRbRead ((Session.init rb buf size).run calls).rb len).2.1 =
        min len (myRbGetUsedSize ((Session.init rb buf size).run calls).rb)) ∧
      ((Session.init rb buf size).run calls).returned ++ ((Session.init rb buf size).run calls).rb.contents =
        ((Session.init rb buf size).run calls).accepted ∧
      ((Session.init rb buf size).run calls).rb.contents.length =
        myRbGetUsedSize ((Session.init rb buf size).run calls).rb := by
  obtain ⟨valid, sizeKept, fifo⟩ := (Session.init_good rb buf sized small).run calls
  have below := valid.count_lt
  refine ⟨lt_of_lt_of_eq valid.headInside sizeKept, lt_of_lt_of_eq valid.tailInside sizeKept, ?_,
    fun data len => myRbWrite_written valid data len,
    fun len => myRbRead_read valid len, fifo, ?_⟩
  · rw [myRbGetUsedSize_eq valid, myRbGetFreeSize_eq valid, sizeKept]
    omega
  · rw [length_contents, myRbGetUsedSize_eq valid]

theorem myRb_session_fifo_lteUart :
    let session := (Session.init ⟨0, 0, fun _ => 0, 0⟩ (fun _ => 0) 512).run [.write [1, 2, 3], .read 2]
    2 ≤ 512 ∧ 512 ≤ 2 ^ 31 ∧ (session.rb.head < 512 ∧ session.rb.tail < 512 ∧
      myRbGetUsedSize session.rb + myRbGetFreeSize session.rb = 512 - 1 ∧
      (∀ (data : List UInt8) (len : Nat), (myRbWrite session.rb data len).2 = min len (myRbGetFreeSize session.rb)) ∧
      (∀ len : Nat, (myRbRead session.rb len).2.1 = min len (myRbGetUsedSize session.rb)) ∧
      session.returned ++ session.rb.contents = session.accepted ∧
      session.rb.contents.length = myRbGetUsedSize session.rb) :=
  ⟨by decide, by decide,
    myRb_session_fifo ⟨0, 0, fun _ => 0, 0⟩ (fun _ => 0) 512 (by decide) (by decide) [.write [1, 2, 3], .read 2]⟩

theorem myRb_session_used_size_wraps :
    let session := (Session.init ⟨0, 0, fun _ => 0, 0⟩ (fun _ => 0) (2 ^ 32 - 1)).run [.write [7]]
    myRbGetUsedSize session.rb = 0 ∧ (myRbRead session.rb 1).2.1 = 1 ∧ (myRbRead session.rb 1).2.2 = [7] := by
  have wrote : myRbWrite ⟨0, 0, fun _ => 0, 2 ^ 32 - 1⟩ [7] 1 =
      (⟨1, 0, Function.update (fun _ => 0) 0 7, 2 ^ 32 - 1⟩, 1) := by
    -- one round writes the byte, the next finds len reached
    rw [myRbWrite, myRbWriteLoop]
    simp [u32, wrap]
    rw [myRbWriteLoop]
    simp
  have read : myRbRead ⟨1, 0, Function.update (fun _ => 0) 0 7, 2 ^ 32 - 1⟩ 1 =
      (⟨1, 1, Function.update (fun _ => 0) 0 7, 2 ^ 32 - 1⟩, 1, [7]) := by
    rw [myRbRead, myRbReadLoop]
    simp [u32, wrap]
    rw [myRbReadLoop]
    simp
  have initialized : (myRbInit ⟨0, 0, fun _ => 0, 0⟩ (fun _ => 0) (2 ^ 32 - 1)).2 = ⟨0, 0, fun _ => 0, 2 ^ 32 - 1⟩ :=
    rfl
  have session : ((Session.init ⟨0, 0, fun _ => 0, 0⟩ (fun _ => 0) (2 ^ 32 - 1)).run [.write [7]]).rb =
      ⟨1, 0, Function.update (fun _ => 0) 0 7, 2 ^ 32 - 1⟩ := by
    show (myRbWrite (myRbInit ⟨0, 0, fun _ => 0, 0⟩ (fun _ => 0) (2 ^ 32 - 1)).2 [7] 1).1 = _
    rw [initialized, wrote]
  intro written
  show myRbGetUsedSize written.rb = 0 ∧ (myRbRead written.rb 1).2.1 = 1 ∧ (myRbRead written.rb 1).2.2 = [7]
  rw [session, read]
  -- 1 - 0 + (2^32 - 1) is 2^32, which wraps to 0
  refine ⟨?_, rfl, rfl⟩
  simp [myRbGetUsedSize, u32, wrap]

end RingBuf
