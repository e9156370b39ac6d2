import Mathlib.Tactic

/-! my_lte_handle_recv: the LTE UART bytes cut into command lines for my_lte_parse_cmd. -/

namespace Lte

def maxCmdLen : Nat := 128

def isTerminator (byte : UInt8) : Bool := byte = 13 ∨ byte = 10

/-- The static command buffer, command[0 .. index), and the buffers handed to my_lte_parse_cmd so far. -/
structure LteRecv where
  command : List UInt8
  calls : List (List UInt8)
  deriving DecidableEq, Repr

def LteRecv.init : LteRecv := ⟨[], []⟩

def LteRecv.parse (recv : LteRecv) : LteRecv := ⟨[], recv.calls ++ [recv.command]⟩

def LteRecv.store (recv : LteRecv) (byte : UInt8) : LteRecv :=
  if recv.command.length < maxCmdLen - 1 then { recv with command := recv.command ++ [byte] } else recv

def myLteHandleRecvLoop : List UInt8 → LteRecv → LteRecv
  | [], recv => recv
  | [byte], recv => if isTerminator byte then recv.parse else recv.store byte
  | byte :: next :: rest, recv =>
    if isTerminator byte then
      if next = 10 then myLteHandleRecvLoop rest recv.parse else myLteHandleRecvLoop (next :: rest) recv.parse
    else myLteHandleRecvLoop (next :: rest) (recv.store byte)

def myLteHandleRecv (recv : LteRecv) (pData : List UInt8) : LteRecv := myLteHandleRecvLoop pData recv

def lteRecvRun (chunks : List (List UInt8)) : LteRecv := chunks.foldl myLteHandleRecv .init

/-! ## Line framing -/

def frameByte (recv : LteRecv) (byte : UInt8) : LteRecv := if isTerminator byte then recv.parse else recv.store byte

def lteFrames (stream : List UInt8) : List (List UInt8) :=
  (((stream.splitOnP isTerminator).dropLast).filter (· ≠ [])).map (·.take (maxCmdLen - 1))

def Agrees (recv other : LteRecv) : Prop :=
  recv.command = other.command ∧ recv.calls.filter (· ≠ []) = other.calls.filter (· ≠ [])

section Agree

variable {recv other : LteRecv}

theorem Agrees.parse (agrees : Agrees recv other) : Agrees recv.parse other.parse := by
  obtain ⟨command, calls⟩ := agrees
  refine ⟨rfl, ?_⟩
  simp only [LteRecv.parse, List.filter_append, calls, command]

theorem Agrees.store (agrees : Agrees recv other) (byte : UInt8) : Agrees (recv.store byte) (other.store byte) := by
  obtain ⟨command, calls⟩ := agrees
  unfold LteRecv.store
  rw [command]
  split_ifs
  · exact ⟨rfl, calls⟩
  · exact ⟨command, calls⟩

theorem Agrees.parse_twice (agrees : Agrees recv other) : Agrees recv.parse other.parse.parse := by
  obtain ⟨command, calls⟩ := agrees
  refine ⟨rfl, ?_⟩
  simp only [LteRecv.parse, List.filter_append, calls, command]
  simp

end Agree

theorem myLteHandleRecvLoop_agrees :
    ∀ (pData : List UInt8) (recv other : LteRecv), Agrees recv other →
      Agrees (myLteHandleRecvLoop pData recv) (pData.foldl frameByte other)
  | [], _, _, agrees => agrees
  | [byte], _, _, agrees => by
    simp only [myLteHandleRecvLoop, List.foldl_cons, List.foldl_nil, frameByte]
    split_ifs
    · exact agrees.parse
    · exact agrees.store byte
  | byte :: next :: rest, recv, other, agrees => by
    rw [myLteHandleRecvLoop, List.foldl_cons]
    by_cases ends : isTerminator byte
    · rw [if_pos ends, frameByte, if_pos ends]
      by_cases newline : next = 10
      · rw [if_pos newline]
        have skipped : frameByte other.parse next = other.parse.parse := by
          rw [frameByte, if_pos (by simp [isTerminator, newline])]
        rw [List.foldl_cons, skipped]
        exact myLteHandleRecvLoop_agrees rest _ _ agrees.parse_twice
      · rw [if_neg newline]
        exact myLteHandleRecvLoop_agrees (next :: rest) _ _ agrees.parse
    · rw [if_neg ends, frameByte, if_neg ends]
      exact myLteHandleRecvLoop_agrees (next :: rest) _ _ (agrees.store byte)

theorem store_take (line : List UInt8) (calls : List (List UInt8)) (byte : UInt8) :
    (LteRecv.mk (line.take (maxCmdLen - 1)) calls).store byte = ⟨(line ++ [byte]).take (maxCmdLen - 1), calls⟩ := by
  unfold LteRecv.store
  split_ifs with room
  · rw [List.length_take] at room
    have short : line.length < maxCmdLen - 1 := by omega
    rw [List.take_of_length_le (by omega), List.take_of_length_le (by simp; omega)]
  · rw [List.length_take] at room
    rw [List.take_append_of_le_length (by omega)]

theorem foldl_frameByte (stream : List UInt8) :
    ∀ (line : List UInt8) (calls : List (List UInt8)), (∀ byte ∈ line, isTerminator byte = false) →
      stream.foldl frameByte ⟨line.take (maxCmdLen - 1), calls⟩ =
        ⟨(((line ++ stream).splitOnP isTerminator).getLast (List.splitOnP_ne_nil _ _)).take (maxCmdLen - 1),
          calls ++ ((line ++ stream).splitOnP isTerminator).dropLast.map (·.take (maxCmdLen - 1))⟩ := by
  induction stream with
  | nil =>
    intro line calls plain
    simp [List.splitOnP_eq_singleton plain]
  | cons byte rest ih =>
    intro line calls plain
    rw [List.foldl_cons, frameByte]
    split_ifs with ends
    · have parsed : (LteRecv.mk (line.take (maxCmdLen - 1)) calls).parse =
          ⟨([] : List UInt8).take (maxCmdLen - 1), calls ++ [line.take (maxCmdLen - 1)]⟩ := rfl
      rw [parsed, ih [] _ (by simp), List.nil_append]
      simp only [List.splitOnP_append_cons_of_forall_mem plain byte ends,
        List.getLast_cons (List.splitOnP_ne_nil _ _), List.dropLast_cons_of_ne_nil (List.splitOnP_ne_nil _ _)]
      simp
    · have extended : ∀ other ∈ line ++ [byte], isTerminator other = false := by
        intro other member
        rcases List.mem_append.mp member with inLine | last
        · exact plain other inLine
        · rw [List.mem_singleton.mp last]
          simpa using ends
      rw [store_take, ih (line ++ [byte]) calls extended]
      simp

theorem lteRecvRun_agrees (chunks : List (List UInt8)) :
    ∀ recv other, Agrees recv other → Agrees (chunks.foldl myLteHandleRecv recv) (chunks.flatten.foldl frameByte other) := by
  induction chunks with
  | nil =>
    intro recv other agrees
    exact agrees
  | cons chunk chunks ih =>
    intro recv other agrees
    rw [List.foldl_cons, List.flatten_cons, List.foldl_append]
    exact ih _ _ (myLteHandleRecvLoop_agrees chunk recv other agrees)

example : (lteRecvRun [[65, 13], [10, 66, 10, 10], [67]]).calls.filter (· ≠ []) = [[65], [66]] := by decide

end Lte
