import NrfSdk.Tool.MacStr
import NrfSdk.Machine.System
import NrfSdk.Machine.Memory
import Mathlib.Data.List.TakeWhile

/-! The retransmission queue of my_lte.c: s_retrans_queue and the calls that change it. -/

namespace Lte

open Tool Machine

def maxRetries : Nat := 3
def ackTimeoutS : Int := 2
def retransmissionQueueSize : Nat := 10

inductive MsgState where
  | idle
  | pending
  | timeout
  deriving DecidableEq, Repr

/-- A param buffer: the block k_malloc returned and the characters copied into it. -/
structure Param where
  address : Nat
  contents : List Char
  deriving DecidableEq, Repr

structure RetransmissionItem where
  cmdName : List Char
  param : Option Param
  retryCount : Nat
  sendTime : Int
  state : MsgState
  deriving DecidableEq, Repr

def RetransmissionItem.zero : RetransmissionItem := ⟨[], none, 0, 0, .idle⟩

structure RetransQueue where
  slots : List RetransmissionItem
  size : slots.length = retransmissionQueueSize

def initRetransmissionQueue : RetransQueue := ⟨List.replicate retransmissionQueueSize .zero, List.length_replicate⟩

def specialCmdPrefixes : List (List Char) := ["MACINFO".toList, "TAG".toList]

def retransQueueIsEmpty (queue : RetransQueue) : Int :=
  if queue.slots.any (fun item => item.state = .pending) then 0 else 1

/-! ## add_to_retrans_queue -/

def retransCommandFields (command : List Char) : List Char × Option (List Char) :=
  let (cmdName, ret) := myGetStrAtPos command 0 ',' 32
  let param := if ret then some (command.drop (cmdName.length + 1)) else none
  let cmdName :=
    if cmdName ∈ specialCmdPrefixes then
      match param with
      | some param => if param ≠ [] then cmdName ++ '_' :: (myGetStrAtPos param 0 ',' 16).1 else cmdName
      | none => cmdName
    else cmdName
  (cmdName, param)

/-- The entry add_to_retrans_queue writes, with `address` the block k_malloc returned for the param. -/
def retransEntry (command : List Char) (now : Int) (address : Nat) : RetransmissionItem :=
  { cmdName := (retransCommandFields command).1.take 31
    param := (retransCommandFields command).2.map (Param.mk address)
    retryCount := 0
    sendTime := now
    state := .pending }

/-- add_to_retrans_queue, with `block` what k_malloc returns for the copy of the param (none for NULL). -/
def addToRetransQueue (queue : RetransQueue) (command : List Char) (now : Int) (block : Option Nat) : RetransQueue :=
  match queue.slots.findIdx? (fun item => item.state ≠ .pending) with
  | none => queue
  | some i =>
    match (retransCommandFields command).2, block with
    -- the slot's old param is freed before the k_malloc; on NULL the call logs and returns
    | some _, none => ⟨queue.slots.set i { queue.slots.getD i .zero with param := none }, by
        rw [List.length_set, queue.size]⟩
    | _, _ => ⟨queue.slots.set i (retransEntry command now (block.getD 0)), by rw [List.length_set, queue.size]⟩

/-! ## check_ack -/

/-- The loop of check_ack that moves the PENDING run after slot `j` one slot down. -/
def checkAckShift (slots : List RetransmissionItem) (j : Nat) : List RetransmissionItem × Nat :=
  if j < retransmissionQueueSize - 1 ∧ (slots.getD (j + 1) .zero).state = .pending then
    let next := slots.getD (j + 1) .zero
    checkAckShift ((slots.set j next).set (j + 1) { next with param := none }) (j + 1)
  else (slots, j)
termination_by retransmissionQueueSize - 1 - j

theorem length_checkAckShift (slots : List RetransmissionItem) (j : Nat) :
    (checkAckShift slots j).1.length = slots.length := by
  fun_induction checkAckShift slots j with
  | case1 slots j going next ih => simpa using ih
  | case2 => rfl

def checkAck (queue : RetransQueue) (cmdName : List Char) : RetransQueue :=
  match queue.slots.findIdx? (fun item => item.state = .pending ∧ item.cmdName = cmdName) with
  | none => queue
  | some i =>
    let freed := queue.slots.set i { queue.slots.getD i .zero with param := none }
    ⟨(checkAckShift freed i).1.set (checkAckShift freed i).2 .zero, by
      rw [List.length_set, length_checkAckShift, List.length_set, queue.size]⟩

/-! ## retransmission_check -/

/-- The name retransmission_check resends under: a key PREFIX_x of a special command goes back to PREFIX. -/
def resendName (cmdName : List Char) : List Char :=
  match specialCmdPrefixes.find? (fun pre => pre.isPrefixOf cmdName ∧ cmdName.getD pre.length '\x00' = '_') with
  | some pre => pre
  | none => cmdName

/-- What one run of retransmission_check does: the queue it leaves, the lte_send_command calls it makes
and whether it powered the LTE module off and on for an entry out of retries. -/
structure CheckResult where
  slots : List RetransmissionItem
  resends : List (List Char × Option (List Char))
  powerCycle : Bool

def retransmissionCheckLoop (currentTime : Int) (slots : List RetransmissionItem) (i : Nat)
    (resends : List (List Char × Option (List Char))) : CheckResult :=
  if i < retransmissionQueueSize then
    let item := slots.getD i .zero
    if item.state = .pending ∧ currentTime - item.sendTime ≥ ackTimeoutS then
      if item.retryCount < maxRetries then
        retransmissionCheckLoop currentTime
          (slots.set i { item with retryCount := item.retryCount + 1, sendTime := currentTime }) (i + 1)
          (resends ++ [(resendName item.cmdName, item.param.map Param.contents)])
      else ⟨slots.set i { item with state := .timeout, param := none }, resends, true⟩
    else retransmissionCheckLoop currentTime slots (i + 1) resends
  else ⟨slots, resends, false⟩
termination_by retransmissionQueueSize - i

def retransmissionCheck (queue : RetransQueue) (currentTime : Int) : CheckResult :=
  retransmissionCheckLoop currentTime queue.slots 0 []

/-! ## The queue the slots stand for -/

theorem checkAckShift_run (run : List RetransmissionItem) (allPending : ∀ item ∈ run, item.state = .pending)
    (post : List RetransmissionItem) (stops : ∀ item ∈ post.head?, item.state ≠ .pending) :
    ∀ (pre : List RetransmissionItem) (hit : RetransmissionItem),
      (pre ++ hit :: (run ++ post)).length = retransmissionQueueSize →
      ∃ last, checkAckShift (pre ++ hit :: (run ++ post)) pre.length = (pre ++ run ++ last :: post, pre.length + run.length) := by
  induction run with
  | nil =>
    intro pre hit size
    refine ⟨hit, ?_⟩
    rw [checkAckShift, if_neg]
    · simp
    cases post with
    | nil => simp at size; omega
    | cons item post =>
      have stopped := stops item rfl
      rw [List.getD_append_right _ _ _ _ (by omega)]
      simp [stopped]
  | cons item run ih =>
    intro pre hit size
    have pending := allPending item (List.mem_cons_self ..)
    have moved : (pre ++ hit :: (item :: run ++ post)).getD (pre.length + 1) .zero = item := by
      rw [List.getD_append_right _ _ _ _ (by omega)]
      simp
    rw [checkAckShift, if_pos ⟨by simp at size; omega, by rw [moved]; exact pending⟩]
    simp only [moved]
    have shifted : ((pre ++ hit :: (item :: run ++ post)).set pre.length item).set (pre.length + 1)
        { item with param := none } = (pre ++ [item]) ++ { item with param := none } :: (run ++ post) := by
      rw [List.set_append_right _ _ (le_refl _), List.set_append_right _ _ (by omega)]
      simp
    rw [shifted]
    obtain ⟨last, spec⟩ := ih (fun other inRun => allPending other (List.mem_cons_of_mem _ inRun)) (pre ++ [item])
      { item with param := none } (by simp at size ⊢; omega)
    refine ⟨last, ?_⟩
    rw [show pre.length + 1 = (pre ++ [item]).length by simp, spec]
    simp [Nat.add_assoc, Nat.add_comm 1]

theorem checkAck_split {queue : RetransQueue} {cmdName : List Char} {pre rest : List RetransmissionItem}
    {hit : RetransmissionItem} (split : queue.slots = pre ++ hit :: rest)
    (before : ∀ item ∈ pre, ¬(item.state = .pending ∧ item.cmdName = cmdName))
    (found : hit.state = .pending ∧ hit.cmdName = cmdName) :
    (checkAck queue cmdName).slots = pre ++ rest.takeWhile (fun item => item.state = .pending) ++
      .zero :: rest.dropWhile (fun item => item.state = .pending) := by
  have index : queue.slots.findIdx? (fun item => decide (item.state = .pending ∧ item.cmdName = cmdName)) =
      some pre.length := by
    rw [split, List.findIdx?_append, List.findIdx?_eq_none_iff.mpr (by simpa using before), List.findIdx?_cons,
      if_pos (by simpa using found)]
    simp
  have size := queue.size
  have freed : queue.slots.set pre.length { queue.slots.getD pre.length .zero with param := none } =
      pre ++ { hit with param := none } ::
        (rest.takeWhile (fun item => item.state = .pending) ++ rest.dropWhile (fun item => item.state = .pending)) := by
    rw [List.takeWhile_append_dropWhile, split, List.set_append_right _ _ (le_refl _),
      List.getD_append_right _ _ _ _ (le_refl _)]
    simp
  have stops := List.head?_dropWhile_not (fun item => decide (item.state = .pending)) rest
  obtain ⟨last, shifted⟩ := checkAckShift_run (rest.takeWhile (fun item => item.state = .pending))
    (fun item inRun => by simpa using List.mem_takeWhile_imp inRun) (rest.dropWhile (fun item => item.state = .pending))
    (fun item isHead => by rw [isHead] at stops; simpa using stops) pre { hit with param := none }
    (by rw [← freed, List.length_set, size])
  simp only [checkAck, index]
  rw [freed, shifted]
  rw [List.append_assoc, List.set_append_right _ _ (by omega), List.set_append_right _ _ (by simp)]
  simp

/-- The PENDING entries in slot order: the queue the code means. -/
def pendingEntries (slots : List RetransmissionItem) : List RetransmissionItem :=
  slots.filter (fun item => item.state = .pending)

theorem pendingEntries_takeWhile (rest : List RetransmissionItem) :
    pendingEntries (rest.takeWhile (fun item => item.state = .pending)) =
      rest.takeWhile (fun item => item.state = .pending) := by
  apply List.filter_eq_self.mpr
  intro item inRun
  simpa using List.mem_takeWhile_imp inRun

theorem checkAck_of_none {queue : RetransQueue} {cmdName : List Char}
    (none : ∀ item ∈ queue.slots, ¬(item.state = .pending ∧ item.cmdName = cmdName)) :
    checkAck queue cmdName = queue := by
  have index : queue.slots.findIdx? (fun item => decide (item.state = .pending ∧ item.cmdName = cmdName)) = .none :=
    List.findIdx?_eq_none_iff.mpr (by simpa using none)
  simp only [checkAck, index]

theorem checkAck_cases (queue : RetransQueue) (cmdName : List Char) :
    (checkAck queue cmdName = queue ∧ ∀ item ∈ pendingEntries queue.slots, item.cmdName ≠ cmdName) ∨
      ∃ pre hit rest, queue.slots = pre ++ hit :: rest ∧
        (∀ item ∈ pre, ¬(item.state = .pending ∧ item.cmdName = cmdName)) ∧
        hit.state = .pending ∧ hit.cmdName = cmdName ∧
        (checkAck queue cmdName).slots = pre ++ rest.takeWhile (fun item => item.state = .pending) ++
          .zero :: rest.dropWhile (fun item => item.state = .pending) := by
  by_cases acked : ∃ item ∈ queue.slots, item.state = .pending ∧ item.cmdName = cmdName
  · obtain ⟨item, member, acks⟩ := acked
    obtain ⟨hit, pre, rest, before, found, split, -⟩ :=
      @List.exists_of_eraseP _ (fun item : RetransmissionItem => decide (item.state = .pending ∧ item.cmdName = cmdName))
        _ _ member (by simpa using acks)
    simp only [decide_eq_true_eq] at before found
    exact .inr ⟨pre, hit, rest, split, before, found.1, found.2, checkAck_split split before found⟩
  · push Not at acked
    refine .inl ⟨checkAck_of_none (fun item member acks => acked item member acks.1 acks.2), ?_⟩
    intro item member
    simp only [pendingEntries, List.mem_filter, decide_eq_true_eq] at member
    exact acked item member.1 member.2

theorem pendingEntries_checkAck (queue : RetransQueue) (cmdName : List Char) :
    pendingEntries (checkAck queue cmdName).slots =
      (pendingEntries queue.slots).eraseP (fun item => item.cmdName = cmdName) := by
  rcases checkAck_cases queue cmdName with ⟨same, none⟩ | ⟨pre, hit, rest, split, before, pending, named, acked⟩
  · rw [same, List.eraseP_of_forall_not (by simpa using none)]
  rw [acked, split]
  have skipped : ∀ item ∈ pendingEntries pre, ¬decide (item.cmdName = cmdName) = true := by
    intro item member
    simp only [pendingEntries, List.mem_filter, decide_eq_true_eq] at member
    simpa using fun named => before item member.1 ⟨member.2, named⟩
  have run := pendingEntries_takeWhile rest
  conv_rhs => rw [← @List.takeWhile_append_dropWhile _ (fun item => decide (item.state = .pending)) rest]
  simp only [pendingEntries, List.filter_append, List.filter_cons] at skipped run ⊢
  rw [List.eraseP_append_right _ skipped]
  simp [pending, named, RetransmissionItem.zero, run]

def heldAddresses (slots : List RetransmissionItem) : List Nat :=
  slots.filterMap (fun item => item.param.map Param.address)

@[simp] theorem heldAddresses_append (slots more : List RetransmissionItem) :
    heldAddresses (slots ++ more) = heldAddresses slots ++ heldAddresses more :=
  List.filterMap_append

@[simp] theorem heldAddresses_cons (item : RetransmissionItem) (slots : List RetransmissionItem) :
    heldAddresses (item :: slots) = (item.param.map Param.address).toList ++ heldAddresses slots := by
  cases param : item.param <;> simp [heldAddresses, param]

theorem heldAddresses_set_sublist (slots : List RetransmissionItem) (i : Nat) {item : RetransmissionItem}
    (keeps : item.param = none ∨ item.param = (slots.getD i .zero).param) :
    (heldAddresses (slots.set i item)).Sublist (heldAddresses slots) := by
  by_cases inside : i < slots.length
  · obtain ⟨pre, old, post, rfl, rfl⟩ := exists_split_of_lt inside
    rw [set_split]
    rw [List.getD_append_right _ _ _ _ (le_refl _), Nat.sub_self] at keeps
    rcases keeps with cleared | same
    · simp only [heldAddresses_append, heldAddresses_cons, cleared, Option.map_none, Option.toList_none,
        List.nil_append]
      exact (List.sublist_append_right _ _).append_left _
    · simp [same]
  · rw [List.set_eq_take_append_cons_drop, if_neg inside]

theorem idle_of_findIdx? {slots : List RetransmissionItem} {i : Nat}
    (found : slots.findIdx? (fun item => item.state ≠ .pending) = some i) :
    i < slots.length ∧ (slots.getD i .zero).state ≠ .pending := by
  obtain ⟨inside, idle, -⟩ := List.findIdx?_eq_some_iff_getElem.mp found
  refine ⟨inside, ?_⟩
  rw [List.getD_eq_getElem _ _ inside]
  simpa using idle

theorem findIdx?_idle_of_room {queue : RetransQueue}
    (room : (pendingEntries queue.slots).length < retransmissionQueueSize) :
    ∃ i < retransmissionQueueSize, (queue.slots.getD i .zero).state ≠ .pending ∧
      queue.slots.findIdx? (fun item => item.state ≠ .pending) = some i := by
  rw [← queue.size, pendingEntries, List.length_filter_lt_length_iff_exists] at room
  cases found : queue.slots.findIdx? (fun item => item.state ≠ .pending) with
  | none =>
    obtain ⟨item, member, idle⟩ := room
    have := List.findIdx?_eq_none_iff.mp found item member
    simp_all
  | some i =>
    obtain ⟨inside, idle⟩ := idle_of_findIdx? found
    exact ⟨i, queue.size ▸ inside, idle, rfl⟩

theorem addToRetransQueue_cases (queue : RetransQueue) (command : List Char) (now : Int) (block : Option Nat) :
    queue.slots.findIdx? (fun item => item.state ≠ .pending) = none ∧ addToRetransQueue queue command now block = queue ∨
      ∃ i, queue.slots.findIdx? (fun item => item.state ≠ .pending) = some i ∧
        ((retransCommandFields command).2 ≠ none ∧ block = none ∧
            (addToRetransQueue queue command now block).slots =
              queue.slots.set i { queue.slots.getD i .zero with param := none } ∨
          ((retransCommandFields command).2 = none ∨ block ≠ none) ∧
            (addToRetransQueue queue command now block).slots =
              queue.slots.set i (retransEntry command now (block.getD 0))) := by
  cases found : queue.slots.findIdx? (fun item => item.state ≠ .pending) with
  | none =>
    left
    simp only [addToRetransQueue, found, and_self]
  | some i =>
    right
    refine ⟨i, rfl, ?_⟩
    cases fields : (retransCommandFields command).2 <;> cases block <;>
      simp only [addToRetransQueue, found, fields] <;> simp

theorem addToRetransQueue_of_room {queue : RetransQueue} (command : List Char) (now : Int) {block : Option Nat}
    (allocated : (retransCommandFields command).2 = none ∨ block ≠ none)
    (room : (pendingEntries queue.slots).length < retransmissionQueueSize) :
    ∃ i < retransmissionQueueSize, (queue.slots.getD i .zero).state ≠ .pending ∧
      (addToRetransQueue queue command now block).slots =
        queue.slots.set i (retransEntry command now (block.getD 0)) := by
  obtain ⟨i, inside, idle, found⟩ := findIdx?_idle_of_room room
  refine ⟨i, inside, idle, ?_⟩
  rcases addToRetransQueue_cases queue command now block with ⟨none, -⟩ | ⟨j, found', null | ⟨-, added⟩⟩
  · rw [found] at none
    cases none
  · rcases allocated with noParam | allocated
    · exact absurd noParam null.1
    · exact absurd null.2.1 allocated
  · rw [found] at found'
    cases found'
    exact added

theorem addToRetransQueue_of_null {queue : RetransQueue} {command : List Char} (now : Int)
    (hasParam : (retransCommandFields command).2 ≠ none)
    (idleFree : ∀ item ∈ queue.slots, item.state ≠ .pending → item.param = none) :
    (addToRetransQueue queue command now none).slots = queue.slots := by
  rcases addToRetransQueue_cases queue command now none with ⟨-, same⟩ | ⟨i, found, ⟨-, -, added⟩ | ⟨allocated, -⟩⟩
  · rw [same]
  · obtain ⟨inside, idle⟩ := idle_of_findIdx? found
    rw [List.getD_eq_getElem _ _ inside] at idle added
    have cleared := idleFree _ (List.getElem_mem inside) idle
    have restored : { queue.slots[i] with param := none } = queue.slots[i] := by rw [← cleared]
    rw [added, restored, List.set_getElem_self]
  · simp at allocated
    exact absurd allocated hasParam

theorem addToRetransQueue_of_full {queue : RetransQueue} (command : List Char) (now : Int) (block : Option Nat)
    (full : retransmissionQueueSize ≤ (pendingEntries queue.slots).length) :
    addToRetransQueue queue command now block = queue := by
  have allPending : ∀ item ∈ queue.slots, item.state = .pending := by
    have same := Nat.le_antisymm (List.length_filter_le _ _) (queue.size ▸ full)
    simpa using List.length_filter_eq_length_iff.mp same
  have none : queue.slots.findIdx? (fun item => item.state ≠ .pending) = .none :=
    List.findIdx?_eq_none_iff.mpr (fun item member => by simp [allPending item member])
  simp only [addToRetransQueue, none]

theorem pendingEntries_set_perm {slots : List RetransmissionItem} {i : Nat} (inside : i < slots.length)
    (idle : (slots.getD i .zero).state ≠ .pending) {entry : RetransmissionItem} (pending : entry.state = .pending) :
    (pendingEntries (slots.set i entry)).Perm (entry :: pendingEntries slots) := by
  obtain ⟨pre, old, post, rfl, rfl⟩ := exists_split_of_lt inside
  rw [List.getD_append_right _ _ _ _ (le_refl _), Nat.sub_self, List.getD_cons_zero] at idle
  rw [set_split]
  simp only [pendingEntries, List.filter_append, List.filter_cons, pending, idle, decide_true, decide_false,
    if_true, Bool.false_eq_true, if_false]
  exact List.perm_middle

theorem heldAddresses_set_nodup {slots : List RetransmissionItem} (i : Nat) {entry : RetransmissionItem}
    (distinct : (heldAddresses slots).Nodup) (fresh : ∀ param ∈ entry.param, param.address ∉ heldAddresses slots) :
    (heldAddresses (slots.set i entry)).Nodup := by
  by_cases inside : i < slots.length
  · obtain ⟨pre, old, post, rfl, rfl⟩ := exists_split_of_lt inside
    rw [set_split]
    have rest : (heldAddresses pre ++ heldAddresses post).Nodup := by
      refine distinct.sublist ?_
      simp only [heldAddresses_append, heldAddresses_cons]
      exact (List.sublist_append_right (old.param.map Param.address).toList (heldAddresses post)).append_left
        (heldAddresses pre)
    cases param : entry.param with
    | none => simpa [param] using rest
    | some block =>
      have outside := fresh block (by simp [param])
      simp only [heldAddresses_append, heldAddresses_cons, List.mem_append, not_or] at outside
      simp only [heldAddresses_append, heldAddresses_cons, param, Option.map_some, Option.toList_some,
        List.singleton_append]
      rw [List.nodup_middle, List.nodup_cons]
      exact ⟨by simp [outside.1, outside.2.2], rest⟩
  · rwa [List.set_eq_take_append_cons_drop, if_neg inside]

theorem lt_length_of_pending {slots : List RetransmissionItem} {i : Nat}
    (pending : (slots.getD i .zero).state = .pending) : i < slots.length := by
  by_contra outside
  rw [List.getD_eq_default _ _ (by omega)] at pending
  cases pending

def SlotCheck (currentTime : Int) (before after : RetransmissionItem) : Prop :=
  after = before ∨
    (before.state = .pending ∧ currentTime - before.sendTime ≥ ackTimeoutS ∧ before.retryCount < maxRetries ∧
      after = { before with retryCount := before.retryCount + 1, sendTime := currentTime }) ∨
    (before.state = .pending ∧ currentTime - before.sendTime ≥ ackTimeoutS ∧ maxRetries ≤ before.retryCount ∧
      after = { before with state := .timeout, param := none })

section Check

variable (currentTime : Int)

theorem length_retransmissionCheckLoop (slots : List RetransmissionItem) (i : Nat) (resends) :
    (retransmissionCheckLoop currentTime slots i resends).slots.length = slots.length := by
  fun_induction retransmissionCheckLoop currentTime slots i resends with
  | case1 => simp_all
  | case2 => simp
  | case3 => simp_all
  | case4 => rfl

theorem retransmissionCheckLoop_before (slots : List RetransmissionItem) (i : Nat) (resends) {k : Nat}
    (earlier : k < i) : (retransmissionCheckLoop currentTime slots i resends).slots.getD k .zero = slots.getD k .zero := by
  fun_induction retransmissionCheckLoop currentTime slots i resends with
  | case1 slots i resends inside item due retry ih => rw [ih (by omega), getD_set_of_ne _ _ _ (by omega)]
  | case2 => exact getD_set_of_ne _ _ _ (by omega)
  | case3 slots i resends inside item skip ih => exact ih (by omega)
  | case4 => rfl

theorem retransmissionCheckLoop_slot (slots : List RetransmissionItem) (i : Nat) (resends) (k : Nat) :
    SlotCheck currentTime (slots.getD k .zero) ((retransmissionCheckLoop currentTime slots i resends).slots.getD k .zero) := by
  fun_induction retransmissionCheckLoop currentTime slots i resends with
  | case1 slots i resends inside item due retry ih =>
    by_cases here : k = i
    · subst here
      have stays := retransmissionCheckLoop_before currentTime
        (slots.set k { item with retryCount := item.retryCount + 1, sendTime := currentTime }) (k + 1)
        (resends ++ [(resendName item.cmdName, item.param.map Param.contents)]) (Nat.lt_succ_self k)
      rw [stays, getD_set_self (lt_length_of_pending due.1)]
      exact .inr (.inl ⟨due.1, due.2, retry, rfl⟩)
    · rw [← getD_set_of_ne slots _ _ here]
      exact ih
  | case2 slots i resends inside item due retry =>
    by_cases here : k = i
    · subst here
      rw [getD_set_self (lt_length_of_pending due.1)]
      exact .inr (.inr ⟨due.1, due.2, Nat.le_of_not_lt retry, rfl⟩)
    · rw [getD_set_of_ne _ _ _ here]
      exact .inl rfl
  | case3 => assumption
  | case4 => exact .inl rfl

def resentSlots (before after : List RetransmissionItem) (ks : List Nat) : List (List Char × Option (List Char)) :=
  (ks.filter (fun k => (after.getD k .zero).retryCount = (before.getD k .zero).retryCount + 1)).map
    (fun k => (resendName (before.getD k .zero).cmdName, (before.getD k .zero).param.map Param.contents))

theorem resentSlots_congr {before before' after : List RetransmissionItem} {ks : List Nat}
    (same : ∀ k ∈ ks, before'.getD k .zero = before.getD k .zero) :
    resentSlots before' after ks = resentSlots before after ks := by
  unfold resentSlots
  rw [List.filter_congr (fun k member => by rw [same k member]), List.map_congr_left (fun k member => by
    rw [same k (List.mem_filter.mp member).1])]

theorem resentSlots_of_unchanged {before after : List RetransmissionItem} {ks : List Nat}
    (kept : ∀ k ∈ ks, (after.getD k .zero).retryCount = (before.getD k .zero).retryCount) :
    resentSlots before after ks = [] := by
  unfold resentSlots
  rw [List.filter_eq_nil_iff.mpr (fun k member => by rw [kept k member]; simp), List.map_nil]

theorem resentSlots_cons (before after : List RetransmissionItem) (k : Nat) (ks : List Nat) :
    resentSlots before after (k :: ks) =
      (if (after.getD k .zero).retryCount = (before.getD k .zero).retryCount + 1 then
        [(resendName (before.getD k .zero).cmdName, (before.getD k .zero).param.map Param.contents)] else []) ++
        resentSlots before after ks := by
  unfold resentSlots
  rw [List.filter_cons]
  split_ifs <;> simp_all

theorem retransmissionCheckLoop_resends (slots : List RetransmissionItem) (i : Nat) (resends) :
    (retransmissionCheckLoop currentTime slots i resends).resends = resends ++
      resentSlots slots (retransmissionCheckLoop currentTime slots i resends).slots
        (List.range' i (retransmissionQueueSize - i)) := by
  fun_induction retransmissionCheckLoop currentTime slots i resends with
  | case1 slots i resends inside item due retry ih =>
    have stays := retransmissionCheckLoop_before currentTime
      (slots.set i { item with retryCount := item.retryCount + 1, sendTime := currentTime }) (i + 1)
      (resends ++ [(resendName item.cmdName, item.param.map Param.contents)]) (Nat.lt_succ_self i)
    rw [getD_set_self (lt_length_of_pending due.1)] at stays
    rw [ih, resentSlots_congr (fun k member => getD_set_of_ne _ _ _ (by simp at member; omega)),
      show retransmissionQueueSize - i = retransmissionQueueSize - (i + 1) + 1 by omega, List.range'_succ,
      resentSlots_cons, if_pos (by rw [stays]), List.append_assoc]
  | case2 slots i resends inside item due retry =>
    rw [resentSlots_of_unchanged, List.append_nil]
    intro k member
    by_cases here : k = i
    · subst here
      rw [getD_set_self (lt_length_of_pending due.1)]
    · rw [getD_set_of_ne _ _ _ here]
  | case3 slots i resends inside item skip ih =>
    have stays := retransmissionCheckLoop_before currentTime slots (i + 1) resends (Nat.lt_succ_self i)
    rw [ih, show retransmissionQueueSize - i = retransmissionQueueSize - (i + 1) + 1 by omega, List.range'_succ,
      resentSlots_cons, if_neg (by rw [stays]; omega), List.nil_append]
  | case4 slots i resends outside =>
    rw [show retransmissionQueueSize - i = 0 by omega]
    simp [resentSlots]

end Check

theorem heldAddresses_checkAck_sublist (queue : RetransQueue) (cmdName : List Char) :
    (heldAddresses (checkAck queue cmdName).slots).Sublist (heldAddresses queue.slots) := by
  rcases checkAck_cases queue cmdName with ⟨same, -⟩ | ⟨pre, hit, rest, split, -, -, -, acked⟩
  · rw [same]
  rw [acked, split]
  conv_rhs => rw [← @List.takeWhile_append_dropWhile _ (fun item => decide (item.state = .pending)) rest]
  simp only [heldAddresses_append, heldAddresses_cons, RetransmissionItem.zero, Option.map_none, Option.toList_none,
    List.nil_append, List.append_assoc]
  exact (List.sublist_append_right _ _).append_left _

theorem mem_checkAck {queue : RetransQueue} {cmdName : List Char} {item : RetransmissionItem}
    (member : item ∈ (checkAck queue cmdName).slots) : item ∈ queue.slots ∨ item = .zero := by
  rcases checkAck_cases queue cmdName with ⟨same, -⟩ | ⟨pre, hit, rest, split, -, -, -, acked⟩
  · rw [same] at member
    exact .inl member
  rw [acked] at member
  rw [split]
  simp only [List.mem_append, List.mem_cons] at member ⊢
  rcases member with (inPre | inRun) | zero | inRest
  · exact .inl (.inl inPre)
  · exact .inl (.inr (.inr ((List.takeWhile_sublist _).subset inRun)))
  · exact .inr zero
  · exact .inl (.inr (.inr ((List.dropWhile_sublist _).subset inRest)))

section Check

variable (queue : RetransQueue) (currentTime : Int)

theorem length_retransmissionCheck : (retransmissionCheck queue currentTime).slots.length = retransmissionQueueSize := by
  rw [retransmissionCheck, length_retransmissionCheckLoop, queue.size]

theorem retransmissionCheck_slot (k : Nat) :
    SlotCheck currentTime (queue.slots.getD k .zero) ((retransmissionCheck queue currentTime).slots.getD k .zero) :=
  retransmissionCheckLoop_slot currentTime queue.slots 0 [] k

theorem retransmissionCheck_resends :
    (retransmissionCheck queue currentTime).resends =
      resentSlots queue.slots (retransmissionCheck queue currentTime).slots (List.range retransmissionQueueSize) := by
  rw [retransmissionCheck, retransmissionCheckLoop_resends, List.nil_append, Nat.sub_zero, List.range_eq_range']

theorem heldAddresses_retransmissionCheckLoop_sublist (slots : List RetransmissionItem) (i : Nat) (resends) :
    (heldAddresses (retransmissionCheckLoop currentTime slots i resends).slots).Sublist (heldAddresses slots) := by
  fun_induction retransmissionCheckLoop currentTime slots i resends with
  | case1 slots i resends inside item due retry ih => exact ih.trans (heldAddresses_set_sublist _ _ (.inr rfl))
  | case2 => exact heldAddresses_set_sublist _ _ (.inl rfl)
  | case3 => assumption
  | case4 => exact List.Sublist.refl _

theorem SlotCheck.bounded {before after : RetransmissionItem} (step : SlotCheck currentTime before after)
    (bounded : before.state = .pending → before.retryCount ≤ maxRetries) :
    after.state = .pending → after.retryCount ≤ maxRetries := by
  rcases step with rfl | ⟨-, -, retry, rfl⟩ | ⟨-, -, -, rfl⟩
  · exact bounded
  · intro _
    exact retry
  · intro timedOut
    cases timedOut

theorem SlotCheck.idleFree {before after : RetransmissionItem} (step : SlotCheck currentTime before after)
    (free : before.state ≠ .pending → before.param = none) : after.state ≠ .pending → after.param = none := by
  rcases step with rfl | ⟨pending, -, -, rfl⟩ | ⟨-, -, -, rfl⟩
  · exact free
  · intro idle
    exact absurd pending idle
  · intro _
    rfl

end Check

/-- The moves of s_retrans_queue: init_retransmission_queue, add_to_retrans_queue with what k_malloc
returned (NULL, or a block no slot holds), check_ack and retransmission_check. -/
inductive RetransStep : RetransQueue → RetransQueue → Prop
  | init (queue : RetransQueue) : RetransStep queue initRetransmissionQueue
  | add (queue : RetransQueue) (command : List Char) (now : Int) (block : Option Nat)
      (fresh : ∀ address ∈ block, address ∉ heldAddresses queue.slots) :
      RetransStep queue (addToRetransQueue queue command now block)
  | ack (queue : RetransQueue) (cmdName : List Char) : RetransStep queue (checkAck queue cmdName)
  | check (queue : RetransQueue) (currentTime : Int) :
      RetransStep queue ⟨(retransmissionCheck queue currentTime).slots, length_retransmissionCheck queue currentTime⟩

structure QueueInvariant (queue : RetransQueue) : Prop where
  distinct : (heldAddresses queue.slots).Nodup
  bounded : ∀ item ∈ queue.slots, item.state = .pending → item.retryCount ≤ maxRetries
  idleFree : ∀ item ∈ queue.slots, item.state ≠ .pending → item.param = none

theorem QueueInvariant.init : QueueInvariant initRetransmissionQueue := by
  constructor
  · simp [initRetransmissionQueue, heldAddresses, RetransmissionItem.zero]
  all_goals
    intro item member
    rw [initRetransmissionQueue, List.mem_replicate] at member
    rw [member.2]
  · intro idle
    cases idle
  · intro _
    rfl

theorem QueueInvariant.add {queue : RetransQueue} (holds : QueueInvariant queue) (command : List Char) (now : Int)
    {block : Option Nat} (fresh : ∀ address ∈ block, address ∉ heldAddresses queue.slots) :
    QueueInvariant (addToRetransQueue queue command now block) := by
  rcases addToRetransQueue_cases queue command now block with ⟨-, same⟩ | ⟨i, found, ⟨-, -, added⟩ | ⟨allocated, added⟩⟩
  · rw [same]
    exact holds
  · -- k_malloc returned NULL: the reused slot keeps its state and loses its param
    have idle := (idle_of_findIdx? found).2
    refine ⟨?_, ?_, ?_⟩ <;> rw [added]
    · exact holds.distinct.sublist (heldAddresses_set_sublist _ _ (.inl rfl))
    all_goals
      intro item member
      rcases List.mem_or_eq_of_mem_set member with old | rfl
    · exact holds.bounded item old
    · exact fun pending => absurd pending idle
    · exact holds.idleFree item old
    · exact fun _ => rfl
  · refine ⟨?_, ?_, ?_⟩ <;> rw [added]
    · apply heldAddresses_set_nodup _ holds.distinct
      intro param member
      simp only [retransEntry, Option.mem_def, Option.map_eq_some_iff] at member
      obtain ⟨contents, given, rfl⟩ := member
      cases block with
      | none => simp [given] at allocated
      | some address => exact fresh address rfl
    all_goals
      intro item member
      rcases List.mem_or_eq_of_mem_set member with old | rfl
    · exact holds.bounded item old
    · exact fun _ => Nat.zero_le _
    · exact holds.idleFree item old
    · exact fun idle => absurd rfl idle

theorem QueueInvariant.ack {queue : RetransQueue} (holds : QueueInvariant queue) (cmdName : List Char) :
    QueueInvariant (checkAck queue cmdName) := by
  refine ⟨holds.distinct.sublist (heldAddresses_checkAck_sublist queue cmdName), ?_, ?_⟩
  all_goals
    intro item member
    rcases mem_checkAck member with old | rfl
  · exact holds.bounded item old
  · intro idle
    cases idle
  · exact holds.idleFree item old
  · intro _
    rfl

theorem QueueInvariant.check {queue : RetransQueue} (holds : QueueInvariant queue) (currentTime : Int) :
    QueueInvariant ⟨(retransmissionCheck queue currentTime).slots, length_retransmissionCheck queue currentTime⟩ := by
  refine ⟨holds.distinct.sublist (heldAddresses_retransmissionCheckLoop_sublist currentTime queue.slots 0 []), ?_, ?_⟩
  all_goals
    intro item member
    dsimp only at member
    obtain ⟨k, inside, rfl⟩ := List.getElem_of_mem member
    have step := retransmissionCheck_slot queue currentTime k
    have before : k < queue.slots.length := by
      rw [queue.size, ← length_retransmissionCheck queue currentTime]
      exact inside
    rw [List.getD_eq_getElem _ _ inside, List.getD_eq_getElem _ _ before] at step
  · exact SlotCheck.bounded currentTime step (holds.bounded _ (List.getElem_mem _))
  · exact SlotCheck.idleFree currentTime step (holds.idleFree _ (List.getElem_mem _))

theorem QueueInvariant.reachable {queue : RetransQueue}
    (reached : Reachable RetransStep initRetransmissionQueue queue) : QueueInvariant queue := by
  apply Reachable.invariant QueueInvariant QueueInvariant.init _ reached
  intro queue next holds step
  cases step with
  | init => exact QueueInvariant.init
  | add command now block fresh => exact holds.add command now fresh
  | ack cmdName => exact holds.ack cmdName
  | check currentTime => exact holds.check currentTime

theorem retransQueueIsEmpty_iff (queue : RetransQueue) :
    retransQueueIsEmpty queue = 1 ↔ pendingEntries queue.slots = [] := by
  unfold retransQueueIsEmpty pendingEntries
  rw [List.filter_eq_nil_iff]
  split_ifs with found
  · obtain ⟨item, member, pending⟩ := List.any_eq_true.mp found
    have nonzero : (0 : Int) ≠ 1 := by decide
    simp only [nonzero, false_iff, not_forall]
    exact ⟨item, member, by simpa using pending⟩
  · simp only [List.any_eq_true, not_exists, not_and] at found
    simpa using found

/-- What s_retrans_queue guarantees in a state: what each call does to the PENDING entries, no param block
outside a PENDING entry, distinct param blocks, retry counts at most MAX_RETRIES and each resend counted in
its slot. -/
structure RetransQueueSpec (queue : RetransQueue) : Prop where
  addInserts : ∀ command now block, ((retransCommandFields command).2 = none ∨ block ≠ none) →
    (pendingEntries queue.slots).length < retransmissionQueueSize →
    ∃ i < retransmissionQueueSize, (queue.slots.getD i .zero).state ≠ .pending ∧
      (addToRetransQueue queue command now block).slots = queue.slots.set i (retransEntry command now (block.getD 0)) ∧
      (pendingEntries (addToRetransQueue queue command now block).slots).Perm
        (retransEntry command now (block.getD 0) :: pendingEntries queue.slots)
  addNull : ∀ command now, (retransCommandFields command).2 ≠ none →
    (addToRetransQueue queue command now none).slots = queue.slots
  addFull : ∀ command now block, retransmissionQueueSize ≤ (pendingEntries queue.slots).length →
    addToRetransQueue queue command now block = queue
  idleFree : ∀ item ∈ queue.slots, item.state ≠ .pending → item.param = none
  distinct : (heldAddresses queue.slots).Nodup
  ackRemoves : ∀ cmdName, pendingEntries (checkAck queue cmdName).slots =
      (pendingEntries queue.slots).eraseP (fun item => item.cmdName = cmdName) ∧
    (heldAddresses (checkAck queue cmdName).slots).Nodup
  retriesBounded : ∀ item ∈ queue.slots, item.state = .pending → item.retryCount ≤ maxRetries
  checkSlots : ∀ currentTime k,
    SlotCheck currentTime (queue.slots.getD k .zero) ((retransmissionCheck queue currentTime).slots.getD k .zero)
  checkResends : ∀ currentTime, (retransmissionCheck queue currentTime).resends =
    resentSlots queue.slots (retransmissionCheck queue currentTime).slots (List.range retransmissionQueueSize)
  isEmpty : retransQueueIsEmpty queue = 1 ↔ pendingEntries queue.slots = []

end Lte
