import NrfSdk.Machine.Word
import Mathlib.Data.List.GetD
import Mathlib.Algebra.Order.Floor.Div

namespace Machine

inductive AccessKind where
  | read
  | write
  deriving DecidableEq, Repr

structure Access (β : Type) where
  buffer : β
  offset : Nat
  width : Nat
  kind : AccessKind
  deriving DecidableEq, Repr

def Access.Within {β : Type} (size : β → Nat) (access : Access β) : Prop :=
  access.offset + access.width ≤ size access.buffer

instance {β : Type} (size : β → Nat) (access : Access β) : Decidable (access.Within size) :=
  inferInstanceAs (Decidable (_ ≤ _))

def TraceWithin {β : Type} (size : β → Nat) (trace : List (Access β)) : Prop :=
  ∀ access ∈ trace, access.Within size

section Trace

variable {β : Type} {size : β → Nat}

@[simp] theorem traceWithin_nil : TraceWithin size ([] : List (Access β)) := by
  intro access member
  cases member

@[simp] theorem traceWithin_append {left right : List (Access β)} :
    TraceWithin size (left ++ right) ↔ TraceWithin size left ∧ TraceWithin size right := by
  simp only [TraceWithin, List.mem_append]
  constructor
  · intro within
    exact ⟨fun access member => within access (.inl member), fun access member => within access (.inr member)⟩
  · rintro ⟨left, right⟩ access (member | member)
    · exact left access member
    · exact right access member

@[simp] theorem traceWithin_cons {access : Access β} {trace : List (Access β)} :
    TraceWithin size (access :: trace) ↔ access.Within size ∧ TraceWithin size trace := by
  simp [TraceWithin]

end Trace

def storeBytes {α : Type} (buf : List α) (offset : Nat) (data : List α) : List α :=
  buf.mapIdx fun i byte => if offset ≤ i ∧ i < offset + data.length then data.getD (i - offset) byte else byte

@[simp] theorem length_storeBytes {α : Type} (buf : List α) (offset : Nat) (data : List α) :
    (storeBytes buf offset data).length = buf.length := by
  simp [storeBytes]

theorem storeBytes_eq_append {α : Type} {buf data : List α} {offset : Nat} (fits : offset + data.length ≤ buf.length) :
    storeBytes buf offset data = buf.take offset ++ data ++ buf.drop (offset + data.length) := by
  have prefixLength : (buf.take offset).length = offset := List.length_take_of_le (by omega)
  apply List.ext_getElem
  · simp only [length_storeBytes, List.length_append, prefixLength, List.length_drop]
    omega
  · intro i inStore inSplice
    simp only [storeBytes, List.getElem_mapIdx, List.getElem_append, prefixLength, List.length_append,
      List.getElem_take, List.getElem_drop]
    split_ifs with stored before inData before inData
    · exact absurd stored.1 (by omega)
    · exact List.getD_eq_getElem _ _ _
    · exact absurd stored.2 before
    · rfl
    · exact absurd ⟨by omega, before⟩ stored
    · congr 1
      omega

section Slots

/-! An array modelled as a list: a slot split out, and what `List.set` leaves in each slot. -/

variable {α : Type}

theorem exists_split_of_lt {l : List α} {i : Nat} (inside : i < l.length) :
    ∃ pre old post, l = pre ++ old :: post ∧ pre.length = i :=
  ⟨l.take i, l[i], l.drop (i + 1), by rw [List.getElem_cons_drop, List.take_append_drop], by simp; omega⟩

theorem set_split (pre post : List α) (old new : α) :
    (pre ++ old :: post).set pre.length new = pre ++ new :: post := by
  rw [List.set_append_right _ _ (le_refl _), Nat.sub_self, List.set_cons_zero]

theorem getD_set_self {l : List α} {i : Nat} (inside : i < l.length) (a d : α) : (l.set i a).getD i d = a := by
  simp [List.getD_eq_getElem?_getD, inside]

theorem getD_set_of_ne (l : List α) {i k : Nat} (a d : α) (other : k ≠ i) :
    (l.set i a).getD k d = l.getD k d := by
  simp [List.getD_eq_getElem?_getD, Ne.symm other]

theorem getD_of_drop {l rest : List α} {i : Nat} (read : l.drop i = rest) (n : Nat) (d : α) :
    l.getD (i + n) d = rest.getD n d := by
  subst read
  simp [List.getD_eq_getElem?_getD]

end Slots

def forRange {σ : Type} (count : Nat) (body : Nat → σ → σ) (state : σ) : σ :=
  match count with
  | 0 => state
  | count + 1 => body count (forRange count body state)

section Loop

variable {σ : Type} {body : Nat → σ → σ} {state : σ}

@[simp] theorem forRange_zero : forRange 0 body state = state := rfl

theorem forRange_succ (count : Nat) :
    forRange (count + 1) body state = body count (forRange count body state) := rfl

theorem forRange_invariant (invariant : Nat → σ → Prop) (count : Nat) (start : invariant 0 state)
    (step : ∀ i current, i < count → invariant i current → invariant (i + 1) (body i current)) :
    invariant count (forRange count body state) := by
  induction count with
  | zero => exact start
  | succ count ih =>
    rw [forRange_succ]
    apply step count _ (Nat.lt_succ_self count)
    exact ih (fun i current bound => step i current (Nat.lt_succ_of_lt bound))

end Loop

/-- for (i = start; i < bound; i += stride) body, with a body that does not read i. With a zero stride
the C loop never ends; its callers exclude that, and the model stops there. -/
def forStride {σ : Type} (bound stride : Nat) (body : σ → σ) (i : Nat) (state : σ) : σ :=
  if i < bound ∧ 0 < stride then forStride bound stride body (i + stride) (body state) else state
termination_by bound - i
decreasing_by omega

section Stride

variable {σ : Type} {bound stride : Nat} {body : σ → σ}

theorem ceilDiv_eq_sub_ceilDiv_add_one {remaining : Nat} (positive : 0 < stride) (left : 0 < remaining) :
    remaining ⌈/⌉ stride = (remaining - stride) ⌈/⌉ stride + 1 := by
  rw [Nat.ceilDiv_eq_add_pred_div, Nat.ceilDiv_eq_add_pred_div,
    show remaining + stride - 1 = remaining - 1 + stride by omega, Nat.add_div_right _ positive]
  by_cases wide : stride ≤ remaining
  · rw [show remaining - stride + stride - 1 = remaining - 1 by omega]
  · -- the last round: both quotients vanish
    rw [Nat.div_eq_of_lt (show remaining - 1 < stride by omega),
      Nat.div_eq_of_lt (show remaining - stride + stride - 1 < stride by omega)]

theorem forStride_eq_iterate (positive : 0 < stride) (i : Nat) (state : σ) :
    forStride bound stride body i state = body^[(bound - i) ⌈/⌉ stride] state := by
  fun_induction forStride bound stride body i state with
  | case1 i state going ih =>
    have round := ceilDiv_eq_sub_ceilDiv_add_one positive (show 0 < bound - i by omega)
    rw [ih, round, Function.iterate_succ_apply, Nat.sub_sub]
  | case2 i state stopped =>
    rw [show bound - i = 0 by omega, zero_ceilDiv, Function.iterate_zero_apply]

theorem mul_ceilDiv_cancel_left {d : Nat} (positive : 0 < d) (q : Nat) : d * q ⌈/⌉ d = q := by
  rw [← smul_eq_mul, smul_ceilDiv positive]

theorem ceilDiv_mul_le_iff_dvd {n d : Nat} (positive : 0 < d) : n ⌈/⌉ d * d ≤ n ↔ d ∣ n := by
  constructor
  · intro within
    have cover : n ≤ d * (n ⌈/⌉ d) := le_smul_ceilDiv positive
    exact ⟨n ⌈/⌉ d, by rw [Nat.mul_comm] at within; omega⟩
  · rintro ⟨q, rfl⟩
    rw [mul_ceilDiv_cancel_left positive, Nat.mul_comm]

theorem ceilDiv_of_dvd {n d : Nat} (positive : 0 < d) (whole : d ∣ n) : n ⌈/⌉ d = n / d := by
  obtain ⟨q, rfl⟩ := whole
  rw [mul_ceilDiv_cancel_left positive, Nat.mul_div_cancel_left q positive]

theorem div_add_ite_mod_eq_ceilDiv {n d : Nat} (positive : 0 < d) :
    n / d + (if n % d > 0 then 1 else 0) = n ⌈/⌉ d := by
  rw [Nat.ceilDiv_eq_add_pred_div]
  have split := Nat.div_add_mod n d
  have remainder := Nat.mod_lt n positive
  by_cases rest : n % d > 0
  · have shifted : n + d - 1 = (n % d - 1) + d * (n / d + 1) := by
      rw [Nat.mul_succ]
      omega
    have low : (n % d - 1) / d = 0 := Nat.div_eq_of_lt (by omega)
    rw [if_pos rest, shifted, Nat.add_mul_div_left _ _ positive, low, Nat.zero_add]
  · have shifted : n + d - 1 = (d - 1) + d * (n / d) := by omega
    have low : (d - 1) / d = 0 := Nat.div_eq_of_lt (by omega)
    rw [if_neg rest, shifted, Nat.add_mul_div_left _ _ positive, low, Nat.zero_add, Nat.add_zero]

theorem ceilDiv_pos {n d : Nat} (positive : 0 < d) (nonempty : 0 < n) : 0 < n ⌈/⌉ d := by
  rw [ceilDiv_eq_sub_ceilDiv_add_one positive nonempty]
  omega

end Stride

def applyWrites {α : Type} (memory : Nat → α) (writes : List (Nat × α)) : Nat → α :=
  writes.foldl (fun memory write => Function.update memory write.1 write.2) memory

section Writes

variable {α : Type} {memory : Nat → α}

@[simp] theorem applyWrites_nil : applyWrites memory [] = memory := rfl

theorem applyWrites_append (writes more : List (Nat × α)) :
    applyWrites memory (writes ++ more) = applyWrites (applyWrites memory writes) more :=
  List.foldl_append

theorem applyWrites_of_not_mem {writes : List (Nat × α)} {address : Nat}
    (untouched : address ∉ writes.map Prod.fst) : applyWrites memory writes address = memory address := by
  induction writes generalizing memory with
  | nil => rfl
  | cons write writes ih =>
    simp only [List.map_cons, List.mem_cons, not_or] at untouched
    rw [applyWrites, List.foldl_cons, ← applyWrites, ih untouched.2, Function.update_of_ne untouched.1]

theorem applyWrites_of_mem {writes : List (Nat × α)} {address : Nat} {value : α}
    (distinct : (writes.map Prod.fst).Nodup) (written : (address, value) ∈ writes) :
    applyWrites memory writes address = value := by
  induction writes generalizing memory with
  | nil => cases written
  | cons write writes ih =>
    simp only [List.map_cons, List.nodup_cons] at distinct
    rw [applyWrites, List.foldl_cons, ← applyWrites]
    rcases List.mem_cons.mp written with first | later
    · subst first
      rw [applyWrites_of_not_mem distinct.1, Function.update_self]
    · exact ih distinct.2 later

end Writes

end Machine
