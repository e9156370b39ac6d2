import Mathlib.Tactic

/-! at_cmd_str_analyse of my_cmd_setting.c: one pass over the command with a quote flag and a status flag,
cutting it in place with NULs and storing pointers to the fields in tar_data. The buffer is the string
before its NUL, read at `p` and at the look-ahead `p + 1`; the stores into tar_data are kept as a log. -/

namespace CmdSetting

/-- A tar_data entry: the static empty string blank, or a pointer into str_data. -/
inductive TarPtr where
  | blank
  | at (index : Nat)
  deriving DecidableEq, Repr

structure AnalyseState where
  buffer : List Char
  i : Nat
  j : Nat
  status : Bool
  inQuote : Bool
  foundEndChar : Bool
  writes : List (Nat × TarPtr)
  deriving DecidableEq, Repr

def AnalyseState.start (strData : List Char) : AnalyseState := ⟨strData, 0, 0, false, false, false, []⟩

def AnalyseState.store (st : AnalyseState) (ptr : TarPtr) : AnalyseState :=
  { st with writes := st.writes ++ [(st.j, ptr)], j := st.j + 1 }

@[simp] theorem AnalyseState.store_buffer (st : AnalyseState) (ptr : TarPtr) : (st.store ptr).buffer = st.buffer := rfl
@[simp] theorem AnalyseState.store_i (st : AnalyseState) (ptr : TarPtr) : (st.store ptr).i = st.i := rfl
@[simp] theorem AnalyseState.store_j (st : AnalyseState) (ptr : TarPtr) : (st.store ptr).j = st.j + 1 := rfl
@[simp] theorem AnalyseState.store_status (st : AnalyseState) (ptr : TarPtr) : (st.store ptr).status = st.status := rfl
@[simp] theorem AnalyseState.store_inQuote (st : AnalyseState) (ptr : TarPtr) :
    (st.store ptr).inQuote = st.inQuote := rfl
@[simp] theorem AnalyseState.store_foundEndChar (st : AnalyseState) (ptr : TarPtr) :
    (st.store ptr).foundEndChar = st.foundEndChar := rfl
@[simp] theorem AnalyseState.store_writes (st : AnalyseState) (ptr : TarPtr) :
    (st.store ptr).writes = st.writes ++ [(st.j, ptr)] := rfl

def charAt (buffer : List Char) (index : Nat) : Char := buffer.getD index '\x00'

/-- strchr(endChars, c) != NULL: strchr also finds the terminating NUL. -/
def strchrFound (endChars : List Char) (c : Char) : Bool := c = '\x00' || endChars.contains c

/-- How one pass of the loop body leaves: return, break, or go on to the next character. -/
inductive Flow where
  | ret (code : Int) (st : AnalyseState)
  | brk (st : AnalyseState)
  | next (st : AnalyseState)

section Analyse

variable (limit : Nat) (startChar : Char) (endChars : List Char) (splitChar : Char)

/-- The block run while status is 0 at the start character: none where it returns -2. -/
def analyseStart (st : AnalyseState) : Option AnalyseState :=
  if st.status = false ∧ (charAt st.buffer st.i = startChar ∨ startChar = '\x00') then
    let st := { st with status := true }
    if st.j ≥ limit then none
    else if startChar = '\x00' then
      if charAt st.buffer st.i = '"' then some (st.store (.at (st.i + 1)))
      else some (st.store (.at st.i))
    else if charAt st.buffer (st.i + 1) = splitChar then some (st.store .blank)
    else some (st.store (.at (st.i + 1)))
  else some st

def analyseQuote (st : AnalyseState) : AnalyseState :=
  let st :=
    if st.inQuote then { st with buffer := st.buffer.set st.i '\x00' }
    else if st.status = true ∧ st.j > 0 then { st with writes := st.writes ++ [(st.j - 1, .at (st.i + 1))] }
    else st
  { st with inQuote := !st.inQuote }

def analyseSplit (st : AnalyseState) : Flow :=
  let st := { st with buffer := st.buffer.set st.i '\x00' }
  if st.j ≥ limit then .ret (-3) st
  else if strchrFound endChars (charAt st.buffer (st.i + 1)) ∨ charAt st.buffer (st.i + 1) = splitChar then
    .next (st.store .blank)
  else .next (st.store (.at (st.i + 1)))

def analyseBody (st : AnalyseState) : Flow :=
  if charAt st.buffer st.i = '"' then .next (analyseQuote st)
  else
    match analyseStart limit startChar splitChar st with
    | none => .ret (-2) { st with status := true }
    | some st =>
      if st.status = false then .next st
      else if st.inQuote = false ∧ strchrFound endChars (charAt st.buffer st.i) then
        .brk { st with buffer := st.buffer.set st.i '\x00', foundEndChar := true }
      else if st.inQuote = false ∧ charAt st.buffer st.i = splitChar then analyseSplit limit endChars splitChar st
      else .next st

def analyseLoop : Nat → AnalyseState → Flow
  | 0, st => .next st
  | fuel + 1, st =>
    match analyseBody limit startChar endChars splitChar st with
    | .next st => analyseLoop fuel { st with i := st.i + 1 }
    | flow => flow

def analyseFinish (st : AnalyseState) : Int × AnalyseState :=
  if st.foundEndChar = false then (-4, st)
  else
    let st := { st with writes := st.writes ++ (List.range' st.j (limit - st.j)).map (fun index => (index, .blank)) }
    if st.inQuote then (-1, st) else (st.j, st)

def analyseResult : Flow → Int × AnalyseState
  | .ret code st => (code, st)
  | .brk st => analyseFinish limit st
  | .next st => analyseFinish limit st

def atCmdStrAnalyse (strData : List Char) : Int × AnalyseState :=
  analyseResult limit (analyseLoop limit startChar endChars splitChar strData.length (AnalyseState.start strData))

end Analyse

def tarEntry (writes : List (Nat × TarPtr)) (index : Nat) : Option TarPtr :=
  (writes.reverse.find? (fun write => write.1 = index)).map Prod.snd

def cString (buffer : List Char) : TarPtr → List Char
  | .blank => []
  | .at start => (buffer.drop start).takeWhile (· ≠ '\x00')

/-! ## The blocks of the body -/

theorem charAt_of_drop {buffer rest : List Char} {i : Nat} (read : buffer.drop i = rest) (n : Nat) :
    charAt buffer (i + n) = rest.getD n '\x00' := by
  subst read
  simp [charAt, List.getD_eq_getElem?_getD]

theorem drop_succ_of_drop {buffer rest : List Char} {i : Nat} {c : Char} (read : buffer.drop i = c :: rest) :
    buffer.drop (i + 1) = rest := by
  rw [← List.drop_drop, read]
  rfl

theorem drop_set_succ (buffer : List Char) (i : Nat) (c : Char) :
    (buffer.set i c).drop (i + 1) = buffer.drop (i + 1) := by
  simp [List.drop_set]

theorem analyseQuote_eq (st : AnalyseState) :
    analyseQuote st =
      { st with
        buffer := if st.inQuote then st.buffer.set st.i '\x00' else st.buffer
        writes := if st.inQuote = false ∧ st.status = true ∧ st.j > 0 then
          st.writes ++ [(st.j - 1, .at (st.i + 1))] else st.writes
        inQuote := !st.inQuote } := by
  obtain ⟨buffer, i, j, status, inQuote, found, writes⟩ := st
  unfold analyseQuote
  cases inQuote <;> cases status <;> by_cases started : 0 < j <;> simp [started]

theorem analyseStart_null (limit : Nat) (splitChar : Char) {st : AnalyseState}
    (notQuote : charAt st.buffer st.i ≠ '"') :
    analyseStart limit '\x00' splitChar st =
      if st.status then some st
      else if st.j ≥ limit then none
      else some ({ st with status := true }.store (.at st.i)) := by
  unfold analyseStart
  cases st.status <;> simp [notQuote]

theorem analyseFinish_code {limit : Nat} (st : AnalyseState) :
    (analyseFinish limit st).1 = if st.foundEndChar = false then -4 else if st.inQuote then -1 else (st.j : Int) := by
  unfold analyseFinish
  dsimp only
  split_ifs <;> rfl

theorem analyseLoop_add {limit : Nat} {startChar : Char} {endChars : List Char} {splitChar : Char}
    (first more : Nat) (st : AnalyseState) :
    analyseLoop limit startChar endChars splitChar (first + more) st =
      match analyseLoop limit startChar endChars splitChar first st with
      | .next st => analyseLoop limit startChar endChars splitChar more st
      | flow => flow := by
  induction first generalizing st with
  | zero => simp [analyseLoop]
  | succ first ih =>
    rw [Nat.add_right_comm, analyseLoop, analyseLoop]
    cases analyseBody limit startChar endChars splitChar st with
    | ret code next => rfl
    | brk next => rfl
    | next next => exact ih _

def Flow.state : Flow → AnalyseState
  | .ret _ st => st
  | .brk st => st
  | .next st => st

/-! ## tar_data is written below the limit

The stores are guarded by j < limit and the move past a quote writes j - 1, so every state of the loop keeps
its stores below the limit and j at most the limit; this holds for every argument of the function. -/

structure Bounded (limit : Nat) (st : AnalyseState) : Prop where
  writesBelow : ∀ write ∈ st.writes, write.1 < limit
  jLe : st.j ≤ limit

section Bound

variable {limit : Nat} (startChar : Char) (endChars : List Char) (splitChar : Char)

theorem Bounded.store {st : AnalyseState} (bounded : Bounded limit st) (room : ¬st.j ≥ limit) (ptr : TarPtr) :
    Bounded limit (st.store ptr) := by
  constructor
  · intro write member
    rcases List.mem_append.mp member with old | stored
    · exact bounded.writesBelow write old
    · rw [List.mem_singleton.mp stored]
      omega
  · simp only [AnalyseState.store]
    omega

theorem Bounded.quote {st : AnalyseState} (bounded : Bounded limit st) : Bounded limit (analyseQuote st) := by
  rw [analyseQuote_eq]
  refine ⟨?_, bounded.jLe⟩
  intro write member
  dsimp only at member
  split_ifs at member with moved
  · rcases List.mem_append.mp member with old | stored
    · exact bounded.writesBelow write old
    · rw [List.mem_singleton.mp stored]
      have := bounded.jLe
      dsimp only
      omega
  · exact bounded.writesBelow write member

theorem Bounded.start {st next : AnalyseState} (bounded : Bounded limit st)
    (started : analyseStart limit startChar splitChar st = some next) : Bounded limit next := by
  unfold analyseStart at started
  dsimp only at started
  by_cases begin : st.status = false ∧ (charAt st.buffer st.i = startChar ∨ startChar = '\x00')
  · rw [if_pos begin] at started
    by_cases full : st.j ≥ limit
    · rw [if_pos full] at started
      cases started
    · rw [if_neg full] at started
      have raised : Bounded limit { st with status := true } := ⟨bounded.writesBelow, bounded.jLe⟩
      split_ifs at started <;>
        · obtain rfl := Option.some.inj started
          exact raised.store full _
  · rw [if_neg begin] at started
    obtain rfl := Option.some.inj started
    exact bounded

theorem Bounded.split {st : AnalyseState} (bounded : Bounded limit st) :
    Bounded limit (analyseSplit limit endChars splitChar st).state := by
  have cut : Bounded limit { st with buffer := st.buffer.set st.i '\x00' } := ⟨bounded.writesBelow, bounded.jLe⟩
  unfold analyseSplit
  dsimp only
  split_ifs with full
  · exact cut
  · exact cut.store full _
  · exact cut.store full _

theorem Bounded.body {st : AnalyseState} (bounded : Bounded limit st) :
    Bounded limit (analyseBody limit startChar endChars splitChar st).state := by
  unfold analyseBody
  split_ifs with quote
  · exact bounded.quote
  · cases started : analyseStart limit startChar splitChar st with
    | none => exact ⟨bounded.writesBelow, bounded.jLe⟩
    | some next =>
      have kept := bounded.start startChar splitChar started
      dsimp only
      split_ifs
      · exact kept
      · exact ⟨kept.writesBelow, kept.jLe⟩
      · exact kept.split endChars splitChar
      · exact kept

theorem Bounded.loop (fuel : Nat) :
    ∀ st, Bounded limit st → Bounded limit (analyseLoop limit startChar endChars splitChar fuel st).state := by
  induction fuel with
  | zero =>
    intro st bounded
    exact bounded
  | succ fuel ih =>
    intro st bounded
    have passed := bounded.body startChar endChars splitChar
    rw [analyseLoop]
    cases flow : analyseBody limit startChar endChars splitChar st with
    | ret code next => simpa [flow, Flow.state] using passed
    | brk next => simpa [flow, Flow.state] using passed
    | next next =>
      rw [flow] at passed
      exact ih _ ⟨passed.writesBelow, passed.jLe⟩

theorem Bounded.finish {st : AnalyseState} (bounded : Bounded limit st) :
    ∀ write ∈ (analyseFinish limit st).2.writes, write.1 < limit := by
  intro write member
  unfold analyseFinish at member
  dsimp only at member
  split_ifs at member
  · exact bounded.writesBelow write member
  all_goals
    rcases List.mem_append.mp member with old | filled
    · exact bounded.writesBelow write old
    · obtain ⟨index, inRange, rfl⟩ := List.mem_map.mp filled
      have := List.mem_range'_1.mp inRange
      dsimp only
      omega

theorem atCmdStrAnalyse_writes_below (strData : List Char) :
    ∀ write ∈ (atCmdStrAnalyse limit startChar endChars splitChar strData).2.writes, write.1 < limit := by
  have initial : Bounded limit (AnalyseState.start strData) := ⟨by simp [AnalyseState.start], by simp [AnalyseState.start]⟩
  have looped := Bounded.loop startChar endChars splitChar strData.length _ initial
  unfold atCmdStrAnalyse
  cases flow : analyseLoop limit startChar endChars splitChar strData.length (AnalyseState.start strData) with
  | ret code st =>
    rw [flow] at looped
    exact looped.writesBelow
  | brk st =>
    rw [flow] at looped
    exact looped.finish
  | next st =>
    rw [flow] at looped
    exact looped.finish

end Bound

/-! ## The call of at_recv_cmd_handler

With startChar NULL, endChars "#" and splitChar ',' the return code depends only on the commas and the '#'
outside quotes. -/

def unquotedEnd : Bool → List Char → Nat × Bool
  | _, [] => (0, false)
  | inQuote, c :: rest =>
    if c = '"' then unquotedEnd (!inQuote) rest
    else if inQuote = false ∧ c = '#' then (0, true)
    else if inQuote = false ∧ c = ',' then ((unquotedEnd inQuote rest).1 + 1, (unquotedEnd inQuote rest).2)
    else unquotedEnd inQuote rest

def codeFrom (limit started : Nat) (inQuote : Bool) (rest : List Char) : Int :=
  if started + (unquotedEnd inQuote rest).1 > limit then -3
  else if (unquotedEnd inQuote rest).2 = false then -4
  else started + (unquotedEnd inQuote rest).1

section Code

variable {limit : Nat}

theorem codeFrom_quote (started : Nat) (inQuote : Bool) (rest : List Char) :
    codeFrom limit started inQuote ('"' :: rest) = codeFrom limit started (!inQuote) rest := by
  simp [codeFrom, unquotedEnd]

theorem codeFrom_hash {started : Nat} (bounded : started ≤ limit) (rest : List Char) :
    codeFrom limit started false ('#' :: rest) = started := by
  simp [codeFrom, unquotedEnd]
  omega

theorem codeFrom_comma (started : Nat) (rest : List Char) :
    codeFrom limit started false (',' :: rest) = codeFrom limit (started + 1) false rest := by
  have shift : started + ((unquotedEnd false rest).1 + 1) = started + 1 + (unquotedEnd false rest).1 := by omega
  have value : (started : Int) + ((unquotedEnd false rest).1 + 1) = started + 1 + (unquotedEnd false rest).1 := by
    ring
  simp [codeFrom, unquotedEnd, shift, value]

theorem codeFrom_other {c : Char} (started : Nat) (inQuote : Bool) (rest : List Char) (notQuote : c ≠ '"')
    (notHash : ¬(inQuote = false ∧ c = '#')) (notComma : ¬(inQuote = false ∧ c = ',')) :
    codeFrom limit started inQuote (c :: rest) = codeFrom limit started inQuote rest := by
  simp only [codeFrom, unquotedEnd, if_neg notQuote, if_neg notHash, if_neg notComma]

theorem codeFrom_full {started : Nat} (full : limit ≤ started) (rest : List Char) :
    codeFrom limit started false (',' :: rest) = -3 := by
  rw [codeFrom_comma, codeFrom, if_pos (by omega)]

end Code

/-- The state once the current character has been seen by the status block: the first character that is not a
quote starts field 0 there. -/
def AnalyseState.begin (st : AnalyseState) : AnalyseState :=
  if st.status then st else { st with status := true }.store (.at st.i)

section Call

variable {limit : Nat}

theorem strchrFound_hash {c : Char} (notNul : c ≠ '\x00') : strchrFound ['#'] c = decide (c = '#') := by
  simp [strchrFound, notNul]

theorem analyseBody_plain {st : AnalyseState} {c : Char} (here : charAt st.buffer st.i = c)
    (notQuote : c ≠ '"') (notNul : c ≠ '\x00') (room : st.status = false → st.j < limit) :
    analyseBody limit '\x00' ['#'] ',' st =
      if st.inQuote = false ∧ c = '#' then
        .brk { st.begin with buffer := st.buffer.set st.i '\x00', foundEndChar := true }
      else if st.inQuote = false ∧ c = ',' then analyseSplit limit ['#'] ',' st.begin
      else .next st.begin := by
  have started : analyseStart limit '\x00' ',' st = some st.begin := by
    rw [analyseStart_null limit ',' (here ▸ notQuote), AnalyseState.begin]
    cases status : st.status
    · simp only [Bool.false_eq_true, if_false]
      rw [if_neg (by have := room status; omega)]
    · rfl
  have same : st.begin.buffer = st.buffer ∧ st.begin.i = st.i ∧ st.begin.inQuote = st.inQuote ∧
      st.begin.status = true := by
    unfold AnalyseState.begin
    split_ifs with status <;> simp [AnalyseState.store, status]
  obtain ⟨buffer, index, quoted, begun⟩ := same
  rw [analyseBody, if_neg (here ▸ notQuote), started]
  dsimp only
  rw [buffer, index, here, quoted, strchrFound_hash notNul, begun]
  simp

theorem AnalyseState.begin_of_status {st : AnalyseState} (begun : st.status = true) : st.begin = st := by
  simp [AnalyseState.begin, begun]

theorem AnalyseState.begin_eq (st : AnalyseState) :
    st.begin.buffer = st.buffer ∧ st.begin.i = st.i ∧ st.begin.inQuote = st.inQuote ∧
      st.begin.foundEndChar = st.foundEndChar ∧ st.begin.status = true ∧
      st.begin.j = if st.status then st.j else st.j + 1 := by
  unfold AnalyseState.begin
  split_ifs with status <;> simp [AnalyseState.store, status]

theorem analyseLoop_code (positive : 1 ≤ limit) (rest : List Char) :
    ∀ st : AnalyseState, st.buffer.drop st.i = rest → '\x00' ∉ rest → st.foundEndChar = false →
      (st.status = false → st.j = 0) → st.j ≤ limit →
      (analyseResult limit (analyseLoop limit '\x00' ['#'] ',' rest.length st)).1 =
        codeFrom limit (if st.status then st.j else 1) st.inQuote rest := by
  induction rest with
  | nil =>
    intro st _ _ found _ bounded
    have started : (if st.status then st.j else 1) ≤ limit := by split <;> omega
    rw [List.length_nil, analyseLoop, analyseResult, analyseFinish_code, if_pos found]
    simp only [codeFrom, unquotedEnd]
    rw [if_neg (by omega)]
    simp
  | cons c rest ih =>
    intro st read noNul found idle bounded
    have here : charAt st.buffer st.i = c := by simpa using charAt_of_drop read 0
    have after := drop_succ_of_drop read
    have notNul : c ≠ '\x00' := fun nul => noNul (nul ▸ List.mem_cons_self)
    have restNoNul : '\x00' ∉ rest := fun nul => noNul (List.mem_cons_of_mem _ nul)
    rw [List.length_cons, analyseLoop]
    by_cases quote : c = '"'
    · -- a quote toggles in_quote and changes nothing the code depends on
      subst quote
      rw [analyseBody, if_pos here]
      dsimp only
      have toggled := ih { analyseQuote st with i := st.i + 1 }
        (by simp only [analyseQuote_eq]; split <;> simp [drop_set_succ, after]) restNoNul
        (by simpa [analyseQuote_eq] using found) (by simpa [analyseQuote_eq] using idle)
        (by simpa [analyseQuote_eq] using bounded)
      simp only [analyseQuote_eq] at toggled ⊢
      rw [toggled, codeFrom_quote]
    · obtain ⟨buffer, index, quoted, kept, begun, counted⟩ := st.begin_eq
      have room : st.status = false → st.j < limit := fun status => by have := idle status; omega
      have started : st.begin.j = if st.status then st.j else 1 := by
        rw [counted]
        cases status : st.status
        · simp [idle status]
        · rfl
      have startedLe : st.begin.j ≤ limit := by rw [started]; split <;> omega
      rw [analyseBody_plain here quote notNul room]
      by_cases hash : st.inQuote = false ∧ c = '#'
      · -- the end character breaks with found_endChar set and in_quote clear
        obtain ⟨unquoted, rfl⟩ := hash
        rw [if_pos ⟨unquoted, rfl⟩, analyseResult, analyseFinish_code]
        dsimp only
        rw [quoted, unquoted, ← started, codeFrom_hash startedLe]
        rfl
      · rw [if_neg hash]
        by_cases comma : st.inQuote = false ∧ c = ','
        · obtain ⟨unquoted, rfl⟩ := comma
          rw [if_pos ⟨unquoted, rfl⟩, unquoted, ← started]
          unfold analyseSplit
          dsimp only
          by_cases full : st.begin.j ≥ limit
          · rw [if_pos full, analyseResult, codeFrom_full full]
          · -- the next field is stored, blank or at p + 1, and j moves on
            have stored : ∀ ptr, (analyseResult limit (analyseLoop limit '\x00' ['#'] ',' rest.length
                { { st.begin with buffer := st.begin.buffer.set st.begin.i '\x00' }.store ptr with
                  i := st.begin.i + 1 })).1 = codeFrom limit (st.begin.j + 1) false rest := by
              intro ptr
              rw [ih _ (by simp [AnalyseState.store, buffer, index, drop_set_succ, after]) restNoNul
                (by simp [AnalyseState.store, kept, found]) (by simp [AnalyseState.store, begun])
                (by simp only [AnalyseState.store]; omega)]
              simp [AnalyseState.store, begun, quoted, unquoted]
            rw [if_neg full, codeFrom_comma]
            split_ifs <;> exact stored _
        · rw [if_neg comma]
          dsimp only
          rw [ih _ (by simp [buffer, index, after]) restNoNul (by simp [kept, found]) (by simp [begun])
            (by simpa using startedLe)]
          rw [codeFrom_other _ _ _ quote hash comma]
          simp [begun, quoted, started]

theorem atCmdStrAnalyse_code (positive : 1 ≤ limit) (strData : List Char) (cstring : '\x00' ∉ strData) :
    (atCmdStrAnalyse limit '\x00' ['#'] ',' strData).1 =
      if (unquotedEnd false strData).1 + 1 > limit then (-3 : Int)
      else if (unquotedEnd false strData).2 = false then -4
      else ((unquotedEnd false strData).1 + 1 : Nat) := by
  unfold atCmdStrAnalyse
  rw [analyseLoop_code positive strData _ rfl cstring rfl (fun _ => rfl) (Nat.zero_le _)]
  simp only [AnalyseState.start, codeFrom, Bool.false_eq_true, if_false, Nat.add_comm 1]
  push_cast
  rw [Int.add_comm 1]

end Call

end CmdSetting
