import NrfSdk.CmdSetting.Analyse
import Mathlib.Data.List.GetD

/-! What at_cmd_str_analyse leaves in tar_data for a command made of fields: each field free of double
quotes or a whole quoted string, separated by ',' and ended by '#'. The proof follows the loop field by
field; the invariant at a field boundary says which entries already read back their field from the part of
the buffer behind the cursor, which the loop never writes again. -/

namespace CmdSetting

inductive AtField where
  | plain (chars : List Char)
  | quoted (chars : List Char)
  deriving DecidableEq, Repr

namespace AtField

def render : AtField → List Char
  | plain chars => chars
  | quoted chars => '"' :: chars ++ ['"']

def content : AtField → List Char
  | plain chars => chars
  | quoted chars => chars

def Valid : AtField → Prop
  | plain chars => ∀ c ∈ chars, c ≠ '"' ∧ c ≠ ',' ∧ c ≠ '#' ∧ c ≠ '\x00'
  | quoted chars => ∀ c ∈ chars, c ≠ '"' ∧ c ≠ '\x00'

-- the list instance is named: with Batteries in scope a bounded quantifier over Char would otherwise
-- resolve to the instance that enumerates every character
instance decidableValid : (f : AtField) → Decidable f.Valid
  | plain chars => List.decidableBAll (fun c => c ≠ '"' ∧ c ≠ ',' ∧ c ≠ '#' ∧ c ≠ '\x00') chars
  | quoted chars => List.decidableBAll (fun c => c ≠ '"' ∧ c ≠ '\x00') chars

end AtField

def renderFields : List AtField → List Char
  | [] => []
  | [f] => f.render
  | f :: g :: rest => f.render ++ ',' :: renderFields (g :: rest)

/-! ## Reading an entry back -/

def Reads (cut : List Char) (ptr : TarPtr) (content : List Char) : Prop :=
  (ptr = .blank ∧ content = []) ∨ ∃ start tail, ptr = .at start ∧ cut.drop start = content ++ '\x00' :: tail

theorem Reads.append {cut : List Char} {ptr : TarPtr} {content : List Char} (reads : Reads cut ptr content)
    (extra : List Char) : Reads (cut ++ extra) ptr content := by
  rcases reads with blank | ⟨start, tail, rfl, read⟩
  · exact .inl blank
  · have inside : start ≤ cut.length := by
      by_contra outside
      rw [List.drop_of_length_le (by omega)] at read
      simp at read
    refine .inr ⟨start, tail ++ extra, rfl, ?_⟩
    rw [List.drop_append_of_le_length inside, read]
    simp

theorem Reads.read_back {buffer : List Char} {ptr : TarPtr} {content : List Char} (reads : Reads buffer ptr content)
    (clean : '\x00' ∉ content) : cString buffer ptr = content := by
  rcases reads with ⟨rfl, rfl⟩ | ⟨start, tail, rfl, read⟩
  · rfl
  · have kept : ∀ c ∈ content, decide (c ≠ '\x00') = true := by
      intro c member
      simp only [ne_eq, decide_eq_true_eq]
      rintro rfl
      exact clean member
    simp only [cString]
    rw [read, List.takeWhile_append_of_pos kept]
    simp

/-! ## The stores into tar_data -/

theorem tarEntry_append_self (writes : List (Nat × TarPtr)) (index : Nat) (ptr : TarPtr) :
    tarEntry (writes ++ [(index, ptr)]) index = some ptr := by
  simp [tarEntry]

theorem tarEntry_append_of_ne (writes : List (Nat × TarPtr)) {index other : Nat} (ptr : TarPtr)
    (different : other ≠ index) : tarEntry (writes ++ [(other, ptr)]) index = tarEntry writes index := by
  simp [tarEntry, different]

theorem tarEntry_fill (writes : List (Nat × TarPtr)) (first count index : Nat) :
    tarEntry (writes ++ (List.range' first count).map (fun index => (index, TarPtr.blank))) index =
      if first ≤ index ∧ index < first + count then some .blank else tarEntry writes index := by
  induction count generalizing first writes with
  | zero => simp [List.range'_zero]
  | succ count ih =>
    rw [List.range'_succ, List.map_cons, ← List.singleton_append, ← List.append_assoc, ih]
    by_cases same : first = index
    · subst same
      simp [tarEntry_append_self]
    · rw [tarEntry_append_of_ne _ _ same]
      split_ifs <;> first | rfl | omega

def FieldsRead (writes : List (Nat × TarPtr)) (cut : List Char) (contents : List (List Char)) : Prop :=
  ∀ index < contents.length, ∃ ptr, tarEntry writes index = some ptr ∧ Reads cut ptr (contents.getD index [])

theorem FieldsRead.append {writes : List (Nat × TarPtr)} {cut : List Char} {contents : List (List Char)}
    (read : FieldsRead writes cut contents) (extra : List Char) : FieldsRead writes (cut ++ extra) contents := by
  intro index below
  obtain ⟨ptr, entry, reads⟩ := read index below
  exact ⟨ptr, entry, reads.append extra⟩

theorem FieldsRead.store {writes : List (Nat × TarPtr)} {cut : List Char} {contents : List (List Char)}
    (read : FieldsRead writes cut contents) {index : Nat} (past : contents.length ≤ index) (ptr : TarPtr) :
    FieldsRead (writes ++ [(index, ptr)]) cut contents := by
  intro other below
  rw [tarEntry_append_of_ne _ _ (by omega)]
  exact read other below

theorem FieldsRead.snoc {writes : List (Nat × TarPtr)} {cut : List Char} {contents : List (List Char)}
    (read : FieldsRead writes cut contents) {ptr : TarPtr} {content : List Char}
    (entry : tarEntry writes contents.length = some ptr) (reads : Reads cut ptr content) :
    FieldsRead writes cut (contents ++ [content]) := by
  intro index below
  rw [List.length_append, List.length_singleton] at below
  rcases Nat.lt_succ_iff_lt_or_eq.mp below with before | rfl
  · obtain ⟨other, found, readsOther⟩ := read index before
    exact ⟨other, found, by rwa [List.getD_append _ _ _ _ before]⟩
  · exact ⟨ptr, entry, by simpa using reads⟩

/-! ## One character at a time, for the call of at_recv_cmd_handler -/

section Passes

variable {limit : Nat}

theorem analyseLoop_inside {more : List Char} (chars : List Char) :
    ∀ st : AnalyseState, st.buffer.drop st.i = chars ++ more → st.status = true →
      (∀ c ∈ chars, c ≠ '"' ∧ c ≠ '\x00' ∧ (st.inQuote = false → c ≠ '#' ∧ c ≠ ',')) →
      analyseLoop limit '\x00' ['#'] ',' chars.length st = .next { st with i := st.i + chars.length } := by
  induction chars with
  | nil =>
    intro st _ _ _
    simp [analyseLoop]
  | cons c chars ih =>
    intro st read begun plain
    obtain ⟨notQuote, notNul, outside⟩ := plain c List.mem_cons_self
    have here : charAt st.buffer st.i = c := by simpa using charAt_of_drop read 0
    rw [List.length_cons, analyseLoop, analyseBody_plain here notQuote notNul (by simp [begun]),
      AnalyseState.begin_of_status begun, if_neg (fun hash => (outside hash.1).1 hash.2),
      if_neg (fun comma => (outside comma.1).2 comma.2)]
    dsimp only
    rw [ih { st with i := st.i + 1 } (drop_succ_of_drop read) begun
      (fun other member => plain other (List.mem_cons_of_mem _ member))]
    simp only [Nat.add_assoc, Nat.add_comm 1]

theorem analyseLoop_quote {st : AnalyseState} {rest : List Char} (read : st.buffer.drop st.i = '"' :: rest) :
    analyseLoop limit '\x00' ['#'] ',' 1 st =
      .next { st with
        buffer := if st.inQuote then st.buffer.set st.i '\x00' else st.buffer
        writes := if st.inQuote = false ∧ st.status = true ∧ st.j > 0 then
          st.writes ++ [(st.j - 1, .at (st.i + 1))] else st.writes
        inQuote := !st.inQuote
        i := st.i + 1 } := by
  have here : charAt st.buffer st.i = '"' := by simpa using charAt_of_drop read 0
  rw [analyseLoop, analyseBody, if_pos here, analyseQuote_eq]
  rfl

theorem analyseLoop_comma {st : AnalyseState} {more : List Char} (read : st.buffer.drop st.i = ',' :: more)
    (begun : st.status = true) (unquoted : st.inQuote = false) (room : st.j < limit) :
    analyseLoop limit '\x00' ['#'] ',' 1 st =
      .next { ({ st with buffer := st.buffer.set st.i '\x00' }.store
        (if strchrFound ['#'] (more.getD 0 '\x00') ∨ more.getD 0 '\x00' = ',' then .blank else .at (st.i + 1))) with
        i := st.i + 1 } := by
  have here : charAt st.buffer st.i = ',' := by simpa using charAt_of_drop read 0
  have ahead : charAt (st.buffer.set st.i '\x00') (st.i + 1) = more.getD 0 '\x00' := by
    simpa using charAt_of_drop ((drop_set_succ st.buffer st.i '\x00').trans (drop_succ_of_drop read)) 0
  rw [analyseLoop, analyseBody_plain here (by decide) (by decide) (by simp [begun]),
    AnalyseState.begin_of_status begun, if_neg (by simp), if_pos ⟨unquoted, rfl⟩]
  unfold analyseSplit
  dsimp only
  rw [if_neg (by omega), ahead]
  split_ifs <;> rfl

theorem analyseLoop_hash {st : AnalyseState} {rest : List Char} (read : st.buffer.drop st.i = '#' :: rest)
    (begun : st.status = true) (unquoted : st.inQuote = false) :
    analyseLoop limit '\x00' ['#'] ',' 1 st =
      .brk { st with buffer := st.buffer.set st.i '\x00', foundEndChar := true } := by
  have here : charAt st.buffer st.i = '#' := by simpa using charAt_of_drop read 0
  rw [analyseLoop, analyseBody_plain here (by decide) (by decide) (by simp [begun]),
    AnalyseState.begin_of_status begun, if_pos ⟨unquoted, rfl⟩]

theorem analyseLoop_begin (fuel : Nat) {st : AnalyseState} {c : Char} (here : charAt st.buffer st.i = c)
    (notQuote : c ≠ '"') (notNul : c ≠ '\x00') (room : st.j < limit) :
    analyseLoop limit '\x00' ['#'] ',' (fuel + 1) st = analyseLoop limit '\x00' ['#'] ',' (fuel + 1) st.begin := by
  obtain ⟨buffer, index, quoted, _, begun, _⟩ := st.begin_eq
  have hereBegun : charAt st.begin.buffer st.begin.i = c := by rw [buffer, index, here]
  rw [analyseLoop, analyseLoop, analyseBody_plain here notQuote notNul (fun _ => room),
    analyseBody_plain hereBegun notQuote notNul (by simp [begun]), AnalyseState.begin_of_status begun, quoted,
    buffer, index]

end Passes

/-! ## The invariants at the field boundaries -/

theorem set_of_drop {buffer rest : List Char} {i : Nat} {c : Char} (read : buffer.drop i = c :: rest) (x : Char) :
    buffer.set i x = buffer.take i ++ x :: rest := by
  have inside : i < buffer.length := by
    by_contra outside
    rw [List.drop_of_length_le (by omega)] at read
    cases read
  rw [List.set_eq_take_append_cons_drop, if_pos inside, drop_succ_of_drop read]

theorem length_take_of_ne_nil {buffer : List Char} {i : Nat} (inside : buffer.drop i ≠ []) :
    (buffer.take i).length = i := by
  have within : i < buffer.length := by
    by_contra outside
    exact inside (List.drop_of_length_le (by omega))
  simp only [List.length_take]
  omega

theorem take_set_of_drop {buffer rest : List Char} {i : Nat} {c : Char} (read : buffer.drop i = c :: rest)
    (x : Char) : (buffer.set i x).take (i + 1) = buffer.take i ++ [x] := by
  rw [set_of_drop read, List.take_append, length_take_of_ne_nil (by simp [read])]
  simp

theorem take_add_of_drop {buffer chars more : List Char} {i : Nat} (read : buffer.drop i = chars ++ more) :
    buffer.take (i + chars.length) = buffer.take i ++ chars := by
  rw [List.take_add, read, List.take_left]

def Pending (ptr : TarPtr) (ahead : List Char) (index : Nat) : Prop :=
  ptr = .at index ∨ (ptr = .blank ∧ (strchrFound ['#'] (ahead.getD 0 '\x00') ∨ ahead.getD 0 '\x00' = ','))

/-- At the start of a field after the first: the fields `done` read back, the field ahead has its entry. -/
structure Boundary (st : AnalyseState) (done : List (List Char)) (ahead : List Char) : Prop where
  begun : st.status = true
  unquoted : st.inQuote = false
  notFound : st.foundEndChar = false
  count : st.j = done.length + 1
  read : st.buffer.drop st.i = ahead
  doneRead : FieldsRead st.writes (st.buffer.take st.i) done
  pending : ∃ ptr, tarEntry st.writes done.length = some ptr ∧ Pending ptr ahead st.i

/-- Inside the quotes of a field, its entry pointing at the cursor. -/
structure InQuotes (st : AnalyseState) (done : List (List Char)) : Prop where
  begun : st.status = true
  quoted : st.inQuote = true
  notFound : st.foundEndChar = false
  count : st.j = done.length + 1
  doneRead : FieldsRead st.writes (st.buffer.take st.i) done
  current : tarEntry st.writes done.length = some (.at st.i)

/-- At the separator after a field: its entry reads `content` once the NUL is written at the cursor. -/
structure AtSeparator (st : AnalyseState) (done : List (List Char)) (content : List Char) : Prop where
  begun : st.status = true
  unquoted : st.inQuote = false
  notFound : st.foundEndChar = false
  count : st.j = done.length + 1
  doneRead : FieldsRead st.writes (st.buffer.take st.i) done
  current : ∃ ptr, tarEntry st.writes done.length = some ptr ∧ Reads (st.buffer.take st.i ++ ['\x00']) ptr content

/-- After the '#' outside quotes. -/
structure Ended (st : AnalyseState) (contents : List (List Char)) : Prop where
  unquoted : st.inQuote = false
  found : st.foundEndChar = true
  count : st.j = contents.length
  fieldsRead : FieldsRead st.writes st.buffer contents

/-- Before the first character that is not a quote. -/
structure Idle (st : AnalyseState) : Prop where
  idle : st.status = false
  notFound : st.foundEndChar = false
  count : st.j = 0
  noWrites : st.writes = []

section Fields

variable {limit : Nat}

theorem AtSeparator.comma {st : AnalyseState} {done : List (List Char)} {content more : List Char}
    (sep : AtSeparator st done content) (read : st.buffer.drop st.i = ',' :: more) (room : st.j < limit) :
    ∃ next, analyseLoop limit '\x00' ['#'] ',' 1 st = .next next ∧ Boundary next (done ++ [content]) more := by
  obtain ⟨ptr, entry, reads⟩ := sep.current
  have stored : st.j = (done ++ [content]).length := by simp [sep.count]
  refine ⟨_, analyseLoop_comma read sep.begun sep.unquoted room, ?_⟩
  constructor
  · simpa using sep.begun
  · simpa using sep.unquoted
  · simpa using sep.notFound
  · simp [sep.count]
  · simpa using (drop_set_succ _ _ _).trans (drop_succ_of_drop read)
  · dsimp only
    rw [AnalyseState.store_writes, AnalyseState.store_buffer, take_set_of_drop read]
    exact ((sep.doneRead.append ['\x00']).snoc entry reads).store stored.ge _
  · dsimp only
    rw [AnalyseState.store_writes, ← stored, tarEntry_append_self]
    refine ⟨_, rfl, ?_⟩
    unfold Pending
    split_ifs with blank
    · exact .inr ⟨rfl, blank⟩
    · exact .inl rfl

theorem AtSeparator.hash {st : AnalyseState} {done : List (List Char)} {content rest : List Char}
    (sep : AtSeparator st done content) (read : st.buffer.drop st.i = '#' :: rest) :
    ∃ next, analyseLoop limit '\x00' ['#'] ',' 1 st = .brk next ∧ Ended next (done ++ [content]) := by
  obtain ⟨ptr, entry, reads⟩ := sep.current
  refine ⟨_, analyseLoop_hash read sep.begun sep.unquoted, ?_⟩
  constructor
  · exact sep.unquoted
  · rfl
  · simp [sep.count]
  · dsimp only
    rw [set_of_drop read, ← List.singleton_append, ← List.append_assoc]
    exact ((sep.doneRead.append ['\x00']).snoc entry reads).append rest

theorem Boundary.plain {st : AnalyseState} {done : List (List Char)} {chars more : List Char} {sep : Char}
    (bound : Boundary st done (chars ++ sep :: more)) (valid : (AtField.plain chars).Valid) :
    ∃ next, analyseLoop limit '\x00' ['#'] ',' chars.length st = .next next ∧
      next.buffer.drop next.i = sep :: more ∧ AtSeparator next done chars := by
  have clean : ∀ c ∈ chars, c ≠ '"' ∧ c ≠ '\x00' ∧ (st.inQuote = false → c ≠ '#' ∧ c ≠ ',') :=
    fun c member => ⟨(valid c member).1, (valid c member).2.2.2,
      fun _ => ⟨(valid c member).2.2.1, (valid c member).2.1⟩⟩
  have cut : st.buffer.take (st.i + chars.length) = st.buffer.take st.i ++ chars := take_add_of_drop bound.read
  have behind : (st.buffer.take st.i).length = st.i := length_take_of_ne_nil (by simp [bound.read])
  obtain ⟨ptr, entry, pending⟩ := bound.pending
  refine ⟨_, analyseLoop_inside chars st bound.read bound.begun clean, ?_, ?_⟩
  · dsimp only
    rw [← List.drop_drop, bound.read, List.drop_left]
  · refine ⟨bound.begun, bound.unquoted, bound.notFound, bound.count, ?_, ptr, entry, ?_⟩
    · dsimp only
      rw [cut]
      exact bound.doneRead.append chars
    · dsimp only
      rw [cut]
      rcases pending with rfl | ⟨rfl, separator⟩
      · refine .inr ⟨st.i, [], rfl, ?_⟩
        rw [List.append_assoc, List.drop_left' behind]
      · -- a blank entry: the field is empty, its first character being the separator
        cases chars with
        | nil => exact .inl ⟨rfl, rfl⟩
        | cons c chars =>
          obtain ⟨_, notComma, notHash, notNul⟩ := valid c List.mem_cons_self
          simp [strchrFound, notComma, notHash, notNul] at separator

theorem InQuotes.close {st : AnalyseState} {done : List (List Char)} {chars more : List Char}
    (inQuotes : InQuotes st done) (read : st.buffer.drop st.i = chars ++ '"' :: more)
    (valid : (AtField.quoted chars).Valid) :
    ∃ next, analyseLoop limit '\x00' ['#'] ',' (chars.length + 1) st = .next next ∧
      next.buffer.drop next.i = more ∧ AtSeparator next done chars := by
  have clean : ∀ c ∈ chars, c ≠ '"' ∧ c ≠ '\x00' ∧ (st.inQuote = false → c ≠ '#' ∧ c ≠ ',') :=
    fun c member => ⟨(valid c member).1, (valid c member).2, fun outside => by simp [inQuotes.quoted] at outside⟩
  have atQuote : st.buffer.drop (st.i + chars.length) = '"' :: more := by
    rw [← List.drop_drop, read, List.drop_left]
  have cut : st.buffer.take (st.i + chars.length) = st.buffer.take st.i ++ chars := take_add_of_drop read
  have behind : (st.buffer.take st.i).length = st.i := length_take_of_ne_nil (by simp [read])
  rw [analyseLoop_add, analyseLoop_inside chars st read inQuotes.begun clean]
  dsimp only
  rw [analyseLoop_quote atQuote]
  refine ⟨_, rfl, ?_, ?_⟩
  · simp only [inQuotes.quoted, if_true]
    exact (drop_set_succ _ _ _).trans (drop_succ_of_drop atQuote)
  · refine ⟨inQuotes.begun, by simp [inQuotes.quoted], inQuotes.notFound, inQuotes.count, ?_, .at st.i, ?_, ?_⟩
    · simp only [inQuotes.quoted, if_true]
      rw [take_set_of_drop atQuote, cut]
      exact (inQuotes.doneRead.append _).append _
    · simpa [inQuotes.quoted] using inQuotes.current
    · simp only [inQuotes.quoted, if_true]
      rw [take_set_of_drop atQuote, cut]
      refine .inr ⟨st.i, ['\x00'], rfl, ?_⟩
      rw [List.append_assoc, List.append_assoc, List.drop_left' behind]
      simp

theorem Boundary.quoted {st : AnalyseState} {done : List (List Char)} {chars more : List Char} {sep : Char}
    (bound : Boundary st done ('"' :: chars ++ '"' :: sep :: more)) (valid : (AtField.quoted chars).Valid) :
    ∃ next, analyseLoop limit '\x00' ['#'] ',' (chars.length + 2) st = .next next ∧
      next.buffer.drop next.i = sep :: more ∧ AtSeparator next done chars := by
  have moved : st.j - 1 = done.length := by rw [bound.count]; rfl
  have opening : analyseLoop limit '\x00' ['#'] ',' 1 st =
      .next { st with writes := st.writes ++ [(done.length, .at (st.i + 1))], inQuote := true, i := st.i + 1 } := by
    rw [analyseLoop_quote bound.read, bound.unquoted, bound.begun, moved]
    simp [bound.count]
  have opened : InQuotes { st with
      writes := st.writes ++ [(done.length, .at (st.i + 1))], inQuote := true, i := st.i + 1 } done := by
    refine ⟨bound.begun, rfl, bound.notFound, bound.count, ?_, ?_⟩
    · have cut : st.buffer.take (st.i + 1) = st.buffer.take st.i ++ ['"'] :=
        take_add_of_drop (show st.buffer.drop st.i = ['"'] ++ (chars ++ '"' :: sep :: more) from bound.read)
      dsimp only
      rw [cut]
      exact (bound.doneRead.append _).store le_rfl _
    · exact tarEntry_append_self _ _ _
  have inside : st.buffer.drop (st.i + 1) = chars ++ '"' :: sep :: more := by
    simpa using drop_succ_of_drop bound.read
  obtain ⟨next, closing, ahead, sep⟩ := opened.close inside valid
  refine ⟨next, ?_, ahead, sep⟩
  rw [show chars.length + 2 = 1 + (chars.length + 1) by omega, analyseLoop_add, opening]
  exact closing

theorem Boundary.field {st : AnalyseState} {done : List (List Char)} {more : List Char} {sep : Char}
    (f : AtField) (bound : Boundary st done (f.render ++ sep :: more)) (valid : f.Valid) :
    ∃ next, analyseLoop limit '\x00' ['#'] ',' f.render.length st = .next next ∧
      next.buffer.drop next.i = sep :: more ∧ AtSeparator next done f.content := by
  cases f with
  | plain chars => exact bound.plain valid
  | quoted chars =>
    have read : st.buffer.drop st.i = '"' :: chars ++ '"' :: sep :: more := by
      simpa [AtField.render] using bound.read
    have length : (AtField.quoted chars).render.length = chars.length + 2 := by simp [AtField.render]
    rw [length]
    exact Boundary.quoted ⟨bound.begun, bound.unquoted, bound.notFound, bound.count, read, bound.doneRead,
      by simpa [AtField.render] using bound.pending⟩ valid

theorem Idle.begin {st : AnalyseState} {c : Char} {rest : List Char} (idle : Idle st)
    (read : st.buffer.drop st.i = c :: rest) (notQuote : c ≠ '"') (notNul : c ≠ '\x00') (positive : 1 ≤ limit) :
    (∀ fuel, analyseLoop limit '\x00' ['#'] ',' (fuel + 1) st = analyseLoop limit '\x00' ['#'] ',' (fuel + 1) st.begin) ∧
      st.begin = { st with status := true, j := 1, writes := [(0, .at st.i)] } := by
  have here : charAt st.buffer st.i = c := by simpa using charAt_of_drop read 0
  refine ⟨fun fuel => analyseLoop_begin fuel here notQuote notNul (by rw [idle.count]; omega), ?_⟩
  simp [AnalyseState.begin, AnalyseState.store, idle.idle, idle.count, idle.noWrites]

theorem Idle.boundary {st : AnalyseState} {c : Char} {rest : List Char} (idle : Idle st)
    (unquoted : st.inQuote = false) (read : st.buffer.drop st.i = c :: rest) (notQuote : c ≠ '"')
    (notNul : c ≠ '\x00') (positive : 1 ≤ limit) :
    (∀ fuel, analyseLoop limit '\x00' ['#'] ',' (fuel + 1) st = analyseLoop limit '\x00' ['#'] ',' (fuel + 1) st.begin) ∧
      Boundary st.begin [] (c :: rest) := by
  obtain ⟨runs, begun⟩ := idle.begin read notQuote notNul positive
  refine ⟨runs, ?_⟩
  rw [begun]
  exact ⟨rfl, unquoted, idle.notFound, rfl, read, fun _ below => absurd below (by simp), .at st.i,
    tarEntry_append_self [] 0 _, .inl rfl⟩

theorem Idle.inQuotes {st : AnalyseState} {c : Char} {rest : List Char} (idle : Idle st)
    (quoted : st.inQuote = true) (read : st.buffer.drop st.i = c :: rest) (notQuote : c ≠ '"')
    (notNul : c ≠ '\x00') (positive : 1 ≤ limit) :
    (∀ fuel, analyseLoop limit '\x00' ['#'] ',' (fuel + 1) st = analyseLoop limit '\x00' ['#'] ',' (fuel + 1) st.begin) ∧
      InQuotes st.begin [] := by
  obtain ⟨runs, begun⟩ := idle.begin read notQuote notNul positive
  refine ⟨runs, ?_⟩
  rw [begun]
  exact ⟨rfl, quoted, idle.notFound, rfl, fun _ below => absurd below (by simp), tarEntry_append_self [] 0 _⟩

theorem Idle.separator {st : AnalyseState} {sep : Char} {more : List Char} (idle : Idle st)
    (unquoted : st.inQuote = false) (read : st.buffer.drop st.i = sep :: more) (sepIs : sep = ',' ∨ sep = '#')
    (positive : 1 ≤ limit) :
    (∀ fuel, analyseLoop limit '\x00' ['#'] ',' (fuel + 1) st = analyseLoop limit '\x00' ['#'] ',' (fuel + 1) st.begin) ∧
      st.begin.buffer.drop st.begin.i = sep :: more ∧ AtSeparator st.begin [] [] := by
  have notQuote : sep ≠ '"' := by rcases sepIs with rfl | rfl <;> decide
  have notNul : sep ≠ '\x00' := by rcases sepIs with rfl | rfl <;> decide
  obtain ⟨runs, bound⟩ := idle.boundary unquoted read notQuote notNul positive
  obtain ⟨next, passes, ahead, sepAt⟩ : ∃ next, analyseLoop limit '\x00' ['#'] ',' 0 st.begin = .next next ∧
      next.buffer.drop next.i = sep :: more ∧ AtSeparator next [] [] :=
    Boundary.plain (show Boundary st.begin [] ([] ++ sep :: more) from bound) (by simp [AtField.Valid])
  obtain rfl : st.begin = next := Flow.next.inj passes
  exact ⟨runs, ahead, sepAt⟩

theorem Idle.field {st : AnalyseState} {more : List Char} {sep : Char} (f : AtField) (idle : Idle st)
    (unquoted : st.inQuote = false) (read : st.buffer.drop st.i = f.render ++ sep :: more) (valid : f.Valid)
    (sepIs : sep = ',' ∨ sep = '#') (positive : 1 ≤ limit) :
    ∃ next, (∀ fuel, analyseLoop limit '\x00' ['#'] ',' (f.render.length + (fuel + 1)) st =
        analyseLoop limit '\x00' ['#'] ',' (fuel + 1) next) ∧
      next.buffer.drop next.i = sep :: more ∧ AtSeparator next [] f.content := by
  cases f with
  | plain chars =>
    cases chars with
    | nil =>
      obtain ⟨runs, ahead, sepAt⟩ := idle.separator unquoted read sepIs positive
      exact ⟨st.begin, fun fuel => by simpa [AtField.render] using runs fuel, ahead, sepAt⟩
    | cons c chars =>
      -- the first character starts the field where it stands
      obtain ⟨notQuote, _, _, notNul⟩ := valid c List.mem_cons_self
      obtain ⟨runs, bound⟩ := idle.boundary unquoted read notQuote notNul positive
      obtain ⟨next, passes, ahead, sepAt⟩ := @Boundary.plain limit _ _ _ _ _ bound valid
      refine ⟨next, fun fuel => ?_, ahead, sepAt⟩
      have length : (AtField.plain (c :: chars)).render.length + (fuel + 1) = (chars.length + 1 + fuel) + 1 := by
        simp [AtField.render]
        omega
      rw [length, runs, show chars.length + 1 + fuel + 1 = (c :: chars).length + (fuel + 1) by simp; omega,
        analyseLoop_add, passes]
  | quoted chars =>
    -- the opening quote comes before status is set, so it stores nothing
    have openRead : st.buffer.drop st.i = '"' :: (chars ++ '"' :: sep :: more) := by
      simpa [AtField.render] using read
    have opening : analyseLoop limit '\x00' ['#'] ',' 1 st = .next { st with inQuote := true, i := st.i + 1 } := by
      rw [analyseLoop_quote openRead]
      simp [unquoted, idle.idle]
    have idleOpen : Idle { st with inQuote := true, i := st.i + 1 } :=
      ⟨idle.idle, idle.notFound, idle.count, idle.noWrites⟩
    have inside : st.buffer.drop (st.i + 1) = chars ++ '"' :: sep :: more := drop_succ_of_drop openRead
    cases chars with
    | nil =>
      -- an empty quoted field 0: the closing quote too comes before status is set
      have closing : analyseLoop limit '\x00' ['#'] ',' 1 { st with inQuote := true, i := st.i + 1 } =
          .next { st with buffer := st.buffer.set (st.i + 1) '\x00', inQuote := false, i := st.i + 1 + 1 } := by
        rw [analyseLoop_quote (show st.buffer.drop (st.i + 1) = '"' :: sep :: more from inside)]
        simp
      have idleClosed :
          Idle { st with buffer := st.buffer.set (st.i + 1) '\x00', inQuote := false, i := st.i + 1 + 1 } :=
        ⟨idle.idle, idle.notFound, idle.count, idle.noWrites⟩
      have atSep : (st.buffer.set (st.i + 1) '\x00').drop (st.i + 1 + 1) = sep :: more :=
        (drop_set_succ _ _ _).trans (drop_succ_of_drop inside)
      obtain ⟨runs, ahead, sepAt⟩ := idleClosed.separator rfl atSep sepIs positive
      refine ⟨_, fun fuel => ?_, ahead, sepAt⟩
      rw [show (AtField.quoted []).render.length + (fuel + 1) = 1 + (1 + (fuel + 1)) by simp [AtField.render]; omega,
        analyseLoop_add, opening]
      dsimp only
      rw [analyseLoop_add, closing]
      exact runs fuel
    | cons c chars =>
      -- the first character inside the quotes starts the field there
      obtain ⟨notQuote, notNul⟩ := valid c List.mem_cons_self
      obtain ⟨runs, inQuotes⟩ := idleOpen.inQuotes rfl inside notQuote notNul positive
      have insideBegun : { st with inQuote := true, i := st.i + 1 }.begin.buffer.drop
          { st with inQuote := true, i := st.i + 1 }.begin.i = (c :: chars) ++ '"' :: sep :: more := by
        obtain ⟨buffer, index, _⟩ := AnalyseState.begin_eq { st with inQuote := true, i := st.i + 1 }
        rw [buffer, index]
        exact inside
      obtain ⟨next, passes, ahead, sepAt⟩ := @InQuotes.close limit _ _ _ _ inQuotes insideBegun valid
      refine ⟨next, fun fuel => ?_, ahead, sepAt⟩
      rw [show (AtField.quoted (c :: chars)).render.length + (fuel + 1) = 1 + ((chars.length + 2 + fuel) + 1) by
          simp [AtField.render]; omega, analyseLoop_add, opening]
      dsimp only
      rw [runs, show chars.length + 2 + fuel + 1 = ((c :: chars).length + 1) + (fuel + 1) by simp; omega,
        analyseLoop_add, passes]

theorem Boundary.fields {rest : List Char} (fs : List AtField) (nonempty : fs ≠ []) (valid : ∀ f ∈ fs, f.Valid) :
    ∀ st done, Boundary st done (renderFields fs ++ '#' :: rest) → done.length + fs.length ≤ limit →
      ∃ final, (∀ fuel, analyseLoop limit '\x00' ['#'] ',' ((renderFields fs).length + 1 + fuel) st = .brk final) ∧
        Ended final (done ++ fs.map AtField.content) := by
  induction fs with
  | nil => exact absurd rfl nonempty
  | cons f gs ih =>
    intro st done bound fits
    cases gs with
    | nil =>
      -- the last field, ended by the '#'
      obtain ⟨next, passes, ahead, sep⟩ := @Boundary.field limit _ _ _ _ f bound (valid f List.mem_cons_self)
      obtain ⟨final, ends, ended⟩ := @AtSeparator.hash limit _ _ _ _ sep ahead
      refine ⟨final, fun fuel => ?_, by simpa using ended⟩
      rw [show (renderFields [f]).length + 1 + fuel = f.render.length + (1 + fuel) by simp [renderFields]; omega,
        analyseLoop_add, passes]
      dsimp only
      rw [analyseLoop_add, ends]
    | cons g gs =>
      -- a field and its ',', then the fields after it
      have read : st.buffer.drop st.i = f.render ++ ',' :: (renderFields (g :: gs) ++ '#' :: rest) := by
        simpa [renderFields] using bound.read
      obtain ⟨next, passes, ahead, sep⟩ := @Boundary.field limit _ _ _ _ f
        ⟨bound.begun, bound.unquoted, bound.notFound, bound.count, read, bound.doneRead,
          by simpa [renderFields] using bound.pending⟩ (valid f List.mem_cons_self)
      have room : next.j < limit := by
        rw [sep.count]
        simp only [List.length_cons] at fits
        omega
      obtain ⟨after, comma, nextBound⟩ := sep.comma ahead room
      obtain ⟨final, ends, ended⟩ := ih (by simp) (fun f member => valid f (List.mem_cons_of_mem _ member)) after
        (done ++ [f.content]) nextBound (by simp only [List.length_append, List.length_cons, List.length_nil] at fits ⊢; omega)
      refine ⟨final, fun fuel => ?_, by simpa using ended⟩
      rw [show (renderFields (f :: g :: gs)).length + 1 + fuel =
          f.render.length + (1 + ((renderFields (g :: gs)).length + 1 + fuel)) by simp [renderFields]; omega,
        analyseLoop_add, passes]
      dsimp only
      rw [analyseLoop_add, comma]
      exact ends fuel

theorem analyseLoop_fields {fs : List AtField} (nonempty : fs ≠ []) (valid : ∀ f ∈ fs, f.Valid)
    (fits : fs.length ≤ limit) (rest : List Char) :
    ∃ final, analyseLoop limit '\x00' ['#'] ',' (renderFields fs ++ '#' :: rest).length
        (AnalyseState.start (renderFields fs ++ '#' :: rest)) = .brk final ∧ Ended final (fs.map AtField.content) := by
  obtain ⟨f, gs, rfl⟩ := List.exists_cons_of_ne_nil nonempty
  have positive : 1 ≤ limit := by simp only [List.length_cons] at fits; omega
  have idle : Idle (AnalyseState.start (renderFields (f :: gs) ++ '#' :: rest)) := ⟨rfl, rfl, rfl, rfl⟩
  cases gs with
  | nil =>
    have read : (AnalyseState.start (renderFields [f] ++ '#' :: rest)).buffer.drop
        (AnalyseState.start (renderFields [f] ++ '#' :: rest)).i = f.render ++ '#' :: rest := by
      simp [renderFields, AnalyseState.start]
    obtain ⟨next, runs, ahead, sep⟩ := @Idle.field limit _ _ _ f idle rfl read (valid f List.mem_cons_self)
      (.inr rfl) positive
    obtain ⟨final, ends, ended⟩ := @AtSeparator.hash limit _ _ _ _ sep ahead
    refine ⟨final, ?_, by simpa using ended⟩
    rw [show (renderFields [f] ++ '#' :: rest).length = f.render.length + (rest.length + 1) by
        simp only [renderFields, List.length_append, List.length_cons], runs, Nat.add_comm, analyseLoop_add, ends]
  | cons g gs =>
    have read : (AnalyseState.start (renderFields (f :: g :: gs) ++ '#' :: rest)).buffer.drop
        (AnalyseState.start (renderFields (f :: g :: gs) ++ '#' :: rest)).i =
          f.render ++ ',' :: (renderFields (g :: gs) ++ '#' :: rest) := by
      simp [renderFields, AnalyseState.start]
    obtain ⟨next, runs, ahead, sep⟩ := @Idle.field limit _ _ _ f idle rfl read (valid f List.mem_cons_self)
      (.inl rfl) positive
    have room : next.j < limit := by
      rw [sep.count]
      simp only [List.length_cons] at fits
      simp only [List.length_nil]
      omega
    obtain ⟨after, comma, bound⟩ := sep.comma ahead room
    have fitsAfter : [f.content].length + (g :: gs).length ≤ limit := by
      simp only [List.length_cons, List.length_nil] at fits ⊢
      omega
    obtain ⟨final, ends, ended⟩ := Boundary.fields (g :: gs) (by simp)
      (fun f member => valid f (List.mem_cons_of_mem _ member)) after [f.content] bound fitsAfter
    refine ⟨final, ?_, by simpa using ended⟩
    rw [show (renderFields (f :: g :: gs) ++ '#' :: rest).length =
        f.render.length + ((renderFields (g :: gs)).length + 1 + rest.length + 1) by simp [renderFields]; omega,
      runs, Nat.add_comm _ 1, analyseLoop_add, comma]
    exact ends rest.length

theorem AtField.content_clean {f : AtField} (valid : f.Valid) : '\x00' ∉ f.content := by
  cases f with
  | plain chars => exact fun nul => (valid _ nul).2.2.2 rfl
  | quoted chars => exact fun nul => (valid _ nul).2 rfl

theorem atCmdStrAnalyse_fields {fs : List AtField} (nonempty : fs ≠ []) (valid : ∀ f ∈ fs, f.Valid)
    (fits : fs.length ≤ limit) (rest : List Char) :
    (atCmdStrAnalyse limit '\x00' ['#'] ',' (renderFields fs ++ '#' :: rest)).1 = fs.length ∧
      ∀ index < limit,
        (tarEntry (atCmdStrAnalyse limit '\x00' ['#'] ',' (renderFields fs ++ '#' :: rest)).2.writes index).map
            (cString (atCmdStrAnalyse limit '\x00' ['#'] ',' (renderFields fs ++ '#' :: rest)).2.buffer) =
          some ((fs.map AtField.content).getD index []) := by
  obtain ⟨final, runs, ended⟩ := analyseLoop_fields nonempty valid fits rest
  unfold atCmdStrAnalyse
  rw [runs, analyseResult, analyseFinish, if_neg (by simp [ended.found])]
  dsimp only
  rw [if_neg (by simp [ended.unquoted])]
  refine ⟨by simp [ended.count], ?_⟩
  intro index below
  rw [tarEntry_fill, ended.count, List.length_map]
  split_ifs with filled
  · -- past the fields: the entries set to blank
    have past : (fs.map AtField.content).length ≤ index := by simpa using filled.1
    rw [Option.map_some, List.getD_eq_default _ _ past]
    rfl
  · have inField : index < fs.length := by omega
    obtain ⟨ptr, entry, reads⟩ := ended.fieldsRead index (by simpa using inField)
    have clean : '\x00' ∉ (fs.map AtField.content).getD index [] := by
      rw [List.getD_eq_getElem _ _ (by simpa using inField), List.getElem_map]
      exact AtField.content_clean (valid _ (List.getElem_mem _))
    rw [entry, Option.map_some, reads.read_back clean]

example : (List.range 4).map (fun index =>
      (tarEntry (atCmdStrAnalyse 4 '\x00' ['#'] ',' "AT,\"x,#\",,#z".toList).2.writes index).map
        (cString (atCmdStrAnalyse 4 '\x00' ['#'] ',' "AT,\"x,#\",,#z".toList).2.buffer)) =
    [some "AT".toList, some "x,#".toList, some [], some []] := by
  decide

/-! ## The code of a command of fields -/

theorem unquotedEnd_skip (inQuote : Bool) (chars : List Char)
    (clean : ∀ c ∈ chars, c ≠ '"' ∧ (inQuote = false → c ≠ '#' ∧ c ≠ ',')) (more : List Char) :
    unquotedEnd inQuote (chars ++ more) = unquotedEnd inQuote more := by
  induction chars with
  | nil => rfl
  | cons c chars ih =>
    obtain ⟨notQuote, outside⟩ := clean c List.mem_cons_self
    rw [List.cons_append, unquotedEnd, if_neg notQuote, if_neg (fun hash => (outside hash.1).1 hash.2),
      if_neg (fun comma => (outside comma.1).2 comma.2)]
    exact ih (fun other member => clean other (List.mem_cons_of_mem _ member))

theorem unquotedEnd_render {f : AtField} (valid : f.Valid) (more : List Char) :
    unquotedEnd false (f.render ++ more) = unquotedEnd false more := by
  cases f with
  | plain chars =>
    exact unquotedEnd_skip false chars
      (fun c member => ⟨(valid c member).1, fun _ => ⟨(valid c member).2.2.1, (valid c member).2.1⟩⟩) more
  | quoted chars =>
    -- the quotes toggle in and out, and nothing inside counts
    have inside := unquotedEnd_skip true chars (fun c member => ⟨(valid c member).1, fun outside => by cases outside⟩)
      ('"' :: more)
    simp only [AtField.render, List.cons_append, List.append_assoc, List.nil_append]
    rw [unquotedEnd, if_pos rfl, Bool.not_false, inside, unquotedEnd, if_pos rfl, Bool.not_true]

theorem unquotedEnd_renderFields {fs : List AtField} (nonempty : fs ≠ []) (valid : ∀ f ∈ fs, f.Valid)
    (rest : List Char) : unquotedEnd false (renderFields fs ++ '#' :: rest) = (fs.length - 1, true) := by
  induction fs with
  | nil => exact absurd rfl nonempty
  | cons f gs ih =>
    cases gs with
    | nil =>
      rw [renderFields, unquotedEnd_render (valid f List.mem_cons_self)]
      simp [unquotedEnd]
    | cons g gs =>
      rw [renderFields, List.append_assoc, List.cons_append, unquotedEnd_render (valid f List.mem_cons_self),
        unquotedEnd, if_neg (by decide), if_neg (by simp), if_pos ⟨rfl, rfl⟩,
        ih (by simp) (fun f member => valid f (List.mem_cons_of_mem _ member))]
      simp

theorem renderFields_clean {fs : List AtField} (valid : ∀ f ∈ fs, f.Valid) : '\x00' ∉ renderFields fs := by
  have render : ∀ f : AtField, f.Valid → '\x00' ∉ f.render := by
    intro f fieldValid
    cases f with
    | plain chars => exact fun nul => (fieldValid _ nul).2.2.2 rfl
    | quoted chars =>
      intro nul
      simp only [AtField.render, List.mem_cons, List.mem_append] at nul
      rcases nul with (quote | inside) | quote
      · exact absurd quote (by decide)
      · exact (fieldValid _ inside).2 rfl
      · exact absurd quote (by decide)
  induction fs with
  | nil => simp [renderFields]
  | cons f gs ih =>
    cases gs with
    | nil => exact render f (valid f List.mem_cons_self)
    | cons g gs =>
      rw [renderFields, List.mem_append, List.mem_cons]
      rintro (nul | nul | nul)
      · exact render f (valid f List.mem_cons_self) nul
      · cases nul
      · exact ih (fun f member => valid f (List.mem_cons_of_mem _ member)) nul

theorem atCmdStrAnalyse_rendered_code {fs : List AtField} (positive : 1 ≤ limit) (nonempty : fs ≠ [])
    (valid : ∀ f ∈ fs, f.Valid) {rest : List Char} (cstring : '\x00' ∉ rest) :
    (atCmdStrAnalyse limit '\x00' ['#'] ',' (renderFields fs ++ '#' :: rest)).1 =
      if limit < fs.length then -3 else (fs.length : Int) := by
  have clean : '\x00' ∉ renderFields fs ++ '#' :: rest := by
    simp only [List.mem_append, List.mem_cons, not_or]
    exact ⟨renderFields_clean valid, by decide, cstring⟩
  have counted : fs.length - 1 + 1 = fs.length := Nat.sub_add_cancel (List.length_pos_of_ne_nil nonempty)
  rw [atCmdStrAnalyse_code positive _ clean, unquotedEnd_renderFields nonempty valid rest]
  simp only [counted, gt_iff_lt, Bool.true_eq_false, if_false]

end Fields

/-- For a C string and a limit of at least 1, at the call of at_recv_cmd_handler: -3 exactly when at least
`limit` ',' outside quotes precede the first '#' outside quotes (or the end), -4 exactly when there is no such
'#' and fewer commas; on a command of fields, the number of fields or -3, and each field without its quotes in
tar_data followed by "" up to the limit; and no store into tar_data at or past the limit. -/
theorem atCmdStrAnalyse_spec (limit : Nat) (positive : 1 ≤ limit) :
    (∀ strData : List Char, '\x00' ∉ strData →
      ((atCmdStrAnalyse limit '\x00' ['#'] ',' strData).1 = -3 ↔ limit ≤ (unquotedEnd false strData).1) ∧
      ((atCmdStrAnalyse limit '\x00' ['#'] ',' strData).1 = -4 ↔
        (unquotedEnd false strData).2 = false ∧ (unquotedEnd false strData).1 < limit)) ∧
    (∀ (fs : List AtField) (rest : List Char), fs ≠ [] → (∀ f ∈ fs, f.Valid) → '\x00' ∉ rest →
      (atCmdStrAnalyse limit '\x00' ['#'] ',' (renderFields fs ++ '#' :: rest)).1 =
          (if limit < fs.length then -3 else (fs.length : Int)) ∧
        (fs.length ≤ limit → ∀ index < limit,
          (tarEntry (atCmdStrAnalyse limit '\x00' ['#'] ',' (renderFields fs ++ '#' :: rest)).2.writes index).map
              (cString (atCmdStrAnalyse limit '\x00' ['#'] ',' (renderFields fs ++ '#' :: rest)).2.buffer) =
            some ((fs.map AtField.content).getD index []))) ∧
    (∀ strData : List Char, ∀ write ∈ (atCmdStrAnalyse limit '\x00' ['#'] ',' strData).2.writes, write.1 < limit) := by
  refine ⟨fun strData cstring => ?_, fun fs rest nonempty valid cstring => ?_,
    atCmdStrAnalyse_writes_below '\x00' ['#'] ','⟩
  · rw [atCmdStrAnalyse_code positive strData cstring]
    generalize unquotedEnd false strData = scan
    obtain ⟨commas, found⟩ := scan
    dsimp only
    by_cases tooMany : commas + 1 > limit
    · rw [if_pos tooMany]
      exact ⟨⟨fun _ => by omega, fun _ => rfl⟩, ⟨fun code => absurd code (by decide), fun ⟨_, few⟩ => by omega⟩⟩
    · rw [if_neg tooMany]
      cases found
      · rw [if_pos rfl]
        exact ⟨⟨fun code => absurd code (by decide), fun full => by omega⟩, ⟨fun _ => ⟨rfl, by omega⟩, fun _ => rfl⟩⟩
      · rw [if_neg (by decide)]
        refine ⟨⟨fun code => by omega, fun full => by omega⟩, ⟨fun code => by omega, fun ⟨missing, _⟩ => ?_⟩⟩
        cases missing
  · exact ⟨atCmdStrAnalyse_rendered_code positive nonempty valid cstring,
      fun fits => (atCmdStrAnalyse_fields nonempty valid fits rest).2⟩

theorem atCmdStrAnalyse_spec_two_fields :
    1 ≤ 2 ∧ (atCmdStrAnalyse 2 '\x00' ['#'] ',' (renderFields [.plain "AT".toList, .quoted "x,#".toList] ++ ['#'])).1 = 2 :=
  ⟨by decide, ((atCmdStrAnalyse_spec 2 (by decide)).2.1 [.plain "AT".toList, .quoted "x,#".toList] []
      (by simp) (by decide) (by simp)).1⟩

theorem atCmdStrAnalyse_comma_before_missing_end :
    (unquotedEnd false "a,b".toList).2 = false ∧ (atCmdStrAnalyse 1 '\x00' ['#'] ',' "a,b".toList).1 = -3 := by
  decide

end CmdSetting
