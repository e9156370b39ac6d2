import NrfSdk.AtParser.Tokens
import Mathlib.Data.List.TakeWhile

/-!
The integer getters of at_parser.c, at_parser_num_get_impl and its typed wrappers, on the tokens that
at_parser_tok hands back. The lexer's INT rule, "0" | [+-]?[1-9][0-9]*, is stated as `IntLiteral`: an
optional sign and the decimal numeral of a magnitude. Every INT token a seek returns is the text of one,
followed by a character that is not a digit, so strtoll and strtoull read exactly that text; the range
checks then give the literal's value when it lies in the type's range and -ERANGE otherwise.
-/

namespace AtParser

open Machine

/-! ### INT lexemes -/

inductive LiteralSign where
  | none
  | plus
  | minus
  deriving DecidableEq, Repr

def LiteralSign.render : LiteralSign → List Char
  | .none => []
  | .plus => ['+']
  | .minus => ['-']

/-- A lexeme of INT: a sign only before a non-zero magnitude, and no leading zero. -/
structure IntLiteral where
  sign : LiteralSign
  magnitude : Nat
  signed_pos : sign ≠ .none → 0 < magnitude

def IntLiteral.render (lit : IntLiteral) : List Char := lit.sign.render ++ Nat.toDigits 10 lit.magnitude

def IntLiteral.value (lit : IntLiteral) : Int :=
  if lit.sign = .minus then -(lit.magnitude : Int) else lit.magnitude

theorem IntLiteral.value_neg_iff (lit : IntLiteral) : lit.value < 0 ↔ lit.sign = .minus := by
  by_cases minus : lit.sign = .minus
  · have positive := lit.signed_pos (by rw [minus]; nofun)
    rw [IntLiteral.value, if_pos minus]
    simp only [minus, iff_true]
    omega
  · simp only [IntLiteral.value, minus, if_neg, not_false_eq_true, iff_false]
    omega

/-! ### Decimal numerals -/

section Numerals

theorem digitValue_lt {c : Char} (digit : c.isDigit) : digitValue c < 10 := by
  have range := Char.isDigit_iff_toNat.mp digit
  simp only [Char.reduceToNat] at range
  simp only [digitValue, Char.reduceToNat]
  omega

theorem digitChar_digitValue {c : Char} (digit : c.isDigit) : Nat.digitChar (digitValue c) = c := by
  have range := Char.isDigit_iff_toNat.mp digit
  simp only [Char.reduceToNat] at range
  apply Char.toNat_inj.mp
  rw [Nat.toNat_digitChar_of_lt_ten (digitValue_lt digit), digitValue]
  simp only [Char.reduceToNat]
  omega

theorem decimalValue_append_digit (ds : List Char) (c : Char) :
    decimalValue (ds ++ [c]) = 10 * decimalValue ds + digitValue c := by
  simp [decimalValue, List.foldl_append]

theorem pos_of_toDigits_eq {n : Nat} {d : Char} {ds : List Char} (rendered : Nat.toDigits 10 n = d :: ds)
    (lead : isNonZeroDigit d) : 0 < n := by
  apply Nat.pos_of_ne_zero
  intro zero
  rw [zero, Nat.toDigits_zero, List.cons.injEq] at rendered
  simp [← rendered.1, isNonZeroDigit] at lead

theorem toDigits_decimalValue {d : Char} {ds : List Char} (lead : isNonZeroDigit d) (all : ∀ c ∈ ds, c.isDigit) :
    Nat.toDigits 10 (decimalValue (d :: ds)) = d :: ds := by
  have digit : d.isDigit := by simp_all [isNonZeroDigit]
  -- from the right, as the fold reads the digits: one more digit is ten times the value plus its own
  induction ds using List.reverseRecOn with
  | nil =>
    rw [decimalValue, List.foldl_cons, List.foldl_nil, Nat.mul_zero, Nat.zero_add,
      Nat.toDigits_of_lt_base (digitValue_lt digit), digitChar_digitValue digit]
  | append_singleton ds c ih =>
    have front := ih (fun c member => all c (List.mem_append_left _ member))
    have last : c.isDigit := all c (List.mem_append_right _ (List.mem_singleton_self c))
    rw [← List.cons_append, decimalValue_append_digit,
      ← Nat.toDigits_append_toDigits (by decide) (pos_of_toDigits_eq front lead) (digitValue_lt last), front,
      Nat.toDigits_of_lt_base (digitValue_lt last), digitChar_digitValue last]

end Numerals

/-! ### The INT rule of at_match.re -/

section Lexing

variable {str : List Char}

theorem drop_eq_cons_of_charAt {t : Nat} {c : Char} (read : charAt str t = c) (notNul : c ≠ '\x00') :
    str.drop t = c :: str.drop (t + 1) := by
  have inside : t < str.length := by
    by_contra outside
    rw [charAt, List.getD_eq_default _ _ (by omega)] at read
    exact notNul read.symm
  have atIndex : str[t] = c := by rw [← read, charAt, List.getD_eq_getElem _ _ inside]
  rw [List.drop_eq_getElem_cons inside, atIndex]

theorem drop_eq_digitsFrom_append (t : Nat) :
    str.drop t = digitsFrom str t ++ str.drop (t + runFrom Char.isDigit str t) := by
  have taken : (str.drop t).takeWhile Char.isDigit = (str.drop t).take (runFrom Char.isDigit str t) :=
    List.prefix_iff_eq_take.mp (List.takeWhile_prefix Char.isDigit)
  rw [digitsFrom, taken, ← List.drop_drop, List.take_append_drop]

theorem drop_numeral {t : Nat} (lead : isNonZeroDigit (charAt str t)) :
    ∃ magnitude, 0 < magnitude ∧
      str.drop t = Nat.toDigits 10 magnitude ++ str.drop (t + 1 + runFrom Char.isDigit str (t + 1)) ∧
      (Nat.toDigits 10 magnitude).length = 1 + runFrom Char.isDigit str (t + 1) := by
  have notNul : charAt str t ≠ '\x00' := by
    intro nul
    simp [nul, isNonZeroDigit] at lead
  have all : ∀ c ∈ digitsFrom str (t + 1), c.isDigit := fun _ member => List.mem_takeWhile_imp member
  have numeral := toDigits_decimalValue lead all
  refine ⟨_, pos_of_toDigits_eq numeral lead, ?_, ?_⟩
  · rw [numeral, drop_eq_cons_of_charAt rfl notNul, drop_eq_digitsFrom_append (t + 1), List.cons_append]
  · rw [numeral, List.length_cons, runFrom, digitsFrom]
    omega

theorem intEnd_literal {t1 t2 : Nat} (ended : intEnd str t1 = some t2) :
    ∃ lit : IntLiteral, str.drop t1 = lit.render ++ str.drop t2 ∧ t2 = t1 + lit.render.length := by
  dsimp only [intEnd] at ended
  split_ifs at ended with zero signed unsigned
  · -- "0"
    cases ended
    refine ⟨⟨.none, 0, fun unsigned => absurd rfl unsigned⟩, ?_, rfl⟩
    rw [drop_eq_cons_of_charAt zero (by decide)]
    rfl
  · -- [+-][1-9][0-9]*
    cases ended
    obtain ⟨magnitude, positive, numeral, length⟩ := drop_numeral signed.2
    rw [show t1 + 1 + 1 = t1 + 2 from rfl] at numeral length
    have notNul : charAt str t1 ≠ '\x00' := by
      rcases signed.1 with sign | sign <;> simp [sign]
    obtain ⟨sign, rendered⟩ : ∃ sign : LiteralSign, sign.render = [charAt str t1] := by
      rcases signed.1 with plus | minus
      · exact ⟨.plus, by rw [plus]; rfl⟩
      · exact ⟨.minus, by rw [minus]; rfl⟩
    refine ⟨⟨sign, magnitude, fun _ => positive⟩, ?_, ?_⟩
    · rw [drop_eq_cons_of_charAt rfl notNul, numeral, IntLiteral.render, rendered]
      rfl
    · simp only [IntLiteral.render, rendered, List.singleton_append, List.length_cons, length]
      omega
  · -- [1-9][0-9]*
    cases ended
    obtain ⟨magnitude, positive, numeral, length⟩ := drop_numeral unsigned
    refine ⟨⟨.none, magnitude, fun _ => positive⟩, ?_, ?_⟩
    · rw [numeral]
      rfl
    · simp only [IntLiteral.render, LiteralSign.render, List.nil_append, length]
      omega

theorem atMatchCmd_type {at_ remainder : Nat} {token : AtToken}
    (matched : atMatchCmd str at_ = some (token, remainder)) : token.type ≠ .int := by
  dsimp only [atMatchCmd] at matched
  split at matched
  · split at matched
    · cases matched
      nofun
    · split_ifs at matched <;> (cases matched; nofun)
  · split at matched
    · split_ifs at matched
      cases matched
      nofun
    · contradiction

theorem atMatchStr_type {at_ remainder : Nat} {token : AtToken}
    (matched : atMatchStr str at_ = some (token, remainder)) : token.type = .string := by
  dsimp only [atMatchStr] at matched
  split_ifs at matched <;> (cases matched; rfl)

theorem atMatchSubparam_int {at_ remainder : Nat} {token : AtToken}
    (matched : atMatchSubparam str at_ = some (token, remainder)) (isInt : token.type = .int) :
    intEnd str token.start = some (token.start + token.len) ∧
      commaVar str (token.start + token.len) = (remainder, token.var) := by
  dsimp only [atMatchSubparam] at matched
  split at matched
  · next t2 ended =>
    rw [withComma_eq] at matched
    cases matched
    obtain ⟨lit, -, length⟩ := intEnd_literal ended
    have ends : (if charAt str at_ = ' ' then at_ + 1 else at_) +
        (t2 - if charAt str at_ = ' ' then at_ + 1 else at_) = t2 := by
      omega
    exact ⟨by rw [ends, ended], by rw [ends]⟩
  · split_ifs at matched <;> (cases matched; contradiction)

theorem atMatchAny_int {parser : AtParserState} {cursor remainder : Nat} {token : AtToken}
    (matched : atMatchAny str parser cursor = some (token, remainder)) (isInt : token.type = .int) :
    intEnd str token.start = some (token.start + token.len) ∧
      commaVar str (token.start + token.len) = (remainder, token.var) := by
  dsimp only [atMatchAny] at matched
  split at matched
  · next first lexed =>
    cases matched
    split at lexed
    · exact absurd isInt (atMatchCmd_type lexed)
    · exact atMatchSubparam_int lexed isInt
  · rw [atMatchStr_type matched] at isInt
    contradiction

end Lexing

/-! ### Tokens handed back by at_parser_tok and at_parser_seek -/

section Tokens

variable {str : List Char} {parser next : AtParserState} {token : AtToken}

theorem nextIsLineEnd_not_digit {i : Nat} (ends : nextIsLineEnd str i) : (charAt str i).isDigit = false := by
  simp only [nextIsLineEnd, lookaheadCrLfOrMore, lookaheadCrLf, lookaheadCrLfAndMore, lookaheadCrlfOrMore,
    lookaheadCrlf, lookaheadCrlfAndMore, isCrOrLf, Bool.or_eq_true, Bool.and_eq_true, decide_eq_true_eq] at ends
  rcases ends with ((zero | (line | line) | (line | line)) | (line | line)) <;>
    simp_all [nul, cr, lf]

theorem atParserTok_ok (tok : atParserTok str parser = (next, .ok token)) :
    (parser.isNextEmpty ∧ token = ⟨parser.cursor, 0, .empty, .noComma⟩) ∨
      ∃ (lexer : AtParserState) (cursor remainder : Nat), atMatchAny str lexer cursor = some (token, remainder) ∧
        (isSubparam token → token.var = .noComma → nextIsLineEnd str remainder) := by
  dsimp only [atParserTok] at tok
  split at tok
  · next empty =>
    cases tok
    exact .inl ⟨empty, rfl⟩
  -- past the three early returns, with or without the leading CRLF trimmed, the token is lexed
  split_ifs at tok <;> first | simp only [Prod.mk.injEq, reduceCtorEq, and_false] at tok | skip
  all_goals
    split at tok
    · simp only [Prod.mk.injEq, reduceCtorEq, and_false] at tok
    · next token' remainder lexed =>
      split_ifs at tok with subparam comma ended
      · cases tok
        exact .inr ⟨_, _, _, lexed, fun _ _ => comma.2⟩
      · simp only [Prod.mk.injEq, reduceCtorEq, and_false] at tok
      · cases tok
        refine .inr ⟨_, _, _, lexed, fun _ noComma => ?_⟩
        by_contra notEnded
        exact ended ⟨noComma, by simpa using notEnded⟩
      · cases tok
        exact .inr ⟨_, _, _, lexed, fun isSub => absurd isSub subparam⟩

theorem atParserTok_int (tok : atParserTok str parser = (next, .ok token)) (isInt : token.type = .int) :
    intEnd str token.start = some (token.start + token.len) ∧
      (charAt str (token.start + token.len)).isDigit = false := by
  rcases atParserTok_ok tok with ⟨-, rfl⟩ | ⟨lexer, cursor, remainder, lexed, ends⟩
  · contradiction
  · obtain ⟨ended, comma⟩ := atMatchAny_int lexed isInt
    refine ⟨ended, ?_⟩
    unfold commaVar at comma
    split_ifs at comma with trailing
    · rw [trailing]
      rfl
    · obtain ⟨rfl, noComma⟩ := Prod.mk.inj comma
      exact nextIsLineEnd_not_digit (ends (by simp [isSubparam, isInt]) noComma.symm)

theorem atParserTokRepeat_ok {n : Nat} (tok : atParserTokRepeat str n parser = (next, .ok token)) :
    ∃ last, atParserTok str last = (next, .ok token) := by
  induction n generalizing parser with
  | zero => exact ⟨parser, tok⟩
  | succ n ih =>
    rw [atParserTokRepeat] at tok
    split at tok
    · exact ih tok
    · next notOk => exact absurd tok (notOk _ _)

theorem atParserSeek_literal {index : Nat} {seeked : AtParserState}
    (found : atParserSeek str parser index = (seeked, .ok token)) (isInt : token.type = .int) :
    ∃ lit : IntLiteral, str.drop token.start = lit.render ++ str.drop (token.start + token.len) ∧
      token.len = lit.render.length ∧ (charAt str (token.start + token.len)).isDigit = false := by
  dsimp only [atParserSeek] at found
  obtain ⟨last, tok⟩ := atParserTokRepeat_ok found
  obtain ⟨ended, stop⟩ := atParserTok_int tok isInt
  obtain ⟨lit, read, length⟩ := intEnd_literal ended
  exact ⟨lit, read, by omega, stop⟩

end Tokens

/-! ### strtoll, strtoull and the range checks -/

section Values

variable {str : List Char}

theorem strtolValue_literal {p : Nat} {rest : List Char} {lit : IntLiteral} (read : str.drop p = lit.render ++ rest)
    (stop : (charAt rest 0).isDigit = false) :
    strtolValue str p = lit.value ∧ (charAt str p = '-' ↔ lit.sign = .minus) := by
  obtain ⟨d, ds, rendered⟩ : ∃ d ds, Nat.toDigits 10 lit.magnitude = d :: ds :=
    List.exists_cons_of_ne_nil Nat.toDigits_ne_nil
  have leading : d.isDigit := isDigit_of_mem_renderDigits (rendered ▸ List.mem_cons_self)
  have numeral : ∀ {q}, str.drop q = Nat.toDigits 10 lit.magnitude ++ rest →
      digitsFrom str q = Nat.toDigits 10 lit.magnitude ∧ charAt str q = d := fun after =>
    ⟨digitsFrom_of_drop after (fun _ => isDigit_of_mem_renderDigits) stop,
      by simpa [rendered] using charAt_of_drop after 0⟩
  cases sign : lit.sign with
  | none =>
    rw [IntLiteral.render, sign, LiteralSign.render, List.nil_append] at read
    obtain ⟨digits, first⟩ := numeral read
    have notMinus : d ≠ '-' := fun same => by rw [same] at leading; contradiction
    have notPlus : d ≠ '+' := fun same => by rw [same] at leading; contradiction
    unfold strtolValue
    split
    · exact absurd (first.symm.trans ‹_›) notMinus
    · exact absurd (first.symm.trans ‹_›) notPlus
    · simp [digits, decimalValue_toDigits, IntLiteral.value, sign, first, notMinus]
  | plus | minus =>
    -- the sign, then the numeral from the next character on
    rw [IntLiteral.render, sign, LiteralSign.render, List.singleton_append] at read
    have first := charAt_of_drop read 0
    simp only [Nat.add_zero] at first
    have after : str.drop (p + 1) = Nat.toDigits 10 lit.magnitude ++ rest := by
      rw [← List.drop_drop, read]
      rfl
    obtain ⟨digits, -⟩ := numeral after
    simp [strtolValue, first, digits, decimalValue_toDigits, IntLiteral.value, sign]

theorem strtoll_check {lo hi : Int} (low : -2 ^ 63 < lo) (high : hi < 2 ^ 63 - 1) (value : Int) :
    (if strtoll value < lo ∨ strtoll value > hi then (.error .ERANGE : Except Errno Int) else .ok (strtoll value)) =
      if lo ≤ value ∧ value ≤ hi then .ok value else .error .ERANGE := by
  unfold strtoll
  by_cases inside : lo ≤ value ∧ value ≤ hi
  · have kept : max (-2 ^ 63) (min value (2 ^ 63 - 1)) = value := by omega
    rw [kept, if_neg (by omega), if_pos inside]
  · rw [if_pos (by omega), if_neg inside]

theorem numFromToken_eq {token : AtToken}
    (minus : charAt str token.start = '-' ↔ strtolValue str token.start < 0) (type : AtNumType) :
    numFromToken str token type =
      if type.range.1 ≤ strtolValue str token.start ∧ strtolValue str token.start ≤ type.range.2 then
        .ok (strtolValue str token.start)
      else .error .ERANGE := by
  cases type with
  | uint64 =>
    -- strtoull's own path: a minus sign is out of range before any digit is read
    simp only [numFromToken]
    rw [show AtNumType.uint64.range = (0, 2 ^ 64 - 1) from rfl]
    by_cases negative : strtolValue str token.start < 0
    · rw [if_pos (minus.mpr negative), if_neg (by omega)]
    · rw [if_neg (mt minus.mp negative)]
      split_ifs <;> first | rfl | omega
  | int64 =>
    simp only [numFromToken]
    rw [show AtNumType.int64.range = (-2 ^ 63, 2 ^ 63 - 1) from rfl]
    split_ifs <;> first | rfl | omega
  | int16 => exact strtoll_check (by decide) (by decide) _
  | uint16 => exact strtoll_check (by decide) (by decide) _
  | int32 => exact strtoll_check (by decide) (by decide) _
  | uint32 => exact strtoll_check (by decide) (by decide) _

end Values

/-! ### The getters -/

/-- The integer getters return the seek's error where the seek to the index fails, and otherwise the value
of an integer token when it fits the type, -ERANGE when it does not, -ENODATA for an empty token and
-EOPNOTSUPP for any other; the parser is left where the seek left it. -/
theorem atParserNumGetImpl_exact (str : List Char) (parser : AtParserState) (index : Nat) (type : AtNumType) :
    (∀ seeked err, atParserSeek str parser index = (seeked, .error err) →
        atParserNumGetImpl str parser index type = (seeked, .error err)) ∧
      ∀ seeked token, atParserSeek str parser index = (seeked, .ok token) →
        (token.type = .int → ∃ lit : IntLiteral, (str.drop token.start).take token.len = lit.render ∧
            atParserNumGetImpl str parser index type =
              (seeked, if type.range.1 ≤ lit.value ∧ lit.value ≤ type.range.2 then .ok lit.value else .error .ERANGE)) ∧
          (token.type = .empty → atParserNumGetImpl str parser index type = (seeked, .error .ENODATA)) ∧
          (token.type ≠ .int → token.type ≠ .empty →
            atParserNumGetImpl str parser index type = (seeked, .error .EOPNOTSUPP)) := by
  refine ⟨fun seeked err failed => by simp only [atParserNumGetImpl, failed], fun seeked token found => ?_⟩
  refine ⟨fun isInt => ?_, fun isEmpty => ?_, fun notInt notEmpty => ?_⟩
  · obtain ⟨lit, read, length, stop⟩ := atParserSeek_literal found isInt
    have after : (charAt (str.drop (token.start + token.len)) 0).isDigit = false := by
      rw [← charAt_of_drop rfl 0]
      exact stop
    have value : strtolValue str token.start = lit.value := (strtolValue_literal read after).1
    have sign : charAt str token.start = '-' ↔ strtolValue str token.start < 0 := by
      rw [(strtolValue_literal read after).2, value, IntLiteral.value_neg_iff]
    refine ⟨lit, by rw [read, length, List.take_left], ?_⟩
    simp only [atParserNumGetImpl, found, isInt, numFromToken_eq sign, value]
  · simp only [atParserNumGetImpl, found, isEmpty]
  · rw [atParserNumGetImpl, found]
    dsimp only
    split
    · contradiction
    · contradiction
    · rfl

theorem atParserNumGetImpl_exact_minus_five :
    atParserSeek "+CMD: -5".toList atParserInit 1 = (⟨0, 8, 2, false⟩, .ok ⟨6, 2, .int, .noComma⟩) ∧
      ∃ lit : IntLiteral, ("+CMD: -5".toList.drop 6).take 2 = lit.render ∧
        atParserNumGetImpl "+CMD: -5".toList atParserInit 1 .uint16 =
          (⟨0, 8, 2, false⟩, if AtNumType.uint16.range.1 ≤ lit.value ∧ lit.value ≤ AtNumType.uint16.range.2 then
            .ok lit.value else .error .ERANGE) := by
  have found : atParserSeek "+CMD: -5".toList atParserInit 1 = (⟨0, 8, 2, false⟩, .ok ⟨6, 2, .int, .noComma⟩) := by
    decide +kernel
  exact ⟨found, ((atParserNumGetImpl_exact _ _ _ .uint16).2 _ _ found).1 rfl⟩

theorem atParserNumGetImpl_trailing_empty_after_unquoted :
    atParserSeek "+CMD: abc,".toList atParserInit 1 = (⟨0, 10, 2, false⟩, .ok ⟨6, 3, .string, .comma⟩) ∧
      atParserNumGetImpl "+CMD: abc,".toList atParserInit 2 .int16 = (⟨0, 10, 2, false⟩, .error Errno.EIO) ∧
      atParserNumGetImpl "+CMD: 1,".toList atParserInit 2 .int16 = (⟨0, 8, 3, false⟩, .error .ENODATA) := by
  decide +kernel

end AtParser
