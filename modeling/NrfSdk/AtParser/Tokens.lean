import NrfSdk.AtParser.Parser
import NrfSdk.Machine.Memory

/-!
Reading the buffer from an offset `p` with `str.drop p = piece ++ rest`: the characters the lexer looks
at, and the decimal digits strtoll reads.
-/

namespace AtParser

open Machine

section Reading

variable {str rest : List Char} {p : Nat}

@[simp] theorem charAt_nil (n : Nat) : charAt [] n = '\x00' := by
  simp [charAt]

@[simp] theorem charAt_cons_zero (c : Char) (l : List Char) : charAt (c :: l) 0 = c := rfl

@[simp] theorem charAt_cons_succ (c : Char) (l : List Char) (n : Nat) :
    charAt (c :: l) (n + 1) = charAt l n := by
  simp [charAt]

theorem charAt_of_drop (read : str.drop p = rest) (n : Nat) : charAt str (p + n) = charAt rest n :=
  getD_of_drop read n '\x00'

theorem isDigit_of_mem_renderDigits {n : Nat} {c : Char} (member : c ∈ Nat.toDigits 10 n) : c.isDigit :=
  Nat.isDigit_of_mem_toDigits (by decide) (by decide) member

theorem decimalValue_toDigits (n : Nat) : decimalValue (Nat.toDigits 10 n) = n :=
  Nat.ofDigitChars_ten_toDigits

theorem digitsFrom_of_drop {digits : List Char} (read : str.drop p = digits ++ rest)
    (all : ∀ c ∈ digits, c.isDigit) (stop : (charAt rest 0).isDigit = false) : digitsFrom str p = digits := by
  have none : rest.takeWhile Char.isDigit = [] := by
    cases rest with
    | nil => rfl
    | cons c tail => simp_all
  simp [digitsFrom, read, List.takeWhile_append_of_pos all, none]

end Reading

theorem withComma_eq (str : List Char) (t1 t2 matchEnd : Nat) (type : AtTokenType) :
    withComma str t1 t2 matchEnd type =
      some (⟨t1, t2 - t1, type, (commaVar str matchEnd).2⟩, (commaVar str matchEnd).1) :=
  rfl

end AtParser
