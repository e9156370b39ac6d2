import NrfSdk.Machine.Word

namespace AtParser

inductive AtTokenType where
  | invalid
  | cmdTest
  | cmdRead
  | cmdSet
  | notif
  | int
  | quotedString
  | array
  | empty
  | string
  deriving DecidableEq, Repr

inductive AtTokenVar where
  | noComma
  | comma
  deriving DecidableEq, Repr

structure AtToken where
  start : Nat
  len : Nat
  type : AtTokenType
  var : AtTokenVar
  deriving DecidableEq, Repr

def charAt (str : List Char) (index : Nat) : Char := str.getD index '\x00'

def runFrom (accept : Char → Bool) (str : List Char) (index : Nat) : Nat :=
  ((str.drop index).takeWhile accept).length

def isCmdStart (c : Char) : Bool := c = '#' || c = '%' || c = '+'

def isNonZeroDigit (c : Char) : Bool := c.isDigit && c != '0'

def isQuotedChar (c : Char) : Bool := c != '"' && c != '\x00'

def isArrayChar (c : Char) : Bool := c != '(' && c != ')' && c != '\x00'

def isStrChar (c : Char) : Bool :=
  c.isAlpha || c.isDigit || c = '_' || c = '-' || c = '+' || c = '.' || c = ' '

def commaVar (str : List Char) (tokenEnd : Nat) : Nat × AtTokenVar :=
  if charAt str tokenEnd = ',' then (tokenEnd + 1, .comma) else (tokenEnd, .noComma)

def cmdEnd (str : List Char) (index : Nat) : Option Nat :=
  if isCmdStart (charAt str index) ∧ 0 < runFrom Char.isAlphanum str (index + 1) then
    some (index + 1 + runFrom Char.isAlphanum str (index + 1))
  else none

def startsWithAt (str : List Char) (at_ : Nat) : Bool :=
  (charAt str at_ = 'A' || charAt str at_ = 'a') && (charAt str (at_ + 1) = 'T' || charAt str (at_ + 1) = 't')

def atMatchCmd (str : List Char) (at_ : Nat) : Option (AtToken × Nat) :=
  if startsWithAt str at_ then
    match cmdEnd str (at_ + 2) with
    | none => some (⟨at_, 2, .cmdSet, .noComma⟩, at_ + 2)
    | some cursor =>
      if charAt str cursor = '=' ∧ charAt str (cursor + 1) = '?' then
        some (⟨at_, cursor - at_, .cmdTest, .noComma⟩, cursor + 2)
      else if charAt str cursor = '?' then some (⟨at_, cursor - at_, .cmdRead, .noComma⟩, cursor + 1)
      else if charAt str cursor = '=' then some (⟨at_, cursor - at_, .cmdSet, .noComma⟩, cursor + 1)
      else some (⟨at_, cursor - at_, .cmdSet, .noComma⟩, cursor)
  else
    match cmdEnd str at_ with
    | some cursor =>
      if charAt str cursor = ':' then some (⟨at_, cursor - at_, .notif, .noComma⟩, cursor + 1) else none
    | none => none

def intEnd (str : List Char) (t1 : Nat) : Option Nat :=
  let c := charAt str t1
  if c = '0' then some (t1 + 1)
  else if (c = '+' ∨ c = '-') ∧ isNonZeroDigit (charAt str (t1 + 1)) then
    some (t1 + 2 + runFrom Char.isDigit str (t1 + 2))
  else if isNonZeroDigit c then some (t1 + 1 + runFrom Char.isDigit str (t1 + 1))
  else none

def withComma (str : List Char) (t1 t2 matchEnd : Nat) (type : AtTokenType) : Option (AtToken × Nat) :=
  let (remainder, var) := commaVar str matchEnd
  some (⟨t1, t2 - t1, type, var⟩, remainder)

def atMatchSubparam (str : List Char) (at_ : Nat) : Option (AtToken × Nat) :=
  let t1 := if charAt str at_ = ' ' then at_ + 1 else at_
  let c := charAt str t1
  match intEnd str t1 with
  | some t2 => withComma str t1 t2 t2 .int
  | none =>
    if c = '"' then
      let t2 := t1 + 1 + runFrom isQuotedChar str (t1 + 1)
      if charAt str t2 = '"' then withComma str (t1 + 1) t2 (t2 + 1) .quotedString else none
    else if c = '(' then
      let close := t1 + 1 + runFrom isArrayChar str (t1 + 1)
      if 0 < runFrom isArrayChar str (t1 + 1) ∧ charAt str close = ')' then
        withComma str t1 (close + 1) (close + 1) .array
      else none
    else if c = ',' then some (⟨t1, 0, .empty, .comma⟩, t1 + 1)
    else none

def atMatchStr (str : List Char) (at_ : Nat) : Option (AtToken × Nat) :=
  let t1 := if charAt str at_ = ' ' then at_ + 1 else at_
  if (charAt str t1).isAlphanum then
    let t2 := t1 + 1 + runFrom isStrChar str (t1 + 1)
    -- the terminator is a comma or a CRLF pair; only the comma counts as a trailing comma
    if charAt str t2 = ',' then some (⟨t1, t2 - t1, .string, .comma⟩, t2 + 1)
    else if charAt str t2 = '\r' ∧ charAt str (t2 + 1) = '\n' then some (⟨t1, t2 - t1, .string, .noComma⟩, t2 + 2)
    else some (⟨t1, t2 - t1, .string, .noComma⟩, t2)
  else none

end AtParser
