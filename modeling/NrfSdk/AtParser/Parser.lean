import NrfSdk.AtParser.Lexer

namespace AtParser

open Machine

structure AtParserState where
  at_ : Nat
  cursor : Nat
  count : Nat
  isNextEmpty : Bool
  deriving DecidableEq, Repr

def atParserInit : AtParserState := ⟨0, 0, 0, false⟩

def cr : Char := '\r'
def lf : Char := '\n'
def nul : Char := '\x00'

def isCrOrLf (c : Char) : Bool := c = cr || c = lf

def trimCrlf (str : List Char) (index : Nat) : Nat := index + runFrom isCrOrLf str index

def lookaheadCrLf (str : List Char) (index : Nat) : Bool :=
  isCrOrLf (charAt str index) && charAt str (index + 1) = nul

def lookaheadCrLfAndMore (str : List Char) (index : Nat) : Bool :=
  isCrOrLf (charAt str index) && charAt str (index + 1) != nul

def lookaheadCrLfOrMore (str : List Char) (index : Nat) : Bool :=
  lookaheadCrLf str index || lookaheadCrLfAndMore str index

def lookaheadCrlf (str : List Char) (index : Nat) : Bool :=
  charAt str index = cr && charAt str (index + 1) = lf && charAt str (index + 2) = nul

def lookaheadCrlfAndMore (str : List Char) (index : Nat) : Bool :=
  charAt str index = cr && charAt str (index + 1) = lf && charAt str (index + 2) != nul

def lookaheadCrlfOrMore (str : List Char) (index : Nat) : Bool :=
  lookaheadCrlf str index || lookaheadCrlfAndMore str index

def responses : List (List Char) :=
  ["OK\r\n".toList, "ERROR\r\n".toList, "+CME ERROR:".toList, "+CMS ERROR:".toList]

def isResp (str : List Char) (index : Nat) : Bool :=
  let start := trimCrlf str index
  responses.any fun resp => (str.drop start).take resp.length == resp

def isSubparam (token : AtToken) : Bool :=
  match token.type with
  | .int | .quotedString | .array | .empty => true
  | _ => false

def isIndexAhead (parser : AtParserState) (index : Nat) : Bool :=
  0 < parser.count && parser.count ≤ index

def nextIsLineEnd (str : List Char) (remainder : Nat) : Bool :=
  charAt str remainder = nul || lookaheadCrLfOrMore str remainder || lookaheadCrlfOrMore str remainder

def atMatchAny (str : List Char) (parser : AtParserState) (cursor : Nat) : Option (AtToken × Nat) :=
  let first := if parser.count = 0 then atMatchCmd str cursor else atMatchSubparam str cursor
  match first with
  | some matched => some matched
  | none => atMatchStr str cursor

def finalize (parser : AtParserState) (remainder : Nat) : AtParserState :=
  { parser with count := parser.count + 1, cursor := remainder }

def atParserTok (str : List Char) (parser : AtParserState) : AtParserState × Except Errno AtToken :=
  if parser.isNextEmpty then
    (finalize { parser with isNextEmpty := false } parser.cursor, .ok ⟨parser.cursor, 0, .empty, .noComma⟩)
  else
    let cursor := if parser.count = 0 ∧ lookaheadCrlfAndMore str parser.cursor then parser.cursor + 2
      else parser.cursor
    let parser := { parser with cursor := cursor }
    if charAt str cursor = nul ∨ lookaheadCrLf str cursor ∨ lookaheadCrlf str cursor then (parser, .error Errno.EIO)
    else if isResp str cursor then (parser, .error Errno.EIO)
    else if lookaheadCrLfAndMore str cursor ∨ lookaheadCrlfAndMore str cursor then (parser, .error .EAGAIN)
    else
      match atMatchAny str parser cursor with
      | none => (parser, .error .EBADMSG)
      | some (token, remainder) =>
        if isSubparam token then
          if token.var = .comma ∧ nextIsLineEnd str remainder then
            (finalize { parser with isNextEmpty := true } remainder, .ok token)
          else if token.var = .noComma ∧ !nextIsLineEnd str remainder then (parser, .error .EBADMSG)
          else (finalize parser remainder, .ok token)
        else (finalize parser remainder, .ok token)

def atParserTokRepeat (str : List Char) : Nat → AtParserState → AtParserState × Except Errno AtToken
  | 0, parser => atParserTok str parser
  | n + 1, parser =>
    match atParserTok str parser with
    | (parser, .ok _) => atParserTokRepeat str n parser
    | failed => failed

def atParserSeek (str : List Char) (parser : AtParserState) (index : Nat) :
    AtParserState × Except Errno AtToken :=
  let parser := if isIndexAhead parser index then parser else { parser with cursor := parser.at_, count := 0 }
  -- the do-while loop stops once the token at the index has been read
  atParserTokRepeat str (index - parser.count) parser

def tokUntilError (str : List Char) : Nat → AtParserState → AtParserState × Errno
  | 0, parser => (parser, Errno.EIO)
  | fuel + 1, parser =>
    match atParserTok str parser with
    | (parser, .ok _) => tokUntilError str fuel parser
    | (parser, .error err) => (parser, err)

def tokFuel (str : List Char) : Nat := 2 * str.length + 3

def atParserCmdCountGet (str : List Char) (parser : AtParserState) : AtParserState × Except Errno Nat :=
  let (parser, err) := tokUntilError str (tokFuel str) parser
  (parser, if err = Errno.EIO ∨ err = .EAGAIN then .ok parser.count else .error err)

def atParserCmdNext (str : List Char) (parser : AtParserState) : AtParserState × Except Errno Unit :=
  let (parser, err) := tokUntilError str (tokFuel str) parser
  if err != .EAGAIN then (parser, .error .EOPNOTSUPP)
  else
    let cursor := trimCrlf str parser.cursor
    ({ parser with cursor := cursor, count := 0, at_ := cursor }, .ok ())

/-- An unquoted string last on its line takes the CRLF after it as its terminator, so the next line's
prefix is lexed as one more subparameter of this line: counting the first line and moving to the
second both fail, although the quoted string in its place is read as two tokens. -/
theorem atParser_unquoted_string_swallows_line_end :
    (atParserCmdCountGet "+A: x\r\n+B: 1".toList atParserInit).2 = .error .EBADMSG ∧
      (atParserCmdNext "+A: x\r\n+B: 1".toList atParserInit).2 = .error .EOPNOTSUPP ∧
      (atParserCmdCountGet "+A: \"x\"\r\n+B: 1".toList atParserInit).2 = .ok 2 := by
  decide +kernel

inductive AtNumType where
  | int16
  | uint16
  | int32
  | uint32
  | int64
  | uint64
  deriving DecidableEq, Repr

def digitValue (c : Char) : Nat := c.toNat - '0'.toNat

def decimalValue (digits : List Char) : Nat :=
  digits.foldl (fun value c => 10 * value + digitValue c) 0

def digitsFrom (str : List Char) (index : Nat) : List Char := (str.drop index).takeWhile Char.isDigit

-- strtoll and strtoull read the sign and then every digit from the token start on
def strtolValue (str : List Char) (start : Nat) : Int :=
  match charAt str start with
  | '-' => -(decimalValue (digitsFrom str (start + 1)) : Int)
  | '+' => decimalValue (digitsFrom str (start + 1))
  | _ => decimalValue (digitsFrom str start)

def AtNumType.range : AtNumType → Int × Int
  | .int16 => (-2 ^ 15, 2 ^ 15 - 1)
  | .uint16 => (0, 2 ^ 16 - 1)
  | .int32 => (-2 ^ 31, 2 ^ 31 - 1)
  | .uint32 => (0, 2 ^ 32 - 1)
  | .int64 => (-2 ^ 63, 2 ^ 63 - 1)
  | .uint64 => (0, 2 ^ 64 - 1)

def strtoll (value : Int) : Int := max (-2 ^ 63) (min value (2 ^ 63 - 1))

def numFromToken (str : List Char) (token : AtToken) (type : AtNumType) : Except Errno Int :=
  let value := strtolValue str token.start
  match type with
  | .uint64 =>
    if charAt str token.start = '-' then .error .ERANGE
    else if value > 2 ^ 64 - 1 then .error .ERANGE else .ok value
  | .int64 => if value < -2 ^ 63 ∨ value > 2 ^ 63 - 1 then .error .ERANGE else .ok value
  | type =>
    -- the narrower types compare the saturated strtoll result with their bounds
    let clamped := strtoll value
    if clamped < type.range.1 ∨ clamped > type.range.2 then .error .ERANGE else .ok clamped

def atParserNumGetImpl (str : List Char) (parser : AtParserState) (index : Nat) (type : AtNumType) :
    AtParserState × Except Errno Int :=
  match atParserSeek str parser index with
  | (parser, .error err) => (parser, .error err)
  | (parser, .ok token) =>
    match token.type with
    | .int => (parser, numFromToken str token type)
    | .empty => (parser, .error .ENODATA)
    | _ => (parser, .error .EOPNOTSUPP)

def atParserInt16Get (str : List Char) (parser : AtParserState) (index : Nat) :=
  atParserNumGetImpl str parser index .int16

def atParserUint16Get (str : List Char) (parser : AtParserState) (index : Nat) :=
  atParserNumGetImpl str parser index .uint16

def atParserInt32Get (str : List Char) (parser : AtParserState) (index : Nat) :=
  atParserNumGetImpl str parser index .int32

def atParserUint32Get (str : List Char) (parser : AtParserState) (index : Nat) :=
  atParserNumGetImpl str parser index .uint32

def atParserInt64Get (str : List Char) (parser : AtParserState) (index : Nat) :=
  atParserNumGetImpl str parser index .int64

def atParserUint64Get (str : List Char) (parser : AtParserState) (index : Nat) :=
  atParserNumGetImpl str parser index .uint64

def isStringType (type : AtTokenType) : Bool :=
  match type with
  | .cmdTest | .cmdSet | .cmdRead | .notif | .quotedString | .string | .array => true
  | _ => false

def atParserStringCommonGetImpl (str : List Char) (parser : AtParserState) (index len : Nat)
    (isPtrGet : Bool) : AtParserState × Except Errno (Nat × Nat) :=
  match atParserSeek str parser index with
  | (parser, .error err) => (parser, .error err)
  | (parser, .ok token) =>
    if token.type = .empty then (parser, .error .ENODATA)
    else if !isStringType token.type then (parser, .error .EOPNOTSUPP)
    else if !isPtrGet ∧ len < token.len + 1 then (parser, .error .ENOMEM)
    else (parser, .ok (token.start, token.len))

def atParserStringPtrGet (str : List Char) (parser : AtParserState) (index : Nat) :=
  atParserStringCommonGetImpl str parser index 0 true

def atParserStringGet (str : List Char) (parser : AtParserState) (index len : Nat) :
    AtParserState × Except Errno (List Char) :=
  match atParserStringCommonGetImpl str parser index len false with
  | (parser, .error err) => (parser, .error err)
  | (parser, .ok (start, length)) => (parser, .ok ((str.drop start).take length))

end AtParser
