import NrfSdk.AtParser.Parser

namespace AtParser

open Machine

/-- The public accessors that read one AT command line through the parser state. -/
inductive Accessor where
  | int16Get (index : Nat)
  | uint16Get (index : Nat)
  | int32Get (index : Nat)
  | uint32Get (index : Nat)
  | int64Get (index : Nat)
  | uint64Get (index : Nat)
  | stringGet (index len : Nat)
  | stringPtrGet (index : Nat)
  | cmdCountGet
  deriving DecidableEq, Repr

inductive AccessorValue where
  | num (value : Int)
  | string (chars : List Char)
  | pointer (start len : Nat)
  | count (count : Nat)
  deriving DecidableEq, Repr

def withValue {α : Type} (value : α → AccessorValue) :
    AtParserState × Except Errno α → AtParserState × Except Errno AccessorValue
  | (parser, result) => (parser, result.map value)

def Accessor.call (str : List Char) (parser : AtParserState) :
    Accessor → AtParserState × Except Errno AccessorValue
  | .int16Get index => withValue .num (atParserInt16Get str parser index)
  | .uint16Get index => withValue .num (atParserUint16Get str parser index)
  | .int32Get index => withValue .num (atParserInt32Get str parser index)
  | .uint32Get index => withValue .num (atParserUint32Get str parser index)
  | .int64Get index => withValue .num (atParserInt64Get str parser index)
  | .uint64Get index => withValue .num (atParserUint64Get str parser index)
  | .stringGet index len => withValue .string (atParserStringGet str parser index len)
  | .stringPtrGet index => withValue (fun token => .pointer token.1 token.2) (atParserStringPtrGet str parser index)
  | .cmdCountGet => withValue .count (atParserCmdCountGet str parser)

def runAccessors (str : List Char) : AtParserState → List Accessor → List (Except Errno AccessorValue)
  | _, [] => []
  | parser, call :: calls =>
    let (parser, result) := call.call str parser
    result :: runAccessors str parser calls

def freshResults (str : List Char) (calls : List Accessor) : List (Except Errno AccessorValue) :=
  calls.map fun call => (call.call str atParserInit).2

def trailingEmptyLine : List Char := "+TEST: 1,\r\n".toList

/-- Reading the integer at index 1 leaves the pending-empty flag set; the rewind for index 0
keeps it, so the prefix reads as an empty token and the next read of index 1 starts at the prefix. -/
theorem runAccessors_rewind_keeps_next_empty :
    runAccessors trailingEmptyLine atParserInit [.int32Get 1, .stringGet 0 32, .int32Get 1] =
        [.ok (.num 1), .error .ENODATA, .error .EBADMSG] ∧
      freshResults trailingEmptyLine [.int32Get 1, .stringGet 0 32, .int32Get 1] =
        [.ok (.num 1), .ok (.string "+TEST".toList), .ok (.num 1)] := by
  decide +kernel

end AtParser
