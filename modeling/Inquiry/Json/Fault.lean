import Inquiry.Decimal.Digits

/-! Why a text is not JSON, and how far it was read: lines from 1, columns in bytes. -/
namespace Inquiry.Json

inductive Cause where
  | endInValue
  | endInText
  | endInList
  | endInObject
  | noValue
  | noWord
  | noKey
  | noColon
  | noListComma
  | noObjectComma
  | trailingComma
  | trailing
  | number
  | range
  | escape
  | control
  | cutPair
  | loneHalf
  | depth
deriving DecidableEq

def Cause.message : Cause → String
  | .endInValue => "EOF while parsing a value"
  | .endInText => "EOF while parsing a string"
  | .endInList => "EOF while parsing a list"
  | .endInObject => "EOF while parsing an object"
  | .noValue => "expected value"
  | .noWord => "expected ident"
  | .noKey => "key must be a string"
  | .noColon => "expected `:`"
  | .noListComma => "expected `,` or `]`"
  | .noObjectComma => "expected `,` or `\x7d`"
  | .trailingComma => "trailing comma"
  | .trailing => "trailing characters"
  | .number => "invalid number"
  | .range => "number out of range"
  | .escape => "invalid escape"
  | .control => "control character (\\u0000-\\u001F) found while parsing a string"
  | .cutPair => "unexpected end of hex escape"
  | .loneHalf => "lone leading surrogate in hex escape"
  | .depth => "recursion limit exceeded"

structure Place where
  line : Nat
  column : Nat

def Place.start : Place := ⟨1, 0⟩

def Place.after (place : Place) (c : Char) : Place :=
  if c == '\n' then ⟨place.line + 1, 0⟩ else ⟨place.line, place.column + c.utf8Size⟩

def Place.inside (place : Place) (c : Char) : Place :=
  if c == '\n' then ⟨place.line + 1, 0⟩ else ⟨place.line, place.column + 1⟩

structure Fault where
  cause : Cause
  place : Place

def Fault.message (fault : Fault) : String :=
  fault.cause.message ++ " at line " ++ Decimal.natText fault.place.line
    ++ " column " ++ Decimal.natText fault.place.column

/-- A fault that `c` shows; a number out of range is known before the character after it. -/
def Cause.faultAt (cause : Cause) (place : Place) (c : Char) : Fault :=
  ⟨cause, if cause = .range then place else place.inside c⟩

end Inquiry.Json
