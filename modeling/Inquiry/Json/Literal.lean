import Inquiry.Json.Fault
import Inquiry.Json.Number

/-!
Words, numbers and strings of a JSON text, read one character at a time: what has been read of a
literal, and what the next character does to it.
-/
namespace Inquiry.Json

inductive NumberPart where
  | sign
  | zero
  | whole
  | point
  | fraction
  | mark
  | markSign
  | exponent
deriving DecidableEq

/-- Where in a string: `high` is a first half that waits, `value` is `none` after a bad digit. -/
inductive TextPart where
  | plain
  | escape
  | unit (high : Option Nat) (value : Option Nat) (bytes : Nat)
  | lowHalf (high : Nat)
  | lowHalfMark (high : Nat)

/-- A literal in progress; characters nearest first. -/
inductive Literal where
  | word (value : Json) (rest : List Char)
  | number (part : NumberPart) (seen : List Char)
  | text (part : TextPart) (seen : List Char)

/-- What a character does: it belongs to the literal, is its last one, or stands after it. -/
inductive Literal.Progress where
  | goesOn (literal : Literal)
  | ends (value : Json)
  | endsBefore (value : Json)

def isBlank (c : Char) : Bool := c == ' ' || c == '\t' || c == '\n' || c == '\r'

def hexValue? (c : Char) : Option Nat :=
  if c.isDigit then some (c.toNat - 48)
  else if 'a' ≤ c && c ≤ 'f' then some (c.toNat - 87)
  else if 'A' ≤ c && c ≤ 'F' then some (c.toNat - 55)
  else none

def simpleEscape? : Char → Option Char
  | '"' => some '"'
  | '\\' => some '\\'
  | '/' => some '/'
  | 'b' => some '\x08'
  | 'f' => some '\x0c'
  | 'n' => some '\n'
  | 'r' => some '\r'
  | 't' => some '\t'
  | _ => none

def isHighHalf (unit : Nat) : Bool := 0xd800 ≤ unit && unit < 0xdc00

def isLowHalf (unit : Nat) : Bool := 0xdc00 ≤ unit && unit < 0xe000

def NumberPart.tail? (c : Char) : Option NumberPart :=
  if c == '.' then some .point else if c == 'e' || c == 'E' then some .mark else none

def NumberPart.next? : NumberPart → Char → Option NumberPart
  | .sign, c => if c == '0' then some .zero else if c.isDigit then some .whole else none
  | .zero, c => tail? c
  | .whole, c => if c.isDigit then some .whole else tail? c
  | .point, c => if c.isDigit then some .fraction else none
  | .fraction, c =>
    if c.isDigit then some .fraction else if c == 'e' || c == 'E' then some .mark else none
  | .mark, c =>
    if c == '+' || c == '-' then some .markSign else if c.isDigit then some .exponent else none
  | .markSign, c | .exponent, c => if c.isDigit then some .exponent else none

def NumberPart.isLast : NumberPart → Bool
  | .zero | .whole | .fraction | .exponent => true
  | .sign | .point | .mark | .markSign => false

def numberValue (seen : List Char) : Json :=
  .number ((Number.ofLiteral? seen.reverse).getD .beyond)

def numberStep (part : NumberPart) (seen : List Char) (c : Char) : Except Cause Literal.Progress :=
  match part.next? c with
  | some next => .ok (.goesOn (.number next (c :: seen)))
  | none =>
    if part.isLast && !(part = .zero && c.isDigit) then .ok (.endsBefore (numberValue seen))
    else .error .number

def takeUnit (seen : List Char) (high : Option Nat) (unit : Nat) : Except Cause Literal :=
  match high with
  | none =>
    if isHighHalf unit then .ok (.text (.lowHalf unit) seen)
    else if isLowHalf unit then .error .loneHalf
    else .ok (.text .plain (Char.ofNat unit :: seen))
  | some first =>
    if isLowHalf unit then
      let point := 0x10000 + (first - 0xd800) * 0x400 + (unit - 0xdc00)
      .ok (.text .plain (Char.ofNat point :: seen))
    else .error .loneHalf

/-- Four bytes make a unit, and only then does a bad digit count. -/
def unitStep (seen : List Char) (high value : Option Nat) (bytes : Nat) (c : Char) :
    Except Cause Literal :=
  let value := value.bind fun sofar => (hexValue? c).map fun digit => 16 * sofar + digit
  let bytes := bytes + c.utf8Size
  if bytes < 4 then .ok (.text (.unit high value bytes) seen)
  else match value with
    | some unit => takeUnit seen high unit
    | none => .error .escape

def textStep (part : TextPart) (seen : List Char) (c : Char) : Except Cause Literal :=
  match part with
  | .plain =>
    if c == '\\' then .ok (.text .escape seen)
    else if c.toNat < 0x20 then .error .control
    else .ok (.text .plain (c :: seen))
  | .escape =>
    if c == 'u' then .ok (.text (.unit none (some 0) 0) seen)
    else match simpleEscape? c with
      | some meant => .ok (.text .plain (meant :: seen))
      | none => .error .escape
  | .unit high value bytes => unitStep seen high value bytes c
  | .lowHalf high => if c == '\\' then .ok (.text (.lowHalfMark high) seen) else .error .cutPair
  | .lowHalfMark high =>
    if c == 'u' then .ok (.text (.unit (some high) (some 0) 0) seen) else .error .cutPair

def Literal.step : Literal → Char → Except Cause Progress
  | .word _ [], _ => .error .noWord
  | .word value (expected :: rest), c =>
    if c ≠ expected then .error .noWord
    else .ok (if rest.isEmpty then .ends value else .goesOn (.word value rest))
  | .number part seen, c => numberStep part seen c
  | .text .plain seen, '"' => .ok (.ends (.text (String.ofList seen.reverse)))
  | .text part seen, c => (textStep part seen c).map .goesOn

def Literal.finish : Literal → Except Cause Json
  | .word _ _ => .error .endInValue
  | .number part seen => if part.isLast then .ok (numberValue seen) else .error .endInValue
  | .text _ _ => .error .endInText

def Literal.ofChar? (c : Char) : Option Literal :=
  if c == '"' then some (.text .plain [])
  else if c == 'n' then some (.word .null "ull".toList)
  else if c == 't' then some (.word (.bool true) "rue".toList)
  else if c == 'f' then some (.word (.bool false) "alse".toList)
  else (NumberPart.next? .sign c).orElse (fun _ => if c == '-' then some .sign else none)
    |>.map fun part => .number part [c]

end Inquiry.Json
