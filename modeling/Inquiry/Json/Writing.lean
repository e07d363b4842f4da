import Inquiry.Decimal.Layout
import Inquiry.Json.Basic

/-!
Writing JSON, in one line or with an entry on each line. Strings escape quotes, backslashes and
control characters only; a number without a finite value is written `null`.
-/
namespace Inquiry.Json

def hexDigit (n : Nat) : Char := Char.ofNat (if n < 10 then 48 + n else 87 + n)

def escaped (c : Char) : List Char :=
  if c = '"' then ['\\', '"']
  else if c = '\\' then ['\\', '\\']
  else if 0x20 ≤ c.toNat then [c]
  else if c = '\x08' then ['\\', 'b']
  else if c = '\t' then ['\\', 't']
  else if c = '\n' then ['\\', 'n']
  else if c = '\x0c' then ['\\', 'f']
  else if c = '\r' then ['\\', 'r']
  else ['\\', 'u', '0', '0', hexDigit (c.toNat / 16), hexDigit (c.toNat % 16)]

def quoted (text : List Char) : List Char := '"' :: (text.flatMap escaped ++ ['"'])

def Number.written : Number → List Char
  | .integer n => Decimal.ofInt n
  | .decimal x => (Decimal.data? Decimal.double (Decimal.reading x)).getD "null".toList
  | .single x => (Decimal.data? Decimal.single (Decimal.reading32 x)).getD "null".toList
  | .beyond => "null".toList

def quotedText (text : String) : String := String.ofList (quoted text.toList)

mutual

def compact : Json → String
  | .null => "null"
  | .bool b => if b then "true" else "false"
  | .number n => String.ofList n.written
  | .text s => quotedText s
  | .list items => "[" ++ ",".intercalate (compactItems items) ++ "]"
  | .object entries => "\x7b" ++ ",".intercalate (compactEntries entries) ++ "\x7d"

def compactItems : List Json → List String
  | [] => []
  | item :: rest => compact item :: compactItems rest

def compactEntries : List (String × Json) → List String
  | [] => []
  | (key, value) :: rest => (quotedText key ++ ":" ++ compact value) :: compactEntries rest

end

def margin (level : Nat) : String := "\n" ++ String.ofList (List.replicate (2 * level) ' ')

def block (level : Nat) (opening closing : String) : List String → String
  | [] => opening ++ closing
  | members =>
    let inner := margin (level + 1)
    opening ++ inner ++ ("," ++ inner).intercalate members ++ margin level ++ closing

mutual

def pretty (level : Nat) : Json → String
  | .list items => block level "[" "]" (prettyItems (level + 1) items)
  | .object entries => block level "\x7b" "\x7d" (prettyEntries (level + 1) entries)
  | .null => "null"
  | .bool b => if b then "true" else "false"
  | .number n => String.ofList n.written
  | .text s => quotedText s

def prettyItems (level : Nat) : List Json → List String
  | [] => []
  | item :: rest => pretty level item :: prettyItems level rest

def prettyEntries (level : Nat) : List (String × Json) → List String
  | [] => []
  | (key, value) :: rest =>
    (quotedText key ++ ": " ++ pretty level value) :: prettyEntries level rest

end

end Inquiry.Json
