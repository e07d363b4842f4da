import Inquiry.Bson.Extended
import Inquiry.Text.Cut

/-!
Constructor calls of the shell inside a document, `ObjectId("…")`, `ISODate("…")` and
`new Date("…")`, replaced by the objects that stand for their values. A date without a time is
midnight, a time without a zone is UTC, and a call without an argument means now.
-/
namespace Inquiry.ValueCall

abbrev Found := Option (List Char × List Char)

def isMark (c : Char) : Bool := c == '"' || c == '\''

def mark? : List Char → Option (List Char)
  | c :: rest => if isMark c then some rest else none
  | [] => none

def closing? (text : List Char) : Option (List Char) := Text.after? [')'] (Text.trimStart text)

def objectId (text : List Char) : Found := do
  let rest ← Text.after? "ObjectId(".toList text
  let rest ← mark? (Text.trimStart rest)
  let hex := rest.take 24
  if !(hex.length == 24 && hex.all Extended.isHex) then none
  let rest ← mark? (rest.drop 24)
  let rest ← closing? rest
  return ("\x7b\"$oid\": \"".toList ++ hex ++ "\"\x7d".toList, rest)

/-- The part of a time after its last `T`, where a sign can only begin an offset. -/
def afterLastT (text : List Char) : List Char := (text.reverse.takeWhile (· ≠ 'T')).reverse

def hasZone (text : List Char) : Bool :=
  text.getLast? == some 'Z' || (afterLastT text).any fun c => c == '+' || c == '-'

def normalized (text : List Char) : List Char :=
  if !text.contains 'T' then text ++ "T00:00:00Z".toList
  else if hasZone text then text
  else text ++ ['Z']

def dateObject (text : List Char) : List Char :=
  "\x7b\"$date\": \"".toList ++ text ++ "\"\x7d".toList

def dateCall? (text : List Char) : Option (List Char) :=
  match Text.after? "ISODate(".toList text with
  | some rest => some rest
  | none => do
    let rest ← Text.after? "new".toList text
    let gap ← rest.head?
    if !Text.isWhitespace gap then none
    Text.after? "Date(".toList (Text.trimStart rest)

def date (now : List Char) (text : List Char) : Found := do
  let rest := Text.trimStart (← dateCall? text)
  match mark? rest with
  | none => return (dateObject now, ← closing? rest)
  | some content =>
    let argument := content.takeWhile fun c => !isMark c
    let rest ← mark? (content.dropWhile fun c => !isMark c)
    return (dateObject (normalized argument), ← closing? rest)

def instantText (now : Int) : List Char := (Calendar.internetText? now).getD []

/-- Both kinds of calls replaced, identifiers first; `now` is in milliseconds. -/
def expand (now : Int) (text : List Char) : List Char :=
  Text.replaceAll (date (instantText now)) (Text.replaceAll objectId text)

end Inquiry.ValueCall
