import Inquiry.Gate.Basic
import Inquiry.Text.Cut

/-!
The script gate: a call of a write method anywhere in a text, in any spelling of its letters.
Two characters beyond ASCII fold to letters, the Kelvin sign to `k` and the long s to `s`.
-/
namespace Inquiry.Gate

def writeMethods : List String :=
  ["drop", "dropDatabase", "deleteOne", "deleteMany", "updateOne", "updateMany", "insertOne",
   "insertMany", "replaceOne", "remove", "findOneAndUpdate", "findOneAndDelete",
   "findOneAndReplace", "bulkWrite", "createIndex", "renameCollection"]

/-- The small letter that stands for all characters that differ from it in case only. -/
def folded (c : Char) : Char :=
  if c == '\u212a' then 'k' else if c == 'ſ' then 's' else c.toLower

def afterName? : List Char → List Char → Option (List Char)
  | [], text => some text
  | _ :: _, [] => none
  | a :: name, b :: text => if folded a = folded b then afterName? name text else none

def opensCall (text : List Char) : Bool := Text.startsWith ['('] (Text.trimStart text)

def calls (text : List Char) (method : String) : Bool :=
  match afterName? method.toList text with
  | some rest => opensCall rest
  | none => false

/-- The method as listed, or as written where its letters are not ASCII. -/
def spelling (method : String) (text : List Char) : String :=
  let written := text.take method.length
  match writeMethods.find? fun listed => listed.toList.map Char.toLower = written.map Char.toLower with
  | some listed => listed
  | none => String.ofList written

def afterDot? (text : List Char) : Option Blocked :=
  let name := Text.trimStart text
  (writeMethods.find? (calls name)).map fun method => ⟨"." ++ spelling method name ++ "("⟩

def screenChars : List Char → Option Blocked
  | [] => none
  | c :: rest =>
    if c == '.' then
      match afterDot? rest with
      | some blocked => some blocked
      | none => screenChars rest
    else screenChars rest

def screenScript (text : String) : Option Blocked := screenChars text.toList

end Inquiry.Gate
