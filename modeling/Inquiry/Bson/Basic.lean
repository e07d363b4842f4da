import Inquiry.Bson.Base64
import Inquiry.Bson.Decimal128
import Inquiry.Calendar
import Inquiry.Decimal.Layout

/-! Values of the document database, and their plain texts. -/
namespace Inquiry

inductive Value where
  | double (value : Float)
  | text (value : String)
  | document (fields : List (String × Value))
  | list (items : List Value)
  | bool (value : Bool)
  | null
  | regex (pattern options : String)
  | code (source : String)
  | scopedCode (source : String) (scope : List (String × Value))
  | int (value : Int32)
  | long (value : Int64)
  | timestamp (seconds increment : UInt32)
  | binary (subtype : UInt8) (bytes : List UInt8)
  /-- An identifier, as its 24 small hexadecimal digits. -/
  | objectId (hex : String)
  | date (millis : Int64)
  | symbol (value : String)
  | decimal (value : Decimal128)
  | undefined
  | minKey
  | maxKey
  | pointer (target id : String)

/-- Fields in order, each name once. -/
abbrev Document := List (String × Value)

namespace Document

def get? (document : Document) (name : String) : Option Value :=
  (document.find? fun field => field.1 = name).map (·.2)

end Document

namespace Value

def typeName : Value → String
  | .double _ => "double"
  | .text _ => "string"
  | .document _ => "object"
  | .list _ => "array"
  | .binary .. => "binData"
  | .objectId _ => "objectId"
  | .bool _ => "bool"
  | .date _ => "date"
  | .null => "null"
  | .regex .. => "regex"
  | .int _ => "int"
  | .long _ => "long"
  | .timestamp .. => "timestamp"
  | .decimal _ => "decimal"
  | .code _ | .scopedCode .. | .symbol _ | .undefined | .minKey | .maxKey | .pointer .. => "other"

def hexText (n : Nat) : String := String.ofList (Nat.toDigits 16 n)

def dateText (millis : Int64) : String := String.ofList (Calendar.spacedText millis.toInt)

mutual

/-- The database's own notation; strings stand in quotes without escapes. -/
def shown : Value → String
  | .double x => Decimal.plainText x
  | .text s => "\"" ++ s ++ "\""
  | .document fields => shownFields fields
  | .list items => "[" ++ ", ".intercalate (shownItems items) ++ "]"
  | .bool b => if b then "true" else "false"
  | .null => "null"
  | .regex pattern options => "/" ++ pattern ++ "/" ++ options
  | .code source => source
  | .scopedCode source _ => source
  | .int n => Decimal.intText n.toInt
  | .long n => Decimal.intText n.toInt
  | .timestamp seconds increment =>
    "Timestamp(" ++ Decimal.natText seconds.toNat ++ ", " ++ Decimal.natText increment.toNat ++ ")"
  | .binary subtype bytes =>
    "Binary(0x" ++ hexText subtype.toNat ++ ", " ++ String.ofList (Base64.encode bytes) ++ ")"
  | .objectId hex => "ObjectId(\"" ++ hex ++ "\")"
  | .date millis => "DateTime(\"" ++ dateText millis ++ "\")"
  | .symbol s => "Symbol(\"" ++ s ++ "\")"
  | .decimal d => String.ofList d.text
  | .undefined => "undefined"
  | .minKey => "MinKey"
  | .maxKey => "MaxKey"
  | .pointer target id => "DbPointer(" ++ target ++ ", " ++ id ++ ")"

def shownItems : List Value → List String
  | [] => []
  | item :: rest => shown item :: shownItems rest

def shownFields : List (String × Value) → String
  | [] => "\x7b\x7d"
  | (name, value) :: rest =>
    "\x7b \"" ++ name ++ "\": " ++ shown value ++ shownMore rest ++ " \x7d"

def shownMore : List (String × Value) → String
  | [] => ""
  | (name, value) :: rest => ", \"" ++ name ++ "\": " ++ shown value ++ shownMore rest

end

/-- For a reader: strings and identifiers bare, dates in internet form, containers as `shown`. -/
def displayed : Value → String
  | .text s => s
  | .objectId hex => hex
  | .date millis =>
    match Calendar.internetText? millis.toInt with
    | some internet => String.ofList internet
    | none => shown (.date millis)
  | value => shown value

end Value

namespace Document

def shown (document : Document) : String := Value.shownFields document

def withTextId (document : Document) : Document :=
  document.map fun field =>
    match field with
    | ("_id", .objectId hex) => ("_id", .text hex)
    | field => field

end Document
end Inquiry
