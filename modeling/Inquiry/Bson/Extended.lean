import Inquiry.Bson.Basic
import Inquiry.Json.Reading

/-!
Extended JSON: an object with one of the reserved keys is that kind of value and must have exactly
its shape. Integers of 32 bits are `int`, of 64 bits `long`, other numbers `double`.
-/
namespace Inquiry.Extended

def int32? (n : Int) : Option Int32 :=
  if -Decimal.int32Bound ≤ n && n < Decimal.int32Bound then some (Int32.ofInt n) else none

def int64? (n : Int) : Option Int64 :=
  if -Decimal.int64Bound ≤ n && n < Decimal.int64Bound then some (Int64.ofInt n) else none

def ofInteger (n : Int) : Value :=
  match int32? n, int64? n with
  | some small, _ => .int small
  | none, some wide => .long wide
  | none, none => .double (Decimal.nearest n.natAbs 0)

def ofNumber? : Json.Number → Option Value
  | .integer n => some (ofInteger n)
  | .decimal x => some (.double x)
  | .single x => some (.double x.toFloat)
  | .beyond => none

def text? : Json → Option String
  | .text s => some s
  | _ => none

def exactly? (names : List String) (entries : List (String × Json)) : Option (List Json) :=
  if entries.length = names.length then names.mapM (Json.find? entries) else none

def only? (name : String) (entries : List (String × Json)) : Option Json :=
  match exactly? [name] entries with
  | some [value] => some value
  | _ => none

/-- The members of a body: an object of exactly these names, or a list of their values in order. -/
def body? (names : List String) : Json → Option (List Json)
  | .object entries => exactly? names (Json.lastWins entries)
  | .list items => if items.length = names.length then some items else none
  | _ => none

def isHex (c : Char) : Bool := (Json.hexValue? c).isSome

def objectId? (hex : String) : Option String :=
  if hex.length = 24 && hex.toList.all isHex then some (hex.map Char.toLower) else none

def oid? (entries : List (String × Json)) : Option String :=
  (only? "$oid" entries).bind text? |>.bind objectId?

def oidBody? (body : Json) : Option String :=
  match body? ["$oid"] body with
  | some [.text hex] => objectId? hex
  | _ => none

def sortedText (s : String) : String := String.ofList (s.toList.mergeSort (· ≤ ·))

def regex? (entries : List (String × Json)) : Option Value := do
  match ← (only? "$regularExpression" entries).bind (body? ["pattern", "options"]) with
  | [.text pattern, .text options] => some (.regex pattern (sortedText options))
  | _ => none

def longOf? (digits : String) : Option Int64 := (Decimal.intOf? digits.toList).bind int64?

def long? (entries : List (String × Json)) : Option Int64 :=
  (only? "$numberLong" entries).bind text? |>.bind longOf?

def longBody? (body : Json) : Option Int64 :=
  match body? ["$numberLong"] body with
  | some [.text digits] => longOf? digits
  | _ => none

/-- Digits with at most one point among or around them, and an optional exponent. -/
def floatMagnitude? (text : List Char) : Option Float := do
  let mantissa := text.takeWhile fun c => c ≠ 'e' && c ≠ 'E'
  let exponent ← Decimal.exponentOf? (text.dropWhile fun c => c ≠ 'e' && c ≠ 'E')
  let whole := mantissa.takeWhile (· ≠ '.')
  let fraction := (mantissa.dropWhile (· ≠ '.')).drop 1
  if Decimal.isNumeral (whole ++ fraction) then
    some (Decimal.Numeral.nearest ⟨whole, fraction, exponent⟩)
  else none

def unsignedFloat? (text : List Char) : Option Float :=
  let small := text.map Char.toLower
  if small = "inf".toList || small = "infinity".toList then some (1 / 0)
  else if small = "nan".toList then some (0 / 0)
  else floatMagnitude? text

def float? : List Char → Option Float
  | '-' :: rest => (unsignedFloat? rest).map fun x => -x
  | '+' :: rest => unsignedFloat? rest
  | text => unsignedFloat? text

def byte? (high low : Char) : Option UInt8 := do
  let high ← Json.hexValue? high
  let low ← Json.hexValue? low
  return (16 * high + low).toUInt8

def hexBytes? : List Char → Option (List UInt8)
  | [] => some []
  | high :: low :: rest => do
    let byte ← byte? high low
    let bytes ← hexBytes? rest
    return byte :: bytes
  | [_] => none

def binary? (entries : List (String × Json)) : Option Value := do
  match ← (only? "$binary" entries).bind (body? ["base64", "subType"]) with
  | [.text content, .text subtype] =>
    let bytes ← Base64.decode? content.toList
    match ← hexBytes? subtype.toList with
    | [kind] => some (.binary kind bytes)
    | _ => none
  | _ => none

def hyphenated? (text : List Char) : Option (List UInt8) :=
  if text.length = 36 && [8, 13, 18, 23].all (text[·]? = some '-') then
    hexBytes? (text.filter (· ≠ '-'))
  else none

/-- Plain, hyphenated, in braces or as a name. -/
def uuidBytes? (text : List Char) : Option (List UInt8) :=
  if text.length = 32 then hexBytes? text
  else if text.length = 38 && text.head? = some '\x7b' && text.getLast? = some '\x7d' then
    hyphenated? (text.drop 1).dropLast
  else if text.take 9 = "urn:uuid:".toList then hyphenated? (text.drop 9)
  else hyphenated? text

def uuid? (entries : List (String × Json)) : Option Value := do
  let text ← (only? "$uuid" entries).bind text?
  let bytes ← uuidBytes? text.toList
  if bytes.length = 16 then some (.binary 4 bytes) else none

def word32? : Json → Option UInt32
  | .number (.integer n) => if 0 ≤ n && n < 2 * Decimal.int32Bound then some n.toNat.toUInt32 else none
  | _ => none

def timestamp? (entries : List (String × Json)) : Option Value := do
  match ← (only? "$timestamp" entries).bind (body? ["t", "i"]) with
  | [t, i] => return .timestamp (← word32? t) (← word32? i)
  | _ => none

def date? (entries : List (String × Json)) : Option Value := do
  match ← only? "$date" entries with
  | .text s => (Calendar.instant? s.toList).bind int64? |>.map .date
  | .number (.integer n) => (int64? n).map .date
  | body => (longBody? body).map .date

def unitKey? (name : String) (value : Value) (entries : List (String × Json)) : Option Value := do
  match ← only? name entries with
  | .number (.integer 1) => some value
  | _ => none

def pointer? (entries : List (String × Json)) : Option Value := do
  match ← (only? "$dbPointer" entries).bind (body? ["$ref", "$id"]) with
  | [.text target, id] => (oidBody? id).map (.pointer target)
  | _ => none

def undefined? (entries : List (String × Json)) : Option Value := do
  match ← only? "$undefined" entries with
  | .bool true => some .undefined
  | _ => none

abbrev Reserved := String × (List (String × Json) → Option Value)

def beforeCode : List Reserved :=
  [("$oid", fun entries => (oid? entries).map .objectId),
   ("$symbol", fun entries => (only? "$symbol" entries).bind text? |>.map .symbol),
   ("$regularExpression", regex?),
   ("$numberInt", fun entries => (only? "$numberInt" entries).bind text? |>.bind fun s =>
      (Decimal.intOf? s.toList).bind int32? |>.map .int),
   ("$numberLong", fun entries => (long? entries).map .long),
   ("$numberDouble", fun entries => (only? "$numberDouble" entries).bind text? |>.bind fun s =>
      (float? s.toList).map .double),
   ("$numberDecimal", fun entries => (only? "$numberDecimal" entries).bind text? |>.bind fun s =>
      (Decimal128.ofText? s.toList).map .decimal),
   ("$binary", binary?),
   ("$uuid", uuid?)]

def afterCode : List Reserved :=
  [("$timestamp", timestamp?),
   ("$date", date?),
   ("$minKey", unitKey? "$minKey" .minKey),
   ("$maxKey", unitKey? "$maxKey" .maxKey),
   ("$dbPointer", pointer?),
   ("$undefined", undefined?)]

def hasKey (entries : List (String × Json)) (name : String) : Bool :=
  entries.any fun entry => entry.1 = name

def reserved? (kinds : List Reserved) (entries : List (String × Json)) : Option Reserved :=
  kinds.find? fun kind => hasKey entries kind.1

inductive Shape where
  | special (kind : Reserved)
  | code
  | plain

def shapeOf (entries : List (String × Json)) : Shape :=
  match reserved? beforeCode entries with
  | some kind => .special kind
  | none =>
    if hasKey entries "$code" then .code
    else match reserved? afterCode entries with
      | some kind => .special kind
      | none => .plain

def code? (entries : List (String × Json)) (scope : Option Document) : Option Value :=
  match only? "$code" entries, exactly? ["$code", "$scope"] entries with
  | some (.text source), _ => some (.code source)
  | _, some [.text source, .null] => some (.code source)
  | _, some [.text source, .object _] => scope.map (.scopedCode source)
  | _, _ => none

def plain? (read : List (String × Option Value)) : Option Document :=
  (Json.lastWins read).mapM fun (name, value) => value.map (name, ·)

mutual

def value? : Json → Option Value
  | .null => some .null
  | .bool b => some (.bool b)
  | .number n => ofNumber? n
  | .text s => some (.text s)
  | .list items => (values? items).map .list
  | .object entries =>
    match shapeOf entries with
    | .special kind => kind.2 (Json.lastWins entries)
    | .code => code? (Json.lastWins entries) (scope? none entries)
    | .plain => (plain? (fields entries)).map .document

def values? : List Json → Option (List Value)
  | [] => some []
  | item :: rest => (value? item).bind fun value => (values? rest).map (value :: ·)

def fields : List (String × Json) → List (String × Option Value)
  | [] => []
  | (name, value) :: rest => (name, value? value) :: fields rest

/-- The last scope, of which reserved keys are ordinary fields. -/
def scope? (last : Option Document) : List (String × Json) → Option Document
  | [] => last
  | (name, .object inner) :: rest =>
    scope? (if name = "$scope" then plain? (fields inner) else last) rest
  | _ :: rest => scope? last rest

end

end Inquiry.Extended
