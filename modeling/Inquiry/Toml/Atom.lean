import Inquiry.Calendar
import Inquiry.Decimal.Scan
import Inquiry.Json.Literal
import Inquiry.Toml.Basic

/-!
Values that are one run of characters: integers, floats, truth values and dates. A date and a time
may also be two runs with one blank between them.
-/
namespace Inquiry.Toml

def isAtomChar (c : Char) : Bool :=
  c.isAlphanum || c = '+' || c = '-' || c = '_' || c = '.' || c = ':'

/-- The digits of a group in which every underscore stands between digits. -/
def group? (isDigit : Char → Bool) (text : List Char) : Option (List Char) :=
  if (text.splitOn '_').all fun part => !part.isEmpty && part.all isDigit then
    some (text.filter (· ≠ '_'))
  else none

def whole? (text : List Char) : Option (List Char) :=
  (group? Char.isDigit text).filter fun digits => digits.length = 1 || text.head? ≠ some '0'

def unsign : List Char → Bool × List Char
  | '-' :: rest => (true, rest)
  | '+' :: rest => (false, rest)
  | text => (false, text)

def inBase (base : Nat) (digits : List Char) : Nat :=
  digits.foldl (fun n c => base * n + (Json.hexValue? c).getD 0) 0

def based? (base : Nat) (isDigit : Char → Bool) (text : List Char) : Option Int :=
  (group? isDigit text).map fun digits => (inBase base digits : Int)

def anyInteger? : List Char → Option Int
  | '0' :: 'x' :: rest => based? 16 (fun c => (Json.hexValue? c).isSome) rest
  | '0' :: 'o' :: rest => based? 8 (fun c => '0' ≤ c && c ≤ '7') rest
  | '0' :: 'b' :: rest => based? 2 (fun c => c = '0' || c = '1') rest
  | text =>
    let (negative, digits) := unsign text
    (whole? digits).map fun digits =>
      if negative then -(Decimal.valueOf digits : Int) else Decimal.valueOf digits

def integer? (text : List Char) : Option Int :=
  (anyInteger? text).filter fun n => -Decimal.int64Bound ≤ n && n < Decimal.int64Bound

def exponent? : List Char → Option Int
  | [] => some 0
  | _ :: text =>
    let (negative, digits) := unsign text
    (group? Char.isDigit digits).map fun digits =>
      if negative then -(Decimal.valueOf digits : Int) else Decimal.valueOf digits

def fractionDigits? : List Char → Option (List Char)
  | [] => some []
  | _ :: digits => group? Char.isDigit digits

def magnitude? (text : List Char) : Option Float := do
  let mantissa := text.takeWhile fun c => c ≠ 'e' && c ≠ 'E'
  let whole ← whole? (mantissa.takeWhile (· ≠ '.'))
  let fraction ← fractionDigits? (mantissa.dropWhile (· ≠ '.'))
  let exponent ← exponent? (text.dropWhile fun c => c ≠ 'e' && c ≠ 'E')
  return Decimal.Numeral.nearest ⟨whole, fraction, exponent⟩

/-- Too large a positive number is none; a negative one becomes infinite. -/
def float? (text : List Char) : Option Float := do
  let (negative, rest) := unsign text
  if rest = "inf".toList then return if negative then -(1 / 0) else 1 / 0
  else if rest = "nan".toList then return if negative then -(0 / 0) else 0 / 0
  else
    let magnitude ← magnitude? rest
    if negative then return -magnitude
    else if magnitude.isInf then none else return magnitude

def dateThen? (text : List Char) : Option (List Char) := do
  let (year, rest) ← Calendar.digits? 4 text
  let rest ← Calendar.mark? '-' rest
  let (month, rest) ← Calendar.digits? 2 rest
  let rest ← Calendar.mark? '-' rest
  let (day, rest) ← Calendar.digits? 2 rest
  if Calendar.isDate year month day then some rest else none

def timeThen? (text : List Char) : Option (List Char) := do
  let (hour, rest) ← Calendar.digits? 2 text
  let rest ← Calendar.mark? ':' rest
  let (minute, rest) ← Calendar.digits? 2 rest
  let rest ← Calendar.mark? ':' rest
  let (second, rest) ← Calendar.digits? 2 rest
  let (_, rest) ← Calendar.fraction? rest
  if hour ≤ 23 && minute ≤ 59 && second ≤ 60 then some rest else none

def isZonedTime (text : List Char) : Bool :=
  match timeThen? text with
  | some [] => true
  | some zone => (Calendar.offset? zone).isSome
  | none => false

def isDateOrTime (text : List Char) : Bool :=
  match dateThen? text with
  | some [] => true
  | some (mark :: time) => (mark = 'T' || mark = 't') && isZonedTime time
  | none => timeThen? text = some []

def simple? (text : List Char) : Option Toml :=
  if text = "true".toList then some (.bool true)
  else if text = "false".toList then some (.bool false)
  else if isDateOrTime text then some (.date (String.ofList text))
  else match integer? text with
    | some n => some (.integer n)
    | none => (float? text).map .float

def laterTime? (run rest : List Char) : Option (List Char) :=
  match dateThen? run, rest with
  | some [], ' ' :: later =>
    let time := later.takeWhile isAtomChar
    if isZonedTime time then some time else none
  | _, _ => none

def atom? (text : List Char) : Option (Toml × List Char) := do
  let run := text.takeWhile isAtomChar
  let rest := text.dropWhile isAtomChar
  match laterTime? run rest with
  | some time => return (.date (String.ofList (run ++ ' ' :: time)), rest.drop (time.length + 1))
  | none => return (← simple? run, rest)

end Inquiry.Toml
