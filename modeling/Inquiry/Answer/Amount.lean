import Inquiry.Bson.Basic
import Inquiry.Text.Cut

/-! Numbers for a reader: thousands apart by commas, money with a sign and two places. -/
namespace Inquiry.Answer

/-- A comma before every third digit from the end. -/
def separated : List Char → List Char
  | [] => []
  | [c] => [c]
  | c :: rest => if rest.length % 3 = 0 then c :: ',' :: separated rest else c :: separated rest

def grouped : List Char → List Char
  | '-' :: digits => '-' :: separated digits
  | digits => separated digits

def groupedDecimal (text : List Char) : List Char :=
  match Text.splitAt? ['.'] text with
  | some (whole, fraction) => grouped whole ++ '.' :: fraction
  | none => grouped text

def number? : Value → Option Float
  | .int n => some n.toFloat
  | .long n => some n.toFloat
  | .double x => some x
  | _ => none

def groupedValue : Value → List Char
  | .int n => grouped (Decimal.ofInt n.toInt)
  | .long n => grouped (Decimal.ofInt n.toInt)
  | .double x => groupedDecimal (Decimal.plain x)
  | value => value.displayed.toList

def money (x : Float) : List Char :=
  let (whole, cents) := (Text.splitAt? ['.'] (Decimal.cents x)).getD (Decimal.cents x, ['0', '0'])
  (if x < 0 then ['-'] else []) ++ '$' :: grouped whole ++ '.' :: cents

end Inquiry.Answer
