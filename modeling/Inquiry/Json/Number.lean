import Inquiry.Json.Basic

/-! Number literals: an integer of 64 bits keeps its value, all else is a binary float. -/
namespace Inquiry.Json

def isFraction : List Char → Bool
  | '.' :: digits => Decimal.isNumeral digits
  | digits => digits.isEmpty

def wellFormed (whole fraction : List Char) : Bool :=
  Decimal.isNumeral whole && (whole.length = 1 || whole.head? ≠ some '0') && isFraction fraction

def isWord (value : Int) : Bool := -Decimal.int64Bound ≤ value && value < 2 * Decimal.int64Bound

def Number.ofMagnitude (negative : Bool) (whole fraction tail : List Char) : Option Number := do
  let exponent ← Decimal.exponentOf? tail
  let value : Int := if negative then -(Decimal.valueOf whole : Int) else Decimal.valueOf whole
  if fraction.isEmpty && tail.isEmpty && !(negative && value == 0) && isWord value then
    return .integer value
  match Decimal.Numeral.quick? ⟨whole, fraction.drop 1, exponent⟩ with
  | some magnitude => return .decimal (if negative then -magnitude else magnitude)
  | none => return .beyond

def Number.ofLiteral? (literal : List Char) : Option Number :=
  let negative := literal.head? = some '-'
  let unsigned := if negative then literal.drop 1 else literal
  let mantissa := unsigned.takeWhile fun c => c ≠ 'e' && c ≠ 'E'
  let tail := unsigned.dropWhile fun c => c ≠ 'e' && c ≠ 'E'
  let whole := mantissa.takeWhile (· ≠ '.')
  let fraction := mantissa.dropWhile (· ≠ '.')
  if wellFormed whole fraction then Number.ofMagnitude negative whole fraction tail else none

end Inquiry.Json
