import Inquiry.Decimal.Digits
import Inquiry.Text.Cut

/-!
Decimal floating-point numbers of 34 digits. A numeral that would need rounding has no value;
zeros may move between the digits and the exponent.
-/
namespace Inquiry

inductive Decimal128 where
  | finite (negative : Bool) (digits : Nat) (exponent : Int)
  | infinite (negative : Bool)
  | nan (negative signalling : Bool)
deriving DecidableEq

namespace Decimal128

def precision : Nat := 34

def lowest : Int := -6176

def highest : Int := 6111

/-- The first `keep` digits, when only zeros are cut. -/
def cut? (keep : Nat) (digits : List Char) : Option (List Char) :=
  if (digits.drop keep).all (· == '0') then some (digits.take keep) else none

def fitPrecision? (digits : List Char) (exponent : Int) : Option (List Char × Int) :=
  if digits.length ≤ precision then some (digits, exponent)
  else (cut? precision digits).map fun kept =>
    (kept, exponent + (digits.length - precision : Nat))

def fitLow? (digits : List Char) (exponent : Int) : Option (List Char × Int) :=
  if lowest ≤ exponent then some (digits, exponent)
  else if digits = ['0'] then some (digits, lowest)
  else
    let excess := (lowest - exponent).toNat
    if digits.length < excess then none
    else (cut? (digits.length - excess) digits).map (·, lowest)

def fitHigh? (digits : List Char) (exponent : Int) : Option (List Char × Int) :=
  if exponent ≤ highest then some (digits, exponent)
  else if digits = ['0'] then some (digits, highest)
  else
    let excess := (exponent - highest).toNat
    if precision < digits.length + excess then none
    else some (digits ++ List.replicate excess '0', highest)

/-- Sixteen bits hold the exponent as written and as moved by the fraction. -/
def exponentWithin? (exponent : Int) : Option Int :=
  if -32768 ≤ exponent && exponent ≤ 32767 then some exponent else none

def finite? (negative : Bool) (text : List Char) : Option Decimal128 := do
  let mantissa := text.takeWhile (· ≠ 'e')
  let written ← match text.dropWhile (· ≠ 'e') with
    | [] => some 0
    | _ :: tail => (Decimal.intOf? tail).bind exponentWithin?
  let fraction := (mantissa.dropWhile (· ≠ '.')).drop 1
  let exponent ← exponentWithin? (written - fraction.length)
  let joined := mantissa.takeWhile (· ≠ '.') ++ fraction
  if joined.isEmpty then none
  let significant := joined.dropWhile (· == '0')
  let digits := if significant.isEmpty then ['0'] else significant
  let (digits, exponent) ← fitPrecision? digits exponent
  let (digits, exponent) ← fitLow? digits exponent
  let (digits, exponent) ← fitHigh? digits exponent
  let value ← Decimal.plusNatOf? digits
  return .finite negative value exponent

def unsigned? (negative : Bool) (text : List Char) : Option Decimal128 :=
  let small := text.map Char.toLower
  if small = "nan".toList then some (.nan negative false)
  else if small = "snan".toList then some (.nan negative true)
  else if small = "infinity".toList || small = "inf".toList then some (.infinite negative)
  else finite? negative small

def ofText? : List Char → Option Decimal128
  | '-' :: rest => unsigned? true rest
  | '+' :: rest => unsigned? false rest
  | text => unsigned? false text

/-- Positional down to six zeros after the point, else one digit before the point and an exponent. -/
def magnitude (digits : Nat) (exponent : Int) : List Char :=
  let written := Decimal.ofNat digits
  let adjusted := exponent + written.length - 1
  if exponent ≤ 0 && -6 ≤ adjusted then
    let places := (-exponent).toNat
    if places = 0 then written
    else if written.length ≤ places then
      '0' :: '.' :: List.replicate (places - written.length) '0' ++ written
    else written.take (written.length - places) ++ '.' :: written.drop (written.length - places)
  else
    let tail := 'E' :: (if 0 < adjusted then '+' :: Decimal.ofInt adjusted else Decimal.ofInt adjusted)
    match written with
    | first :: second :: rest => first :: '.' :: second :: rest ++ tail
    | _ => written ++ tail

def text : Decimal128 → List Char
  | .finite negative digits exponent =>
    (if negative then ['-'] else []) ++ magnitude digits exponent
  | .infinite negative => (if negative then ['-'] else []) ++ "Infinity".toList
  | .nan negative signalling =>
    (if negative then ['-'] else []) ++ (if signalling then ['s'] else []) ++ "NaN".toList

end Decimal128
end Inquiry
