import Inquiry.Decimal.Digits

/-!
Reading decimal numerals into binary floating point, in the two ways in use: rounded to nearest,
and the quick way of data files, which gathers at most 64 bits of digits and scales them once.
-/
namespace Inquiry.Decimal

structure Numeral where
  whole : List Char
  fraction : List Char
  exponent : Int

def nearest (digits : Nat) (exponent : Int) : Float :=
  let size := (ofNat digits).length + exponent
  if digits = 0 || size < -340 then 0
  else if 320 < size then 1 / 0
  else Float.ofScientific digits (exponent < 0) exponent.natAbs

def Numeral.nearest (numeral : Numeral) : Float :=
  Decimal.nearest (valueOf (numeral.whole ++ numeral.fraction))
    (numeral.exponent - numeral.fraction.length)

structure Gathered where
  significand : Nat
  exponent : Int
  full : Bool

/-- The next digit fits when the significand stays below `2 ^ 64`. -/
def fits (significand : Nat) (c : Char) : Bool := 10 * significand + digitValue c < UInt64.size

/-- A digit before the point; once one does not fit, the rest only scale. -/
def Gathered.whole (sofar : Gathered) (c : Char) : Gathered :=
  if !sofar.full && fits sofar.significand c then
    { sofar with significand := 10 * sofar.significand + digitValue c }
  else { sofar with exponent := sofar.exponent + 1, full := true }

/-- A digit after the point; once one does not fit, the rest are passed over. -/
def Gathered.fraction (sofar : Gathered) (c : Char) : Gathered :=
  if !sofar.full && fits sofar.significand c then
    { sofar with significand := 10 * sofar.significand + digitValue c, exponent := sofar.exponent - 1 }
  else { sofar with full := true }

def powerOfTen (e : Nat) : Float := Float.ofScientific 1 false e

/-- One multiplication or division by a power of ten, after steps of `10 ^ -308` where it takes more. -/
def scaled : Nat → Float → Int → Option Float
  | 0, _, _ => some 0
  | steps + 1, x, exponent =>
    if exponent.natAbs ≤ 308 then
      if exponent < 0 then some (x / powerOfTen exponent.natAbs)
      else
        let product := x * powerOfTen exponent.natAbs
        if product.isInf then none else some product
    else if x == 0 then some 0
    else if 0 ≤ exponent then none
    else scaled steps (x / powerOfTen 308) (exponent + 308)

def Numeral.quick? (numeral : Numeral) : Option Float :=
  let whole := numeral.whole.foldl Gathered.whole ⟨0, 0, false⟩
  let all := numeral.fraction.foldl Gathered.fraction { whole with full := false }
  let exponent := numeral.exponent
  if 0x80000000 ≤ exponent.natAbs then
    if all.significand ≠ 0 && 0 < exponent then none else some 0
  else scaled 8 all.significand.toUInt64.toFloat (all.exponent + exponent)

def exponentOf? : List Char → Option Int
  | 'e' :: rest | 'E' :: rest => intOf? rest
  | [] => some 0
  | _ => none

end Inquiry.Decimal
