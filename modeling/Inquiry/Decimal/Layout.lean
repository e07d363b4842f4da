import Inquiry.Decimal.Digits
import Inquiry.Decimal.Shortest

/-! How floating-point numbers are written: positional, as in a data file, and in fixed places. -/
namespace Inquiry.Decimal

def signed (negative : Bool) (text : List Char) : List Char :=
  if negative then '-' :: text else text

/-- `digits * 10 ^ k` without an exponent. -/
def positional (digits : Nat) (k : Int) : List Char :=
  let written := ofNat digits
  if 0 ≤ k then written ++ List.replicate k.toNat '0'
  else
    let places := (-k).toNat
    if places < written.length then
      written.take (written.length - places) ++ '.' :: written.drop (written.length - places)
    else '0' :: '.' :: List.replicate (places - written.length) '0' ++ written

def plain (x : Float) : List Char :=
  match reading x with
  | .nan => "NaN".toList
  | .infinite negative => signed negative "inf".toList
  | .zero negative => signed negative ['0']
  | .finite negative magnitude =>
    let (digits, k) := shortest .up magnitude
    signed negative (positional digits k)

def plainText (x : Float) : String := String.ofList (plain x)

structure DataLayout where
  lowest : Int
  highest : Int

def double : DataLayout := ⟨-5, 15⟩

def single : DataLayout := ⟨-6, 12⟩

def exponentText (e : Int) : List Char :=
  if e < 0 then '-' :: ofNat e.natAbs else '+' :: ofNat e.natAbs

def data? (layout : DataLayout) : Reading → Option (List Char)
  | .nan | .infinite _ => none
  | .zero negative => some (signed negative "0.0".toList)
  | .finite negative magnitude =>
    let (digits, k) := shortest .even magnitude
    let written := ofNat digits
    let e := written.length + k - 1
    some <| signed negative <|
      if layout.lowest ≤ e && e ≤ layout.highest then
        positional digits k ++ if 0 ≤ k then ['.', '0'] else []
      else
        match written with
        | first :: second :: rest => first :: '.' :: second :: rest ++ 'e' :: exponentText e
        | _ => written ++ 'e' :: exponentText e

def nearestEven (num den : Nat) : Nat :=
  let below := num / den
  let twice := 2 * (num % den)
  if twice < den || (twice == den && below % 2 == 0) then below else below + 1

/-- The magnitude of a number in hundredths, the even neighbour for a tie. -/
def hundredths (magnitude : Binary) : Nat :=
  nearestEven (magnitude.mantissa * twoTo magnitude.exponent.toNat * 100)
    (twoTo (-magnitude.exponent).toNat)

/-- The magnitude of `x` with two places; `NaN` and `inf` stand bare. -/
def cents (x : Float) : List Char :=
  let places (n : Nat) : List Char := ofNat (n / 100) ++ '.' :: padded 2 (n % 100)
  match reading x with
  | .nan => "NaN".toList
  | .infinite _ => "inf".toList
  | .zero _ => places 0
  | .finite _ magnitude => places (hundredths magnitude)

end Inquiry.Decimal
