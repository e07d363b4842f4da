/-!
The fewest decimal digits that read back to a binary floating-point number. A finite number is
`mantissa * 2 ^ exponent`; the reals that round to it form an interval whose ends belong to it when
the mantissa is even. Of the decimal grids `10 ^ k` the coarsest with a point in that interval
gives the digits; of two such points the nearer one is taken, and a tie goes as the format says.
-/
namespace Inquiry.Decimal

/-- A positive number `mantissa * 2 ^ exponent`; `narrow` when the gap below it is half the gap above. -/
structure Binary where
  mantissa : Nat
  exponent : Int
  narrow : Bool

inductive Reading where
  | nan
  | infinite (negative : Bool)
  | zero (negative : Bool)
  | finite (negative : Bool) (magnitude : Binary)

def twoTo (k : Nat) : Nat := Nat.pow 2 k

def tenTo (k : Nat) : Nat := Nat.pow 10 k

def readingOfBits (width precision bits : Nat) : Reading :=
  let fraction := bits % twoTo precision
  let field := bits / twoTo precision % twoTo width
  let negative := bits / twoTo (precision + width) % 2 == 1
  let lowest : Int := 2 - twoTo (width - 1) - precision
  if field = twoTo width - 1 then if fraction = 0 then .infinite negative else .nan
  else if field = 0 then
    if fraction = 0 then .zero negative else .finite negative ⟨fraction, lowest, false⟩
  else .finite negative
    ⟨twoTo precision + fraction, lowest + (field - 1 : Int), fraction = 0 && 1 < field⟩

def reading (x : Float) : Reading := readingOfBits 11 52 x.toBits.toNat

def reading32 (x : Float32) : Reading := readingOfBits 8 23 x.toBits.toNat

inductive Tie where
  | up
  | even

/-- Digits of the point of the grid `10 ^ k` that stands for `value`, if the interval has one. -/
def onGrid? (tie : Tie) (value : Binary) (k : Int) : Option Nat :=
  -- in quarters of a unit of the last place, over a common denominator
  let unit := twoTo (value.exponent - 2).toNat * tenTo (-k).toNat
  let grid := twoTo (2 - value.exponent).toNat * tenTo k.toNat
  let middle := 4 * value.mantissa * unit
  let low := (4 * value.mantissa - if value.narrow then 1 else 2) * unit
  let high := (4 * value.mantissa + 2) * unit
  let inside (j : Nat) : Bool :=
    if value.mantissa % 2 == 0 then low ≤ j * grid && j * grid ≤ high
    else low < j * grid && j * grid < high
  let below := middle / grid
  let nearer : Bool :=
    let twice := 2 * (middle - below * grid)
    match tie with
    | .up => twice < grid
    | .even => twice < grid || (twice == grid && below % 2 == 0)
  match inside below, inside (below + 1) with
  | true, true => some (if nearer then below else below + 1)
  | true, false => some below
  | false, true => some (below + 1)
  | false, false => none

def firstGrid (tie : Tie) (value : Binary) : Nat → Int → Nat × Int
  | 0, k => (0, k)
  | tries + 1, k =>
    match onGrid? tie value k with
    | some digits => (digits, k)
    | none => firstGrid tie value tries (k - 1)

def shortest (tie : Tie) (value : Binary) : Nat × Int :=
  let bits : Int := value.exponent + (Nat.log2 value.mantissa + 1)
  -- no grid above this one has a point in the interval
  firstGrid tie value 24 (if 0 ≤ bits then bits * 30103 / 100000 + 1 else bits * 30102 / 100000 + 1)

end Inquiry.Decimal
