/-! Plain decimal numerals: writing naturals and integers, and reading them back. -/
namespace Inquiry.Decimal

def ofNat (n : Nat) : List Char := Nat.toDigits 10 n

def ofInt (n : Int) : List Char := if n < 0 then '-' :: ofNat n.natAbs else ofNat n.natAbs

def natText (n : Nat) : String := String.ofList (ofNat n)

def intText (n : Int) : String := String.ofList (ofInt n)

def digitValue (c : Char) : Nat := c.toNat - 48

def valueOf (digits : List Char) : Nat :=
  digits.foldl (fun value c => 10 * value + digitValue c) 0

def isNumeral (digits : List Char) : Bool := !digits.isEmpty && digits.all Char.isDigit

def natOf? (digits : List Char) : Option Nat :=
  if isNumeral digits then some (valueOf digits) else none

def plusNatOf? : List Char → Option Nat
  | '+' :: digits => natOf? digits
  | digits => natOf? digits

def intOf? : List Char → Option Int
  | '-' :: digits => (natOf? digits).map fun n => -(n : Int)
  | '+' :: digits => (natOf? digits).map fun n => (n : Int)
  | digits => (natOf? digits).map fun n => (n : Int)

def int32Bound : Int := 0x80000000

def int64Bound : Int := 0x8000000000000000

def intWithin? (low high : Int) (text : List Char) : Option Int :=
  (intOf? text).filter fun n => low ≤ n && n ≤ high

def padded (width n : Nat) : List Char :=
  let digits := ofNat n
  List.replicate (width - digits.length) '0' ++ digits

end Inquiry.Decimal
