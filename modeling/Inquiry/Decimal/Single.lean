import Inquiry.Decimal.Layout

/-! Numbers of 64 bits in 32 bits: the nearest one, of two the even one. -/
namespace Inquiry.Decimal

/-- The bits of the magnitude that is nearest, those of infinity where it is too large. -/
def singleBits (magnitude : Binary) : Nat :=
  let size := magnitude.exponent + (Nat.log2 magnitude.mantissa + 1)
  -- The last of 24 places, or of the places that the smallest numbers have.
  let last := max (size - 24) (-149)
  let places := nearestEven (magnitude.mantissa * twoTo (magnitude.exponent - last).toNat)
    (twoTo (last - magnitude.exponent).toNat)
  min ((last + 149).toNat * twoTo 23 + places) 0x7f800000

def signedBits (negative : Bool) (bits : Nat) : Float32 :=
  Float32.ofBits ((if negative then bits + 0x80000000 else bits).toUInt32)

def toSingle (x : Float) : Float32 :=
  match reading x with
  | .nan => 0 / 0
  | .infinite negative => signedBits negative 0x7f800000
  | .zero negative => signedBits negative 0
  | .finite negative magnitude => signedBits negative (singleBits magnitude)

end Inquiry.Decimal
