/-!
# Double-precision numbers

A double is read off its 64 bits as `mantissa * 2 ^ exponent`. All that is computed with doubles
is a whole number scaled by a factor and rounded up, and the double nearest to a whole number.
Both are done in exact arithmetic on natural numbers.
-/

namespace FlowSteer

/-- Value of a double-precision number. -/
inductive Binary64 where
  | nan
  | infinite (negative : Bool)
  /-- The number `mantissa * 2 ^ exponent`, or its negative. -/
  | finite (negative : Bool) (mantissa : Nat) (exponent : Int)
deriving DecidableEq, Inhabited

namespace Binary64

/-- Reads a double off its bits: sign, eleven bits of exponent, fifty-two bits of fraction. -/
def ofBits (bits : Nat) : Binary64 :=
  let negative := (bits >>> 63) % 2 == 1
  let exponent : Nat := (bits >>> 52) % 2048
  let fraction := bits % (1 <<< 52)
  if exponent = 2047 then
    if fraction = 0 then infinite negative else nan
  else if exponent = 0 then finite negative fraction (-1074)
  else finite negative ((1 <<< 52) + fraction) ((exponent : Int) - 1075)

/-- The double nearest to a whole number, which is a whole number again: at most fifty-three
significant bits are kept, and of two nearest doubles the one with an even mantissa is taken. -/
def nearest (n : Nat) : Nat :=
  let lost := n.log2 + 1 - 53
  let unit := 1 <<< lost
  let kept := n / unit
  let rest := n % unit
  let up := unit < 2 * rest || (2 * rest == unit && kept % 2 == 1 && lost != 0)
  (if up then kept + 1 else kept) * unit

/-- `mantissa * 2 ^ exponent` rounded up to a whole number. -/
def ceilScaled (mantissa : Nat) (exponent : Int) : Nat :=
  if 0 ≤ exponent then mantissa <<< exponent.toNat
  else
    let unit := 1 <<< (-exponent).toNat
    (mantissa + unit - 1) / unit

/-- A positive whole number times a factor, as a double, rounded up to a 64-bit word. The word
is the largest one where the product is larger, and 0 where the product is negative or no
number. -/
def ceilProduct (n : Nat) : Binary64 → Nat
  | nan => 0
  | infinite negative => if negative then 0 else UInt64.size - 1
  | finite negative mantissa exponent =>
      if negative then 0
      else min (ceilScaled (nearest (nearest n * mantissa)) exponent) (UInt64.size - 1)

/-- One half. -/
def half : Binary64 := ofBits 0x3FE0000000000000

/-- The double nearest to ninety-nine hundredths. -/
def ninetyNineHundredths : Binary64 := ofBits 0x3FEFAE147AE147AE

end Binary64

end FlowSteer
