import PinAudit.Decimal.Shortest

/-!
# The double nearest to a decimal

Reading a decimal `m · 10^e` as a double takes the double nearest to it, a tie going to the even
mantissa; a decimal at least as far above the largest double as a rounding step reads as
infinity, and one below half the least subnormal as zero. The sign is applied last, so `-0`
reads as negative zero.

Magnitudes far outside the range of doubles are settled from the number of digits alone, so that
a long exponent costs nothing.

Main definitions: `Double.nearest`.
-/

namespace PinAudit.Double

/-- The bits of positive infinity. -/
def infinityBits : UInt64 := 0x7FF0000000000000

/-- The bits of the quiet not-a-number. -/
def notANumberBits : UInt64 := 0x7FF8000000000000

/-- The same double with the other sign. -/
def negate (bits : UInt64) : UInt64 := bits ^^^ 0x8000000000000000

/-- **The double nearest to `m · 10^e`**, with the sign given, as bits. -/
def nearest (negative : Bool) (m : Nat) (e : Int) : UInt64 :=
  let magnitude : UInt64 :=
    if m == 0 then 0
    else
      let top := e + digitCount m
      if top > 310 then infinityBits
      else if top < -330 then 0
      else if e < 0 then (Float.ofScientific m true e.natAbs).toBits
      else (Float.ofScientific m false e.toNat).toBits
  if negative then negate magnitude else magnitude

end PinAudit.Double
