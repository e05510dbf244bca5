namespace PayloadLedger
namespace Decimal

/-!
Doubles from decimal digits.

A number in a document is read as a whole significand and a power of ten.  The significand
is rounded to a double and scaled by one multiplication or division with a power of ten,
or by several where the power is beyond the table.  The result may differ from the nearest
double in its last place, and a result beyond all doubles is refused.
-/

/-- The largest power of ten that is a double. -/
def largestPower : Nat := 308

def tenTo (exponent : Nat) : Float :=
  Float.ofScientific 1 false exponent

/-- Divide by the largest power of ten until the rest of a negative power is one in the
table.  Two steps bring every significand to zero. -/
def scaleDown : Nat → Float → Nat → Float
  | 0, value, _ => value
  | fuel + 1, value, exponent =>
      if exponent ≤ largestPower then value / tenTo exponent
      else if value == 0 then value
      else scaleDown fuel (value / tenTo largestPower) (exponent - largestPower)

/-- The bits of `significand * 10 ^ exponent` with a sign, or nothing if it is too large. -/
def scaledBits? (negative : Bool) (significand : UInt64) (exponent : Int) : Option UInt64 :=
  let value := significand.toFloat
  let magnitude? : Option Float :=
    if exponent < 0 then some (scaleDown 4 value exponent.natAbs)
    else if exponent ≤ largestPower then
      let scaled := value * tenTo exponent.natAbs
      if scaled.isInf then none else some scaled
    else if value == 0 then some value
    else none
  magnitude?.map fun magnitude => (if negative then -magnitude else magnitude).toBits

end Decimal
end PayloadLedger
