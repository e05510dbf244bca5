import PayloadLedger.Text.Decimal

namespace PayloadLedger
namespace Decimal

/-!
The shortest decimal digits of a binary floating-point number.

A finite double other than zero is `mantissa * 2 ^ exponent`.  The reals that round to it
form an interval, whose ends belong to it when the mantissa is even.  On the decimal grids
of one digit, two digits and so on up to seventeen, the two neighbours of the value are
tried; the first grid with a neighbour inside the interval gives the digits, and of two
neighbours inside, the nearer is taken, with ties going to the even one.
-/

/-- A double without its sign: `mantissa * 2 ^ exponent`. -/
structure Double where
  mantissa : Nat
  exponent : Int
  deriving DecidableEq, Repr

namespace Double

/-- The magnitude in the bits of a finite double. -/
def ofBits (bits : UInt64) : Double :=
  let raw : Nat := bits.toNat % 0x8000000000000000
  let field : Nat := raw / 0x10000000000000
  let fraction : Nat := raw % 0x10000000000000
  if field = 0 then ⟨fraction, -1074⟩ else ⟨0x10000000000000 + fraction, (field : Int) - 1075⟩

/-- The numbers that bound the reals rounding to a value, and the value between them, all
in quarters of its last binary place. -/
def quarters (value : Double) : Nat × Nat × Nat :=
  let below := if value.mantissa = 0x10000000000000 ∧ -1074 < value.exponent then 1 else 2
  (4 * value.mantissa - below, 4 * value.mantissa, 4 * value.mantissa + 2)

end Double

/-- Decimal digits and the power of ten that scales them. -/
structure Digits where
  digits : Nat
  exponent : Int
  deriving DecidableEq, Repr

/-- A power with an integer exponent, as a fraction. -/
def power (base : Nat) (exponent : Int) : Nat × Nat :=
  if exponent < 0 then (1, Nat.pow base exponent.natAbs) else (Nat.pow base exponent.natAbs, 1)

/-- The neighbour of `value` on the grid of multiples of `10 ^ exponent` that rounds to
`value`, if one does. -/
def onGrid? (value : Double) (exponent : Int) : Option Nat :=
  let (low, middle, high) := value.quarters
  let (binaryNumerator, binaryDenominator) := power 2 (value.exponent - 2)
  let (gridNumerator, gridDenominator) := power 10 exponent
  let scale := binaryNumerator * gridDenominator
  let step := binaryDenominator * gridNumerator
  let floor := middle * scale / step
  let inside (candidate : Nat) : Bool :=
    if value.mantissa % 2 = 0 then
      decide (low * scale ≤ candidate * step ∧ candidate * step ≤ high * scale)
    else decide (low * scale < candidate * step ∧ candidate * step < high * scale)
  let below := middle * scale - floor * step
  let above := (floor + 1) * step - middle * scale
  match inside floor, inside (floor + 1) with
  | false, false => none
  | true, false => some floor
  | false, true => some (floor + 1)
  | true, true =>
      if below < above then some floor
      else if above < below then some (floor + 1)
      else if floor % 2 = 0 then some floor else some (floor + 1)

/-- The exponent of the power of ten just above a value. -/
def magnitude (value : Double) : Int :=
  let (numerator, denominator) := power 2 value.exponent
  let whole := value.mantissa * numerator / denominator
  if whole = 0 then
    1 - (Text.decimal (denominator / (value.mantissa * numerator))).length
  else (Text.decimal whole).length

/-- Move trailing zeros of the digits into the exponent. -/
def stripZeros : Nat → Digits → Digits
  | 0, digits => digits
  | fuel + 1, digits =>
      if digits.digits % 10 = 0 ∧ digits.digits ≠ 0 then
        stripZeros fuel ⟨digits.digits / 10, digits.exponent + 1⟩
      else digits

def shortest (value : Double) : Digits :=
  let top := magnitude value
  let grids := (List.range 17).map fun count => top - (count + 1 : Nat)
  match grids.findSome? fun exponent => (onGrid? value exponent).map (Digits.mk · exponent) with
  | some digits => stripZeros 20 digits
  | none => ⟨value.mantissa, 0⟩

/-- The text of a double in a JSON document.  Values from `1e-5` up to `1e16` are written
with a point and at least one digit on each side of it, others with an exponent. -/
def text (bits : UInt64) : List Char :=
  let sign := if 0x8000000000000000 ≤ bits.toNat then ['-'] else []
  let value := Double.ofBits bits
  if value.mantissa = 0 then sign ++ "0.0".toList
  else
    let shortened := shortest value
    let digits := Text.decimal shortened.digits
    let point : Int := digits.length + shortened.exponent
    sign ++
      if 0 ≤ shortened.exponent ∧ point ≤ 16 then
        digits ++ List.replicate shortened.exponent.toNat '0' ++ ".0".toList
      else if 0 < point ∧ point ≤ 16 then
        digits.take point.toNat ++ '.' :: digits.drop point.toNat
      else if -5 < point ∧ point ≤ 0 then
        "0.".toList ++ List.replicate point.natAbs '0' ++ digits
      else
        digits.take 1 ++ (if digits.length = 1 then [] else '.' :: digits.drop 1) ++
          'e' :: Text.signed (point - 1)

end Decimal
end PayloadLedger
