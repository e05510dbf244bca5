import PayloadLedger.Decimal.Shortest

namespace PayloadLedger
namespace Decimal

/-!
Numbers in settings.

A decimal number in the text of a setting stands for the nearest double.  Where a setting
is wanted as text, a double is written with its shortest digits in positional notation, and
where a whole number is wanted, the double is rounded to the nearest one.
-/

def infinity : UInt64 := 0x7FF0000000000000

/-- The bits of the double that is no number. -/
def notANumber : UInt64 := 0x7FF8000000000000

def magnitudeBits (bits : UInt64) : Nat :=
  bits.toNat % 0x8000000000000000

def isNegative (bits : UInt64) : Bool :=
  0x8000000000000000 ≤ bits.toNat

/-- Set the sign if the number is negative. -/
def withSign (negative : Bool) (bits : UInt64) : UInt64 :=
  if negative then bits ||| 0x8000000000000000 else bits

/-- The double nearest to `significand * 10 ^ exponent`.  Numbers far beyond the largest or
below the smallest double are settled by their length. -/
def nearest (significand : Nat) (exponent : Int) : UInt64 :=
  let length : Int := (Text.decimal significand).length + exponent
  if significand = 0 ∨ length < -330 then 0
  else if 310 < length then infinity
  else (Float.ofScientific significand (exponent < 0) exponent.natAbs).toBits

/-! ## Reading -/

/-- The exponent behind the letter that announces it, or zero where nothing follows. -/
def exponentOf? : List Char → Option Int
  | [] => some 0
  | mark :: rest =>
      if mark = 'e' ∨ mark = 'E' then
        let (negative, digits) := match rest with
          | '-' :: digits => (true, digits)
          | '+' :: digits => (false, digits)
          | digits => (false, digits)
        if digits = [] ∨ digits.all Char.isDigit = false then none
        else
          let size : Int := Nat.ofDigitChars 10 digits 0
          some (if negative then -size else size)
      else none

/-- The double for digits, a point and an exponent, of which the point and the exponent may
be left out.  There is a digit on one side of the point at least. -/
def unsigned? (text : List Char) : Option UInt64 :=
  let whole := text.takeWhile Char.isDigit
  let rest := text.dropWhile Char.isDigit
  let (fraction, rest) := match rest with
    | '.' :: rest => (rest.takeWhile Char.isDigit, rest.dropWhile Char.isDigit)
    | rest => ([], rest)
  if whole ++ fraction = [] then none
  else (exponentOf? rest).map fun exponent =>
    nearest (Nat.ofDigitChars 10 (whole ++ fraction) 0) (exponent - fraction.length)

/-- The double that a text gives, with or without a sign.  The words for infinity and for
no number are read in capital and small letters. -/
def double? (text : List Char) : Option UInt64 :=
  let (negative, rest) := match text with
    | '-' :: rest => (true, rest)
    | '+' :: rest => (false, rest)
    | rest => (false, rest)
  let word := rest.map Char.toLower
  let magnitude? :=
    if word = "inf".toList ∨ word = "infinity".toList then some infinity
    else if word = "nan".toList then some notANumber
    else unsigned? rest
  magnitude?.map (withSign negative)

/-- The whole number that a text gives, with or without a sign, if it lies between two
bounds. -/
def wholeWithin? (low high : Int) (text : List Char) : Option Int :=
  let (negative, digits) := match text with
    | '-' :: digits => (true, digits)
    | '+' :: digits => (false, digits)
    | digits => (false, digits)
  if digits = [] ∨ digits.all Char.isDigit = false then none
  else
    let size : Int := Nat.ofDigitChars 10 digits 0
    let value := if negative then -size else size
    if low ≤ value ∧ value ≤ high then some value else none

/-! ## Writing and rounding -/

/-- A double in positional notation, without a point where it is whole. -/
def plain (bits : UInt64) : List Char :=
  let sign := if isNegative bits then ['-'] else []
  let value := Double.ofBits bits
  if infinity.toNat < magnitudeBits bits then "NaN".toList
  else if infinity.toNat = magnitudeBits bits then sign ++ "inf".toList
  else if value.mantissa = 0 then sign ++ ['0']
  else
    let shortened := shortest value
    let digits := Text.decimal shortened.digits
    let point : Int := digits.length + shortened.exponent
    sign ++
      if 0 ≤ shortened.exponent then digits ++ List.replicate shortened.exponent.toNat '0'
      else if 0 < point then digits.take point.toNat ++ '.' :: digits.drop point.toNat
      else "0.".toList ++ List.replicate point.natAbs '0' ++ digits

/-- The nearest natural number up to `largest`, where a half goes up.  Nothing is negative,
and what is no number is zero. -/
def rounded (largest : Nat) (bits : UInt64) : Nat :=
  let value := Double.ofBits bits
  if infinity.toNat < magnitudeBits bits ∨ isNegative bits then 0
  else if infinity.toNat = magnitudeBits bits then largest
  else
    let (numerator, denominator) := power 2 value.exponent
    min largest ((2 * value.mantissa * numerator + denominator) / (2 * denominator))

end Decimal
end PayloadLedger
