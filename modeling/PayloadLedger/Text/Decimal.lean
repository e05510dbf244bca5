namespace PayloadLedger
namespace Text

/-!
Decimal digits of natural numbers, as wide as the number needs or padded with zeros.
-/

/-- The decimal digits of a number, most significant first. -/
def decimal (value : Nat) : List Char :=
  Nat.toDigits 10 value

/-- The last `width` decimal digits of a number, with zeros in front where it has fewer. -/
def fixed : Nat → Nat → List Char
  | 0, _ => []
  | width + 1, value => fixed width (value / 10) ++ [Nat.digitChar (value % 10)]

@[simp] theorem length_fixed (width value : Nat) : (fixed width value).length = width := by
  induction width generalizing value with
  | zero => rfl
  | succ width ih => simp [fixed, ih]

/-- The decimal digits of a number, with zeros in front up to `width`. -/
def padded (width value : Nat) : List Char :=
  let digits := decimal value
  List.replicate (width - digits.length) '0' ++ digits

/-- The digits of an integer behind its minus sign, if it has one. -/
def signed (value : Int) : List Char :=
  if value < 0 then '-' :: decimal value.natAbs else decimal value.natAbs

end Text
end PayloadLedger
