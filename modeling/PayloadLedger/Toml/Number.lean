import PayloadLedger.Settings.Setting

namespace PayloadLedger
namespace Toml

/-!
Numbers in a settings file.

Digits may be grouped by single underscores between them.  A whole number must fit in 64
bits with a sign, has no needless zeros in front unless it is written in another base, and
only then has no sign.  A number with a fraction or an exponent stands for the nearest
double; one that is too large is refused, though it is kept with a minus sign.
-/

/-- Digits without the underscores that group them. -/
def ungrouped? (isDigit : Char → Bool) : List Char → Option (List Char)
  | [] => none
  | [digit] => if isDigit digit then some [digit] else none
  | digit :: '_' :: rest =>
      if isDigit digit then (ungrouped? isDigit rest).map (digit :: ·) else none
  | digit :: next :: rest =>
      if isDigit digit then (ungrouped? isDigit (next :: rest)).map (digit :: ·) else none

/-- The sign at the front of a number, and the rest. -/
def splitSign : List Char → List Char × List Char
  | '+' :: rest => (['+'], rest)
  | '-' :: rest => (['-'], rest)
  | rest => ([], rest)

/-- Decimal digits of which the first is no needless zero. -/
def decimalDigits? (text : List Char) : Option (List Char) := do
  let digits ← ungrouped? Char.isDigit text
  match digits with
  | '0' :: _ :: _ => none
  | _ => return digits

def largestWhole : Int := 0x7FFFFFFFFFFFFFFF

/-- The value of a digit in a base up to sixteen. -/
def digitValue (c : Char) : Nat :=
  if c.isDigit then c.toNat - '0'.toNat else c.toLower.toNat - 'a'.toNat + 10

/-- A whole number in a base other than ten. -/
def inBase? (base : Nat) (isDigit : Char → Bool) (text : List Char) : Option Int := do
  let digits ← ungrouped? isDigit text
  let value : Int := (digits.foldl (fun value c => base * value + digitValue c) 0 : Nat)
  if value ≤ largestWhole then return value else none

def isHexDigit (c : Char) : Bool :=
  c.isDigit || ('a' ≤ c && c ≤ 'f') || ('A' ≤ c && c ≤ 'F')

def wholeNumber? : List Char → Option Int
  | '0' :: 'x' :: rest => inBase? 16 isHexDigit rest
  | '0' :: 'o' :: rest => inBase? 8 (fun c => '0' ≤ c && c ≤ '7') rest
  | '0' :: 'b' :: rest => inBase? 2 (fun c => c = '0' || c = '1') rest
  | text => do
      let (sign, rest) := splitSign text
      Decimal.wholeWithin? (-largestWhole - 1) largestWhole (sign ++ (← decimalDigits? rest))

def isExponentMark (c : Char) : Bool :=
  c = 'e' || c = 'E'

/-- The exponent of a number without its groups, or nothing where there is none. -/
def exponent? : List Char → Option (List Char)
  | [] => some []
  | mark :: rest => do
      if isExponentMark mark then
        let (sign, digits) := splitSign rest
        return 'e' :: sign ++ (← ungrouped? Char.isDigit digits)
      else none

/-- A number with a fraction or an exponent. -/
def realNumber? (text : List Char) : Option UInt64 := do
  let (sign, rest) := splitSign text
  let endsWhole (c : Char) : Bool := c = '.' || isExponentMark c
  let whole ← decimalDigits? (rest.takeWhile (!endsWhole ·))
  let cleaned ← match rest.dropWhile (!endsWhole ·) with
    | [] => none
    | '.' :: rest => do
        let fraction ← ungrouped? Char.isDigit (rest.takeWhile (!isExponentMark ·))
        pure ('.' :: fraction ++ (← exponent? (rest.dropWhile (!isExponentMark ·))))
    | rest => exponent? rest
  let bits ← Decimal.double? (sign ++ whole ++ cleaned)
  if bits = Decimal.infinity then none else return bits

/-- The words for infinity and for no number, with or without a sign. -/
def specialNumber? (text : List Char) : Option UInt64 :=
  let (sign, word) := splitSign text
  if word = "inf".toList ∨ word = "nan".toList then Decimal.double? (sign ++ word) else none

def number? (text : List Char) : Option Setting :=
  match wholeNumber? text with
  | some value => some (.whole value)
  | none => (realNumber? text <|> specialNumber? text).map .real

end Toml
end PayloadLedger
