import PayloadLedger.InputError

namespace PayloadLedger
namespace Time

/-!
Spans of time such as `1d`, `36h` or `10m`.

A span is a run of digits and one letter for the unit.  The digits must fit in 64 bits
with a sign, and the span must have a count of milliseconds that does.
-/

/-- A length of time in whole seconds. -/
structure Span where
  seconds : Nat
  deriving DecidableEq, Repr

namespace Span

/-- The largest whole number that fits in 64 bits with a sign. -/
def largest : Nat := 0x7FFFFFFFFFFFFFFF

def longest : Nat := largest / 1000

/-- The seconds that a unit stands for. -/
def unitSeconds? : Char → Option Nat
  | 'd' => some 86400
  | 'h' => some 3600
  | 'm' => some 60
  | _ => none

def milliseconds (span : Span) : Nat :=
  span.seconds * 1000

/-- The span that a text gives. -/
def ofText? (text : String) : Except InputError Span :=
  match text.toList.getLast? with
  | none => .error .emptySpan
  | some unit =>
      let amount := text.toList.dropLast
      if amount = [] ∨ amount.all Char.isDigit = false then .error (.spanWithoutDigits text)
      else if largest < Nat.ofDigitChars 10 amount 0 then .error (.spanOutOfRange text)
      else match unitSeconds? unit with
        | none => .error (.unknownUnit unit)
        | some seconds =>
            let total := Nat.ofDigitChars 10 amount 0 * seconds
            if longest < total then .error (.spanOutOfRange text) else .ok ⟨total⟩

end Span

end Time
end PayloadLedger
