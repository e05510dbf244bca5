import PayloadLedger.Text.Decimal
import PayloadLedger.Time.Calendar

namespace PayloadLedger
namespace Toml

/-!
Dates and times in a settings file.

Settings have no dates or times of their own, so one is read only to be written again as
text: with a `T` between date and time, at most nine digits of fraction, no zeros at the end
of the fraction, and a sign of plus on an offset of zero.
-/

/-- A step of reading a date or a time. -/
abbrev TimeReader := StateT (List Char) Option

/-- Read one character that satisfies a condition. -/
def oneOf (accept : Char → Bool) : TimeReader Char := fun text =>
  match text with
  | c :: rest => if accept c then some (c, rest) else none
  | [] => none

/-- Read a number of a fixed width between two bounds. -/
def numberOf (width low high : Nat) : TimeReader Nat := fun text =>
  let digits := text.take width
  let value := Nat.ofDigitChars 10 digits 0
  if digits.length = width ∧ digits.all Char.isDigit ∧ low ≤ value ∧ value ≤ high then
    some (value, text.drop width)
  else none

def date : TimeReader (List Char) := do
  let year ← numberOf 4 0 9999
  let _ ← oneOf (· = '-')
  let month ← numberOf 2 1 12
  let _ ← oneOf (· = '-')
  let day ← numberOf 2 1 31
  if Time.Date.isValid ⟨year, month, day⟩ then
    return Text.fixed 4 year ++ '-' :: Text.fixed 2 month ++ '-' :: Text.fixed 2 day
  else failure

def fraction : TimeReader (List Char) := fun text =>
  match text with
  | '.' :: rest =>
      match rest.takeWhile Char.isDigit with
      | [] => none
      | digits =>
          let kept := ((digits.take 9).reverse.dropWhile (· = '0')).reverse
          some (if kept = [] then [] else '.' :: kept, rest.dropWhile Char.isDigit)
  | _ => some ([], text)

def timeOfDay : TimeReader (List Char) := do
  let hour ← numberOf 2 0 23
  let _ ← oneOf (· = ':')
  let minute ← numberOf 2 0 59
  let _ ← oneOf (· = ':')
  let second ← numberOf 2 0 60
  let fraction ← fraction
  return Text.fixed 2 hour ++ ':' :: Text.fixed 2 minute ++ ':' :: Text.fixed 2 second ++ fraction

def offset : TimeReader (List Char) := fun text =>
  match text with
  | [] => some ([], [])
  | c :: rest =>
      if c = 'Z' ∨ c = 'z' then some (['Z'], rest)
      else if c = '+' ∨ c = '-' then
        let sized : TimeReader (List Char) := do
          let hours ← numberOf 2 0 23
          let _ ← oneOf (· = ':')
          let minutes ← numberOf 2 0 59
          let sign := if hours = 0 ∧ minutes = 0 then '+' else c
          return sign :: Text.fixed 2 hours ++ ':' :: Text.fixed 2 minutes
        sized rest
      else some ([], text)

/-- What a reader makes of a whole text. -/
def whole? (reader : TimeReader α) (text : List Char) : Option α :=
  match reader text with
  | some (value, []) => some value
  | _ => none

def timeBehindDate : TimeReader (List Char) := do
  let time ← timeOfDay
  return time ++ (← offset)

/-- The text of a date, a time, or both with or without an offset. -/
def dateTime? (text : List Char) : Option (List Char) :=
  whole? timeOfDay text <|> whole? date text <|> whole? (do
    let date ← date
    let _ ← oneOf fun c => c = 'T' || c = 't' || c = ' '
    return date ++ 'T' :: (← timeBehindDate)) text

end Toml
end PayloadLedger
