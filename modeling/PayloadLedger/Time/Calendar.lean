import PayloadLedger.Text.Decimal

namespace PayloadLedger
namespace Time

/-!
The civil calendar.

Days are numbered from the first of January 1970 and dated by the Gregorian rules, which
are extended to all years, the year zero and negative years included.
-/

/-- A day of the calendar. -/
structure Date where
  year : Int
  month : Nat
  day : Nat
  deriving DecidableEq, Repr

def firstYear : Int := -262143

def lastYear : Int := 262142

/-- Years divisible by four are leap years, except centuries not divisible by 400. -/
def isLeapYear (year : Int) : Bool :=
  year % 4 == 0 && (year % 100 != 0 || year % 400 == 0)

def monthLengths (year : Int) : List Nat :=
  [31, if isLeapYear year then 29 else 28, 31, 30, 31, 30, 31, 31, 30, 31, 30, 31]

/-- The number of days from the start of the year zero to the start of `year`, negative
for earlier years. -/
def daysBeforeYear (year : Int) : Int :=
  365 * year + ((year + 3) / 4 - (year + 99) / 100 + (year + 399) / 400)

theorem daysBeforeYear_succ (year : Int) :
    daysBeforeYear (year + 1) = daysBeforeYear year + if isLeapYear year then 366 else 365 := by
  simp only [daysBeforeYear, isLeapYear, Bool.and_eq_true, Bool.or_eq_true, beq_iff_eq,
    bne_iff_ne, ne_eq]
  split <;> omega

/-- The day number of the first of January in the year zero is minus this. -/
def daysBeforeEpoch : Int := 719528

namespace Date

/-- The date occurs in the calendar. -/
def isValid (date : Date) : Bool :=
  firstYear ≤ date.year && date.year ≤ lastYear && 1 ≤ date.month && 1 ≤ date.day &&
    date.day ≤ (monthLengths date.year).getD (date.month - 1) 0

/-- The number of days in a year before the month of a date. -/
def daysBeforeMonth (date : Date) : Nat :=
  ((monthLengths date.year).take (date.month - 1)).foldr (· + ·) 0

/-- The number of days from 1970-01-01 to a date. -/
def dayNumber (date : Date) : Int :=
  daysBeforeYear date.year + date.daysBeforeMonth + date.day - 1 - daysBeforeEpoch

/-- The month and day that stand `days` days after the start of `month`, where `lengths`
are the lengths of that month and the later ones. -/
def ofDayOfYear (month : Nat) : List Nat → Nat → Nat × Nat
  | [], days => (month, days + 1)
  | length :: lengths, days =>
      if days < length then (month, days + 1) else ofDayOfYear (month + 1) lengths (days - length)

/-- The year in which a day, counted from the start of the year zero, falls.  The average
length of a year gives a year that is right or one too early. -/
def yearOfDay (days : Int) : Int :=
  let guess := (400 * days) / 146097
  if daysBeforeYear (guess + 1) ≤ days then guess + 1
  else if days < daysBeforeYear guess then guess - 1
  else guess

def ofDayNumber (number : Int) : Date :=
  let days := number + daysBeforeEpoch
  let year := yearOfDay days
  let (month, day) := ofDayOfYear 1 (monthLengths year) (days - daysBeforeYear year).toNat
  ⟨year, month, day⟩

/-- A date as text: the year in four digits, or signed where four do not do. -/
def text (date : Date) : List Char :=
  yearText date.year ++ '-' :: Text.fixed 2 date.month ++ '-' :: Text.fixed 2 date.day
where
  yearText (year : Int) : List Char :=
    if 0 ≤ year ∧ year ≤ 9999 then Text.fixed 4 year.toNat
    else (if year < 0 then '-' else '+') :: Text.padded 4 year.natAbs

end Date

end Time
end PayloadLedger
