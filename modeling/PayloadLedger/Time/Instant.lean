import PayloadLedger.Time.Calendar

namespace PayloadLedger
namespace Time

/-!
Instants of time.

An instant is a count of seconds since 1970 and a fraction in nanoseconds.  A leap second
has no count of its own: it is the second before it with a fraction of a whole second or
more, and is written with a seconds field of sixty.

The ledger stores instants as text with six digits of fraction, cut and not rounded.  The
text has a fixed width for the years 0 to 9999, so that it sorts like time.
-/

/-- A point in time. -/
structure Instant where
  seconds : Int
  nanos : Nat
  deriving DecidableEq, Repr, Inhabited

namespace Instant

def second : Nat := 1000000000

def day : Int := 86400

/-- The first instant of the calendar. -/
def first : Instant := ⟨day * (Date.dayNumber ⟨firstYear, 1, 1⟩), 0⟩

def lastSecond : Int := day * (Date.dayNumber ⟨lastYear, 12, 31⟩) + day - 1

protected def lt (one other : Instant) : Prop :=
  one.seconds < other.seconds ∨ (one.seconds = other.seconds ∧ one.nanos < other.nanos)

instance : LT Instant := ⟨Instant.lt⟩

instance (one other : Instant) : Decidable (one < other) :=
  inferInstanceAs (Decidable (_ ∨ (_ ∧ _)))

protected def le (one other : Instant) : Prop := ¬ other < one

instance : LE Instant := ⟨Instant.le⟩

instance (one other : Instant) : Decidable (one ≤ other) :=
  inferInstanceAs (Decidable (¬ _))

/-- The date on which an instant falls. -/
def date (moment : Instant) : Date :=
  Date.ofDayNumber (moment.seconds / day)

def secondOfDay (moment : Instant) : Nat :=
  (moment.seconds % day).toNat

/-- The instant of a date and a time of day. -/
def ofDate (date : Date) (secondOfDay nanos : Nat) : Instant :=
  ⟨date.dayNumber * day + secondOfDay, nanos⟩

/-- The fraction cut down to whole microseconds. -/
def truncate (moment : Instant) : Instant :=
  ⟨moment.seconds, moment.nanos / 1000 * 1000⟩

/-- Milliseconds since 1970, rounded down. -/
def milliseconds (moment : Instant) : Int :=
  moment.seconds * 1000 + moment.nanos / 1000000

/-- The instant of a count of milliseconds, if the calendar reaches it. -/
def ofMilliseconds? (milliseconds : Int) : Option Instant :=
  let seconds := milliseconds / 1000
  if first.seconds ≤ seconds ∧ seconds ≤ lastSecond then
    some ⟨seconds, (milliseconds % 1000).toNat * 1000000⟩
  else none

/-- The instant `seconds` earlier, if the calendar reaches it.  Going back from a leap
second counts it as the first moment of the second after it. -/
def minus? (moment : Instant) (seconds : Nat) : Option Instant :=
  if seconds = 0 then some moment
  else
    let plain : Instant :=
      if second ≤ moment.nanos then ⟨moment.seconds + 1, moment.nanos - second⟩ else moment
    let earlier := plain.seconds - seconds
    if first.seconds ≤ earlier then some ⟨earlier, plain.nanos⟩ else none

/-- The milliseconds from `start` to `finish`.  A leap second that lies on the way within
the day counts as one more second. -/
def millisecondsBetween (start finish : Instant) : Int :=
  let days := finish.seconds / day - start.seconds / day
  let finishOfDay : Int := finish.secondOfDay
  let startOfDay : Int := start.secondOfDay
  let leap : Int :=
    if startOfDay < finishOfDay then (if second ≤ start.nanos then 1 else 0)
    else if finishOfDay < startOfDay then (if second ≤ finish.nanos then -1 else 0)
    else 0
  let whole := days * day + (finishOfDay - startOfDay) + leap
  (whole * second + (finish.nanos - start.nanos)) / 1000000

/-- The text of an instant whose fraction is already written. -/
def textWith (fraction : List Char) (moment : Instant) : String :=
  let leap := if second ≤ moment.nanos then 1 else 0
  String.ofList <|
    moment.date.text ++ 'T' :: Text.fixed 2 (moment.secondOfDay / 3600) ++
      ':' :: Text.fixed 2 (moment.secondOfDay / 60 % 60) ++
      ':' :: Text.fixed 2 (moment.secondOfDay % 60 + leap) ++ fraction ++ ['Z']

/-- The nanoseconds within the second that is written. -/
def subsecond (moment : Instant) : Nat :=
  moment.nanos % second

/-- The text that the ledger stores: six digits of fraction. -/
def stored (moment : Instant) : String :=
  moment.textWith ('.' :: Text.fixed 6 (moment.subsecond / 1000))

/-- The text with no fraction, or with three, six or nine digits of it, the fewest that
lose nothing. -/
def exact (moment : Instant) : String :=
  let nanos := moment.subsecond
  moment.textWith <|
    if nanos = 0 then []
    else if nanos % 1000000 = 0 then '.' :: Text.fixed 3 (nanos / 1000000)
    else if nanos % 1000 = 0 then '.' :: Text.fixed 6 (nanos / 1000)
    else '.' :: Text.fixed 9 nanos

end Instant

end Time
end PayloadLedger
