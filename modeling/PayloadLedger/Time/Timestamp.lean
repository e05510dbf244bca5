import PayloadLedger.InputError
import PayloadLedger.Text.Blank
import PayloadLedger.Time.Instant

namespace PayloadLedger
namespace Time

/-!
Reading timestamps.

Three grammars are in use.  The *strict* one has fields of fixed width and an offset.  The
*local* one has no offset, allows white space before each field, fields of one digit, and
a signed year of any length.  The *loose* one is the local grammar followed by an offset
and is used for the records that other programs hand over as JSON.

A timestamp given by a caller must be strict with offset zero, or local.
-/

namespace Timestamp

/-- A step of reading: it takes text from the front or finds a fault. -/
abbrev Reader := StateT (List Char) (Except TimestampFault)

/-- The fields of a date and a time of day. -/
structure Fields where
  date : Date
  hour : Nat
  minute : Nat
  second : Nat
  nanos : Nat

/-- Read between `least` and `most` digits; `none` sets no upper bound. -/
def digits (least : Nat) (most : Option Nat) : Reader Nat := fun text =>
  let window := match most with
    | some count => text.take count
    | none => text
  let run := window.takeWhile Char.isDigit
  if run.length < least then
    .error (if text.length < least then .tooShort else .invalid)
  else .ok (Nat.ofDigitChars 10 run 0, text.drop run.length)

def literal (c : Char) : Reader Unit := fun text =>
  match text with
  | [] => .error .tooShort
  | head :: tail => if head = c then .ok ((), tail) else .error .invalid

def blanks : Reader Unit := fun text => .ok ((), Text.trimStart text)

/-- Let a number pass if it lies between two bounds. -/
def within (low high : Nat) (value : Nat) : Reader Nat :=
  if low ≤ value ∧ value ≤ high then pure value else throw .outOfRange

def separator : Reader Unit := fun text =>
  match text with
  | [] => .error .tooShort
  | head :: tail =>
      if head = 'T' ∨ head = 't' ∨ head = ' ' then .ok ((), tail) else .error .invalid

/-- Read the digits of a fraction of a second.  Digits after the ninth are skipped. -/
def fractionDigits : Reader Nat := fun text =>
  let run := (text.take 9).takeWhile Char.isDigit
  if run = [] then .error (if text = [] then .tooShort else .invalid)
  else
    .ok (Nat.ofDigitChars 10 run 0 * Nat.pow 10 (9 - run.length),
      (text.drop run.length).dropWhile Char.isDigit)

def fraction : Reader Nat := fun text =>
  match text with
  | '.' :: tail => fractionDigits tail
  | _ => .ok (0, text)

/-- Read a two-digit count of hours or minutes of an offset. -/
def offsetPair : Reader Nat := fun text =>
  match text with
  | tens :: ones :: tail =>
      if tens.isDigit ∧ ones.isDigit then .ok (Nat.ofDigitChars 10 [tens, ones] 0, tail)
      else .error .invalid
  | [only] => .error (if only.utf8Size < 2 then .tooShort else .invalid)
  | [] => .error .tooShort

/-- Read an offset from UTC in seconds, where `colon` reads what stands between hours and
minutes. -/
def offset (colon : Reader Unit) : Reader Int := do
  match ← get with
  | [] => throw .tooShort
  | sign :: tail =>
      if sign = 'Z' ∨ sign = 'z' then
        set tail
        return 0
      else if sign = '+' ∨ sign = '-' ∨ sign = '\u2212' then
        set tail
        let hours ← offsetPair
        colon
        let minutes ← offsetPair
        if 60 ≤ minutes then throw .outOfRange
        let seconds : Int := hours * 3600 + minutes * 60
        return if sign = '+' then seconds else -seconds
      else throw .invalid

/-- The largest offset of the strict grammar. -/
def largestOffset : Int := (23 * 60 + 59) * 60

/-- Read a strict timestamp: its fields and its offset. -/
def strict : Reader (Fields × Int) := do
  let year ← digits 4 (some 4)
  literal '-'
  let month ← within 1 12 (← digits 2 (some 2))
  literal '-'
  let day ← within 1 31 (← digits 2 (some 2))
  separator
  let hour ← within 0 23 (← digits 2 (some 2))
  literal ':'
  let minute ← within 0 59 (← digits 2 (some 2))
  literal ':'
  let second ← within 0 60 (← digits 2 (some 2))
  let nanos ← fraction
  let seconds ← offset (literal ':')
  if seconds < -largestOffset ∨ largestOffset < seconds then throw .outOfRange
  return (⟨⟨year, month, day⟩, hour, minute, second, nanos⟩, seconds)

/-- Read a field of one or two digits behind optional white space. -/
def field (low high : Nat) : Reader Nat := do
  blanks
  within low high (← digits 1 (some 2))

/-- Read a year of up to four digits, or a signed one of any length, behind optional white
space. -/
def year : Reader Int := do
  blanks
  match ← get with
  | '-' :: tail =>
      set tail
      let value ← digits 1 none
      if 0x80000000 < value then throw .outOfRange
      return -(value : Int)
  | '+' :: tail =>
      set tail
      let value ← digits 1 none
      if 0x80000000 ≤ value then throw .outOfRange
      return value
  | _ =>
      let value ← digits 1 (some 4)
      return value

/-- Read a local date; `gap` reads what may stand before a separator. -/
def localDate (gap : Reader Unit) : Reader Date := do
  let year ← year
  gap
  literal '-'
  let month ← field 1 12
  gap
  literal '-'
  let day ← field 1 31
  return ⟨year, month, day⟩

/-- Read a local time of day on a date; `gap` reads what may stand before a separator. -/
def localTime (gap : Reader Unit) (date : Date) : Reader Fields := do
  let hour ← field 0 23
  gap
  literal ':'
  let minute ← field 0 59
  gap
  literal ':'
  let second ← field 0 60
  let nanos ← fraction
  return ⟨date, hour, minute, second, nanos⟩

def localFields : Reader Fields := do
  let date ← localDate (pure ())
  literal 'T'
  localTime (pure ()) date

def colonsOrBlanks : Reader Unit := fun text =>
  .ok ((), text.dropWhile fun c => c == ':' || Text.isBlank c)

/-- Read the offset of a loose timestamp, which may be spelled `UTC`. -/
def looseOffset : Reader Int := do
  blanks
  match ← get with
  | u :: t :: c :: tail =>
      if u.toUpper = 'U' ∧ t.toUpper = 'T' ∧ c.toUpper = 'C' then
        set tail
        return 0
      else offset colonsOrBlanks
  | _ => offset colonsOrBlanks

/-- Read a loose timestamp: its fields and its offset. -/
def loose : Reader (Fields × Int) := do
  let date ← localDate blanks
  separator
  let fields ← localTime blanks date
  let seconds ← looseOffset
  return (fields, seconds)

namespace Fields

/-- The instant of fields read at offset zero.  A leap second is kept as the second before
it with more than a whole second of fraction. -/
def instant (fields : Fields) : Except TimestampFault Instant :=
  if fields.date.isValid then
    let leap := if fields.second = 60 then 1 else 0
    .ok <| .ofDate fields.date
      (fields.hour * 3600 + fields.minute * 60 + (fields.second - leap))
      (fields.nanos + leap * Instant.second)
  else .error .outOfRange

def instantAt (fields : Fields) (offset : Int) : Except TimestampFault Instant := do
  let moment ← fields.instant
  if offset ≤ -Instant.day ∨ Instant.day ≤ offset then throw .outOfRange
  let seconds := moment.seconds - offset
  if Instant.first.seconds ≤ seconds ∧ seconds ≤ Instant.lastSecond then
    return ⟨seconds, moment.nanos⟩
  else throw .impossible

end Fields

/-- Read a whole text with nothing left over. -/
def whole (reader : Reader α) (trailing : List Char → Bool) (text : String) :
    Except TimestampFault α := do
  let (value, rest) ← reader.run text.toList
  if trailing rest then return value else throw .tooLong

/-- The instant and offset of a strict timestamp. -/
def ofStrict? (text : String) : Except TimestampFault (Instant × Int) := do
  let (fields, seconds) ← whole strict List.isEmpty text
  return (← fields.instantAt seconds, seconds)

def ofLocal? (text : String) : Except TimestampFault Instant := do
  (← whole localFields List.isEmpty text).instant

def ofLoose? (text : String) : Except TimestampFault Instant := do
  let (fields, seconds) ← whole loose (fun rest => (Text.trimStart rest).isEmpty) text
  fields.instantAt seconds

/-- The instant of a timestamp given by a caller: strict with offset zero, or local. -/
def ofUtc? (text : String) : Except InputError Instant :=
  match ofStrict? text with
  | .ok (moment, offset) => if offset = 0 then .ok moment else .error (.offsetTimestamp text)
  | .error _ => (ofLocal? text).mapError (.unreadableTimestamp text)

end Timestamp

end Time
end PayloadLedger
