import PayloadLedger.Json.Basic
import PayloadLedger.Key
import PayloadLedger.Reply
import PayloadLedger.Time.Span
import PayloadLedger.Time.Timestamp

namespace PayloadLedger

/-!
The event log.

The log is a list of events, one for each transition that was offered and found valid.  It
is only ever added to, and only ever read as counts: how many events fall into a bucket of
time with a measure, and how many different items they are about.  A strict log reports an
invalid event; a lenient one passes over it.
-/

/-- An event ready to be logged. -/
structure EventEntry where
  workflow : String
  collections : String
  itemIds : String
  execution : String
  time : Time.Instant
  measure : Measure
  deriving DecidableEq, Repr

namespace EventEntry

/-- Check what is known of a transition: the partition, the item ids, the execution and the
time, in this order. -/
def check (key : Key) (measure : Measure) (time execution : String) :
    Except StoreError EventEntry := do
  let key ← (Key.ofPartition key.partition key.itemIds).mapError .input
  if key.itemIds = "" then throw (.eventWithoutItems key.partition)
  if execution = "" then throw (.eventWithoutExecution key.payloadId)
  let time ← (Time.Timestamp.ofUtc? time).mapError .input
  return {
    workflow := key.workflow
    collections := key.collections
    itemIds := key.itemIds
    execution
    time
    measure }

end EventEntry

/-- An event as it is stored: its time in milliseconds and its measure by name. -/
structure StoredEvent where
  workflow : String
  collections : String
  itemIds : String
  execution : String
  time : Int
  measure : String
  deriving DecidableEq, Repr

def EventEntry.stored (entry : EventEntry) : StoredEvent where
  workflow := entry.workflow
  collections := entry.collections
  itemIds := entry.itemIds
  execution := entry.execution
  time := entry.time.milliseconds
  measure := entry.measure.name

/-- The events of one measure in one bucket of time. -/
structure BucketCount where
  bucket : Time.Instant
  measure : Measure
  /-- Different items. -/
  unique : Nat
  /-- All events. -/
  count : Nat
  deriving DecidableEq, Repr

namespace BucketCount

def toJson (count : BucketCount) : Json :=
  .object [("bucket", .string count.bucket.exact), ("state", .string count.measure.name),
    ("unique_count", .int count.unique), ("count", .int count.count)]

end BucketCount

/-- A window of time that includes both its ends, and how it is cut into buckets, all in
milliseconds. -/
structure Window where
  start : Int
  finish : Int
  size : Int
  origin : Int
  deriving DecidableEq, Repr

/-- What an event log does about an invalid event. -/
inductive LogMode
  | strict
  | lenient
  deriving DecidableEq, Repr

/-- An event log that is not kept, or one with its events, unless they are lost. -/
inductive EventLog
  | disabled
  | kept (mode : LogMode) (events : Option (List StoredEvent))

namespace EventLog

def empty (mode : LogMode) : EventLog := kept mode (some [])

/-- A log is kept. -/
def isEnabled : EventLog → Bool
  | disabled => false
  | kept _ _ => true

/-- Offer a transition to the log.  The result tells whether it was added. -/
def record (log : EventLog) (key : Key) (measure : Measure) (time execution : String) :
    Reply EventLog Bool :=
  let timer : Sample := .operation .recordTransition
  match log with
  | disabled => ⟨.ok false, log, []⟩
  | kept mode events =>
      match EventEntry.check key measure time execution with
      | .error error =>
          if mode = .lenient && error.isValidation then
            ⟨.ok false, log, [timer, .logWrite .skipped]⟩
          else ⟨.error error, log, [timer, .logWrite .failed]⟩
      | .ok entry =>
          match events with
          | none => ⟨.error .database, log, [timer, .logWrite .failed]⟩
          | some events =>
              ⟨.ok true, kept mode (some (events ++ [entry.stored])),
                [timer, .logWrite .recorded]⟩

/-- The start of the bucket that a time falls into.  Buckets start at `origin`, and a time
before it is put into the bucket that ends nearer to it. -/
def bucketOf (size origin time : Int) : Int :=
  origin + (time - origin).tdiv size * size

/-- One bucket and measure comes before another, or is the same. -/
def groupBefore (first second : Int × String) : Bool :=
  first.1 < second.1 || (first.1 == second.1 && !(second.2 < first.2))

/-- Count the events of a window, bucket by bucket and measure by measure. -/
def aggregate (events : List StoredEvent) (window : Window) :
    Except StoreError (List BucketCount) :=
  let inside := events.filter fun event =>
    window.start ≤ event.time && event.time ≤ window.finish
  let groupOf (event : StoredEvent) : Int × String :=
    (bucketOf window.size window.origin event.time, event.measure)
  let groups := (inside.map groupOf).eraseDups.mergeSort groupBefore
  groups.mapM fun group => do
    let members := inside.filter fun event => groupOf event = group
    let bucket ← match Time.Instant.ofMilliseconds? group.1 with
      | some bucket => pure bucket
      | none => throw (.bucketOutOfRange group.1)
    let measure ← match Measure.ofName? group.2 with
      | some measure => pure measure
      | none => throw (.unknownMeasure group.2)
    return ⟨bucket, measure, (members.map StoredEvent.itemIds).eraseDups.length,
      members.length⟩

/-- The instant some seconds ago. -/
def ago (now : Time.Instant) (seconds : Nat) : Except StoreError Time.Instant :=
  match now.minus? seconds with
  | some moment => .ok moment
  | none => .error .beforeCalendar

def countIn (log : EventLog) (operation : Operation) (window : Except StoreError Window) :
    Reply EventLog (List BucketCount) :=
  match log with
  | disabled => ⟨.error .logDisabled, log, []⟩
  | kept _ events =>
      let result := do
        let window ← window
        match events with
        | none => throw .database
        | some events => aggregate events window
      ⟨result, log, [.operation operation]⟩

/-- Counts in buckets of one span over another span that ends now. -/
def queryBucket (log : EventLog) (bucket duration : String) (now : Time.Instant) :
    Reply EventLog (List BucketCount) :=
  log.countIn .queryBucket do
    let size ← (Time.Span.ofText? bucket).mapError .input
    if size.milliseconds = 0 then throw (.bucketNotPositive bucket)
    let length ← (Time.Span.ofText? duration).mapError .input
    let start ← ago now length.seconds
    return {
      start := start.milliseconds
      finish := now.milliseconds
      size := size.milliseconds
      origin := 0 }

/-- Counts from some hours ago to fewer hours ago, as one bucket that starts with the
window. -/
def queryHour (log : EventLog) (start finish : Nat) (now : Time.Instant) :
    Reply EventLog (List BucketCount) :=
  log.countIn .queryHour do
    if start < finish then throw (.windowReversed start finish)
    let first ← ago now (start * 3600)
    let last ← ago now (finish * 3600)
    return {
      start := first.milliseconds
      finish := last.milliseconds
      size := first.millisecondsBetween last + 1
      origin := first.milliseconds }

end EventLog

end PayloadLedger
