import PayloadLedger.Proofs.Log.Entry
import PayloadLedger.Proofs.Log.Tally

namespace PayloadLedger

/-!
Counts in buckets of one span.

A query asks for the events of a span that ends now, in buckets of another span.  The answer is the
tally of its window, since no bucket starts further from 1970 than its events.  Times are divided
toward zero: from 1970 on a bucket holds what happened within its span from its start, before 1970
it holds what happened within its span up to its start, and the bucket that starts with 1970 holds
both.
-/

namespace EventLog

/-! ## Bucket starts -/

section

variable {size time : Int}

theorem bucketOf_zero (size time : Int) : bucketOf size 0 time = time - time.tmod size := by
  rw [bucketOf, Int.sub_zero, Int.zero_add, Int.tdiv_mul_self]

theorem dvd_bucketOf (size time : Int) : size ∣ bucketOf size 0 time := by
  rw [bucketOf, Int.zero_add]
  exact Int.dvd_mul_left _ _

theorem bucketOf_of_nonneg (positive : 0 < size) (since : 0 ≤ time) :
    0 ≤ bucketOf size 0 time ∧ bucketOf size 0 time ≤ time ∧
      time < bucketOf size 0 time + size := by
  have start : 0 ≤ bucketOf size 0 time := by
    rw [bucketOf, Int.sub_zero, Int.zero_add]
    exact Int.mul_nonneg (Int.tdiv_nonneg since (Int.le_of_lt positive)) (Int.le_of_lt positive)
  have least := Int.tmod_nonneg size since
  have less := Int.tmod_lt_of_pos time positive
  rw [bucketOf_zero] at start ⊢
  omega

theorem bucketOf_neg (size time : Int) : bucketOf size 0 (-time) = -bucketOf size 0 time := by
  rw [bucketOf_zero, bucketOf_zero, Int.neg_tmod]
  omega

theorem bucketOf_of_nonpos (positive : 0 < size) (before : time ≤ 0) :
    bucketOf size 0 time ≤ 0 ∧ time ≤ bucketOf size 0 time ∧
      bucketOf size 0 time < time + size := by
  have mirrored := bucketOf_of_nonneg positive (Int.neg_nonneg_of_nonpos before)
  rw [bucketOf_neg] at mirrored
  omega

/-- A bucket holds the times within its span from its start, and before 1970 no other than its
start. -/
theorem bucketOf_holds_iff (positive : 0 < size) :
    (bucketOf size 0 time ≤ time ∧ time < bucketOf size 0 time + size) ↔
      0 ≤ time ∨ size ∣ time := by
  have multiple := dvd_bucketOf size time
  rcases Int.le_total 0 time with since | before
  · exact iff_of_true (bucketOf_of_nonneg positive since).2 (.inl since)
  · have bounds := bucketOf_of_nonpos positive before
    constructor
    · rintro ⟨start, _⟩
      have same : bucketOf size 0 time = time := Int.le_antisymm start bounds.2.1
      exact .inr (same ▸ multiple)
    · intro known
      have whole : size ∣ time := by
        rcases known with since | whole
        · rw [Int.le_antisymm before since]
          exact Int.dvd_zero size
        · exact whole
      have rest : time.tmod size = 0 := Int.tmod_eq_zero_of_dvd whole
      rw [bucketOf_zero, rest]
      omega

/-- Different multiples of a size are at least that size apart. -/
theorem add_le_of_dvd {one other : Int} (multiple : size ∣ one) (alsoMultiple : size ∣ other)
    (less : one < other) : one + size ≤ other := by
  have apart := Int.le_of_dvd (Int.sub_pos_of_lt less) (Int.dvd_sub alsoMultiple multiple)
  omega

end

/-! ## Answers -/

/-- The window from one instant to another, in buckets of one size that start with 1970. -/
def spanning (start now : Time.Instant) (size : Time.Span) : Window :=
  ⟨start.milliseconds, now.milliseconds, size.milliseconds, 0⟩

/-- A query that is accepted: its buckets have a size, and its window starts in the calendar. -/
structure AsksBuckets (bucket duration : String) (now : Time.Instant) (size : Time.Span)
    (start : Time.Instant) : Prop where
  bucket : Time.Span.ofText? bucket = .ok size
  positive : size.milliseconds ≠ 0
  back : ∃ length, Time.Span.ofText? duration = .ok length ∧
    now.minus? length.seconds = some start

variable {bucket duration : String} {now start : Time.Instant} {size : Time.Span}

theorem AsksBuckets.size_pos (asks : AsksBuckets bucket duration now size start) :
    (0 : Int) < size.milliseconds :=
  Int.natCast_pos.mpr (Nat.pos_of_ne_zero asks.positive)

theorem AsksBuckets.result (asks : AsksBuckets bucket duration now size start) (mode : LogMode)
    (events : List StoredEvent) :
    ((kept mode (some events)).queryBucket bucket duration now).result =
      aggregate events (spanning start now size) := by
  rcases asks.back with ⟨length, given, back⟩
  simp only [queryBucket, countIn, ago, asks.bucket, given, back, Except.mapError, bind,
    Except.bind, if_neg asks.positive, pure, Except.pure, spanning]

/-- Every bucket of a window lies in the calendar, and the answer is the tally of the window. -/
theorem AsksBuckets.exists_rows (asks : AsksBuckets bucket duration now size start)
    (reached : now.IsReached) (mode : LogMode) {events : List StoredEvent}
    (named : ∀ event ∈ (spanning start now size).inside events,
      (Measure.ofName? event.measure).isSome = true) :
    ∃ rows, ((kept mode (some events)).queryBucket bucket duration now).result = .ok rows ∧
      Tallies (spanning start now size) events rows := by
  rw [asks.result mode events]
  refine exists_aggregate ?_ named
  intro event inside
  have within := (Window.mem_inside.mp inside).2
  rcases asks.back with ⟨length, _, back⟩
  have first := Time.Instant.first_le_of_minus? reached back
  have last := reached.lt_last
  have old : Time.Instant.first.seconds * 1000 ≤ 0 := by decide
  have late : (0 : Int) < (Time.Instant.lastSecond + 1) * 1000 := by decide
  -- The bucket starts between 1970 and the event, on either side of 1970.
  apply Time.Instant.exists_ofMilliseconds?
  all_goals
    rcases Int.le_total 0 event.time with since | before
    · have bounds := bucketOf_of_nonneg asks.size_pos since
      dsimp only [spanning] at within ⊢
      omega
    · have bounds := bucketOf_of_nonpos asks.size_pos before
      dsimp only [spanning] at within ⊢
      omega

/-- Whatever is answered is the tally of the window. -/
theorem AsksBuckets.tallies (asks : AsksBuckets bucket duration now size start)
    (reached : now.IsReached) {mode : LogMode} {events : List StoredEvent}
    {rows : List BucketCount}
    (answered : ((kept mode (some events)).queryBucket bucket duration now).result = .ok rows) :
    Tallies (spanning start now size) events rows := by
  have counts := answered
  rw [asks.result mode events] at counts
  rcases asks.exists_rows reached mode (isSome_of_aggregate counts) with
    ⟨others, alsoAnswered, tallies⟩
  cases alsoAnswered.symm.trans answered
  exact tallies

/-- Counting in buckets loses no event of the window and invents none.  The rows are sorted by bucket
and name, every event of the window is counted in exactly one of them and no other event in any, so
that the counts of each measure add up, and a row tells how many items its events are about. -/
theorem buckets_conserve (mode : LogMode) {events : List StoredEvent}
    (named : ∀ event ∈ events, (Measure.ofName? event.measure).isSome = true)
    (asks : AsksBuckets bucket duration now size start) (reached : now.IsReached) :
    let window := spanning start now size
    let inside := events.filter fun event =>
      start.milliseconds ≤ event.time && event.time ≤ now.milliseconds
    ∃ rows, ((kept mode (some events)).queryBucket bucket duration now).result = .ok rows ∧
      (rows.Pairwise fun one other => one.bucket < other.bucket ∨
        one.bucket = other.bucket ∧ one.measure.name < other.measure.name) ∧
      (∀ event ∈ inside, ∃! row, row ∈ rows ∧ event ∈ window.counted events row) ∧
      (rows.flatMap (window.counted events)).Perm inside ∧
      (∀ measure, ((rows.filter fun row => row.measure = measure).map BucketCount.count).sum =
        (inside.filter fun event => event.measure = measure.name).length) ∧
      ∀ row ∈ rows, row.count = (window.counted events row).length ∧
        row.unique = ((window.counted events row).map StoredEvent.itemIds).toFinset.card ∧
        1 ≤ row.unique ∧ row.unique ≤ row.count := by
  intro window inside
  rcases asks.exists_rows reached mode
    fun event within => named event (Window.mem_inside.mp within).1 with ⟨rows, answered, tallies⟩
  refine ⟨rows, answered, tallies.pairwise_rows, fun event => tallies.existsUnique_row,
    tallies.flatMap_counted, tallies.sum_count, ?_⟩
  intro row member
  exact ⟨tallies.count row member, tallies.unique row member, tallies.unique_bounds member⟩

/-- Four events of the last hour and a half, in buckets of one hour, and one that came before. -/
theorem buckets_conserve_ninety :
    let events : List StoredEvent :=
      [⟨"w", "c", "a", "one", 1799999, "FAILED"⟩, ⟨"w", "c", "a", "one", 3599999, "FAILED"⟩,
        ⟨"w", "c", "b", "two", 3600001, "FAILED"⟩, ⟨"w", "c", "a", "one", 3600000, "FAILED"⟩,
        ⟨"w", "c", "a", "one", 7200000, "COMPLETED"⟩]
    (∀ event ∈ events, (Measure.ofName? event.measure).isSome = true) ∧
      AsksBuckets "1h" "90m" ⟨7200, 0⟩ ⟨3600⟩ ⟨1800, 0⟩ ∧
      Time.Instant.IsReached ⟨7200, 0⟩ ∧
      ∃ rows, ((kept .strict (some events)).queryBucket "1h" "90m" ⟨7200, 0⟩).result = .ok rows ∧
        ((rows.filter fun row => row.measure = .reached .failed).map BucketCount.count).sum = 3 := by
  intro events
  have named : ∀ event ∈ events, (Measure.ofName? event.measure).isSome = true := by decide
  have asks : AsksBuckets "1h" "90m" ⟨7200, 0⟩ ⟨3600⟩ ⟨1800, 0⟩ :=
    ⟨by decide +kernel, by decide, ⟨5400⟩, by decide +kernel, by decide⟩
  have reached : Time.Instant.IsReached ⟨7200, 0⟩ := by decide
  rcases buckets_conserve .strict named asks reached with ⟨rows, answered, _, _, _, sums, _⟩
  exact ⟨named, asks, reached, rows, answered, sums (.reached .failed)⟩

/-! ## Recorded events -/

/-- What is known of an event that was recorded. -/
theorem exists_of_recorded {mode : LogMode} {events : List StoredEvent} {key : Key}
    {measure : Measure} {time execution : String}
    (recorded : ((kept mode (some events)).record key measure time execution).result = .ok true) :
    ∃ event : StoredEvent, ∃ moment,
      ((kept mode (some events)).record key measure time execution).after =
        kept mode (some (events ++ [event])) ∧
      Time.Timestamp.ofUtc? time = .ok moment ∧ event.time = moment.milliseconds ∧
      event.measure = measure.name := by
  cases checked : EventEntry.check key measure time execution with
  | error error =>
      simp only [record, checked] at recorded
      split at recorded <;> cases recorded
  | ok entry =>
      rcases EventEntry.time_of_check checked with ⟨read, rfl⟩
      refine ⟨entry.stored, entry.time, ?_, read, rfl, rfl⟩
      simp only [record, checked]

/-- The bucket of a row starts where the bucket of each of its events does. -/
theorem start_of_counted {window : Window} {events : List StoredEvent} {row : BucketCount}
    {event : StoredEvent} (counted : event ∈ window.counted events row) :
    row.bucket.milliseconds = bucketOf window.size window.origin event.time :=
  (congrArg Prod.fst (Window.mem_counted.mp counted).2).symm

/-- Where a recorded event is counted.  The buckets of an answer start at multiples of their size, so
that those spans from their starts do not overlap, and one row counts the event.  The event lies in
the span of that row's bucket exactly if it is not from before 1970 or lies at the bucket's start:
from before 1970, it lies in the span that ends with the bucket's start.  Nothing but an unknown
measure in the window keeps the query from being answered. -/
theorem bucket_holds_event_iff (mode : LogMode) (events : List StoredEvent) {key : Key}
    {measure : Measure} {text execution : String} {moment : Time.Instant}
    (recorded : ((kept mode (some events)).record key measure text execution).result = .ok true)
    (read : Time.Timestamp.ofUtc? text = .ok moment)
    (asks : AsksBuckets bucket duration now size start) (reached : now.IsReached)
    (began : start.milliseconds ≤ moment.milliseconds)
    (ended : moment.milliseconds ≤ now.milliseconds) :
    let log := ((kept mode (some events)).record key measure text execution).after
    let window := spanning start now size
    let span : Int := size.milliseconds
    let time := moment.milliseconds
    ∃ event, log = kept mode (some (events ++ [event])) ∧
      ((∀ other ∈ window.inside events, (Measure.ofName? other.measure).isSome = true) →
        ∃ rows, (log.queryBucket bucket duration now).result = .ok rows) ∧
      ∀ rows, (log.queryBucket bucket duration now).result = .ok rows →
        Tallies window (events ++ [event]) rows ∧
        (∃! row, row ∈ rows ∧ event ∈ window.counted (events ++ [event]) row) ∧
        (∀ row ∈ rows, event ∈ window.counted (events ++ [event]) row →
          let first := row.bucket.milliseconds
          row.measure = measure ∧
          (first ≤ time ∧ time < first + span ↔ 0 ≤ time ∨ span ∣ time) ∧
          (time < 0 → first - span < time ∧ time ≤ first)) ∧
        (∀ row ∈ rows, span ∣ row.bucket.milliseconds) ∧
        ∀ one ∈ rows, ∀ other ∈ rows, one.bucket.milliseconds < other.bucket.milliseconds →
          one.bucket.milliseconds + span ≤ other.bucket.milliseconds := by
  intro log window span time
  rcases exists_of_recorded recorded with ⟨event, _, after, alsoRead, sameTime, sameMeasure⟩
  cases alsoRead.symm.trans read
  refine ⟨event, after, ?_, ?_⟩
  · intro named
    have known : ∀ other ∈ window.inside (events ++ [event]),
        (Measure.ofName? other.measure).isSome = true := by
      intro other within
      rcases Window.mem_inside.mp within with ⟨member, within⟩
      rcases List.mem_append.mp member with old | new
      · exact named other (Window.mem_inside.mpr ⟨old, within⟩)
      · rw [List.mem_singleton.mp new, sameMeasure, Measure.ofName?_name]
        rfl
    rcases asks.exists_rows reached mode known with ⟨rows, answered, _⟩
    rw [← after] at answered
    exact ⟨rows, answered⟩
  intro rows answered
  have inside : event ∈ window.inside (events ++ [event]) := by
    refine Window.mem_inside.mpr ⟨List.mem_append_right _ (List.mem_singleton_self event), ?_⟩
    rw [sameTime]
    exact ⟨began, ended⟩
  have tallies : Tallies window (events ++ [event]) rows := by
    rw [show log = _ from after] at answered
    exact asks.tallies reached answered
  have multiple : ∀ row ∈ rows, span ∣ row.bucket.milliseconds := by
    intro row member
    rcases List.exists_mem_of_ne_nil _ (tallies.counted_ne_nil row member) with ⟨other, counted⟩
    rw [start_of_counted counted]
    exact dvd_bucketOf _ _
  refine ⟨tallies, tallies.existsUnique_row inside, ?_, multiple,
    fun one member other otherMember =>
      add_le_of_dvd (multiple one member) (multiple other otherMember)⟩
  intro row member counted
  have begins : row.bucket.milliseconds = bucketOf span 0 time := by
    rw [start_of_counted counted, sameTime]
    rfl
  have name : event.measure = row.measure.name :=
    congrArg Prod.snd (Window.mem_counted.mp counted).2
  dsimp only
  rw [begins]
  refine ⟨Measure.name_injective (name.symm.trans sameMeasure), bucketOf_holds_iff asks.size_pos, ?_⟩
  intro before
  have positive : 0 < span := asks.size_pos
  have bounds := bucketOf_of_nonpos positive (Int.le_of_lt before)
  omega

/-- An event half a day before 1970 is not in the day of the bucket that counts it. -/
theorem bucket_holds_event_iff_1969 :
    let reply := (kept .strict (some [])).record ⟨"c_w", "a"⟩ (.reached .failed)
      "1969-12-31T12:00:00Z" "one"
    reply.result = .ok true ∧
      Time.Timestamp.ofUtc? "1969-12-31T12:00:00Z" = .ok ⟨-43200, 0⟩ ∧
      ∃ rows, (reply.after.queryBucket "1d" "1d" ⟨0, 0⟩).result = .ok rows ∧
        ∃ row ∈ rows, row.measure = .reached .failed ∧
          ¬ (row.bucket.milliseconds ≤ -43200000 ∧
            -43200000 < row.bucket.milliseconds + 86400000) := by
  have recorded : ((kept .strict (some [])).record ⟨"c_w", "a"⟩ (.reached .failed)
      "1969-12-31T12:00:00Z" "one").result = .ok true := by decide +kernel
  have read : Time.Timestamp.ofUtc? "1969-12-31T12:00:00Z" = .ok ⟨-43200, 0⟩ := by decide +kernel
  have asks : AsksBuckets "1d" "1d" ⟨0, 0⟩ ⟨86400⟩ ⟨-86400, 0⟩ :=
    ⟨by decide +kernel, by decide, ⟨86400⟩, by decide +kernel, by decide⟩
  have reached : Time.Instant.IsReached ⟨0, 0⟩ := by decide
  rcases bucket_holds_event_iff .strict [] recorded read asks reached (by decide) (by decide) with
    ⟨event, _, answers, tells⟩
  rcases answers (by decide) with ⟨rows, answered⟩
  rcases tells rows answered with ⟨_, ⟨row, ⟨member, counted⟩, _⟩, holds, _⟩
  rcases holds row member counted with ⟨measure, inside, _⟩
  exact ⟨recorded, read, rows, answered, row, member, measure, inside.not.mpr (by decide)⟩

end EventLog
end PayloadLedger
