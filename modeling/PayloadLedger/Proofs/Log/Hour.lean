import PayloadLedger.Proofs.Log.Tally

namespace PayloadLedger

/-!
Counts over some hours.

A query from some hours ago to fewer hours ago has one bucket.  Both ends have the fraction of the
present, so that the milliseconds between them, and one more since both ends are included, are the
size of a bucket that starts with the window and holds all of it.
-/

namespace EventLog

/-- A query for some hours that lie in the calendar, asked outside leap seconds. -/
structure AsksHours (start finish : Nat) (now first last : Time.Instant) : Prop where
  ordered : finish ≤ start
  plain : now.nanos < Time.Instant.second
  reached : now.IsReached
  began : now.minus? (start * 3600) = some first
  ended : now.minus? (finish * 3600) = some last

/-- The window from one instant to another, as one bucket. -/
def wholly (first last : Time.Instant) : Window where
  start := first.milliseconds
  finish := last.milliseconds
  size := last.milliseconds - first.milliseconds + 1
  origin := first.milliseconds

/-- Whatever happens in the window is in the bucket that starts with it. -/
theorem bucketOf_wholly {first last : Time.Instant} {time : Int}
    (since : first.milliseconds ≤ time) (notLater : time ≤ last.milliseconds) :
    bucketOf (wholly first last).size (wholly first last).origin time = first.milliseconds := by
  have within : time - first.milliseconds < last.milliseconds - first.milliseconds + 1 := by omega
  rw [bucketOf, wholly, Int.tdiv_eq_zero_of_lt (Int.sub_nonneg_of_le since) within, Int.zero_mul,
    Int.add_zero]

namespace AsksHours

variable {start finish : Nat} {now first last : Time.Instant}

theorem plain_first (asks : AsksHours start finish now first last) :
    first.nanos < Time.Instant.second := by
  rw [Time.Instant.eq_of_minus? asks.plain asks.began]
  exact asks.plain

theorem reached_first (asks : AsksHours start finish now first last) : first.IsReached := by
  refine ⟨Time.Instant.first_le_of_minus? asks.reached asks.began, ?_⟩
  have notLater : first.milliseconds ≤ now.milliseconds := by
    rw [Time.Instant.eq_of_minus? asks.plain asks.began]
    unfold Time.Instant.milliseconds
    dsimp only
    omega
  exact Int.lt_of_le_of_lt notLater asks.reached.lt_last

theorem millisecondsBetween_eq (asks : AsksHours start finish now first last) :
    first.millisecondsBetween last = last.milliseconds - first.milliseconds := by
  rw [Time.Instant.eq_of_minus? asks.plain asks.began,
    Time.Instant.eq_of_minus? asks.plain asks.ended]
  exact Time.Instant.millisecondsBetween_eq rfl asks.plain

theorem result (asks : AsksHours start finish now first last) (mode : LogMode)
    (events : List StoredEvent) :
    ((kept mode (some events)).queryHour start finish now).result =
      aggregate events (wholly first last) := by
  simp only [queryHour, countIn, ago, asks.began, asks.ended, if_neg (Nat.not_lt.mpr asks.ordered),
    asks.millisecondsBetween_eq, bind, Except.bind, pure, Except.pure, wholly]

/-- The answer is the tally of a window whose groups differ in their measures only. -/
theorem exists_rows (asks : AsksHours start finish now first last) (mode : LogMode)
    {events : List StoredEvent}
    (named : ∀ event ∈ events, (Measure.ofName? event.measure).isSome = true) :
    ∃ rows, ((kept mode (some events)).queryHour start finish now).result = .ok rows ∧
      Tallies (wholly first last) events rows := by
  rw [asks.result mode events]
  refine exists_aggregate ?_ fun event inside => named event (Window.mem_inside.mp inside).1
  intro event inside
  have within := (Window.mem_inside.mp inside).2
  rw [bucketOf_wholly within.1 within.2]
  exact ⟨_, Time.Instant.ofMilliseconds?_milliseconds asks.plain_first asks.reached_first⟩

end AsksHours

theorem groupIn_wholly {first last : Time.Instant} {events : List StoredEvent}
    {event : StoredEvent} (inside : event ∈ (wholly first last).inside events) :
    groupIn (wholly first last) event = (first.milliseconds, event.measure) := by
  have within := (Window.mem_inside.mp inside).2
  rw [groupIn, bucketOf_wholly within.1 within.2]

/-- The label of a row in a window of one bucket. -/
theorem label_of_wholly {first last : Time.Instant} {events : List StoredEvent}
    {rows : List BucketCount} (tallies : Tallies (wholly first last) events rows)
    {row : BucketCount} (member : row ∈ rows) :
    row.label = (first.milliseconds, row.measure.name) := by
  rcases List.exists_mem_of_ne_nil _ (tallies.counted_ne_nil row member) with ⟨event, counted⟩
  rcases Window.mem_counted.mp counted with ⟨inside, same⟩
  rw [groupIn_wholly inside] at same
  exact Prod.ext (congrArg Prod.fst same).symm rfl

/-- A query for some hours has one bucket.  Every measure has at most one row, and has one if there
is an event of it in the window; the rows start with the first millisecond of the window and count
the events of it with their measure, both ends included.  Hours that end before they start are
refused as a mistake of the caller, whatever the log has and whatever time it is. -/
theorem hour_is_one_bucket (mode : LogMode) (start finish : Nat) (now : Time.Instant) :
    (∀ events first last, (∀ event ∈ events, (Measure.ofName? event.measure).isSome = true) →
      AsksHours start finish now first last →
      let inside := events.filter fun event : StoredEvent =>
        first.milliseconds ≤ event.time && event.time ≤ last.milliseconds
      ∃ rows, ((kept mode (some events)).queryHour start finish now).result = .ok rows ∧
        (rows.map BucketCount.measure).Nodup ∧
        (∀ row ∈ rows, row.bucket = first.floored ∧
          row.count = (inside.filter fun event => event.measure = row.measure.name).length) ∧
        ∀ event ∈ inside, ∃ row ∈ rows, row.measure.name = event.measure) ∧
    (start < finish → ∀ events, ∃ error,
      ((kept mode events).queryHour start finish now).result = .error error ∧
        error.isValidation = true) := by
  refine ⟨?_, ?_⟩
  · intro events first last named asks inside
    rcases asks.exists_rows mode named with ⟨rows, answered, tallies⟩
    have labels : rows.map BucketCount.label =
        (rows.map BucketCount.measure).map fun measure => (first.milliseconds, measure.name) := by
      rw [List.map_map]
      exact List.map_congr_left fun row member => label_of_wholly tallies member
    refine ⟨rows, answered, ?_, ?_, ?_⟩
    · have once := tallies.nodup_labels
      rw [labels] at once
      exact once.of_map _
    · intro row member
      have label := label_of_wholly tallies member
      constructor
      · have found := tallies.bucket row member
        rw [show row.bucket.milliseconds = first.milliseconds from congrArg Prod.fst label,
          Time.Instant.ofMilliseconds?_milliseconds asks.plain_first asks.reached_first] at found
        exact (Option.some.inj found).symm
      · rw [tallies.count row member, Window.counted, label]
        congr 1
        apply List.filter_congr
        intro event within
        rw [groupIn_wholly within, decide_eq_decide, Prod.mk.injEq]
        exact and_iff_right rfl
    · intro event within
      rcases List.mem_map.mp (tallies.mem_labels event within) with ⟨row, member, same⟩
      rw [groupIn_wholly within] at same
      exact ⟨row, member, congrArg Prod.snd same⟩
  · intro reversed events
    refine ⟨.windowReversed start finish, ?_, rfl⟩
    simp only [queryHour, countIn, if_pos reversed]
    rfl

/-- An event at each end of a window, cut to milliseconds, and one just outside each end. -/
theorem hour_is_one_bucket_ends :
    let events : List StoredEvent :=
      [⟨"w", "c", "a", "one", 3600000, "FAILED"⟩, ⟨"w", "c", "b", "two", 3600001, "FAILED"⟩,
        ⟨"w", "c", "b", "two", 7200001, "FAILED"⟩, ⟨"w", "c", "b", "two", 7200002, "FAILED"⟩]
    let now : Time.Instant := ⟨7200, 1500000⟩
    (∀ event ∈ events, (Measure.ofName? event.measure).isSome = true) ∧
      AsksHours 1 0 now ⟨3600, 1500000⟩ now ∧
      (∃ rows, ((kept .lenient (some events)).queryHour 1 0 now).result = .ok rows ∧
        ∃ row ∈ rows, row.bucket = ⟨3600, 1000000⟩ ∧ row.count = 2) ∧
      ∃ error, ((kept .lenient none).queryHour 0 1 now).result = .error error ∧
        error.isValidation = true := by
  intro events now
  have named : ∀ event ∈ events, (Measure.ofName? event.measure).isSome = true := by decide
  have asks : AsksHours 1 0 now ⟨3600, 1500000⟩ now :=
    ⟨by decide, by decide, by decide, by decide, by decide⟩
  rcases (hour_is_one_bucket .lenient 1 0 now).1 events _ _ named asks with
    ⟨rows, answered, _, counts, measured⟩
  rcases measured ⟨"w", "c", "b", "two", 3600001, "FAILED"⟩ (by decide) with ⟨row, member, same⟩
  rcases counts row member with ⟨label, count⟩
  rw [same] at count
  exact ⟨named, asks, ⟨rows, answered, row, member, label, count.trans (by decide)⟩,
    (hour_is_one_bucket .lenient 0 1 now).2 (by decide) none⟩

end EventLog
end PayloadLedger
