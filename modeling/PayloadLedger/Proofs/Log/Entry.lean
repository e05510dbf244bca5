import PayloadLedger.EventLog
import PayloadLedger.Proofs.Key
import PayloadLedger.Proofs.Steps
import PayloadLedger.Proofs.Time.Stored

namespace PayloadLedger

/-!
What a log adds for a transition.

The time of a transition is written with six digits of fraction and read again, which loses
nothing of its milliseconds.  A log that is kept adds one event for a transition made by a named
execution about named items, strict or lenient alike, and nothing for any other.
-/

theorem Time.Instant.milliseconds_kept (moment : Time.Instant) :
    moment.kept.milliseconds = moment.milliseconds := by
  have same := moment.microseconds_kept
  unfold milliseconds
  omega

variable {key : Key} {moment : Time.Instant}

theorem EventEntry.check_of_isDecoded (decoded : key.IsDecoded) (storable : moment.IsStorable)
    (measure : Measure) {execution : String} (named : execution ≠ "") (items : key.itemIds ≠ "") :
    check key measure moment.stored execution =
      .ok ⟨key.workflow, key.collections, key.itemIds, execution, moment.kept, measure⟩ := by
  rw [check, decoded.ofPartition, Time.Timestamp.ofUtc?_stored storable]
  simp only [Except.mapError, bind, Except.bind, pure, Except.pure, if_neg items, if_neg named]

/-- A checked event names the workflow, the collections and the items of its key. -/
theorem EventEntry.parts_of_check (decoded : key.IsDecoded) {measure : Measure}
    {time execution : String} {entry : EventEntry}
    (checked : check key measure time execution = .ok entry) :
    entry.workflow = key.workflow ∧ entry.collections = key.collections ∧
      entry.itemIds = key.itemIds := by
  rw [check, decoded.ofPartition] at checked
  simp only [Except.mapError, bind, Except.bind] at checked
  split at checked
  · cases checked
  · split at checked
    · cases checked
    · split at checked
      · cases checked
      · cases checked
        exact ⟨rfl, rfl, rfl⟩

/-- A checked event has the instant that its time is read as, and the measure that was offered. -/
theorem EventEntry.time_of_check {measure : Measure} {time execution : String}
    {entry : EventEntry} (checked : check key measure time execution = .ok entry) :
    Time.Timestamp.ofUtc? time = .ok entry.time ∧ entry.measure = measure := by
  rw [check] at checked
  rcases exists_of_bind_eq_ok checked with ⟨key, _, checked⟩
  dsimp only at checked
  split at checked
  · cases checked
  · split at checked
    · cases checked
    · rcases exists_of_bind_eq_ok checked with ⟨moment, read, checked⟩
      cases checked
      exact ⟨ok_of_mapError_eq_ok read, rfl⟩

namespace EventLog

/-- The events that a log adds for a transition. -/
def added (key : Key) (state : State) (moment : Time.Instant) (execution : String) :
    List StoredEvent :=
  if execution = "" ∨ key.itemIds = "" then []
  else [⟨key.workflow, key.collections, key.itemIds, execution, moment.milliseconds, state.name⟩]

theorem after_record (decoded : key.IsDecoded) (storable : moment.IsStorable) (mode : LogMode)
    (events : List StoredEvent) (state : State) (execution : String) :
    ((kept mode (some events)).record key (.reached state) moment.stored execution).after =
      kept mode (some (events ++ added key state moment execution)) := by
  rw [added]
  split
  · next missing =>
      have refused : ∃ error,
          EventEntry.check key (.reached state) moment.stored execution = .error error := by
        rw [EventEntry.check, decoded.ofPartition]
        simp only [Except.mapError, bind, Except.bind]
        by_cases items : key.itemIds = ""
        · rw [if_pos items]
          exact ⟨_, rfl⟩
        · rw [if_neg items, if_pos (missing.resolve_right items)]
          exact ⟨_, rfl⟩
      rcases refused with ⟨error, refused⟩
      simp only [record, refused, List.append_nil]
      split <;> rfl
  · next named =>
      rw [not_or] at named
      simp only [record, EventEntry.check_of_isDecoded decoded storable _ named.1 named.2,
        EventEntry.stored, Time.Instant.milliseconds_kept]
      rfl

/-! ## Reports -/

/-- The rows of a log, none where it is not kept or they are lost. -/
def rows : EventLog → List StoredEvent
  | disabled => []
  | kept _ events => events.getD []

/-- All that offering a transition to a log can come to. -/
inductive Reports (log : EventLog) : Reply EventLog Bool → Prop
  | ignored (disabled : log.isEnabled = false) : Reports log ⟨.ok false, log, []⟩
  | unwritten {result : Except StoreError Bool} {outcome : LogOutcome}
      (kept : log.isEnabled = true) (different : outcome ≠ .recorded) :
      Reports log ⟨result, log, [.operation .recordTransition, .logWrite outcome]⟩
  | written {later : EventLog} {event : StoredEvent} (kept : log.isEnabled = true)
      (rows : later.rows = log.rows ++ [event]) :
      Reports log ⟨.ok true, later, [.operation .recordTransition, .logWrite .recorded]⟩

theorem record_reports (log : EventLog) (key : Key) (measure : Measure) (time execution : String) :
    Reports log (log.record key measure time execution) := by
  cases log with
  | disabled => exact .ignored rfl
  | kept mode events =>
      cases checked : EventEntry.check key measure time execution with
      | error error =>
          simp only [record, checked]
          split
          · exact .unwritten rfl nofun
          · exact .unwritten rfl nofun
      | ok entry =>
          simp only [record, checked]
          cases events with
          | none => exact .unwritten rfl nofun
          | some events => exact .written rfl rfl

end EventLog
end PayloadLedger
