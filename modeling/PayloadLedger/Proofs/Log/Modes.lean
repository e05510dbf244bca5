import PayloadLedger.Proofs.Key.Grammar
import PayloadLedger.Proofs.Log.Aggregate
import PayloadLedger.Proofs.Log.Entry

namespace PayloadLedger

/-!
Strict and lenient logs.

A transition is valid or not, whatever log it is offered to.  A valid one is added as one event, and
an invalid one is a mistake of the caller, which a strict log reports and a lenient one passes over.
Nothing is added before the mistake is found, so that logs of both modes keep the same events.
-/

/-- A transition that is offered to a log. -/
structure Offer where
  key : Key
  measure : Measure
  time : String
  execution : String
  deriving DecidableEq, Repr

namespace Offer

/-- The transition is valid and adds this event.  Its partition has something on both sides of its
last underscore, its items and its execution have names, and its time is read. -/
structure Adds (offer : Offer) (event : StoredEvent) : Prop where
  joined : offer.key.partition = event.collections ++ "_" ++ event.workflow
  filled : event.collections ≠ ""
  named : event.workflow ≠ ""
  whole : '_' ∉ event.workflow.toList
  itemIds : event.itemIds = offer.key.itemIds
  items : offer.key.itemIds ≠ ""
  execution : event.execution = offer.execution
  run : offer.execution ≠ ""
  time : ∃ moment, Time.Timestamp.ofUtc? offer.time = .ok moment ∧ event.time = moment.milliseconds
  measure : event.measure = offer.measure.name

variable {offer : Offer} {event other : StoredEvent}

theorem Adds.splitPartition (adds : offer.Adds event) :
    Key.splitPartition offer.key.partition = .ok (event.collections, event.workflow) := by
  rw [adds.joined]
  exact Key.splitPartition_append (mt String.toList_eq_nil_iff.mp adds.filled)
    (mt String.toList_eq_nil_iff.mp adds.named) adds.whole

theorem Adds.unique (adds : offer.Adds event) (again : offer.Adds other) : other = event := by
  have halves := adds.splitPartition
  rw [again.splitPartition, Except.ok.injEq, Prod.mk.injEq] at halves
  rcases adds.time with ⟨moment, read, time⟩
  rcases again.time with ⟨later, alsoRead, otherTime⟩
  rw [read] at alsoRead
  cases alsoRead
  rcases event with ⟨workflow, collections, itemIds, execution, milliseconds, measure⟩
  rcases other with ⟨workflow', collections', itemIds', execution', milliseconds', measure'⟩
  rw [StoredEvent.mk.injEq]
  exact ⟨halves.2, halves.1, again.itemIds.trans adds.itemIds.symm,
    again.execution.trans adds.execution.symm, otherTime.trans time.symm,
    again.measure.trans adds.measure.symm⟩

/-- What a log makes of an offer. -/
def check (offer : Offer) : Except StoreError EventEntry :=
  EventEntry.check offer.key offer.measure offer.time offer.execution

/-- A transition is checked for what makes it valid, and every fault is a mistake of the caller. -/
theorem check_cases (offer : Offer) :
    (∃ entry, offer.check = .ok entry ∧ offer.Adds entry.stored) ∨
    ((∀ event, ¬ offer.Adds event) ∧
      ∃ error, offer.check = .error error ∧ error.isValidation = true) := by
  unfold check EventEntry.check Key.ofPartition
  cases halves : Key.splitPartition offer.key.partition with
  | error error =>
      refine .inr ⟨fun event adds => ?_, .input error, rfl, rfl⟩
      rw [adds.splitPartition] at halves
      cases halves
  | ok sides =>
      have divided := (Key.splitPartition_eq_ok halves).1
      simp only [Except.mapError, bind, Except.bind, pure, Except.pure]
      by_cases items : offer.key.itemIds = ""
      · rw [if_pos items]
        exact .inr ⟨fun event adds => adds.items items, _, rfl, rfl⟩
      rw [if_neg items]
      by_cases run : offer.execution = ""
      · simp only [if_pos run]
        exact .inr ⟨fun event adds => adds.run run, _, rfl, rfl⟩
      simp only [if_neg run]
      cases read : Time.Timestamp.ofUtc? offer.time with
      | error error =>
          refine .inr ⟨fun event adds => ?_, .input error, rfl, rfl⟩
          rcases adds.time with ⟨moment, accepted, _⟩
          rw [read] at accepted
          cases accepted
      | ok moment =>
          refine .inl ⟨_, rfl, divided.joined, ?_, ?_, divided.whole, rfl, items, rfl, run,
            ⟨moment, read, rfl⟩, rfl⟩
          · exact mt String.toList_eq_nil_iff.mpr divided.filled
          · exact mt String.toList_eq_nil_iff.mpr divided.named

end Offer

namespace EventLog

/-- Offer a transition to a log. -/
def take (log : EventLog) (offer : Offer) : Reply EventLog Bool :=
  log.record offer.key offer.measure offer.time offer.execution

/-- The log after transitions have been offered one after another. -/
def afterOffers (log : EventLog) (offers : List Offer) : EventLog :=
  offers.foldl (fun log offer => (log.take offer).after) log

/-- The events that are added for transitions offered one after another. -/
inductive Records : List Offer → List StoredEvent → Prop
  | nil : Records [] []
  | valid {offer : Offer} {event : StoredEvent} {offers : List Offer} {added : List StoredEvent}
      (adds : offer.Adds event) (later : Records offers added) :
      Records (offer :: offers) (event :: added)
  | invalid {offer : Offer} {offers : List Offer} {added : List StoredEvent}
      (refused : ∀ event, ¬ offer.Adds event) (later : Records offers added) :
      Records (offer :: offers) added

section

variable {offer : Offer} (events : List StoredEvent)

theorem take_of_adds {event : StoredEvent} (adds : offer.Adds event) (mode : LogMode) :
    ((kept mode (some events)).take offer).result = .ok true ∧
      ((kept mode (some events)).take offer).after = kept mode (some (events ++ [event])) := by
  rcases offer.check_cases with ⟨entry, checked, added⟩ | ⟨refused, _⟩
  · rw [Offer.check] at checked
    simp [take, record, checked, adds.unique added]
  · exact absurd adds (refused event)

theorem take_of_not_adds (refused : ∀ event, ¬ offer.Adds event) (mode : LogMode) :
    ∃ error, error.isValidation = true ∧
      ((kept mode (some events)).take offer).result =
        (match mode with
          | .strict => .error error
          | .lenient => .ok false) ∧
      ((kept mode (some events)).take offer).after = kept mode (some events) := by
  rcases offer.check_cases with ⟨entry, _, added⟩ | ⟨_, error, checked, mistake⟩
  · exact absurd added (refused _)
  · rw [Offer.check] at checked
    refine ⟨error, mistake, ?_⟩
    cases mode with
    | strict => simp [take, record, checked]
    | lenient => simp [take, record, checked, mistake]

end

theorem afterOffers_records (offers : List Offer) :
    ∃ added, Records offers added ∧ ∀ events mode,
      (kept mode (some events)).afterOffers offers = kept mode (some (events ++ added)) := by
  induction offers with
  | nil => exact ⟨[], .nil, fun events mode => by rw [List.append_nil]; rfl⟩
  | cons offer offers ih =>
      rcases ih with ⟨added, later, run⟩
      by_cases valid : ∃ event, offer.Adds event
      · rcases valid with ⟨event, adds⟩
        refine ⟨event :: added, .valid adds later, fun events mode => ?_⟩
        have first := (take_of_adds events adds mode).2
        rw [afterOffers, List.foldl_cons, first]
        exact (run _ mode).trans (by rw [List.append_assoc]; rfl)
      · have refused := not_exists.mp valid
        refine ⟨added, .invalid refused later, fun events mode => ?_⟩
        rcases take_of_not_adds events refused mode with ⟨_, _, _, first⟩
        rw [afterOffers, List.foldl_cons, first]
        exact run events mode

/-- Transitions offered one after another leave the same events in a strict log and in a lenient one,
so that both are counted alike.  A valid one is added to either as one event.  An invalid one is
added to neither: it is a mistake that the strict log reports, and that the lenient one passes over. -/
theorem modes_record_alike (events : List StoredEvent) (offers : List Offer) :
    (∃ added, Records offers added ∧
      (kept .strict (some events)).afterOffers offers = kept .strict (some (events ++ added)) ∧
      (kept .lenient (some events)).afterOffers offers = kept .lenient (some (events ++ added)) ∧
      CountsAlike ((kept .strict (some events)).afterOffers offers)
        ((kept .lenient (some events)).afterOffers offers)) ∧
    ∀ offer : Offer,
      (∀ event, offer.Adds event → ∀ mode,
        ((kept mode (some events)).take offer).result = .ok true ∧
        ((kept mode (some events)).take offer).after = kept mode (some (events ++ [event]))) ∧
      ((∀ event, ¬ offer.Adds event) →
        (∃ error, ((kept .strict (some events)).take offer).result = .error error ∧
          error.isValidation = true) ∧
        ((kept .strict (some events)).take offer).after = kept .strict (some events) ∧
        ((kept .lenient (some events)).take offer).result = .ok false ∧
        ((kept .lenient (some events)).take offer).after = kept .lenient (some events)) := by
  constructor
  · rcases afterOffers_records offers with ⟨added, records, run⟩
    refine ⟨added, records, run events .strict, run events .lenient, ?_⟩
    rw [run, run]
    exact countsAlike_of_perm (.refl _) .strict .lenient
  · refine fun offer => ⟨fun event adds => take_of_adds events adds, fun refused => ?_⟩
    rcases take_of_not_adds events refused .strict with ⟨error, mistake, told, strict⟩
    rcases take_of_not_adds events refused .lenient with ⟨_, _, skipped, lenient⟩
    exact ⟨⟨error, told, mistake⟩, strict, skipped, lenient⟩

/-- A time with an offset goes before a valid transition, whose workflow stands behind the last of two
underscores and whose time is cut to milliseconds. -/
theorem modes_record_alike_offset :
    let valid : Offer :=
      ⟨⟨"a_b_w", "i/j"⟩, .reached .failed, "2024-05-01T12:00:00.0015Z", "e"⟩
    let invalid : Offer := { valid with time := "2024-05-01T12:00:00+01:00" }
    let event : StoredEvent := ⟨"w", "a_b", "i/j", "e", 1714564800001, "FAILED"⟩
    valid.Adds event ∧ (∀ event, ¬ invalid.Adds event) ∧
      (empty .strict).afterOffers [invalid, valid] = kept .strict (some [event]) ∧
      (empty .lenient).afterOffers [invalid, valid] = kept .lenient (some [event]) ∧
      ((empty .lenient).take invalid).result = .ok false := by
  intro valid invalid event
  have read : Time.Timestamp.ofUtc? valid.time = .ok ⟨1714564800, 1500000⟩ := by decide +kernel
  have refused : Time.Timestamp.ofUtc? invalid.time = .error (.offsetTimestamp invalid.time) := by
    decide +kernel
  have adds : valid.Adds event :=
    ⟨rfl, by decide, by decide, by decide, rfl, by decide, rfl, by decide, ⟨_, read, by decide⟩, rfl⟩
  have none : ∀ event, ¬ invalid.Adds event := by
    intro event adds
    rcases adds.time with ⟨moment, accepted, _⟩
    rw [refused] at accepted
    cases accepted
  rcases modes_record_alike [] [invalid, valid] with ⟨⟨added, records, strict, lenient, _⟩, each⟩
  have whole : added = [event] := by
    cases records with
    | valid adds later => exact absurd adds (none _)
    | invalid _ later =>
        cases later with
        | invalid other _ => exact absurd adds (other event)
        | valid again later =>
            cases later
            rw [adds.unique again]
  rw [whole] at strict lenient
  exact ⟨adds, none, strict, lenient, ((each invalid).2 none).2.2.1⟩

end EventLog
end PayloadLedger
