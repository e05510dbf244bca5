import PayloadLedger.Proofs.Ledger.Sinks
import PayloadLedger.Proofs.Log.Entry
import PayloadLedger.Proofs.Notice.Body
import PayloadLedger.Proofs.Store.Readable
import PayloadLedger.Proofs.Store.Refinement

namespace PayloadLedger
namespace Ledger

/-!
What an announcement does.

An announcement that is answered with an error has changed nothing.  Any other has gone through
all three places, and they tell the same: the record that is stored, the event that is logged and
the message that is published agree on the payload, the state and the time.
-/

/-! ## The state -/

/-- Why the state of an event is not written to a readable table: no execution is given where one
is needed, or another execution holds the payload. -/
inductive Withheld (table : Table) (event : EventType) (key : Key) (execution : Option String) :
    EventError → Prop
  | withoutExecution (needed : event = .claimedProcessing ∨ event = .startedProcessing)
      (missing : execution = none) :
      Withheld table event key execution (.withoutExecution event)
  | held {row : Row} {record : Record} (claims : event = .claimedProcessing)
      (found : table.find? key = some row) (held : row.isClaimable = false)
      (reads : row.record = .ok record) :
      Withheld table event key execution
        (.store (.alreadyClaimed key.payloadId (some record.state) record.latestExecution))

/-- All that writing the state of an event can come to on a readable table. -/
inductive Outcome (store : Store) (table : Table) (event : EventType) (key : Key)
    (execution : Option String) (moment : Time.Instant) :
    Except EventError (Option Record) × Store × List Sample → Prop
  | withheld {error : EventError} (cause : Withheld table event key execution error)
      (samples : List Sample) :
      Outcome store table event key execution moment (.error error, store, samples)
  | stateless (target : event.target = none) (samples : List Sample) :
      Outcome store table event key execution moment (.ok none, store, samples)
  | moved {state : State} {row : Row} {record : Record} (target : event.target = some state)
      (written : row.IsWritten key state moment) (shown : row.IsShownBy record)
      (samples : List Sample) :
      Outcome store table event key execution moment
        (.ok (some record), { store with table := some (table.put row) }, samples)

section

variable {store : Store} {table : Table} {event : EventType} {key : Key} {state : State}
  {moment : Time.Instant}

theorem Outcome.of_settled (target : event.target = some state) (execution : Option String)
    {reply : Reply Store Record} (settled : store.Settled table key state moment reply) :
    Outcome store table event key execution moment
      ((reply.result.map some).mapError EventError.store, reply.after, reply.samples) := by
  cases settled with
  | held claims found held reads =>
      have claiming : event = .claimedProcessing := by
        rw [claims] at target
        cases event with
        | claimedProcessing => rfl
        | _ => cases target
      exact .withheld (.held claiming found held reads) _
  | written written shown operation => exact .moved target written shown _

theorem writeState_outcome (present : store.table = some table) (readable : table.IsReadable)
    (decoded : key.IsDecoded) (storable : moment.IsStorable) (event : EventType)
    (announcement : Announcement) :
    Outcome store table event key announcement.execution moment
      (writeState store event key announcement moment) := by
  have finished := Store.finish_settled present readable decoded storable
  cases event with
  | claimedProcessing =>
      cases execution : announcement.execution with
      | none =>
          simp only [writeState, execution]
          exact .withheld (.withoutExecution (.inl rfl) rfl) _
      | some execution =>
          simp only [writeState, execution]
          exact .of_settled rfl _ (Store.claim_settled present readable decoded storable _)
  | startedProcessing =>
      cases execution : announcement.execution with
      | none =>
          simp only [writeState, execution]
          exact .withheld (.withoutExecution (.inr rfl) rfl) _
      | some execution =>
          simp only [writeState, execution]
          apply Outcome.of_settled rfl
          exact Store.transition_settled present _
            (readable.writeExecution decoded storable .processing _)
  | succeeded =>
      apply Outcome.of_settled rfl
      apply Store.transition_settled present
      rcases readable.complete decoded storable announcement.outputs with ⟨row, writes, written⟩
      exact ⟨row, congrArg some writes, written⟩
  | failed => exact .of_settled rfl _ (finished _ _ _)
  | timedOut => exact .of_settled rfl _ (finished _ _ _)
  | invalid => exact .of_settled rfl _ (finished _ _ _)
  | aborted => exact .of_settled rfl _ (finished _ _ _)
  | _ => exact .stateless rfl _

end

/-! ## The log and the message -/

/-- The events that are logged for a record that an execution brought about. -/
def logged (record : Record) (execution : Option String) (moment : Time.Instant) :
    List StoredEvent :=
  match execution with
  | none => []
  | some execution =>
      if execution = "" ∨ record.items = "" then []
      else [⟨record.workflow, record.collections, record.items, execution, moment.milliseconds,
        record.state.name⟩]

section

variable {event : EventType} {key : Key} {moment : Time.Instant}

theorem logTransition_stateless (target : event.target = none) (log : EventLog) (key : Key)
    (execution : Option String) (moment : Time.Instant) :
    (logTransition log event key execution moment).1 = log := by
  simp only [logTransition, target]

/-- A transition is logged as its record tells it. -/
theorem logTransition_moved {state : State} (target : event.target = some state)
    (decoded : key.IsDecoded) (storable : moment.IsStorable) {row : Row} {record : Record}
    (written : row.IsWritten key state moment) (shown : row.IsShownBy record) (mode : LogMode)
    (events : List StoredEvent) (execution : Option String) :
    (logTransition (.kept mode (some events)) event key execution moment).1 =
      .kept mode (some (events ++ logged record execution moment)) := by
  cases execution with
  | none => simp only [logTransition, target, logged, List.append_nil]
  | some execution =>
      have same : EventLog.added key state moment execution =
          logged record (some execution) moment := by
        rw [EventLog.added, logged, shown.items, shown.collections, shown.workflow, written.key,
          written.record_state shown]
      simp only [logTransition, target, ← same]
      exact EventLog.after_record decoded storable mode events state execution

theorem publishNotice_told {publisher : Publisher} (healthy : publisher.IsHealthy)
    {notice : Notice} (passed : Notice.checkExtra notice.extra = .ok ()) :
    ∃ next, (publishNotice (some publisher) notice).1 = some next ∧ next.IsHealthy ∧
      publisher.Told notice.event notice.payloadId notice.time.stored next := by
  rcases Publisher.publish_took healthy notice.message with ⟨_, took, kept⟩
  exact ⟨_, rfl, kept, notice.message, took, Notice.message_shows passed⟩

end

/-! ## One announcement -/

/-- One request to announce an event. -/
structure Call where
  event : EventType
  announcement : Announcement
  now : Time.Instant

/-- When the event of a call happened. -/
def Call.moment (call : Call) : Time.Instant :=
  call.announcement.time.getD call.now

/-- Why a call is refused: it names no payload, it takes a name of the message's own fields, its
identifier cannot be decoded, or the state of its event is withheld. -/
inductive Refused (table : Table) (call : Call) : EventError → Prop
  | unnamed (named : call.announcement.payloadId = none) : Refused table call .withoutPayloadId
  | reserved {error : EventError}
      (taken : Notice.checkExtra call.announcement.extra = .error error) :
      Refused table call error
  | undecoded {payloadId : String} {error : InputError}
      (named : call.announcement.payloadId = some payloadId)
      (undecoded : Key.decode payloadId = .error error) : Refused table call (.input error)
  | withheld {payloadId : String} {key : Key} {error : EventError}
      (named : call.announcement.payloadId = some payloadId)
      (decoded : Key.decode payloadId = .ok key)
      (cause : Withheld table call.event key call.announcement.execution error) :
      Refused table call error

theorem accept_cases (table : Table) (call : Call) :
    (∃ error, accept call.announcement = .error error ∧ Refused table call error) ∨
    ∃ payloadId key, accept call.announcement = .ok (payloadId, key) ∧
      call.announcement.payloadId = some payloadId ∧ Key.decode payloadId = .ok key ∧
      Notice.checkExtra call.announcement.extra = .ok () := by
  cases named : call.announcement.payloadId with
  | none =>
      simp only [accept, named]
      exact .inl ⟨_, rfl, .unnamed named⟩
  | some payloadId =>
      simp only [accept, named]
      cases passed : Notice.checkExtra call.announcement.extra with
      | error error => exact .inl ⟨error, rfl, .reserved passed⟩
      | ok =>
          cases decoded : Key.decode payloadId with
          | error error => exact .inl ⟨.input error, rfl, .undecoded named decoded⟩
          | ok key => exact .inr ⟨payloadId, key, rfl, rfl, decoded, rfl⟩

/-- A table that reads, a log that is kept and a publisher that works. -/
structure IsAt (ledger : Ledger) (table : Table) (mode : LogMode) (events : List StoredEvent)
    (publisher : Publisher) : Prop where
  present : ledger.store.table = some table
  readable : table.IsReadable
  kept : ledger.log = .kept mode (some events)
  reached : ledger.publisher = some publisher
  healthy : publisher.IsHealthy

/-- The row of a key reads as a record, and no other row has changed. -/
structure Gained (before after : Table) (key : Key) (record : Record) : Prop where
  found : ∃ row, after.find? key = some row ∧ row.record = .ok record
  others : after.erase key = before.erase key

/-- All that a call can come to. -/
inductive Announced (ledger : Ledger) (table : Table) (mode : LogMode) (events : List StoredEvent)
    (publisher : Publisher) (call : Call) : Except EventError (Option Record) × Ledger → Prop
  /-- Nothing has changed in any of the three places. -/
  | refused {after : Ledger} {error : EventError} (cause : Refused table call error)
      (store : after.store = ledger.store)
      (log : after.log = ledger.log) (published : after.publisher = ledger.publisher) :
      Announced ledger table mode events publisher call (.error error, after)
  /-- One message is published, and nothing else has changed. -/
  | told {after : Ledger} {payloadId : String} {next : Publisher}
      (named : call.announcement.payloadId = some payloadId)
      (target : call.event.target = none)
      (store : after.store = ledger.store)
      (found : after.IsAt table mode events next)
      (told : publisher.Told call.event payloadId call.moment.stored next) :
      Announced ledger table mode events publisher call (.ok none, after)
  /-- One row is written, and what is logged and published tells of the same. -/
  | moved {after : Ledger} {payloadId : String} {key : Key} {record : Record}
      {later : Table} {next : Publisher}
      (named : call.announcement.payloadId = some payloadId)
      (decoded : Key.decode payloadId = .ok key)
      (target : call.event.target = some record.state)
      (updated : record.stateUpdated = record.state.name ++ "_" ++ call.moment.stored)
      (items : record.items = key.itemIds)
      (store : after.store = { ledger.store with table := some later })
      (gained : Gained table later key record)
      (found : after.IsAt later mode
        (events ++ logged record call.announcement.execution call.moment) next)
      (told : publisher.Told call.event payloadId call.moment.stored next) :
      Announced ledger table mode events publisher call (.ok (some record), after)

theorem gained_put {table : Table} {row : Row} {record : Record} (reads : row.record = .ok record) :
    Gained table (table.put row) row.key record where
  found := by
    refine ⟨row, ?_, reads⟩
    rw [Table.find?_put, if_pos rfl]
  others := Table.erase_put table row

theorem announce_announced {ledger : Ledger} {table : Table} {mode : LogMode}
    {events : List StoredEvent} {publisher : Publisher}
    (found : ledger.IsAt table mode events publisher) {call : Call}
    (storable : call.moment.IsStorable) :
    Announced ledger table mode events publisher call
      (ledger.announce call.event call.announcement call.now) := by
  have moment : call.announcement.time.getD call.now = call.moment := rfl
  rw [announce]
  rcases accept_cases table call with
    ⟨error, refused, cause⟩ | ⟨payloadId, key, accepted, named, decoded, passed⟩
  · rw [refused]
    exact .refused cause rfl rfl rfl
  · rw [accepted]
    have isDecoded : key.IsDecoded := ⟨payloadId, decoded⟩
    have outcome := writeState_outcome found.present found.readable isDecoded storable
      call.event call.announcement
    have publishes : ∃ next, (publishNotice (some publisher)
        (fullNotice call.event payloadId call.announcement call.moment)).1 = some next ∧
          next.IsHealthy ∧ publisher.Told call.event payloadId call.moment.stored next :=
      publishNotice_told found.healthy passed
    rcases publishes with ⟨next, published, healthy, told⟩
    have notice : noticeOf call.event payloadId call.announcement call.moment =
        .ok (fullNotice call.event payloadId call.announcement call.moment) :=
      noticeOf_of_accept accepted call.event call.moment
    simp only [moment, found.kept, found.reached, notice]
    generalize writeState ledger.store call.event key call.announcement call.moment = written
      at outcome
    cases outcome with
    | withheld cause samples =>
        exact .refused (.withheld named decoded cause) rfl found.kept.symm found.reached.symm
    | stateless target samples =>
        refine .told named target rfl ⟨found.present, found.readable, ?_, published, healthy⟩ told
        exact logTransition_stateless target _ _ _ _
    | moved target written shown samples =>
        have state := written.record_state shown
        refine .moved named decoded (state ▸ target) ?_ ?_ rfl (written.key ▸ gained_put shown.reads)
          ⟨rfl, found.readable.put written.readable, ?_, published, healthy⟩ told
        · rw [shown.stateUpdated, written.packed, state, Row.pack]
        · rw [shown.items, written.key]
        · exact logTransition_moved target isDecoded storable written shown mode events _

/-! ## Sessions -/

/-- The three places work. -/
def IsHealthy (ledger : Ledger) : Prop :=
  ∃ table mode events publisher, ledger.IsAt table mode events publisher

/-- The ledger after some calls. -/
def session (ledger : Ledger) (calls : List Call) : Ledger :=
  calls.foldl (fun ledger call => (ledger.announce call.event call.announcement call.now).2) ledger

/-- No call breaks a place. -/
theorem IsHealthy.announce {ledger : Ledger} (healthy : ledger.IsHealthy) {call : Call}
    (storable : call.moment.IsStorable) :
    (ledger.announce call.event call.announcement call.now).2.IsHealthy := by
  rcases healthy with ⟨table, mode, events, publisher, found⟩
  have announced := announce_announced found storable
  generalize ledger.announce call.event call.announcement call.now = reply at announced
  cases announced with
  | refused cause store log published =>
      refine ⟨table, mode, events, publisher, ?_, found.readable, ?_, ?_, found.healthy⟩
      · rw [store, found.present]
      · rw [log, found.kept]
      · rw [published, found.reached]
  | told named target store found told => exact ⟨_, _, _, _, found⟩
  | moved named decoded target updated items store gained found told => exact ⟨_, _, _, _, found⟩

theorem IsHealthy.session {ledger : Ledger} (healthy : ledger.IsHealthy) {calls : List Call}
    (storable : ∀ call ∈ calls, call.moment.IsStorable) : (ledger.session calls).IsHealthy := by
  induction calls generalizing ledger with
  | nil => exact healthy
  | cons call calls ih =>
      have first := healthy.announce (storable call List.mem_cons_self)
      exact ih first fun later member => storable later (List.mem_cons_of_mem _ member)

/-- A store that a run has reached, with a log and a publisher that work, is healthy. -/
theorem isHealthy_of_holds {store : Store} {accounts : Accounts} (holds : store.Holds accounts)
    (mode : LogMode) (events : List StoredEvent) {publisher : Publisher}
    (healthy : publisher.IsHealthy) (metrics : Metrics) :
    IsHealthy ⟨store, .kept mode (some events), some publisher, metrics⟩ := by
  rcases holds with ⟨table, present, kept⟩
  exact ⟨table, mode, events, publisher, present, kept.isReadable, rfl, rfl, healthy⟩

/-- Wherever a session of calls has led, the next call changes nothing and is answered with an
error, or publishes one message, or changes one row, of which the log and the message then tell. -/
theorem announce_all_or_nothing {ledger : Ledger} (healthy : ledger.IsHealthy)
    {calls : List Call} (storable : ∀ call ∈ calls, call.moment.IsStorable) {call : Call}
    (last : call.moment.IsStorable) :
    ∃ table mode events publisher,
      (ledger.session calls).IsAt table mode events publisher ∧
        Announced (ledger.session calls) table mode events publisher call
          ((ledger.session calls).announce call.event call.announcement call.now) := by
  rcases healthy.session storable with ⟨table, mode, events, publisher, found⟩
  exact ⟨table, mode, events, publisher, found, announce_announced found last⟩

/-- An execution that claimed a payload completes it, which is logged. -/
theorem announce_all_or_nothing_completed :
    let ledger : Ledger := ⟨.empty 100 1000, .empty .strict, some (.broadcast (.empty 4 true)), []⟩
    let work : Announcement := { payloadId := some "c/workflow-w/a", execution := some "one" }
    let claimed : Call := ⟨.claimedProcessing, work, ⟨0, 0⟩⟩
    let completed : Call := ⟨.succeeded, work, ⟨1, 2003000⟩⟩
    ledger.IsHealthy ∧ (∀ call ∈ [claimed], call.moment.IsStorable) ∧
      completed.moment.IsStorable ∧
      ∃ record after,
        (ledger.session [claimed]).announce .succeeded work ⟨1, 2003000⟩ =
          (.ok (some record), after) ∧ record.state = .completed ∧
        ∃ mode events, after.log = .kept mode
          (some (events ++ logged record (some "one") ⟨1, 2003000⟩)) := by
  intro ledger work claimed completed
  have listening : (Publisher.broadcast (.empty 4 true)).IsHealthy := ⟨rfl, by decide⟩
  have healthy : ledger.IsHealthy :=
    isHealthy_of_holds (Store.empty_holds 100 1000) .strict [] listening []
  have storable : ∀ call ∈ [claimed], call.moment.IsStorable := by
    intro call member
    rw [List.mem_singleton.mp member]
    decide
  have last : completed.moment.IsStorable := by decide
  refine ⟨healthy, storable, last, ?_⟩
  rcases announce_all_or_nothing healthy storable last with
    ⟨table, mode, events, publisher, found, announced⟩
  have answered : ((ledger.session [claimed]).announce completed.event completed.announcement
      completed.now).1.isOk = true := by decide +kernel
  change ∃ record after, (ledger.session [claimed]).announce completed.event
    completed.announcement completed.now = _ ∧ _
  generalize (ledger.session [claimed]).announce completed.event completed.announcement
    completed.now = reply at announced answered
  cases announced with
  | refused cause store log published => cases answered
  | told named target store found told => cases target
  | moved named decoded target updated items store gained found told =>
      exact ⟨_, _, rfl, (Option.some.inj target).symm, mode, events, found.kept⟩

end Ledger
end PayloadLedger
