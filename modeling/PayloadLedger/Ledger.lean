import PayloadLedger.Engine.Resolution
import PayloadLedger.EventLog
import PayloadLedger.Notice.Publisher
import PayloadLedger.Store

namespace PayloadLedger

/-!
Announcing events.

An announced event goes through three places in turn.  The store comes first and is the
authority: if it refuses, nothing else happens.  The event log and the publisher follow as
far as they can, and their failures are not the caller's.
-/

/-- What is said about an event besides its type. -/
structure Announcement where
  payloadId : Option String := none
  execution : Option String := none
  error : Option String := none
  /-- References to the outputs of a completed payload. -/
  outputs : Option (List String) := none
  payloadUrl : Option String := none
  /-- When it happened, if not now. -/
  time : Option Time.Instant := none
  /-- Fields for the message, sorted by name. -/
  extra : List (String × Json) := []

/-- The places that events go through, and what was counted on the way. -/
structure Ledger where
  store : Store := {}
  log : EventLog := .disabled
  publisher : Option Publisher := none
  metrics : Metrics := []

namespace Ledger

def observe (ledger : Ledger) (samples : List Sample) : Ledger :=
  { ledger with metrics := ledger.metrics ++ samples }

/-! ## The three steps -/

/-- Move the payload to the event's target state, if it has one. -/
def writeState (store : Store) (event : EventType) (key : Key) (announcement : Announcement)
    (moment : Time.Instant) : Except EventError (Option Record) × Store × List Sample :=
  let finish (reply : Reply Store Record) :=
    ((reply.result.map some).mapError EventError.store, reply.after, reply.samples)
  let error := announcement.error.getD ""
  match event with
  | .claimedProcessing =>
      match announcement.execution with
      | some execution => finish (store.claim key execution moment)
      | none => (.error (.withoutExecution event), store, [])
  | .startedProcessing =>
      match announcement.execution with
      | some execution => finish (store.start key execution moment)
      | none => (.error (.withoutExecution event), store, [])
  | .succeeded => finish (store.complete key announcement.outputs moment)
  | .failed | .timedOut => finish (store.fail key error moment)
  | .invalid => finish (store.invalidate key error moment)
  | .aborted => finish (store.abort key moment)
  | .alreadyInvalid | .alreadyProcessing | .alreadyCompleted | .duplicateIdEncountered
  | .recordExtractFailed | .notAProcessPayload => (.ok none, store, [])

/-- Offer the transition to the event log, if there is one and an execution made it. -/
def logTransition (log : EventLog) (event : EventType) (key : Key) (execution : Option String)
    (moment : Time.Instant) : EventLog × List Sample :=
  match event.target, execution with
  | some state, some execution =>
      let reply := log.record key (.reached state) moment.stored execution
      (reply.after, reply.samples)
  | _, _ => (log, [])

/-- Hand a notice to the publisher, if there is one. -/
def publishNotice (publisher : Option Publisher) (notice : Notice) :
    Option Publisher × List Sample :=
  match publisher with
  | none => (none, [])
  | some publisher =>
      let (result, publisher) := publisher.publish notice.message
      (some publisher, [.notification notice.event result.isOk])

/-! ## Announcements -/

/-- The key of an announcement that may be made. -/
def accept (announcement : Announcement) : Except EventError (String × Key) :=
  match announcement.payloadId with
  | none => .error .withoutPayloadId
  | some payloadId => do
      Notice.checkExtra announcement.extra
      let key ← (Key.decode payloadId).mapError .input
      return (payloadId, key)

/-- The notice of an announcement, if its extra fields may be added. -/
def noticeOf (event : EventType) (payloadId : String) (announcement : Announcement)
    (moment : Time.Instant) : Except EventError Notice :=
  let notice : Notice := {
    event, payloadId
    time := moment
    payloadUrl := announcement.payloadUrl
    execution := announcement.execution
    error := announcement.error }
  notice.withExtra announcement.extra

/-- Announce an event.  The result is the new record of the payload, if the event changes
its state. -/
def announce (ledger : Ledger) (event : EventType) (announcement : Announcement)
    (now : Time.Instant) : Except EventError (Option Record) × Ledger :=
  match accept announcement with
  | .error error => (.error error, ledger)
  | .ok (payloadId, key) =>
      let moment := announcement.time.getD now
      let (result, store, written) := writeState ledger.store event key announcement moment
      let ledger := { ledger with store }.observe written
      match result with
      | .error error => (.error error, ledger)
      | .ok record =>
          let (log, logged) := logTransition ledger.log event key announcement.execution moment
          let ledger := { ledger with log }.observe logged
          match noticeOf event payloadId announcement moment with
          | .error error => (.error error, ledger)
          | .ok notice =>
              let (publisher, published) := publishNotice ledger.publisher notice
              (.ok record, { ledger with publisher }.observe published)

/-- Announce an event that changes the state of its payload. -/
def announceChange (ledger : Ledger) (event : EventType) (announcement : Announcement)
    (now : Time.Instant) : Except EventError Record × Ledger :=
  let (result, ledger) := ledger.announce event announcement now
  let result : Except EventError Record :=
    match result with
    | .error error => .error error
    | .ok (some record) => .ok record
    | .ok none => .error (.noStateChange event)
  (result, ledger)

def claimProcessing (ledger : Ledger) (payloadId execution : String)
    (payloadUrl : Option String) (now : Time.Instant) : Except EventError Record × Ledger :=
  ledger.announceChange .claimedProcessing
    { payloadId := some payloadId, execution := some execution, payloadUrl } now

def startedProcessing (ledger : Ledger) (payloadId execution : String)
    (payloadUrl : Option String) (now : Time.Instant) : Except EventError Record × Ledger :=
  ledger.announceChange .startedProcessing
    { payloadId := some payloadId, execution := some execution, payloadUrl } now

def succeeded (ledger : Ledger) (payloadId execution : String)
    (outputs : Option (List String)) (payloadUrl : Option String) (now : Time.Instant) :
    Except EventError Record × Ledger :=
  ledger.announceChange .succeeded
    { payloadId := some payloadId, execution := some execution, outputs, payloadUrl } now

def failed (ledger : Ledger) (payloadId error : String) (execution : Option String)
    (now : Time.Instant) : Except EventError Record × Ledger :=
  ledger.announceChange .failed
    { payloadId := some payloadId, error := some error, execution } now

def timedOut (ledger : Ledger) (payloadId error : String) (execution : Option String)
    (now : Time.Instant) : Except EventError Record × Ledger :=
  ledger.announceChange .timedOut
    { payloadId := some payloadId, error := some error, execution } now

def invalid (ledger : Ledger) (payloadId error : String) (execution : Option String)
    (now : Time.Instant) : Except EventError Record × Ledger :=
  ledger.announceChange .invalid
    { payloadId := some payloadId, error := some error, execution } now

def aborted (ledger : Ledger) (payloadId : String) (execution : Option String)
    (now : Time.Instant) : Except EventError Record × Ledger :=
  ledger.announceChange .aborted { payloadId := some payloadId, execution } now

/-- Announce that a payload is skipped because it is in a state already. -/
def skipping (ledger : Ledger) (payloadId : String) (state : State)
    (payloadUrl : Option String) (now : Time.Instant) : Except EventError Unit × Ledger :=
  match EventType.already? state with
  | none => (.error (.noSkipEvent state), ledger)
  | some event =>
      let (result, ledger) :=
        ledger.announce event { payloadId := some payloadId, payloadUrl } now
      (result.map fun _ => (), ledger)

/-- Announce that a payload is dropped because its identifier was seen before. -/
def duplicated (ledger : Ledger) (payloadId : String) (payloadUrl : Option String)
    (now : Time.Instant) : Except EventError Unit × Ledger :=
  let (result, ledger) :=
    ledger.announce .duplicateIdEncountered { payloadId := some payloadId, payloadUrl } now
  (result.map fun _ => (), ledger)

/-- Announce what a status change means. -/
def apply (ledger : Ledger) (resolver : Engine.Resolver) (change : Engine.StatusChange)
    (now : Time.Instant) : Except EventError (Option Record) × Ledger :=
  match resolver.resolve change with
  | .error error => (.error error, ledger)
  | .ok resolution =>
      let announcement : Announcement := {
        payloadId := some change.payloadId
        execution := some change.execution
        error := resolution.error
        outputs := if resolution.event = .succeeded then change.outputRefs else none
        payloadUrl := change.payloadUrl }
      ledger.announce resolution.event announcement now

end Ledger

end PayloadLedger
