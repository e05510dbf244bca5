import PayloadLedger.Proofs.Ledger.Announce
import PayloadLedger.Proofs.Ledger.Sinks

namespace PayloadLedger
namespace Ledger

/-!
An announcement step by step.

An announcement writes the store, then the log, then tells the publisher.  Between two of these
steps it holds what it needs for the next one, and the ledger may be changed by others.  Three
steps in a row are the whole announcement.  The first of them alone decides on the store and on
the answer; the others only fill the log and the publisher.
-/

/-- How far a call has come. -/
inductive Stage
  | called
  /-- The store has taken the call. -/
  | written (payloadId : String) (key : Key) (record : Option Record)
  /-- The log has been offered the transition too. -/
  | logged (payloadId : String) (record : Option Record)
  | answered (answer : Except EventError (Option Record))

namespace Stage

/-- The answer of a call, which is settled when the store is written. -/
def outcome? : Stage → Option (Except EventError (Option Record))
  | called => none
  | written _ _ record | logged _ record => some (.ok record)
  | answered answer => some answer

def HasWritten (stage : Stage) : Prop :=
  ∃ record, stage.outcome? = some (.ok record)

def HasLogged : Stage → Prop
  | logged _ _ | answered (.ok _) => True
  | _ => False

def HasTold : Stage → Prop
  | answered (.ok _) => True
  | _ => False

/-- Steps have been taken and others are still to come. -/
def isUnderWay : Stage → Bool
  | written _ _ _ | logged _ _ => true
  | called | answered _ => false

variable {stage : Stage}

theorem HasTold.hasLogged (told : stage.HasTold) : stage.HasLogged := by
  cases stage with
  | answered answer =>
      cases answer with
      | ok record => trivial
      | error error => exact told
  | _ => cases told

theorem HasLogged.hasWritten (logged : stage.HasLogged) : stage.HasWritten := by
  cases stage with
  | logged payloadId record => exact ⟨record, rfl⟩
  | answered answer =>
      cases answer with
      | ok record => exact ⟨record, rfl⟩
      | error error => cases logged
  | _ => cases logged

theorem HasWritten.hasTold (written : stage.HasWritten) (settled : stage.isUnderWay = false) :
    stage.HasTold := by
  rcases written with ⟨record, outcome⟩
  cases stage with
  | answered answer =>
      cases outcome
      trivial
  | called => cases outcome
  | _ => cases settled

def ofOutcome : Option (Except EventError (Option Record)) → Stage
  | none => called
  | some answer => answered answer

theorem ofOutcome_outcome (settled : stage.isUnderWay = false) :
    ofOutcome stage.outcome? = stage := by
  cases stage with
  | called => rfl
  | answered answer => rfl
  | _ => cases settled

end Stage

/-! ## One step -/

/-- The answer to a call that finds this ledger. -/
def answerTo (ledger : Ledger) (call : Call) : Except EventError (Option Record) :=
  (ledger.announce call.event call.announcement call.now).1

def answers (ledger : Ledger) : List Call → List (Except EventError (Option Record))
  | [] => []
  | call :: calls =>
      ledger.answerTo call ::
        (ledger.announce call.event call.announcement call.now).2.answers calls

theorem session_append_singleton (ledger : Ledger) (calls : List Call) (call : Call) :
    ledger.session (calls ++ [call]) =
      ((ledger.session calls).announce call.event call.announcement call.now).2 := by
  rw [session, List.foldl_append]
  rfl

theorem answers_append_singleton (ledger : Ledger) (calls : List Call) (call : Call) :
    ledger.answers (calls ++ [call]) =
      ledger.answers calls ++ [(ledger.session calls).answerTo call] := by
  induction calls generalizing ledger with
  | nil => rfl
  | cons first calls ih => exact congrArg (ledger.answerTo first :: ·) (ih _)

/-- The first step of a call. -/
def commit (ledger : Ledger) (call : Call) : Stage × Ledger :=
  match accept call.announcement with
  | .error error => (.answered (.error error), ledger)
  | .ok (payloadId, key) =>
      let (result, store, written) :=
        writeState ledger.store call.event key call.announcement call.moment
      let ledger := { ledger with store }.observe written
      match result with
      | .error error => (.answered (.error error), ledger)
      | .ok record => (.written payloadId key record, ledger)

/-- The next step of a call, if there is one. -/
def advance (ledger : Ledger) (call : Call) : Stage → Stage × Ledger
  | .called => ledger.commit call
  | .written payloadId key record =>
      let (log, logged) :=
        logTransition ledger.log call.event key call.announcement.execution call.moment
      (.logged payloadId record, { ledger with log }.observe logged)
  | .logged payloadId record =>
      match noticeOf call.event payloadId call.announcement call.moment with
      | .error error => (.answered (.error error), ledger)
      | .ok notice =>
          let (publisher, published) := publishNotice ledger.publisher notice
          (.answered (.ok record), { ledger with publisher }.observe published)
  | .answered answer => (.answered answer, ledger)

theorem advance_logged {call : Call} {payloadId : String} {key : Key}
    (accepted : accept call.announcement = .ok (payloadId, key)) (ledger : Ledger)
    (record : Option Record) :
    ledger.advance call (.logged payloadId record) =
      let notice := fullNotice call.event payloadId call.announcement call.moment
      let (publisher, published) := publishNotice ledger.publisher notice
      (.answered (.ok record), { ledger with publisher }.observe published) := by
  have notice : noticeOf call.event payloadId call.announcement call.moment =
      .ok (fullNotice call.event payloadId call.announcement call.moment) :=
    noticeOf_of_accept accepted call.event call.moment
  simp only [advance, notice]

/-- What a call holds at a stage is what was accepted. -/
def Stage.Fits (call : Call) : Stage → Prop
  | written payloadId key _ => accept call.announcement = .ok (payloadId, key)
  | logged payloadId _ => ∃ key, accept call.announcement = .ok (payloadId, key)
  | called | answered _ => True

/-- All that the first step can come to, and what the whole announcement is then. -/
inductive Commits (ledger : Ledger) (call : Call) : Stage × Ledger → Prop
  | refused {error : EventError} {after : Ledger} (log : after.log = ledger.log)
      (publisher : after.publisher = ledger.publisher)
      (whole : ledger.announce call.event call.announcement call.now = (.error error, after)) :
      Commits ledger call (.answered (.error error), after)
  | taken {payloadId : String} {key : Key} {record : Option Record} {after later : Ledger}
      (accepted : accept call.announcement = .ok (payloadId, key))
      (log : after.log = ledger.log) (publisher : after.publisher = ledger.publisher)
      (rest : (after.advance call (.written payloadId key record)).2.advance call
        (.logged payloadId record) = (.answered (.ok record), later))
      (whole : ledger.announce call.event call.announcement call.now = (.ok record, later)) :
      Commits ledger call (.written payloadId key record, after)

theorem commit_commits (ledger : Ledger) (call : Call) :
    Commits ledger call (ledger.commit call) := by
  have moment : call.announcement.time.getD call.now = call.moment := rfl
  rw [commit]
  cases accepted : accept call.announcement with
  | error error =>
      refine .refused rfl rfl ?_
      rw [announce, accepted]
  | ok named =>
      cases written : writeState ledger.store call.event named.2 call.announcement call.moment with
      | mk result rest =>
          simp only [written]
          cases result with
          | error error =>
              refine .refused rfl rfl ?_
              simp only [announce, accepted, moment, written]
          | ok record =>
              refine .taken accepted rfl rfl (advance_logged accepted _ record) ?_
              simp only [announce, accepted, moment, written, noticeOf_of_accept accepted]
              rfl

theorem commit_fits (ledger : Ledger) (call : Call) : (ledger.commit call).1.Fits call := by
  have commits := commit_commits ledger call
  generalize ledger.commit call = reply at commits
  cases commits with
  | refused log publisher whole => trivial
  | taken accepted log publisher rest whole => exact accepted

theorem advance_thrice {ledger : Ledger} {call : Call} {first second third : Stage × Ledger}
    (one : ledger.advance call .called = first) (two : first.2.advance call first.1 = second)
    (three : second.2.advance call second.1 = third) :
    third = (.answered (ledger.answerTo call),
      (ledger.announce call.event call.announcement call.now).2) := by
  have commits := commit_commits ledger call
  have started : ledger.commit call = first := one
  rw [started] at commits
  rw [answerTo, ← three, ← two]
  cases commits with
  | refused log publisher whole =>
      rw [whole]
      rfl
  | taken accepted log publisher rest whole =>
      rw [whole]
      exact rest

/-- The later steps of a call keep what the first one settled. -/
theorem advance_settled {call : Call} {stage : Stage} (begun : stage ≠ .called)
    (fits : stage.Fits call) (ledger : Ledger) :
    (ledger.advance call stage).1.outcome? = stage.outcome? ∧
      (ledger.advance call stage).2.store = ledger.store ∧
      (ledger.advance call stage).1.Fits call := by
  cases stage with
  | called => exact absurd rfl begun
  | written payloadId key record => exact ⟨rfl, rfl, key, fits⟩
  | logged payloadId record =>
      rcases fits with ⟨key, accepted⟩
      rw [advance_logged accepted]
      exact ⟨rfl, rfl, trivial⟩
  | answered answer => exact ⟨rfl, rfl, trivial⟩

/-- The first step settles the store and the answer, from the store alone. -/
theorem commit_settles {ledger origin : Ledger} (same : ledger.store = origin.store)
    (call : Call) :
    (ledger.commit call).1.outcome? = some (origin.answerTo call) ∧
      (ledger.commit call).2.store =
        (origin.announce call.event call.announcement call.now).2.store := by
  have agree := announce_agree same call.event call.announcement call.now
  have commits := commit_commits ledger call
  rw [answerTo, ← agree.answer, ← agree.store]
  generalize ledger.commit call = reply at commits
  cases commits with
  | refused log publisher whole =>
      rw [whole]
      exact ⟨rfl, rfl⟩
  | @taken payloadId key record after later accepted log publisher rest whole =>
      have fits : Stage.Fits call (.logged payloadId record) := ⟨key, accepted⟩
      have settled := advance_settled Stage.noConfusion fits
        (after.advance call (.written payloadId key record)).2
      rw [rest] at settled
      rw [whole]
      exact ⟨rfl, settled.2.1.symm⟩

/-! ## What the sinks are given -/

/-- The events that a call adds to a log, if the store takes it: one, if the call changes the state
and names an execution and items, and none otherwise. -/
def Call.entries (call : Call) : List StoredEvent :=
  match accept call.announcement with
  | .error _ => []
  | .ok (_, key) =>
      match call.event.target, call.announcement.execution with
      | some state, some execution => EventLog.added key state call.moment execution
      | _, _ => []

/-- The message of a call that names its payload. -/
def Call.message (call : Call) : Message :=
  (fullNotice call.event (call.announcement.payloadId.getD "") call.announcement
    call.moment).message

theorem accept_named {announcement : Announcement} {payloadId : String} {key : Key}
    (accepted : accept announcement = .ok (payloadId, key)) :
    announcement.payloadId = some payloadId ∧ key.IsDecoded := by
  have cases := accept_cases [] ⟨.aborted, announcement, ⟨0, 0⟩⟩
  rcases cases with ⟨error, refused, _⟩ | ⟨found, other, found, named, decoded, _⟩
  · rw [accepted] at refused
    cases refused
  · rw [accepted] at found
    cases found
    exact ⟨named, payloadId, decoded⟩

theorem commit_sinks (ledger : Ledger) (call : Call) :
    (ledger.commit call).2.log = ledger.log ∧
      (ledger.commit call).2.publisher = ledger.publisher ∧
      ¬ (ledger.commit call).1.HasLogged := by
  have commits := commit_commits ledger call
  generalize ledger.commit call = reply at commits
  cases commits with
  | refused log publisher whole => exact ⟨log, publisher, id⟩
  | taken accepted log publisher rest whole => exact ⟨log, publisher, id⟩

theorem advance_log {ledger : Ledger} {mode : LogMode} {events : List StoredEvent}
    (kept : ledger.log = .kept mode (some events)) {call : Call} {payloadId : String} {key : Key}
    (accepted : accept call.announcement = .ok (payloadId, key))
    (storable : call.moment.IsStorable) (record : Option Record) :
    (ledger.advance call (.written payloadId key record)).2.log =
      .kept mode (some (events ++ call.entries)) := by
  change (logTransition ledger.log call.event key call.announcement.execution call.moment).1 = _
  simp only [kept, logTransition, Call.entries, accepted]
  cases call.event.target with
  | none => simp only [List.append_nil]
  | some state =>
      cases call.announcement.execution with
      | none => simp only [List.append_nil]
      | some execution =>
          exact EventLog.after_record (accept_named accepted).2 storable mode events state _

theorem advance_publisher {ledger : Ledger} {publisher : Publisher}
    (reached : ledger.publisher = some publisher) (healthy : publisher.IsHealthy) {call : Call}
    {payloadId : String} {key : Key} (accepted : accept call.announcement = .ok (payloadId, key))
    (record : Option Record) :
    ∃ next, (ledger.advance call (.logged payloadId record)).2.publisher = some next ∧
      next.IsHealthy ∧ Publisher.Took call.message publisher next := by
  have message : call.message =
      (fullNotice call.event payloadId call.announcement call.moment).message := by
    rw [Call.message, (accept_named accepted).1, Option.getD_some]
  rw [message]
  rcases Publisher.publish_took healthy
    (fullNotice call.event payloadId call.announcement call.moment).message with ⟨_, took, next⟩
  refine ⟨_, ?_, next, took⟩
  rw [advance_logged accepted, reached]
  rfl

end Ledger
end PayloadLedger
