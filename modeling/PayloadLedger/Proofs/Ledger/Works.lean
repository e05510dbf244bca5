import PayloadLedger.Proofs.Ledger.Asking
import PayloadLedger.Proofs.Ledger.Steps

namespace PayloadLedger
namespace Ledger

/-!
Works.

A run is a list of works: changes and readings of the store, transitions offered to the log, and
requests that go through all three places.  A request does what an announcement does, and an
announcement is the replies of the store, of the log and of the publisher one after another.
-/

/-! ## Works and runs -/

/-- The announcement that a request comes to, unless it is refused before. -/
def Request.call? (request : Request) (now : Time.Instant) : Option Call :=
  match request with
  | .announce event announcement => some ⟨event, announcement, now⟩
  | .claimProcessing payloadId execution payloadUrl =>
      some ⟨.claimedProcessing,
        { payloadId := some payloadId, execution := some execution, payloadUrl }, now⟩
  | .startedProcessing payloadId execution payloadUrl =>
      some ⟨.startedProcessing,
        { payloadId := some payloadId, execution := some execution, payloadUrl }, now⟩
  | .succeeded payloadId execution outputs payloadUrl =>
      some ⟨.succeeded,
        { payloadId := some payloadId, execution := some execution, outputs, payloadUrl }, now⟩
  | .failed payloadId error execution =>
      some ⟨.failed, { payloadId := some payloadId, error := some error, execution }, now⟩
  | .timedOut payloadId error execution =>
      some ⟨.timedOut, { payloadId := some payloadId, error := some error, execution }, now⟩
  | .invalid payloadId error execution =>
      some ⟨.invalid, { payloadId := some payloadId, error := some error, execution }, now⟩
  | .aborted payloadId execution =>
      some ⟨.aborted, { payloadId := some payloadId, execution }, now⟩
  | .skipping payloadId state payloadUrl =>
      (EventType.already? state).map fun event =>
        ⟨event, { payloadId := some payloadId, payloadUrl }, now⟩
  | .duplicated payloadId payloadUrl =>
      some ⟨.duplicateIdEncountered, { payloadId := some payloadId, payloadUrl }, now⟩
  | .apply resolver change =>
      match resolver.resolve change with
      | .error _ => none
      | .ok resolution => some ⟨resolution.event, announcementOf change resolution, now⟩

/-- A request does what its announcement does. -/
theorem serve_after (ledger : Ledger) (request : Request) (now : Time.Instant) :
    (ledger.serve request now).2 =
      match request.call? now with
      | none => ledger
      | some call => (ledger.announce call.event call.announcement call.now).2 := by
  cases request with
  | skipping payloadId state payloadUrl =>
      simp only [serve, skipping, Request.call?]
      cases EventType.already? state <;> rfl
  | apply resolver change =>
      simp only [serve, apply, Request.call?]
      cases resolver.resolve change <;> rfl
  | _ => rfl

/-- What is read and not changed. -/
inductive Look
  | get (key : Key)
  | getState (key : Key)
  | getMany (keys : List Key)
  | getStates (keys : List Key)
  | query (partition : String) (filter : Filter) (limit : Nat) (token : Option String)
      (now : Time.Instant)
  | count (partition : String) (filter : Filter) (limit : Option Nat) (now : Time.Instant)
  | getItems (partition : String) (filter : Filter) (limit : Nat) (now : Time.Instant)
  | summary (partition : String) (since : Option String) (limit : Option Nat) (now : Time.Instant)
  | queryBucket (bucket duration : String) (now : Time.Instant)
  | queryHour (start finish : Nat) (now : Time.Instant)

/-- One call on the store, on the log, or on all three places. -/
inductive Work
  | change (step : Step)
  | look (look : Look)
  | record (key : Key) (measure : Measure) (time execution : String)
  | request (request : Request) (now : Time.Instant)

/-- Identifiers name the keys that are written, and the instants have texts of fixed width. -/
def Work.IsProper : Work → Prop
  | .change step => step.IsProper
  | .look _ | .record _ _ _ _ => True
  | .request asked now => ∀ call ∈ asked.call? now, call.moment.IsStorable

/-- The ledger after the store has replied. -/
def storeReplied (ledger : Ledger) (reply : Reply Store α) : Ledger :=
  { ledger with store := reply.after }.observe reply.samples

/-- The ledger after the log has replied. -/
def logReplied (ledger : Ledger) (reply : Reply EventLog α) : Ledger :=
  { ledger with log := reply.after }.observe reply.samples

def afterLook (ledger : Ledger) : Look → Ledger
  | .get key => ledger.storeReplied (ledger.store.get key)
  | .getState key => ledger.storeReplied (ledger.store.getState key)
  | .getMany keys => ledger.storeReplied (ledger.store.getMany keys)
  | .getStates keys => ledger.storeReplied (ledger.store.getStates keys)
  | .query partition filter limit token now =>
      ledger.storeReplied (ledger.store.query partition filter limit token now)
  | .count partition filter limit now =>
      ledger.storeReplied (ledger.store.count partition filter limit now)
  | .getItems partition filter limit now =>
      ledger.storeReplied (ledger.store.getItems partition filter limit now)
  | .summary partition since limit now =>
      ledger.storeReplied (ledger.store.summary partition since limit now)
  | .queryBucket bucket duration now =>
      ledger.logReplied (ledger.log.queryBucket bucket duration now)
  | .queryHour start finish now => ledger.logReplied (ledger.log.queryHour start finish now)

def after (ledger : Ledger) : Work → Ledger
  | .change step => ledger.storeReplied (ledger.store.perform step)
  | .look look => ledger.afterLook look
  | .record key measure time execution =>
      ledger.logReplied (ledger.log.record key measure time execution)
  | .request request now => (ledger.serve request now).2

def afterAll (ledger : Ledger) (works : List Work) : Ledger :=
  works.foldl after ledger

/-! ## The replies behind an announcement -/

theorem observe_nil (ledger : Ledger) : ledger.observe [] = ledger := by
  rw [observe, List.append_nil]

/-- The step that a call asks the store for, if it is accepted and asks for one. -/
def Call.step? (call : Call) : Option Step :=
  match accept call.announcement with
  | .error _ => none
  | .ok (_, key) =>
      (changeOf call.event call.announcement).map fun change => ⟨key, call.moment, change⟩

theorem Call.exists_of_step? {call : Call} {step : Step} (asks : call.step? = some step) :
    ∃ payloadId, accept call.announcement = .ok (payloadId, step.key) ∧
      step.moment = call.moment ∧ changeOf call.event call.announcement = some step.change := by
  unfold Call.step? at asks
  cases accepted : accept call.announcement with
  | error error =>
      rw [accepted] at asks
      cases asks
  | ok named =>
      simp only [accepted, Option.map_eq_some_iff] at asks
      rcases asks with ⟨change, asked, rfl⟩
      exact ⟨named.1, rfl, rfl, asked⟩

theorem Call.isProper_of_step? {call : Call} {step : Step} (asks : call.step? = some step)
    (storable : call.moment.IsStorable) : step.IsProper := by
  rcases call.exists_of_step? asks with ⟨payloadId, accepted, moment, _⟩
  exact ⟨(accept_named accepted).2, moment ▸ storable⟩

/-- The answer to a call that asks the store for a step is the store's. -/
theorem answerTo_of_step? {call : Call} {step : Step} (asks : call.step? = some step)
    (ledger : Ledger) :
    ledger.answerTo call = (ledger.store.perform step).result.mapError EventError.store := by
  rcases call.exists_of_step? asks with ⟨payloadId, accepted, moment, asked⟩
  exact (announce_asked accepted asked moment.symm).1

theorem commit_after (ledger : Ledger) (call : Call) :
    (ledger.commit call).2 =
      match call.step? with
      | none => ledger
      | some step => ledger.storeReplied (ledger.store.perform step) := by
  unfold commit Call.step?
  cases accept call.announcement with
  | error error => rfl
  | ok named =>
      cases asked : changeOf call.event call.announcement with
      | none =>
          have unwritten := writeState_unasked asked ledger.store named.2 call.moment
          cases written : writeState ledger.store call.event named.2 call.announcement
              call.moment with
          | mk result rest =>
              rw [written] at unwritten
              cases unwritten
              simp only [written, Option.map_none]
              cases result <;> exact ledger.observe_nil
      | some change =>
          simp only [writeState_eq_perform asked, Option.map_some]
          cases (ledger.store.perform ⟨named.2, call.moment, change⟩).result <;> rfl

theorem advance_written (ledger : Ledger) (call : Call) (payloadId : String) (key : Key)
    (record : Option Record) :
    (ledger.advance call (.written payloadId key record)).2 =
      match call.event.target, call.announcement.execution with
      | some state, some execution =>
          ledger.logReplied (ledger.log.record key (.reached state) call.moment.stored execution)
      | _, _ => ledger := by
  simp only [advance, logTransition]
  cases call.event.target with
  | none => exact ledger.observe_nil
  | some state =>
      cases call.announcement.execution with
      | none => exact ledger.observe_nil
      | some execution => rfl

end Ledger
end PayloadLedger
