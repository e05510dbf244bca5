import PayloadLedger.Ledger

namespace PayloadLedger
namespace Ledger

/-!
Answers come from the store.

The log and the publisher are the sinks of a ledger: they are filled as far as they can be.  Two
ledgers that share a store give the same answers and keep sharing it, whatever their sinks are,
and whatever becomes of the sinks from one request to the next.
-/

/-! ## The notice -/

/-- The notice of an announcement with all that the caller says. -/
def fullNotice (event : EventType) (payloadId : String) (announcement : Announcement)
    (moment : Time.Instant) : Notice where
  event := event
  payloadId := payloadId
  time := moment
  payloadUrl := announcement.payloadUrl
  execution := announcement.execution
  error := announcement.error
  extra := announcement.extra

theorem checkExtra_of_accept {announcement : Announcement} {named : String × Key}
    (accepted : accept announcement = .ok named) :
    Notice.checkExtra announcement.extra = .ok () := by
  cases passed : Notice.checkExtra announcement.extra with
  | ok => rfl
  | error error =>
      cases identified : announcement.payloadId with
      | none =>
          simp only [accept, identified] at accepted
          cases accepted
      | some payloadId =>
          simp only [accept, identified, passed] at accepted
          cases accepted

/-- The extra fields of an accepted announcement pass a second time. -/
theorem noticeOf_of_accept {announcement : Announcement} {named : String × Key}
    (accepted : accept announcement = .ok named) (event : EventType) (moment : Time.Instant) :
    noticeOf event named.1 announcement moment =
      .ok (fullNotice event named.1 announcement moment) := by
  rw [noticeOf, Notice.withExtra, checkExtra_of_accept accepted]
  rfl

/-- When the store is written, the answer and the store are settled. -/
theorem announce_of_written {ledger : Ledger} {event : EventType} {announcement : Announcement}
    {named : String × Key} (accepted : accept announcement = .ok named) {now : Time.Instant}
    {result : Except EventError (Option Record)} {store : Store} {samples : List Sample}
    (written : writeState ledger.store event named.2 announcement (announcement.time.getD now) =
      (result, store, samples)) :
    (ledger.announce event announcement now).1 = result ∧
      (ledger.announce event announcement now).2.store = store := by
  simp only [announce, accepted, written, noticeOf_of_accept accepted]
  cases result with
  | error error => exact ⟨rfl, rfl⟩
  | ok record => exact ⟨rfl, rfl⟩

/-! ## One request -/

/-- Two replies give the same answer and leave the same store. -/
structure Agree (one other : α × Ledger) : Prop where
  answer : one.1 = other.1
  store : one.2.store = other.2.store

theorem Agree.map {one other : α × Ledger} (agree : Agree one other) (change : α → β) :
    Agree (change one.1, one.2) (change other.1, other.2) where
  answer := congrArg change agree.answer
  store := agree.store

section

variable {one other : Ledger} (same : one.store = other.store)

include same

theorem announce_agree (event : EventType) (announcement : Announcement) (now : Time.Instant) :
    Agree (one.announce event announcement now) (other.announce event announcement now) := by
  unfold announce
  cases accept announcement with
  | error error => exact ⟨rfl, same⟩
  | ok accepted =>
      -- The store is written before a sink is touched, and both ledgers write it alike.
      simp only [same]
      rcases writeState other.store event accepted.2 announcement (announcement.time.getD now) with
        ⟨result, store, samples⟩
      cases result with
      | error error => exact ⟨rfl, rfl⟩
      | ok record =>
          cases noticeOf event accepted.1 announcement (announcement.time.getD now) with
          | error error => exact ⟨rfl, rfl⟩
          | ok notice => exact ⟨rfl, rfl⟩

theorem announceChange_agree (event : EventType) (announcement : Announcement)
    (now : Time.Instant) :
    Agree (one.announceChange event announcement now)
      (other.announceChange event announcement now) := by
  have agree := announce_agree same event announcement now
  constructor
  · simp only [announceChange, agree.answer]
  · exact agree.store

theorem skipping_agree (payloadId : String) (state : State) (payloadUrl : Option String)
    (now : Time.Instant) :
    Agree (one.skipping payloadId state payloadUrl now)
      (other.skipping payloadId state payloadUrl now) := by
  unfold skipping
  cases EventType.already? state with
  | none => exact ⟨rfl, same⟩
  | some event =>
      have agree := announce_agree same event { payloadId := some payloadId, payloadUrl } now
      exact agree.map (Except.map fun _ => ())

theorem duplicated_agree (payloadId : String) (payloadUrl : Option String) (now : Time.Instant) :
    Agree (one.duplicated payloadId payloadUrl now)
      (other.duplicated payloadId payloadUrl now) := by
  have agree := announce_agree same .duplicateIdEncountered
    { payloadId := some payloadId, payloadUrl } now
  exact agree.map (Except.map fun _ => ())

theorem apply_agree (resolver : Engine.Resolver) (change : Engine.StatusChange)
    (now : Time.Instant) :
    Agree (one.apply resolver change now) (other.apply resolver change now) := by
  unfold apply
  cases resolver.resolve change with
  | error error => exact ⟨rfl, same⟩
  | ok resolution => exact announce_agree same _ _ now

end

/-- What callers may ask of a ledger. -/
inductive Request
  | announce (event : EventType) (announcement : Announcement)
  | claimProcessing (payloadId execution : String) (payloadUrl : Option String)
  | startedProcessing (payloadId execution : String) (payloadUrl : Option String)
  | succeeded (payloadId execution : String) (outputs : Option (List String))
      (payloadUrl : Option String)
  | failed (payloadId error : String) (execution : Option String)
  | timedOut (payloadId error : String) (execution : Option String)
  | invalid (payloadId error : String) (execution : Option String)
  | aborted (payloadId : String) (execution : Option String)
  | skipping (payloadId : String) (state : State) (payloadUrl : Option String)
  | duplicated (payloadId : String) (payloadUrl : Option String)
  | apply (resolver : Engine.Resolver) (change : Engine.StatusChange)

/-- Answer a request; where there is nothing to show but success, no record is shown. -/
def serve (ledger : Ledger) (request : Request) (now : Time.Instant) :
    Except EventError (Option Record) × Ledger :=
  let shown (reply : Except EventError Record × Ledger) := (reply.1.map some, reply.2)
  let done (reply : Except EventError Unit × Ledger) := (reply.1.map fun _ => none, reply.2)
  match request with
  | .announce event announcement => ledger.announce event announcement now
  | .claimProcessing payloadId execution payloadUrl =>
      shown (ledger.claimProcessing payloadId execution payloadUrl now)
  | .startedProcessing payloadId execution payloadUrl =>
      shown (ledger.startedProcessing payloadId execution payloadUrl now)
  | .succeeded payloadId execution outputs payloadUrl =>
      shown (ledger.succeeded payloadId execution outputs payloadUrl now)
  | .failed payloadId error execution => shown (ledger.failed payloadId error execution now)
  | .timedOut payloadId error execution => shown (ledger.timedOut payloadId error execution now)
  | .invalid payloadId error execution => shown (ledger.invalid payloadId error execution now)
  | .aborted payloadId execution => shown (ledger.aborted payloadId execution now)
  | .skipping payloadId state payloadUrl => done (ledger.skipping payloadId state payloadUrl now)
  | .duplicated payloadId payloadUrl => done (ledger.duplicated payloadId payloadUrl now)
  | .apply resolver change => ledger.apply resolver change now

theorem serve_agree {one other : Ledger} (same : one.store = other.store) (request : Request)
    (now : Time.Instant) : Agree (one.serve request now) (other.serve request now) := by
  cases request with
  | announce event announcement => exact announce_agree same event announcement now
  | skipping payloadId state payloadUrl =>
      exact (skipping_agree same payloadId state payloadUrl now).map _
  | duplicated payloadId payloadUrl => exact (duplicated_agree same payloadId payloadUrl now).map _
  | apply resolver change => exact apply_agree same resolver change now
  | _ => exact (announceChange_agree same _ _ now).map _

/-! ## Runs -/

/-- The places that are filled as far as they can be. -/
structure Sinks where
  log : EventLog
  publisher : Option Publisher

def sinks (ledger : Ledger) : Sinks :=
  ⟨ledger.log, ledger.publisher⟩

def withSinks (ledger : Ledger) (sinks : Sinks) : Ledger :=
  { ledger with log := sinks.log, publisher := sinks.publisher }

/-- What becomes of the sinks before each request, by its number.  They may stay as they are, be
lost for some requests and come back, or be exchanged for any others. -/
abbrev Fate := Nat → Sinks → Sinks

/-- The answers to some requests, each with the store as it is afterwards. -/
def history (ledger : Ledger) (fate : Fate) :
    List (Request × Time.Instant) → List (Except EventError (Option Record) × Store)
  | [] => []
  | (request, now) :: requests =>
      let (answer, later) := (ledger.withSinks (fate 0 ledger.sinks)).serve request now
      (answer, later.store) :: later.history (fun number => fate (number + 1)) requests

theorem history_congr {one other : Ledger} (same : one.store = other.store)
    (oneFate otherFate : Fate) (requests : List (Request × Time.Instant)) :
    one.history oneFate requests = other.history otherFate requests := by
  induction requests generalizing one other oneFate otherFate with
  | nil => rfl
  | cons head requests ih =>
      rcases head with ⟨request, now⟩
      have shared : (one.withSinks (oneFate 0 one.sinks)).store =
          (other.withSinks (otherFate 0 other.sinks)).store := same
      have agree := serve_agree shared request now
      simp only [history]
      rw [agree.answer, agree.store]
      congr 1
      exact ih agree.store _ _

/-- Sinks never interfere.  From one store, any requests are given the same answers and leave the
same stores one by one, whatever the sinks are and become.  Nor is the notice of an accepted
announcement refused when its extra fields are checked again behind the store. -/
theorem sinks_never_interfere (store : Store) (one other : Sinks) (oneFate otherFate : Fate)
    (oneMetrics otherMetrics : Metrics) (requests : List (Request × Time.Instant)) :
    history ⟨store, one.log, one.publisher, oneMetrics⟩ oneFate requests =
        history ⟨store, other.log, other.publisher, otherMetrics⟩ otherFate requests ∧
      ∀ event announcement moment,
        ((accept announcement).bind fun accepted =>
            noticeOf event accepted.1 announcement moment) =
          (accept announcement).map fun accepted =>
            fullNotice event accepted.1 announcement moment := by
  constructor
  · apply history_congr
    rfl
  · intro event announcement moment
    cases accepted : accept announcement with
    | error error => rfl
    | ok named => exact noticeOf_of_accept accepted event moment

end Ledger
end PayloadLedger
