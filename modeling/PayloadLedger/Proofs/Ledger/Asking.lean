import PayloadLedger.Proofs.Ledger.Resolution
import PayloadLedger.Proofs.Store.Repeating

namespace PayloadLedger
namespace Ledger

/-!
What a status change asks of the store.

That depends on what the change says and on the history of its execution, and never on the ledger or
on the clock: either there is a mistake in the change, and every ledger refuses it, or it asks every
ledger for the same transition, which no store that works holds back.
-/

variable {ledger : Ledger} {resolver : Engine.Resolver} {change : Engine.StatusChange}

theorem announce_asked {event : EventType} {announcement : Announcement} {payloadId : String}
    {key : Key} (accepted : accept announcement = .ok (payloadId, key)) {request : Change}
    (asked : changeOf event announcement = some request) {now moment : Time.Instant}
    (happened : announcement.time.getD now = moment) :
    let reply := ledger.store.perform ⟨key, moment, request⟩
    let announced := ledger.announce event announcement now
    announced.1 = reply.result.mapError EventError.store ∧ announced.2.store = reply.after := by
  intro reply announced
  subst happened
  exact announce_of_written accepted (writeState_eq_perform asked ledger.store key _)

/-- The status change asks every ledger at all times for the same change of one payload. -/
structure Requests (resolver : Engine.Resolver) (change : Engine.StatusChange) (key : Key)
    (request : Change) : Prop where
  decoded : Key.decode change.payloadId = .ok key
  result : ∀ (ledger : Ledger) (now : Time.Instant),
    (ledger.apply resolver change now).1 =
      (ledger.store.perform ⟨key, now, request⟩).result.mapError EventError.store
  store : ∀ (ledger : Ledger) (now : Time.Instant),
    (ledger.apply resolver change now).2.store = (ledger.store.perform ⟨key, now, request⟩).after

/-- All that a status change can ask for: it is mistaken and refused by every ledger at all times, or
asks each of them for the same transition. -/
inductive Asks (resolver : Engine.Resolver) (change : Engine.StatusChange) : Prop
  | nothing {error : EventError} (mistaken : error.isValidation = true)
      (refused : ∀ (ledger : Ledger) (now : Time.Instant),
        ledger.apply resolver change now = (.error error, ledger))
  | transition {key : Key} {request : Change} {state : State}
      (requests : Requests resolver change key request) (free : request.IsFree state)

theorem apply_asks (resolver : Engine.Resolver) (change : Engine.StatusChange) :
    Asks resolver change := by
  rcases resolver.resolve_cases change with
    ⟨_, refused⟩ | ⟨_, resolution, resolved, judges, target⟩
  · have refuses : ∀ (ledger : Ledger) (now : Time.Instant),
        ledger.apply resolver change now = (.error (.unsupportedStatus change.status), ledger) := by
      intro ledger now
      simp only [apply, refused]
    exact .nothing rfl refuses
  · cases decoded : Key.decode change.payloadId with
    | error error =>
        have refuses : ∀ (ledger : Ledger) (now : Time.Instant),
            ledger.apply resolver change now = (.error (.input error), ledger) := by
          intro ledger now
          simp only [apply, resolved, announce, accept, decoded]
          rfl
        exact .nothing rfl refuses
    | ok key =>
        have accepted := accept_announcementOf decoded resolution
        rcases changeOf_ends target (isTerminal_of_judges judges)
          (announcementOf change resolution) with ⟨request, asked, ends⟩
        refine .transition ⟨decoded, ?_, ?_⟩ ⟨ends.target, ends.allowed⟩
        · intro ledger now
          rw [apply_eq_announce resolved]
          exact (announce_asked accepted asked rfl).1
        · intro ledger now
          rw [apply_eq_announce resolved]
          exact (announce_asked accepted asked rfl).2

end Ledger
end PayloadLedger
