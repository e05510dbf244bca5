import PayloadLedger.Proofs.Engine.StatusChange
import PayloadLedger.Proofs.Ledger.Asking

namespace PayloadLedger
namespace Ledger

/-!
Events of the engine as they come in.

Whoever delivers an event gives up on it if it is told that the event is mistaken, and delivers it
again otherwise.  A ledger whose store works fails on an event for nothing but the event itself.
-/

/-- Take in an event of the engine. -/
def receive (ledger : Ledger) (resolver : Engine.Resolver) (event : Json) (now : Time.Instant) :
    Except EventError (Option Record) × Ledger :=
  match Engine.StatusChange.ofEvent event with
  | .error error => (.error error, ledger)
  | .ok change => ledger.apply resolver change now

/-- A status change is recorded, or mistaken and refused with nothing changed. -/
theorem apply_cases {ledger : Ledger} {accounts : Accounts} (holds : ledger.store.Holds accounts)
    (resolver : Engine.Resolver) (change : Engine.StatusChange) {now : Time.Instant}
    (storable : now.IsStorable) :
    (∃ record, (ledger.apply resolver change now).1 = .ok (some record)) ∨
      ∃ error, ledger.apply resolver change now = (.error error, ledger) ∧
        error.isValidation = true := by
  cases apply_asks resolver change with
  | nothing mistaken refused => exact .inr ⟨_, refused ledger now, mistaken⟩
  | transition requests free =>
      rcases holds.repeated ⟨_, requests.decoded⟩ free storable with ⟨record, answered, _⟩
      refine .inl ⟨record, ?_⟩
      rw [requests.result, answered]
      rfl

/-- On every store that a run of proper steps reaches, an event is recorded, or refused with nothing
changed.  The refusal tells that trying again is no use, unless the input or the output is given as
text that cannot be read: then, and only then, it tells of a failure to read, which is not counted
among the mistakes of the event. -/
theorem receive_classifies (sliceSize limitCap : Nat) (steps : List Step)
    (proper : ∀ step ∈ steps, step.IsProper) (sinks : EventLog × Option Publisher)
    (metrics : Metrics) (resolver : Engine.Resolver) (event : Json) {now : Time.Instant}
    (storable : now.IsStorable) :
    let ledger : Ledger := ⟨(Store.empty sliceSize limitCap).run steps, sinks.1, sinks.2, metrics⟩
    let received := ledger.receive resolver event now
    (∀ fault, Engine.StatusChange.HasUnreadable event fault →
      received = (.error (.unreadable fault), ledger) ∧
        (EventError.unreadable fault).isValidation = false) ∧
    ((∀ fault, ¬ Engine.StatusChange.HasUnreadable event fault) →
      (∃ record, received.1 = .ok (some record)) ∨
        ∃ error, received = (.error error, ledger) ∧ error.isValidation = true) := by
  intro ledger received
  constructor
  · intro fault unread
    refine ⟨?_, rfl⟩
    simp only [received, receive, unread.ofEvent_eq]
  · intro readable
    cases read : Engine.StatusChange.ofEvent event with
    | error error =>
        refine .inr ⟨error, ?_, Engine.StatusChange.isValidation_of_ofEvent read readable⟩
        simp only [received, receive, read]
    | ok change =>
        have holds : ledger.store.Holds _ := (Store.empty_holds sliceSize limitCap).run proper
        simp only [received, receive, read]
        exact apply_cases holds resolver change storable

/-- The input is cut short after its first brace. -/
theorem receive_classifies_cut :
    let event : Json := .object [("detail", .object [("executionArn", .string "one"),
      ("input", .string "\x7b"), ("status", .string "SUCCEEDED")])]
    let ledger : Ledger := ⟨(Store.empty 100 1000).run [], .disabled, none, []⟩
    (⟨0, 0⟩ : Time.Instant).IsStorable ∧
      ∃ fault, Engine.StatusChange.HasUnreadable event fault ∧
        ledger.receive ⟨[], .absent⟩ event ⟨0, 0⟩ = (.error (.unreadable fault), ledger) ∧
        (EventError.unreadable fault).isValidation = false := by
  intro event ledger
  have storable : (⟨0, 0⟩ : Time.Instant).IsStorable := by decide
  have cut : Engine.StatusChange.HasUnreadable event _ := .input rfl (.text (by decide) rfl)
  exact ⟨storable, _, cut, (receive_classifies 100 1000 [] nofun (.disabled, none) []
    ⟨[], .absent⟩ event storable).1 _ cut⟩

end Ledger
end PayloadLedger
