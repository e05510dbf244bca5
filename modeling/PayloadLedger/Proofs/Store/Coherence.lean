import Mathlib.Data.List.Chain
import PayloadLedger.Proofs.Store.Refinement

namespace PayloadLedger

/-!
Coherent accounts.

Whatever is asked about a payload, an execution is known while the payload is in flight, an
error is kept exactly in the states that carry one, and an execution is not listed twice in a
row.  Each change keeps this, so that it holds after every run.
-/

namespace Account

/-- The columns of the account fit together. -/
structure IsCoherent (account : Account) : Prop where
  worked : account.isInFlight = true → account.executions ≠ []
  error : account.lastError.isSome = account.state.carriesError
  alternating : account.executions.IsChain (· ≠ ·)

theorem getLast?_extended (executions : List String) (execution : String) :
    (extended executions execution).getLast? = some execution := by
  unfold extended
  by_cases last : executions.getLast? = some execution
  · rw [if_pos last, last]
  · rw [if_neg last, List.getLast?_concat]

theorem extended_ne_nil (executions : List String) (execution : String) :
    extended executions execution ≠ [] := by
  intro empty
  have last := getLast?_extended executions execution
  rw [empty] at last
  cases last

theorem isChain_extended {executions : List String} (alternating : executions.IsChain (· ≠ ·))
    (execution : String) : (extended executions execution).IsChain (· ≠ ·) := by
  unfold extended
  by_cases last : executions.getLast? = some execution
  · rw [if_pos last]
    exact alternating
  · rw [if_neg last, List.isChain_append]
    refine ⟨alternating, List.isChain_singleton execution, ?_⟩
    intro before ends after starts same
    rw [List.head?_cons, Option.mem_some_iff] at starts
    rw [same, ← starts] at ends
    exact last ends

/-- A transition writes a coherent account. -/
theorem isCoherent_write {change : Change} {state : State} (target : change.target = some state)
    (moment : Time.Instant) {opened : Account}
    (alternating : opened.executions.IsChain (· ≠ ·)) :
    (change.write state moment opened).IsCoherent := by
  cases change with
  | claim execution =>
      cases target
      exact ⟨fun _ => extended_ne_nil _ _, rfl, isChain_extended alternating execution⟩
  | start execution =>
      cases target
      exact ⟨fun _ => extended_ne_nil _ _, rfl, isChain_extended alternating execution⟩
  | setOutputs outputs => cases target
  | delete => cases target
  | _ => cases target; exact ⟨nofun, rfl, alternating⟩

/-- One change keeps an account coherent. -/
theorem IsCoherent.next {account : Option Account}
    (coherent : ∀ known, account = some known → known.IsCoherent) {change : Change}
    {moment : Time.Instant} {later : Account} (next : change.next moment account = some later) :
    later.IsCoherent := by
  rcases Change.next_cases next with ⟨state, target, _, rfl⟩ | ⟨_, same⟩ |
      ⟨before, outputs, _, same, rfl⟩
  · apply isCoherent_write target
    cases account with
    | none => exact List.isChain_nil
    | some account => exact (coherent account rfl).alternating
  · exact coherent later same
  · have kept := coherent before same
    exact ⟨kept.worked, kept.error, kept.alternating⟩

end Account

namespace Accounts

/-- Every account is coherent. -/
def AreCoherent (accounts : Accounts) : Prop :=
  ∀ key account, accounts key = some account → account.IsCoherent

theorem AreCoherent.after {accounts : Accounts} (coherent : accounts.AreCoherent) (step : Step) :
    (accounts.after step).AreCoherent := by
  intro key account kept
  rw [Accounts.after] at kept
  by_cases same : key = step.key
  · rw [same, set_self] at kept
    exact Account.IsCoherent.next (coherent step.key) kept
  · rw [set_of_ne accounts same] at kept
    exact coherent key account kept

/-- Every run from nothing leads to coherent accounts. -/
theorem run_areCoherent (steps : List Step) : (run (fun _ => none) steps).AreCoherent := by
  suffices all : ∀ accounts : Accounts, accounts.AreCoherent → (accounts.run steps).AreCoherent by
    exact all _ nofun
  intro accounts coherent
  induction steps generalizing accounts with
  | nil => exact coherent
  | cons step steps ih => exact ih (accounts.after step) (coherent.after step)

end Accounts
end PayloadLedger
