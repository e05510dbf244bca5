import PayloadLedger.Proofs.Store.Run

namespace PayloadLedger

/-!
Stores that hold accounts.

A store whose table holds some accounts answers every proper step as the accounts do, and holds
the accounts after the step.  Every store that a run reaches therefore holds the accounts that
the run leads to.
-/

/-! ## Statements -/

namespace Table

namespace Holds

variable {table : Table} {accounts : Accounts}

theorem writeExecution (holds : table.Holds accounts) (key : Key) (state : State)
    (execution : String) (moment : Time.Instant) :
    let account := ((accounts key).getD (.blank moment)).worked state execution moment
    table.writeExecution key state execution moment =
      some (account.row key, table.put (account.row key)) := by
  rw [Table.writeExecution, holds.find?]
  cases accounts key with
  | none => rfl
  | some account =>
      have extended := Account.extend?_writeList account.executions execution
      simp only [Option.map_some, Option.getD_some]
      rw [Account.row, extended]
      rfl

theorem complete (holds : table.Holds accounts) (key : Key) (outputs : Option (List String))
    (moment : Time.Instant) :
    let account := ((accounts key).getD (.blank moment)).completed outputs moment
    table.complete key outputs moment = (account.row key, table.put (account.row key)) := by
  rw [Table.complete, holds.find?]
  cases accounts key with
  | none => cases outputs <;> rfl
  | some account => cases outputs <;> rfl

theorem finish (holds : table.Holds accounts) (key : Key) (state : State)
    (error : Option String) (moment : Time.Instant) :
    let account := ((accounts key).getD (.blank moment)).finished state error moment
    table.finish key state error moment = (account.row key, table.put (account.row key)) := by
  rw [Table.finish, holds.find?]
  cases accounts key <;> rfl

theorem setOutputs (holds : table.Holds accounts) (key : Key) (outputs : List String)
    (moment : Time.Instant) :
    table.setOutputs key outputs moment = (accounts key).map fun account =>
      let row := (account.withOutputs outputs moment).row key
      (row, table.put row) := by
  rw [Table.setOutputs, holds.find?]
  cases accounts key <;> rfl

theorem claim_of_inFlight (holds : table.Holds accounts) {key : Key}
    (inFlight : (accounts key).any Account.isInFlight = true) (execution : String)
    (moment : Time.Instant) : table.claim key execution moment = .refused := by
  rw [Table.claim, holds.find?]
  cases found : accounts key with
  | none =>
      rw [found] at inFlight
      cases inFlight
  | some account =>
      rw [found, Option.any_some] at inFlight
      simp only [Option.map_some, account.isClaimable_row key, inFlight]
      rfl

theorem claim_of_free (holds : table.Holds accounts) {key : Key}
    (free : (accounts key).any Account.isInFlight = false) (execution : String)
    (moment : Time.Instant) :
    let account := ((accounts key).getD (.blank moment)).worked .claimed execution moment
    table.claim key execution moment =
      .written (account.row key) (table.put (account.row key)) := by
  rw [Table.claim, holds.writeExecution key .claimed execution moment, holds.find?]
  cases found : accounts key with
  | none => rfl
  | some account =>
      rw [found, Option.any_some] at free
      simp only [Option.map_some, account.isClaimable_row key, free]
      rfl

end Holds
end Table

/-! ## Stores -/

namespace Store

/-- The store has a table, and it holds the accounts. -/
def Holds (store : Store) (accounts : Accounts) : Prop :=
  ∃ table, store.table = some table ∧ table.Holds accounts

theorem empty_holds (sliceSize limitCap : Nat) : (empty sliceSize limitCap).Holds fun _ => none :=
  ⟨[], rfl, Table.Holds.empty⟩

/-! ## Transitions that are not held back -/

section

variable {store : Store} {table : Table} {state : State}

theorem transition_wrote (present : store.table = some table)
    {statement : Table → Option (Row × Table)} {row : Row}
    (written : statement table = some (row, table.put row)) (operation : Operation) :
    store.transition operation state statement =
      store.wrote operation state row (table.put row) := by
  rw [transition, present, Option.bind_some, written]

/-- A transition that is not held back writes the row of the account it leaves, whether or not the
row can be read. -/
theorem perform_wrote {accounts : Accounts} {key : Key} {change : Change}
    (present : store.table = some table) (kept : table.Holds accounts)
    (target : change.target = some state) (allowed : change.isRefused (accounts key) = false)
    (moment : Time.Instant) :
    let row := (change.write state moment ((accounts key).getD (.blank moment))).row key
    ∃ operation, store.perform ⟨key, moment, change⟩ =
      (store.wrote operation state row (table.put row)).map some := by
  cases change with
  | claim execution =>
      cases target
      simp only [perform, claim, present, kept.claim_of_free allowed execution moment]
      exact ⟨_, rfl⟩
  | start execution =>
      cases target
      have written := kept.writeExecution key .processing execution moment
      exact ⟨_, congrArg (Reply.map some) (transition_wrote present written .start)⟩
  | complete outputs =>
      cases target
      have written := congrArg some (kept.complete key outputs moment)
      exact ⟨_, congrArg (Reply.map some) (transition_wrote present written .complete)⟩
  | fail message =>
      cases target
      have written := congrArg some (kept.finish key .failed message moment)
      exact ⟨_, congrArg (Reply.map some) (transition_wrote present written .fail)⟩
  | invalidate message =>
      cases target
      have written := congrArg some (kept.finish key .invalid message moment)
      exact ⟨_, congrArg (Reply.map some) (transition_wrote present written .invalidate)⟩
  | abort =>
      cases target
      have written := congrArg some (kept.finish key .aborted none moment)
      exact ⟨_, congrArg (Reply.map some) (transition_wrote present written .abort)⟩
  | setOutputs outputs => cases target
  | delete => cases target

end

/-! ## Steps and runs -/

namespace Holds

variable {store : Store} {accounts : Accounts} {step : Step}

theorem get_result (holds : store.Holds accounts) (key : Key) :
    (store.get key).result = .ok ((accounts key).map (Account.record key)) := by
  rcases holds with ⟨table, present, kept⟩
  simp only [get, answer, present, kept.find?]
  cases found : accounts key with
  | none => rfl
  | some account =>
      simp only [Option.map_some,
        Account.record_row (kept.decoded key account found) (kept.storable key account found)]
      rfl

/-- The account to write about, a blank one where there is none. -/
theorem opened_isStorable (holds : store.Holds accounts) (key : Key) {moment : Time.Instant}
    (storable : moment.IsStorable) : ((accounts key).getD (.blank moment)).IsStorable := by
  rcases holds with ⟨table, present, kept⟩
  cases found : accounts key with
  | none => exact Account.blank_isStorable storable
  | some account => exact kept.storable key account found

theorem put (holds : store.Holds accounts) {key : Key} (decoded : key.IsDecoded)
    {account : Account} (storable : account.IsStorable) {table : Table}
    (present : store.table = some table) :
    Holds { store with table := some (table.put (account.row key)) }
      (accounts.set key (some account)) := by
  rcases holds with ⟨other, same, kept⟩
  cases present.symm.trans same
  exact ⟨_, rfl, kept.put decoded storable⟩

/-- The reply is the one that the accounts give to a step, and the accounts after the step are
held by the store that it leaves. -/
structure Follows (reply : Reply Store (Option Record)) (accounts : Accounts) (step : Step) :
    Prop where
  result : reply.result = accounts.answer step
  after : reply.after.Holds (accounts.after step)

/-- A step that writes an account. -/
structure Writes (accounts : Accounts) (step : Step) (account : Account) : Prop where
  allowed : step.change.isRefused (accounts step.key) = false
  next : step.change.next step.moment (accounts step.key) = some account
  storable : account.IsStorable

theorem wrote (holds : store.Holds accounts) (proper : step.IsProper) {account : Account}
    (writes : Writes accounts step account) (operation : Operation) (state : State)
    {table : Table} (present : store.table = some table) :
    Follows ((store.wrote operation state (account.row step.key)
      (table.put (account.row step.key))).map some) accounts step := by
  constructor
  · simp only [Accounts.answer, writes.allowed, writes.next, Store.wrote, Reply.map,
      Account.record_row proper.decoded writes.storable]
    rfl
  · rw [Accounts.after, writes.next]
    exact holds.put proper.decoded writes.storable present

theorem transition (holds : store.Holds accounts) (proper : step.IsProper) {state : State}
    (target : step.change.target = some state)
    (allowed : step.change.isRefused (accounts step.key) = false) :
    Follows (store.perform step) accounts step := by
  have writes : Writes accounts step _ :=
    ⟨allowed, Change.next_of_target target allowed step.moment,
      Change.write_isStorable (holds.opened_isStorable step.key proper.storable) proper.storable⟩
  rcases holds with ⟨table, present, kept⟩
  rcases perform_wrote present kept target allowed step.moment with ⟨operation, written⟩
  rw [written]
  exact wrote ⟨table, present, kept⟩ proper writes operation state present

/-- A claim that is held back is answered with who holds the payload, whatever its instant is. -/
theorem refused (holds : store.Holds accounts)
    (refused : step.change.isRefused (accounts step.key) = true) :
    Follows (store.perform step) accounts step := by
  rcases step with ⟨key, moment, change⟩
  have got := holds.get_result key
  cases change with
  | claim execution =>
      have unchanged : accounts.after ⟨key, moment, .claim execution⟩ = accounts :=
        accounts.after_of_refused refused
      rcases holds with ⟨table, present, kept⟩
      simp only [Store.perform, Store.claim, present, kept.claim_of_inFlight refused, got]
      constructor
      · simp only [Accounts.answer, refused, if_true]
        cases accounts key <;> rfl
      · rw [unchanged]
        exact ⟨table, present, kept⟩
  | _ => cases refused

/-- Outputs are replaced only where there is an account. -/
theorem setOutputs (holds : store.Holds accounts) {key : Key} {moment : Time.Instant}
    {outputs : List String} (proper : Step.IsProper ⟨key, moment, .setOutputs outputs⟩) :
    Follows (store.setOutputs key outputs moment) accounts ⟨key, moment, .setOutputs outputs⟩ := by
  rcases holds with ⟨table, present, kept⟩
  simp only [Store.setOutputs, present, kept.setOutputs]
  cases found : accounts key with
  | none =>
      constructor
      · simp only [Accounts.answer, Change.isRefused, Change.next, found]
        rfl
      · have same : accounts.after ⟨key, moment, .setOutputs outputs⟩ = accounts := by
          rw [Accounts.after, Change.next, found, Option.map_none, ← found, Accounts.set_same]
        rw [same]
        exact ⟨table, present, kept⟩
  | some account =>
      have storable := (kept.storable key account found).withOutputs proper.storable outputs
      constructor
      · simp only [Accounts.answer, Change.isRefused, Change.next, found, Option.map_some,
          answer, Account.record_row proper.decoded storable]
        rfl
      · rw [Accounts.after, Change.next, found]
        exact ⟨_, rfl, kept.put proper.decoded storable⟩

theorem delete (holds : store.Holds accounts) (key : Key) (moment : Time.Instant) :
    Follows ((store.delete key).map fun _ => none) accounts ⟨key, moment, .delete⟩ := by
  rcases holds with ⟨table, present, kept⟩
  simp only [Store.delete, present]
  exact ⟨rfl, _, rfl, kept.erase key⟩

/-- What one step does. -/
theorem perform (holds : store.Holds accounts) (proper : step.IsProper) :
    Follows (store.perform step) accounts step := by
  cases held : step.change.isRefused (accounts step.key) with
  | true => exact holds.refused held
  | false =>
      cases target : step.change.target with
      | some state => exact holds.transition proper target held
      | none =>
          rcases step with ⟨key, moment, change⟩
          cases change with
          | setOutputs outputs => exact holds.setOutputs proper
          | delete => exact holds.delete key moment
          | _ => cases target

/-- What a whole run does. -/
theorem run (holds : store.Holds accounts) {steps : List Step}
    (proper : ∀ step ∈ steps, step.IsProper) : (store.run steps).Holds (accounts.run steps) := by
  induction steps generalizing store accounts with
  | nil => exact holds
  | cons step steps ih =>
      have first := holds.perform (proper step List.mem_cons_self)
      exact ih first.after fun step member => proper step (List.mem_cons_of_mem _ member)

end Holds

/-- A claim that is held back writes nothing. -/
theorem after_perform_of_refused {store : Store} {accounts : Accounts} {step : Step}
    (holds : store.Holds accounts) (refused : step.change.isRefused (accounts step.key)) :
    (store.perform step).after = store := by
  rcases holds with ⟨table, present, kept⟩
  rcases step with ⟨key, moment, change⟩
  cases change with
  | claim execution =>
      simp only [perform, Store.claim, present, kept.claim_of_inFlight refused]
      rfl
  | _ => cases refused

end Store
end PayloadLedger
