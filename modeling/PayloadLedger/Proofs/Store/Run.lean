import PayloadLedger.Proofs.Store.Account
import PayloadLedger.Proofs.Store.Table
import PayloadLedger.Store

namespace PayloadLedger

/-!
Runs of the ledger.

Clients change the ledger one step after another, and a run is the list of their steps.  The
ledger keeps an account for each payload: a step changes the account of its own payload, by a
rule that does not look at any text, and answers from it.  Every table that a run reaches holds
the accounts that the run leads to.
-/

/-! ## Steps -/

/-- What a client asks to be changed about a payload. -/
inductive Change
  | claim (execution : String)
  | start (execution : String)
  | complete (outputs : Option (List String))
  | fail (message : String)
  | invalidate (message : String)
  | abort
  | setOutputs (outputs : List String)
  | delete
  deriving DecidableEq, Repr

/-- One request of a client. -/
structure Step where
  key : Key
  moment : Time.Instant
  change : Change
  deriving DecidableEq, Repr

/-- An identifier names the key, and the instant has a text of fixed width. -/
structure Step.IsProper (step : Step) : Prop where
  decoded : step.key.IsDecoded
  storable : step.moment.IsStorable

namespace Store

def perform (store : Store) (step : Step) : Reply Store (Option Record) :=
  match step.change with
  | .claim execution => (store.claim step.key execution step.moment).map some
  | .start execution => (store.start step.key execution step.moment).map some
  | .complete outputs => (store.complete step.key outputs step.moment).map some
  | .fail message => (store.fail step.key message step.moment).map some
  | .invalidate message => (store.invalidate step.key message step.moment).map some
  | .abort => (store.abort step.key step.moment).map some
  | .setOutputs outputs => store.setOutputs step.key outputs step.moment
  | .delete => (store.delete step.key).map fun _ => none

def run (store : Store) (steps : List Step) : Store :=
  steps.foldl (fun store step => (store.perform step).after) store

@[simp] theorem run_cons (store : Store) (step : Step) (steps : List Step) :
    store.run (step :: steps) = (store.perform step).after.run steps := rfl

theorem run_append (store : Store) (first second : List Step) :
    store.run (first ++ second) = (store.run first).run second :=
  List.foldl_append

/-- A step changes nothing but the table. -/
theorem after_perform (store : Store) (step : Step) :
    ∃ table, (store.perform step).after = { store with table } := by
  rcases step with ⟨key, moment, change⟩
  cases change with
  | claim execution =>
      simp only [perform, claim, Reply.map]
      split
      · exact ⟨store.table, rfl⟩
      · split <;> exact ⟨_, rfl⟩
  | setOutputs outputs =>
      simp only [perform, setOutputs]
      split
      · exact ⟨store.table, rfl⟩
      · split <;> exact ⟨_, rfl⟩
  | delete =>
      simp only [perform, delete, Reply.map]
      split <;> exact ⟨_, rfl⟩
  | _ =>
      simp only [perform, start, complete, fail, invalidate, abort, transition, Reply.map]
      split <;> exact ⟨_, rfl⟩

/-- The sizes of a store last through a run. -/
theorem run_sizes (store : Store) (steps : List Step) :
    (store.run steps).sliceSize = store.sliceSize ∧
      (store.run steps).limitCap = store.limitCap := by
  induction steps generalizing store with
  | nil => exact ⟨rfl, rfl⟩
  | cons step steps ih =>
      rcases store.after_perform step with ⟨table, after⟩
      rw [run_cons, after]
      exact ih { store with table }

/-- A store that was empty once reads slices of at least one row. -/
theorem sliceSize_run_empty_pos (sliceSize limitCap : Nat) (steps : List Step) :
    0 < ((empty sliceSize limitCap).run steps).sliceSize := by
  rw [((empty sliceSize limitCap).run_sizes steps).1]
  exact Nat.le_max_left 1 sliceSize

end Store

/-! ## Accounts of a ledger -/

/-- The account of each payload that has one. -/
abbrev Accounts := Key → Option Account

namespace Accounts

/-- The accounts with another one for a key. -/
def set (accounts : Accounts) (key : Key) (account : Option Account) : Accounts :=
  fun other => if other = key then account else accounts other

@[simp] theorem set_self (accounts : Accounts) (key : Key) (account : Option Account) :
    accounts.set key account key = account :=
  if_pos rfl

theorem set_same (accounts : Accounts) (key : Key) : accounts.set key (accounts key) = accounts := by
  funext other
  by_cases same : other = key
  · rw [same, set_self]
  · exact if_neg same

theorem set_of_ne (accounts : Accounts) {key other : Key} (different : other ≠ key)
    (account : Option Account) : accounts.set key account other = accounts other :=
  if_neg different

end Accounts

namespace Change

/-- The account after a change. -/
def next (change : Change) (moment : Time.Instant) (account : Option Account) : Option Account :=
  let opened := account.getD (.blank moment)
  match change with
  | claim execution =>
      if account.any Account.isInFlight then account
      else some (opened.worked .claimed execution moment)
  | start execution => some (opened.worked .processing execution moment)
  | complete outputs => some (opened.completed outputs moment)
  | fail message => some (opened.finished .failed (some message) moment)
  | invalidate message => some (opened.finished .invalid (some message) moment)
  | abort => some (opened.finished .aborted none moment)
  | setOutputs outputs => account.map fun account => account.withOutputs outputs moment
  | delete => none

/-- The claim is held back by the account. -/
def isRefused (change : Change) (account : Option Account) : Bool :=
  match change with
  | claim _ => account.any Account.isInFlight
  | _ => false

/-- The state that a change asks for, if it is a transition. -/
def target : Change → Option State
  | claim _ => some .claimed
  | start _ => some .processing
  | complete _ => some .completed
  | fail _ => some .failed
  | invalidate _ => some .invalid
  | abort => some .aborted
  | setOutputs _ | delete => none

def execution? : Change → Option String
  | claim execution | start execution => some execution
  | _ => none

def outputs? : Change → Option (List String)
  | complete outputs => outputs
  | setOutputs outputs => some outputs
  | _ => none

/-- The message of an error that a change brings. -/
def message? : Change → Option String
  | fail message | invalidate message => some message
  | _ => none

/-- The account that a transition leaves.  What it does not bring is kept, except for the error. -/
def write (change : Change) (state : State) (moment : Time.Instant) (opened : Account) :
    Account where
  state := state
  reached := moment
  created := opened.created
  updated := moment
  executions := (change.execution?.map (Account.extended opened.executions)).getD opened.executions
  outputs := change.outputs?.or opened.outputs
  lastError := change.message?

theorem write_isStorable {change : Change} {state : State} {moment : Time.Instant}
    {opened : Account} (kept : opened.IsStorable) (storable : moment.IsStorable) :
    (change.write state moment opened).IsStorable :=
  ⟨storable, kept.created, storable⟩

/-- What a transition does that is not held back. -/
theorem next_of_target {change : Change} {state : State} {account : Option Account}
    (target : change.target = some state) (allowed : change.isRefused account = false)
    (moment : Time.Instant) :
    change.next moment account =
      some (change.write state moment (account.getD (.blank moment))) := by
  cases change with
  | claim execution =>
      cases target
      rw [isRefused] at allowed
      rw [next, if_neg (ne_true_of_eq_false allowed)]
      rfl
  | setOutputs outputs => cases target
  | delete => cases target
  | _ => cases target; rfl

theorem message?_of_isRefused {change : Change} {account : Option Account}
    (refused : change.isRefused account = true) : change.message? = none := by
  cases change with
  | claim execution => rfl
  | _ => cases refused

/-- All that a change can do to an account: a transition writes it, and anything else but a
removal keeps all of it but the outputs. -/
theorem next_cases {change : Change} {moment : Time.Instant} {account : Option Account}
    {later : Account} (next : change.next moment account = some later) :
    (∃ state, change.target = some state ∧ change.isRefused account = false ∧
      later = change.write state moment (account.getD (.blank moment))) ∨
    (change.isRefused account = true ∧ account = some later) ∨
    ∃ before outputs, change = .setOutputs outputs ∧ account = some before ∧
      later = before.withOutputs outputs moment := by
  cases target : change.target with
  | some state =>
      cases refused : change.isRefused account with
      | false =>
          rw [next_of_target target refused] at next
          exact .inl ⟨state, rfl, rfl, (Option.some.inj next).symm⟩
      | true =>
          cases change with
          | claim execution =>
              rw [isRefused] at refused
              rw [Change.next, if_pos refused] at next
              exact .inr (.inl ⟨rfl, next⟩)
          | _ => cases refused
  | none =>
      cases change with
      | setOutputs outputs =>
          rw [Change.next, Option.map_eq_some_iff] at next
          rcases next with ⟨before, same, written⟩
          exact .inr (.inr ⟨before, outputs, rfl, same, written.symm⟩)
      | delete => cases next
      | _ => cases target

end Change

namespace Accounts

/-- The accounts after a step. -/
def after (accounts : Accounts) (step : Step) : Accounts :=
  accounts.set step.key (step.change.next step.moment (accounts step.key))

/-- The accounts after some steps. -/
def run (accounts : Accounts) (steps : List Step) : Accounts :=
  steps.foldl after accounts

theorem run_cons (accounts : Accounts) (step : Step) (steps : List Step) :
    accounts.run (step :: steps) = (accounts.after step).run steps := rfl

theorem run_append (accounts : Accounts) (first second : List Step) :
    accounts.run (first ++ second) = (accounts.run first).run second :=
  List.foldl_append

/-- What a step is answered. -/
def answer (accounts : Accounts) (step : Step) : Except StoreError (Option Record) :=
  let account := accounts step.key
  if step.change.isRefused account then
    .error (.alreadyClaimed step.key.payloadId (account.map Account.state)
      (account.bind fun account => account.executions.getLast?))
  else .ok ((step.change.next step.moment account).map (Account.record step.key))

/-- A step that is held back changes no account. -/
theorem after_of_refused (accounts : Accounts) {step : Step}
    (refused : step.change.isRefused (accounts step.key) = true) : accounts.after step = accounts := by
  rcases step with ⟨key, moment, change⟩
  cases change with
  | claim execution =>
      rw [Change.isRefused] at refused
      rw [after, Change.next, if_pos refused, set_same]
  | _ => cases refused

theorem isOk_answer (accounts : Accounts) (step : Step) :
    (accounts.answer step).isOk = !step.change.isRefused (accounts step.key) := by
  rw [answer]
  cases step.change.isRefused (accounts step.key) <;> rfl

end Accounts

/-! ## Tables that hold accounts -/

/-- The rows of a table are those of the accounts, one for each. -/
structure Table.Holds (table : Table) (accounts : Accounts) : Prop where
  distinct : table.IsDistinct
  find? : ∀ key, table.find? key = (accounts key).map (Account.row key)
  decoded : ∀ key account, accounts key = some account → key.IsDecoded
  storable : ∀ key account, accounts key = some account → account.IsStorable

namespace Table.Holds

variable {table : Table} {accounts : Accounts} {key : Key} {account : Account}
  {moment : Time.Instant}

theorem empty : Holds [] fun _ => none where
  distinct := List.nodup_nil
  find? _ := rfl
  decoded _ _ none := by cases none
  storable _ _ none := by cases none

theorem put (holds : table.Holds accounts) (decoded : key.IsDecoded)
    (storable : account.IsStorable) :
    (table.put (account.row key)).Holds (accounts.set key (some account)) where
  distinct := holds.distinct.put _
  find? other := by
    rw [find?_put, holds.find?, Account.key_row]
    by_cases same : other = key
    · rw [if_pos same, same, Accounts.set_self, Option.map_some]
    · rw [if_neg same, Accounts.set_of_ne accounts same]
  decoded other found kept := by
    by_cases same : other = key
    · rw [same]
      exact decoded
    · rw [Accounts.set_of_ne accounts same] at kept
      exact holds.decoded other found kept
  storable other found kept := by
    by_cases same : other = key
    · rw [same, Accounts.set_self] at kept
      cases kept
      exact storable
    · rw [Accounts.set_of_ne accounts same] at kept
      exact holds.storable other found kept

theorem erase (holds : table.Holds accounts) (key : Key) :
    (table.erase key).Holds (accounts.set key none) where
  distinct := holds.distinct.erase key
  find? other := by
    rw [find?_erase, holds.find?]
    by_cases same : other = key
    · rw [if_pos same, same, Accounts.set_self, Option.map_none]
    · rw [if_neg same, Accounts.set_of_ne accounts same]
  decoded other found kept := by
    by_cases same : other = key
    · rw [same, Accounts.set_self] at kept
      cases kept
    · rw [Accounts.set_of_ne accounts same] at kept
      exact holds.decoded other found kept
  storable other found kept := by
    by_cases same : other = key
    · rw [same, Accounts.set_self] at kept
      cases kept
    · rw [Accounts.set_of_ne accounts same] at kept
      exact holds.storable other found kept

/-- Every row is that of the account of its key. -/
theorem row_of_mem (holds : table.Holds accounts) {row : Row} (member : row ∈ table) :
    ∃ account, accounts row.key = some account ∧ row = account.row row.key := by
  have found := holds.distinct.find?_key member
  rw [holds.find?, Option.map_eq_some_iff] at found
  rcases found with ⟨account, kept, same⟩
  exact ⟨account, kept, same.symm⟩

end Table.Holds
end PayloadLedger
