import PayloadLedger.Proofs.Json.Strings
import PayloadLedger.Proofs.Key
import PayloadLedger.Proofs.Store.Packed
import PayloadLedger.Proofs.Time.Stored

namespace PayloadLedger

/-!
Accounts.

An account is what the ledger knows of one payload, before any of it is written as text.  It
has a row, which is how it is stored, and a record, which is how it is shown.  The row of an
account reads as its record.
-/

/-- What is known of one payload. -/
structure Account where
  state : State
  /-- When the state was reached. -/
  reached : Time.Instant
  created : Time.Instant
  updated : Time.Instant
  executions : List String
  outputs : Option (List String)
  lastError : Option String
  deriving DecidableEq, Repr

namespace Account

/-- The row in which an account is stored. -/
def row (key : Key) (account : Account) : Row where
  partition := key.partition
  itemIds := key.itemIds
  stateUpdated := Row.pack account.state account.reached
  created := account.created.stored
  updated := account.updated.stored
  executions := Row.writeList account.executions
  outputs := account.outputs.map Row.writeList
  lastError := account.lastError

@[simp] theorem key_row (key : Key) (account : Account) : (account.row key).key = key := rfl

/-- The record in which an account is shown. -/
def record (key : Key) (account : Account) : Record where
  payloadId := key.payloadId
  collections := key.collections
  workflow := key.workflow
  items := key.itemIds
  state := account.state
  stateUpdated := Row.pack account.state account.reached
  created := account.created.kept
  updated := account.updated.kept
  executions := account.executions
  outputs := account.outputs
  lastError := account.lastError

def isInFlight (account : Account) : Bool :=
  account.state.isInFlight

/-- The guard of a claim lets the row of an account pass unless an execution holds it. -/
theorem isClaimable_row (account : Account) (key : Key) :
    (account.row key).isClaimable = !account.isInFlight := by
  rw [Row.isClaimable_of_packed rfl, State.isTerminal_eq_not_isInFlight, isInFlight]

/-- Every instant of the account has a text of fixed width. -/
structure IsStorable (account : Account) : Prop where
  reached : account.reached.IsStorable
  created : account.created.IsStorable
  updated : account.updated.IsStorable

theorem readList_writeList (items : List String) :
    Row.readList (Row.writeList items) = .ok items := by
  rw [Row.readList, Row.writeList, Json.document_ofStrings]
  rfl

theorem readTime_stored (key : Key) {moment : Time.Instant} (storable : moment.IsStorable) :
    Row.readTime key moment.stored = .ok moment.kept := by
  rw [Row.readTime, Time.Timestamp.ofUtc?_stored storable]
  rfl

theorem record_row {key : Key} (decoded : key.IsDecoded) {account : Account}
    (storable : account.IsStorable) : (account.row key).record = .ok (account.record key) := by
  rw [Row.record]
  simp only [row, decoded.ofPartition, Except.mapError, bind, Except.bind, pure, Except.pure,
    Row.ofPacked?_pack, readTime_stored key storable.created, readTime_stored key storable.updated,
    readList_writeList]
  cases outputs : account.outputs with
  | none => simp only [Option.map_none, record, outputs]
  | some items =>
      simp only [Option.map_some, readList_writeList, Functor.map, Except.map, record, outputs]

/-! ## Writing -/

/-- The account of a payload that nothing was written about before `moment`. -/
def blank (moment : Time.Instant) : Account where
  state := .claimed
  reached := moment
  created := moment
  updated := moment
  executions := []
  outputs := none
  lastError := none

def moved (account : Account) (state : State) (moment : Time.Instant) : Account :=
  { account with state, reached := moment, updated := moment }

/-- The executions with one more at their end, unless it stands there already. -/
def extended (executions : List String) (execution : String) : List String :=
  if executions.getLast? = some execution then executions else executions ++ [execution]

/-- The account in a state in which an execution works on the payload. -/
def worked (account : Account) (state : State) (execution : String) (moment : Time.Instant) :
    Account :=
  { account.moved state moment with
    executions := extended account.executions execution, lastError := none }

def completed (account : Account) (outputs : Option (List String)) (moment : Time.Instant) :
    Account :=
  { account.moved .completed moment with
    outputs := outputs.or account.outputs, lastError := none }

def finished (account : Account) (state : State) (error : Option String)
    (moment : Time.Instant) : Account :=
  { account.moved state moment with lastError := error }

def withOutputs (account : Account) (outputs : List String) (moment : Time.Instant) : Account :=
  { account with outputs := some outputs, updated := moment }

section Storable

variable {account : Account} {moment : Time.Instant}

theorem blank_isStorable (storable : moment.IsStorable) : (blank moment).IsStorable :=
  ⟨storable, storable, storable⟩

theorem IsStorable.withOutputs (kept : account.IsStorable) (storable : moment.IsStorable)
    (outputs : List String) : (account.withOutputs outputs moment).IsStorable :=
  ⟨kept.reached, kept.created, storable⟩

end Storable

theorem extend?_writeList (executions : List String) (execution : String) :
    Row.extend? (Row.writeList executions) execution =
      some (Row.writeList (extended executions execution)) := by
  rw [Row.extend?, readList_writeList]
  simp only [extended]
  split <;> rfl

end Account
end PayloadLedger
