import PayloadLedger.Store.Row

namespace PayloadLedger

/-!
Statements on the ledger's table.

A table holds at most one row for each key.  A transition writes a fresh row where there
is none and changes certain columns of the row that is there; the claim alone looks at
that row first and may be refused.  Each statement here is one atomic step.
-/

/-- The rows of the ledger. -/
abbrev Table := List Row

/-- What the guarded statement did. -/
inductive Claim
  /-- The statement could not be evaluated, and nothing was written. -/
  | failed
  /-- The row that is there held the claim back. -/
  | refused
  | written (row : Row) (table : Table)

namespace Table

def find? (table : Table) (key : Key) : Option Row :=
  List.find? (fun row => row.key = key) table

/-- The rows whose keys are among some keys, in the order of keys. -/
def rowsOf (table : Table) (keys : List Key) : List Row :=
  List.mergeSort (List.filter (fun row => row.key ∈ keys) table)
    fun one other => !other.key.before one.key

/-- Put a row in the place of the row with its key, or at the end. -/
def put (row : Row) : Table → Table
  | [] => [row]
  | head :: tail => if head.key = row.key then row :: tail else head :: put row tail

def erase (table : Table) (key : Key) : Table :=
  table.filter fun row => row.key ≠ key

/-- A row for a key that had none. -/
def fresh (key : Key) (state : State) (moment : Time.Instant) : Row where
  partition := key.partition
  itemIds := key.itemIds
  stateUpdated := Row.pack state moment
  created := moment.stored
  updated := moment.stored
  executions := "[]"
  outputs := none
  lastError := none

/-- A row moved to a state, its other columns kept. -/
def moved (row : Row) (state : State) (moment : Time.Instant) : Row :=
  { row with stateUpdated := Row.pack state moment, updated := moment.stored }

/-- Write a row for an execution: alone in its list where the row is fresh, added to the
list otherwise.  Without a list to add to, the statement fails. -/
def writeExecution (table : Table) (key : Key) (state : State) (execution : String)
    (moment : Time.Instant) : Option (Row × Table) :=
  match table.find? key with
  | none =>
      let row := { fresh key state moment with executions := Row.writeList [execution] }
      some (row, table.put row)
  | some row =>
      (Row.extend? row.executions execution).map fun executions =>
        let row := { moved row state moment with executions, lastError := none }
        (row, table.put row)

/-- Reserve a payload for an execution, unless it is in flight. -/
def claim (table : Table) (key : Key) (execution : String) (moment : Time.Instant) : Claim :=
  let isFree := match table.find? key with
    | some row => row.isClaimable
    | none => true
  if isFree then
    match table.writeExecution key .claimed execution moment with
    | some (row, table) => .written row table
    | none => .failed
  else .refused

def start (table : Table) (key : Key) (execution : String) (moment : Time.Instant) :
    Option (Row × Table) :=
  table.writeExecution key .processing execution moment

/-- Mark a payload as completed.  Outputs that are not given are kept. -/
def complete (table : Table) (key : Key) (outputs : Option (List String))
    (moment : Time.Instant) : Row × Table :=
  let column := outputs.map Row.writeList
  let row :=
    match table.find? key with
    | none => { fresh key .completed moment with outputs := column }
    | some row =>
        { moved row .completed moment with outputs := column.or row.outputs, lastError := none }
  (row, table.put row)

/-- Mark a payload as ended in a state, with or without an error. -/
def finish (table : Table) (key : Key) (state : State) (error : Option String)
    (moment : Time.Instant) : Row × Table :=
  let row :=
    match table.find? key with
    | none => fresh key state moment
    | some row => moved row state moment
  let row := { row with lastError := error }
  (row, table.put row)

/-- Replace the outputs of a payload that has a row. -/
def setOutputs (table : Table) (key : Key) (outputs : List String) (moment : Time.Instant) :
    Option (Row × Table) :=
  (table.find? key).map fun row =>
    let row := { row with outputs := some (Row.writeList outputs), updated := moment.stored }
    (row, table.put row)

/-- The rows of a partition that the filter's state admits and that come after a cursor, in
the filter's order, at most `count` of them. -/
def slice (table : Table) (partition : String) (filter : Filter) (position : Option Cursor)
    (count : Nat) : List Row :=
  let selected := List.filter (fun row =>
    row.partition = partition &&
      (match filter.state with
        | some state => row.isInState state
        | none => true) &&
      (match position with
        | some cursor => row.isAfter filter cursor
        | none => true)) table
  (selected.mergeSort (Row.isOrdered filter)).take count

end Table

end PayloadLedger
