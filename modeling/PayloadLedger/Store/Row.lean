import PayloadLedger.Json.Relaxed
import PayloadLedger.Query

namespace PayloadLedger

/-!
Rows of the ledger's table.

Every column is text.  The state and the time of the last transition are packed into one
column, `STATE_timestamp`, so that a range of texts selects the rows in a state.  Lists of
strings are stored as JSON.
-/

/-- One row of the ledger's table. -/
structure Row where
  partition : String
  itemIds : String
  stateUpdated : String
  created : String
  updated : String
  executions : String
  outputs : Option String
  lastError : Option String
  deriving DecidableEq, Repr

namespace Row

def key (row : Row) : Key :=
  ⟨row.partition, row.itemIds⟩

/-- The packed column for a state reached at an instant. -/
def pack (state : State) (moment : Time.Instant) : String :=
  state.name ++ "_" ++ moment.stored

def readList (column : String) : Except StoreError (List String) :=
  (Json.document (Json.list Json.text) (Json.Source.ofString column)).mapError .unreadableList

def writeList (items : List String) : String :=
  (Json.ofStrings items).render

def readTime (key : Key) (column : String) : Except StoreError Time.Instant :=
  (Time.Timestamp.ofUtc? column).mapError (.corruptTime key.payloadId)

/-- The record in a row.  The partition, the packed column, the two times, the executions
and the outputs are checked, in this order. -/
def record (row : Row) : Except StoreError Record := do
  let key ← (Key.ofPartition row.partition row.itemIds).mapError .input
  let state ← match State.ofPacked? row.stateUpdated with
    | some state => pure state
    | none => throw (.corruptState key.payloadId row.stateUpdated)
  let created ← readTime key row.created
  let updated ← readTime key row.updated
  let executions ← readList row.executions
  let outputs ← match row.outputs with
    | some outputs => some <$> readList outputs
    | none => pure none
  return {
    payloadId := key.payloadId
    collections := key.collections
    workflow := key.workflow
    items := key.itemIds
    state
    stateUpdated := row.stateUpdated
    created
    updated
    executions
    outputs
    lastError := row.lastError }

/-- The row may be claimed.  Only the front of the packed column is looked at. -/
def isClaimable (row : Row) : Bool :=
  row.stateUpdated.toList.take 8 ≠ "CLAIMED_".toList &&
    row.stateUpdated.toList.take 11 ≠ "PROCESSING_".toList

/-- The packed column lies in the range of the texts that start with the state's name and
an underscore; the character after the underscore ends the range. -/
def isInState (row : Row) (state : State) : Bool :=
  !(row.stateUpdated < state.name ++ "_") && row.stateUpdated < state.name ++ "`"

/-- The column of executions with one more at its end, unless it is there already.  A
column that does not read as a list of strings is extended by its outline: its items keep
their written forms, a document that is no list is only written anew, and what has no
outline cannot be extended. -/
def extend? (column execution : String) : Option String :=
  match readList column with
  | .ok items =>
      if items.getLast? = some execution then some column
      else some (writeList (items ++ [execution]))
  | .error _ =>
      match Json.Relaxed.outline? column with
      | none => none
      | some (.other written) => some (String.ofList written)
      | some (.list items) =>
          if items.getLast?.any fun last => Json.Relaxed.readsAs last execution then some column
          else some (String.ofList
            (Json.Relaxed.bracketed '[' ']' (items ++ [Json.quote execution.toList])))

/-- The column by which an order sorts. -/
def sortColumn (row : Row) : SortIndex → String
  | .itemIds => row.itemIds
  | .stateUpdated => row.stateUpdated
  | .updated => row.updated

/-- One place in an order comes before another: by the sort column, then by item ids. -/
def placeBefore (first second : String × String) : Bool :=
  first.1 < second.1 || (first.1 == second.1 && first.2 < second.2)

def place (row : Row) (order : SortIndex) : String × String :=
  (row.sortColumn order, row.itemIds)

/-- The first row comes before the second, or they share a place. -/
def isOrdered (filter : Filter) (first second : Row) : Bool :=
  if filter.ascending then !placeBefore (second.place filter.order) (first.place filter.order)
  else !placeBefore (first.place filter.order) (second.place filter.order)

/-- The row comes after a cursor. -/
def isAfter (filter : Filter) (row : Row) (cursor : Cursor) : Bool :=
  let position := (cursor.sortValue, cursor.itemIds)
  if filter.ascending then placeBefore position (row.place filter.order)
  else placeBefore (row.place filter.order) position

end Row

end PayloadLedger
