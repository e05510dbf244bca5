import PayloadLedger.Json.Source
import PayloadLedger.Lifecycle
import PayloadLedger.SortIndex
import PayloadLedger.Text.Base64

namespace PayloadLedger

/-!
What can go wrong in the ledger and in the event log.

A refused claim is an answer rather than a failure: it says who holds the payload.
-/

/-- Why an operation on the ledger or the event log did not succeed. -/
inductive StoreError
  /-- The database did not carry out a statement. -/
  | database
  /-- A column that should hold a list of strings does not. -/
  | unreadableList (error : Json.ReadError)
  | unknownSortIndex (name : String)
  /-- A cursor is not written in symbols. -/
  | cursorSymbols (fault : Text.Base64.Fault)
  /-- A cursor does not hold a position. -/
  | cursorDocument (error : Json.ReadError)
  /-- A cursor of one order is used in another. -/
  | cursorOrder (issued wanted : SortIndex)
  | eventWithoutItems (partition : String)
  | eventWithoutExecution (payloadId : String)
  | bucketNotPositive (text : String)
  /-- A window of hours ends before it starts. -/
  | windowReversed (start finish : Nat)
  /-- The payload is in flight, in this state and for this execution. -/
  | alreadyClaimed (payloadId : String) (state : Option State) (execution : Option String)
  | logDisabled
  | corruptState (payloadId packed : String)
  | corruptTime (payloadId : String) (error : InputError)
  | unknownMeasure (name : String)
  | bucketOutOfRange (milliseconds : Int)
  /-- A caller's text was refused. -/
  | input (error : InputError)
  /-- A window reaches back before the calendar begins. -/
  | beforeCalendar
  /-- A scan would go on for ever. -/
  | endlessScan
  deriving DecidableEq, Repr

namespace StoreError

inductive Kind
  | database
  | serialization
  | validation
  | alreadyClaimed
  | logDisabled
  | corruptRecord
  | input
  | beforeCalendar
  | endlessScan
  deriving DecidableEq, Repr

def kind : StoreError → Kind
  | database => .database
  | unreadableList _ => .serialization
  | unknownSortIndex _ | cursorSymbols _ | cursorDocument _ | cursorOrder _ _
  | eventWithoutItems _ | eventWithoutExecution _ | bucketNotPositive _
  | windowReversed _ _ => .validation
  | alreadyClaimed _ _ _ => .alreadyClaimed
  | logDisabled => .logDisabled
  | corruptState _ _ | corruptTime _ _ | unknownMeasure _ | bucketOutOfRange _ =>
      .corruptRecord
  | input _ => .input
  | beforeCalendar => .beforeCalendar
  | endlessScan => .endlessScan

/-- The label that metrics use for an error. -/
def label (error : StoreError) : String :=
  match error.kind with
  | .database => "database"
  | .serialization => "serialization"
  | .validation | .input => "validation"
  | .alreadyClaimed => "already_claimed"
  | .logDisabled => "disabled"
  | .corruptRecord => "corrupt"
  | .beforeCalendar => "panic"
  | .endlessScan => "endless"

/-- A claim lost against an execution in flight. -/
def isAlreadyClaimed (error : StoreError) : Bool :=
  error.kind = .alreadyClaimed

/-- A mistake of the caller, which the same call will meet again. -/
def isValidation (error : StoreError) : Bool :=
  error.kind = .validation || error.kind = .input

/-- What is wrong, without the name of the family. -/
def detail : StoreError → String
  | database => "statement failed"
  | unreadableList error => error.message
  | unknownSortIndex name => "unknown sort index: " ++ name
  | cursorSymbols fault => "malformed cursor: " ++ fault.message
  | cursorDocument error => "malformed cursor: " ++ error.message
  | cursorOrder issued wanted =>
      "cursor was issued for sort index '" ++ issued.name ++ "', not '" ++ wanted.name ++ "'"
  | eventWithoutItems partition => "event for '" ++ partition ++ "' has no item ids"
  | eventWithoutExecution payloadId =>
      "event for '" ++ payloadId ++ "' has no execution reference"
  | bucketNotPositive text => "bucket size must be positive: " ++ text
  | windowReversed start finish =>
      "window end (" ++ toString finish ++ "h ago) is before its start (" ++ toString start ++
        "h ago)"
  | alreadyClaimed payloadId state _ =>
      "Payload " ++ payloadId ++ " already claimed (state: " ++
        (state.map State.name).getD "unknown" ++ ")"
  | logDisabled => "Event log is disabled"
  | corruptState payloadId packed => payloadId ++ ": bad state_updated '" ++ packed ++ "'"
  | corruptTime payloadId error => payloadId ++ ": " ++ error.message
  | unknownMeasure name => "unknown event state '" ++ name ++ "'"
  | bucketOutOfRange milliseconds => "bucket out of range: " ++ toString milliseconds
  | input error => error.message
  | beforeCalendar => "`DateTime - TimeDelta` overflowed"
  | endlessScan => "the scan does not end"

def message (error : StoreError) : String :=
  match error.kind with
  | .database => "Database error: " ++ error.detail
  | .serialization => "Serialization error: " ++ error.detail
  | .validation => "Validation error: " ++ error.detail
  | .corruptRecord => "Corrupt record: " ++ error.detail
  | .alreadyClaimed | .logDisabled | .input | .beforeCalendar | .endlessScan => error.detail

end StoreError

end PayloadLedger
