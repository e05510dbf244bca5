namespace PayloadLedger

/-!
The life of a payload.

A payload is claimed, processed, and ends completed, failed, invalid or aborted; a new
claim starts the cycle again.  Besides the state itself there are three related
vocabularies: the measures kept in the event log, the final statuses that the workflow
engine reports, and the events that subscribers are told about.
-/

/-- The state of a payload. -/
inductive State
  | claimed
  | processing
  | completed
  | failed
  | invalid
  | aborted
  deriving DecidableEq, Repr, Inhabited

namespace State

/-- Every state, in the order of the cycle. -/
def all : List State := [claimed, processing, completed, failed, invalid, aborted]

theorem mem_all (state : State) : state ∈ all := by
  cases state <;> decide

/-- The word that stands for a state in stored rows and messages. -/
def name : State → String
  | claimed => "CLAIMED"
  | processing => "PROCESSING"
  | completed => "COMPLETED"
  | failed => "FAILED"
  | invalid => "INVALID"
  | aborted => "ABORTED"

theorem name_injective {first second : State} (same : first.name = second.name) :
    first = second := by
  revert same
  cases first <;> cases second <;> decide

def ofName? (text : String) : Option State :=
  all.find? fun state => state.name == text

/-- The execution attempt is over. -/
def isTerminal : State → Bool
  | completed | failed | invalid | aborted => true
  | claimed | processing => false

/-- A new claim is refused. -/
def isInFlight : State → Bool
  | claimed | processing => true
  | completed | failed | invalid | aborted => false

theorem isTerminal_eq_not_isInFlight (state : State) :
    state.isTerminal = !state.isInFlight := by
  cases state <;> rfl

/-- Records in this state keep the text of an error. -/
def carriesError : State → Bool
  | failed | invalid => true
  | claimed | processing | completed | aborted => false

/-- The state at the front of a packed `STATE_timestamp` column: its name, ended by the
end of the text or by an underscore.  What follows the underscore is not looked at. -/
def ofPacked? (packed : String) : Option State :=
  all.find? fun state =>
    state.name.toList.isPrefixOf packed.toList &&
      match packed.toList.drop state.name.length with
      | [] => true
      | next :: _ => next == '_'

end State

/-- What the event log counts: a state, or the marker that only synthetic data carries. -/
inductive Measure
  | reached (state : State)
  | succeeded
  deriving DecidableEq, Repr

namespace Measure

/-- Every measure: the states in the order of the cycle, then the synthetic marker. -/
def all : List Measure := State.all.map reached ++ [succeeded]

/-- The word stored for a measure. -/
def name : Measure → String
  | reached state => state.name
  | succeeded => "SUCCEEDED"

def ofName? (text : String) : Option Measure :=
  if text = "SUCCEEDED" then some succeeded else (State.ofName? text).map reached

/-- Only synthetic data carries this measure. -/
def isSynthetic : Measure → Bool
  | reached _ => false
  | succeeded => true

end Measure

/-- How the workflow engine says an execution ended. -/
inductive EngineStatus
  | succeeded
  | failed
  | aborted
  | timedOut
  deriving DecidableEq, Repr

namespace EngineStatus

/-- Every status that leads to an update. -/
def all : List EngineStatus := [succeeded, failed, aborted, timedOut]

/-- The engine's word for a status. -/
def name : EngineStatus → String
  | succeeded => "SUCCEEDED"
  | failed => "FAILED"
  | aborted => "ABORTED"
  | timedOut => "TIMED_OUT"

def ofName? (text : String) : Option EngineStatus :=
  all.find? fun status => status.name == text

end EngineStatus

/-- What subscribers are told about a payload. -/
inductive EventType
  | claimedProcessing
  | startedProcessing
  | alreadyInvalid
  | alreadyProcessing
  | alreadyCompleted
  | duplicateIdEncountered
  | failed
  | timedOut
  | succeeded
  | invalid
  | aborted
  | recordExtractFailed
  | notAProcessPayload
  deriving DecidableEq, Repr

namespace EventType

def all : List EventType :=
  [claimedProcessing, startedProcessing, alreadyInvalid, alreadyProcessing, alreadyCompleted,
    duplicateIdEncountered, failed, timedOut, succeeded, invalid, aborted, recordExtractFailed,
    notAProcessPayload]

theorem mem_all (event : EventType) : event ∈ all := by
  cases event <;> decide

/-- The word that messages use for an event type. -/
def name : EventType → String
  | claimedProcessing => "CLAIMED_PROCESSING"
  | startedProcessing => "STARTED_PROCESSING"
  | alreadyInvalid => "ALREADY_INVALID"
  | alreadyProcessing => "ALREADY_PROCESSING"
  | alreadyCompleted => "ALREADY_COMPLETED"
  | duplicateIdEncountered => "DUPLICATE_ID_ENCOUNTERED"
  | failed => "FAILED"
  | timedOut => "TIMED_OUT"
  | succeeded => "SUCCEEDED"
  | invalid => "INVALID"
  | aborted => "ABORTED"
  | recordExtractFailed => "RECORD_EXTRACT_FAILED"
  | notAProcessPayload => "NOT_A_PROCESS_PAYLOAD"

def ofName? (text : String) : Option EventType :=
  all.find? fun event => event.name == text

/-- The state that announcing this event moves the payload to, if it moves it at all. -/
def target : EventType → Option State
  | claimedProcessing => some .claimed
  | startedProcessing => some .processing
  | succeeded => some .completed
  | failed | timedOut => some .failed
  | invalid => some .invalid
  | aborted => some .aborted
  | alreadyInvalid | alreadyProcessing | alreadyCompleted | duplicateIdEncountered
  | recordExtractFailed | notAProcessPayload => none

/-- The event told about a payload that is skipped because it is already in `state`. -/
def already? : State → Option EventType
  | .invalid => some alreadyInvalid
  | .processing => some alreadyProcessing
  | .completed => some alreadyCompleted
  | .claimed | .failed | .aborted => none

end EventType

end PayloadLedger
