import PayloadLedger.StoreError

namespace PayloadLedger

/-!
What can go wrong when something is announced about a payload.
-/

/-- Why the log of a failed task could not be located.  The pieces are looked for from the
outside in, and the first one missing is the cause. -/
inductive LogFault
  | missingCause
  | malformedCause (error : Json.ReadError)
  | emptyAttempts
  | missingContainer
  | missingLogStream
  deriving DecidableEq, Repr

namespace LogFault

def message (fault : LogFault) : String :=
  "Unable to get error log: " ++
    match fault with
    | missingCause => "Cause is not defined"
    | malformedCause error => "Cause is not valid JSON (" ++ error.message ++ ")"
    | emptyAttempts => "Attempts is empty"
    | missingContainer => "Container for last Attempt is missing"
    | missingLogStream => "LogStreamName for last Attempt is missing"

end LogFault

/-- Why an announcement, a message or an event of the engine was not accepted. -/
inductive EventError
  | withoutPayloadId
  /-- Extra fields with the names of a notice's own fields. -/
  | reservedFields (names : List String)
  | withoutExecution (event : EventType)
  /-- Nothing is told about a payload skipped in this state. -/
  | noSkipEvent (state : State)
  | noStateChange (event : EventType)
  /-- An event of the engine that has another form. -/
  | unknownEvent (error : Json.ReadError)
  | emptyInput
  | inputWithoutId
  /-- A message that lacks one of a notice's own fields. -/
  | messageWithout (field : String)
  | store (error : StoreError)
  /-- The publisher did not take the message. -/
  | publish (reason : String)
  /-- The stream server did not take the message. -/
  | stream
  | unreadable (error : Json.ReadError)
  | unsupportedStatus (status : String)
  | log (fault : LogFault)
  | input (error : InputError)
  deriving DecidableEq, Repr

namespace EventError

inductive Kind
  | validation
  | store
  | publish
  | stream
  | serialization
  | unsupportedStatus
  | logExtraction
  | input
  deriving DecidableEq, Repr

def kind : EventError → Kind
  | withoutPayloadId | reservedFields _ | withoutExecution _ | noSkipEvent _ | noStateChange _
  | unknownEvent _ | emptyInput | inputWithoutId | messageWithout _ => .validation
  | store _ => .store
  | publish _ => .publish
  | stream => .stream
  | unreadable _ => .serialization
  | unsupportedStatus _ => .unsupportedStatus
  | log _ => .logExtraction
  | input _ => .input

/-- What is wrong, without the name of the family. -/
def detail : EventError → String
  | withoutPayloadId => "payload_id is required"
  | reservedFields names =>
      "extra fields must not re-specify reserved keys: " ++ String.intercalate ", " names
  | withoutExecution event => event.name ++ " requires an execution reference"
  | noSkipEvent state => "no skip event for payload in state " ++ state.name
  | noStateChange event => event.name ++ " does not change state"
  | unknownEvent error => "unknown event: " ++ error.message
  | emptyInput => "event input is empty"
  | inputWithoutId => "event input has no payload id"
  | messageWithout field => "message has no " ++ field
  | store error => error.message
  | publish reason => reason
  | stream => "the stream server did not take the message"
  | unreadable error => error.message
  | unsupportedStatus status => status
  | log fault => fault.message
  | input error => error.message

/-- The full sentence shown to the caller. -/
def message (error : EventError) : String :=
  match error.kind with
  | .validation => "Validation error: " ++ error.detail
  | .store => "State store error: " ++ error.detail
  | .publish => "Publish error: " ++ error.detail
  | .stream => "Redis error: " ++ error.detail
  | .serialization => "Serialization error: " ++ error.detail
  | .unsupportedStatus => "Status does not support updates: " ++ error.detail
  | .logExtraction | .input => error.detail

/-- A mistake in what was given, which will be met again on every retry. -/
def isValidation : EventError → Bool
  | store error => error.isValidation
  | error =>
      error.kind = .validation || error.kind = .unsupportedStatus || error.kind = .input

/-- A claim lost against an execution in flight. -/
def isAlreadyClaimed : EventError → Bool
  | store error => error.isAlreadyClaimed
  | _ => false

end EventError

end PayloadLedger
