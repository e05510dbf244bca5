import PayloadLedger.Engine.StatusChange
import PayloadLedger.Text.Split

namespace PayloadLedger
namespace Engine

/-!
What the end of an execution means for its payload.

Success completes the payload and an abort aborts it.  A failure is judged by the type of
its error: an error about the input makes the payload invalid, so that it is not tried
again blindly, and any other makes it failed.  The error is the one in the event, or else
the one in the history of the execution, or else unknown.
-/

/-- Where the errors of past executions are kept. -/
inductive History
  /-- There is no history. -/
  | absent
  /-- The history cannot be read. -/
  | unavailable
  /-- The error that is recorded for an execution, if one is. -/
  | kept (lastError : String → Option ExecutionError)

/-- What the end of an execution means. -/
structure Resolution where
  status : EngineStatus
  state : State
  event : EventType
  error : Option String
  deriving DecidableEq, Repr

/-- How failures are judged. -/
structure Resolver where
  /-- Types of errors about the input. -/
  invalidTypes : List String
  history : History := .absent

namespace Resolver

/-- The error of an execution that ran out of time. -/
def timedOut : ExecutionError :=
  ⟨some "TimedOutError", some "The workflow execution timed out."⟩

/-- The error of an execution of which nothing else is known. -/
def unknownFailure : ExecutionError :=
  ⟨some "Unknown", none⟩

/-- The part of a dotted name behind its last dot. -/
def lastSegment (name : String) : List Char :=
  match Text.splitLast '.' name.toList with
  | some (_, last) => last
  | none => name.toList

/-- The type names an error about the input. -/
def isInvalidInput (resolver : Resolver) (errorType : String) : Bool :=
  resolver.invalidTypes.contains errorType || lastSegment errorType = "InvalidInput".toList

def classify (resolver : Resolver) (status : EngineStatus) (failure : ExecutionError) :
    Resolution :=
  let errorType := failure.errorType
  let (state, event) : State × EventType :=
    if resolver.isInvalidInput errorType then (.invalid, .invalid)
    else if some errorType = timedOut.error then (.failed, .timedOut)
    else (.failed, .failed)
  ⟨status, state, event, some failure.message⟩

/-- The error that history records for an execution. -/
def recordedFailure (resolver : Resolver) (execution : String) : ExecutionError :=
  match resolver.history with
  | .absent | .unavailable => unknownFailure
  | .kept lastError => (lastError execution).getD unknownFailure

/-- What a status change means. -/
def resolve (resolver : Resolver) (change : StatusChange) : Except EventError Resolution :=
  match EngineStatus.ofName? change.status with
  | none => .error (.unsupportedStatus change.status)
  | some .succeeded => .ok ⟨.succeeded, .completed, .succeeded, none⟩
  | some .aborted => .ok ⟨.aborted, .aborted, .aborted, none⟩
  | some .timedOut => .ok (resolver.classify .timedOut timedOut)
  | some .failed =>
      .ok (resolver.classify .failed
        (change.error.getD (resolver.recordedFailure change.execution)))

end Resolver

end Engine
end PayloadLedger
