import PayloadLedger.Engine.ErrorLine
import PayloadLedger.EventError
import PayloadLedger.Json.Reader

namespace PayloadLedger
namespace Engine

/-!
The log of a failed task.

A failed task reports an error with a cause, which lists the attempts that were made.  The
container of the last attempt names the log stream whose last line tells the real error.
The cause is a JSON object or the text of one.
-/

/-- Where the log of a failed task is, and what the engine says about the task. -/
structure TaskLog where
  stream : String
  containerReason : Option String
  statusReason : Option String
  deriving DecidableEq, Repr

namespace TaskLog

def text? (value : Json) (name : String) : Option String :=
  (value.field? name).bind Json.string?

/-- What is said when the log cannot be read. -/
def neverRan (log : TaskLog) : String :=
  "Unable to get error log, container likely never ran. Container Reason: " ++
    log.containerReason.getD "None" ++ "; Status Reason: " ++ log.statusReason.getD "None"

/-- The cause that an error reports, read from its text if it is one. -/
def causeOf (error : Json) : Except LogFault Json :=
  match error.field? "Cause" with
  | none | some .null => .error .missingCause
  | some (.string text) => (Json.ofText? text).mapError .malformedCause
  | some cause => .ok cause

/-- The last attempt that a cause lists. -/
def lastAttempt (cause : Json) : Except LogFault Json :=
  match ((cause.field? "Attempts").bind Json.array?).bind List.getLast? with
  | some attempt => .ok attempt
  | none => .error .emptyAttempts

def containerOf (attempt : Json) : Except LogFault Json :=
  match attempt.field? "Container" with
  | none | some .null => .error .missingContainer
  | some container => .ok container

/-- The log stream that a container names. -/
def streamOf (container : Json) : Except LogFault String :=
  match text? container "LogStreamName" with
  | some stream => if stream = "" then .error .missingLogStream else .ok stream
  | none => .error .missingLogStream

/-- Find the log of the last attempt. -/
def ofError (error : Json) : Except LogFault TaskLog := do
  let cause ← causeOf error
  let attempt ← lastAttempt cause
  let container ← containerOf attempt
  let stream ← streamOf container
  return {
    stream
    containerReason := text? container "Reason"
    statusReason := text? attempt "StatusReason" }

/-- What reading the last line of a log stream gave. -/
inductive LastLine
  | line (text : String)
  | empty
  | failed
  deriving DecidableEq, Repr

/-- The error of a failed task, from the last line of its log if that can be read. -/
def diagnose (error : Json) (lastLine : String → LastLine) : Except LogFault TaskFailure := do
  let log ← ofError error
  match lastLine log.stream with
  | .line text => return TaskFailure.ofLine text
  | .empty | .failed => return ⟨TaskFailure.unnamedType, log.neverRan⟩

end TaskLog

end Engine
end PayloadLedger
