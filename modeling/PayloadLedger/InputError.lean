namespace PayloadLedger

/-!
Mistakes in what a caller supplies.

Identifiers, names of states, timestamps and durations are read from text.  Each way in
which such a text can be refused is one cause here, with the offending text kept, and the
wording of every cause stands in `InputError.message`.
-/

/-- Why a text is not a timestamp. -/
inductive TimestampFault
  | outOfRange
  | impossible
  | invalid
  | tooShort
  | tooLong
  deriving DecidableEq, Repr

namespace TimestampFault

def message : TimestampFault → String
  | outOfRange => "input is out of range"
  | impossible => "no possible date and time matching input"
  | invalid => "input contains invalid characters"
  | tooShort => "premature end of input"
  | tooLong => "trailing input"

end TimestampFault

/-- Why a text is not the name of a workflow. -/
inductive WorkflowFault
  | empty
  | divided (workflow : String)
  deriving DecidableEq, Repr

namespace WorkflowFault

/-- The words for a fault.  A divided name holds a character that separates the parts of
an identifier or of a partition. -/
def message : WorkflowFault → String
  | empty => "workflow must not be empty"
  | divided workflow => "workflow must not contain '/' or '_': " ++ workflow

end WorkflowFault

/-- Why a caller's text was refused. -/
inductive InputError
  /-- A payload needs the name of its collections. -/
  | emptyCollections
  /-- The name of the collections holds the mark that ends it. -/
  | markedCollections (collections : String)
  /-- The name of the workflow cannot be part of a key. -/
  | workflow (fault : WorkflowFault)
  /-- The identifier has no mark between collections and workflow. -/
  | unmarkedIdentifier (identifier : String)
  /-- Nothing stands before the mark. -/
  | identifierWithoutCollections (identifier : String)
  /-- The workflow inside the identifier cannot be part of a key. -/
  | identifierWorkflow (identifier : String) (fault : WorkflowFault)
  /-- The partition does not end in an underscore and a workflow. -/
  | undividedPartition (partition : String)
  | unknownState (name : String)
  | unsupportedStatus (name : String)
  | unknownEventType (name : String)
  /-- A timestamp that names an offset other than zero. -/
  | offsetTimestamp (text : String)
  | unreadableTimestamp (text : String) (fault : TimestampFault)
  | emptySpan
  | spanWithoutDigits (text : String)
  | spanOutOfRange (text : String)
  | unknownUnit (unit : Char)
  deriving DecidableEq, Repr

namespace InputError

/-- The two families of refused input. -/
inductive Kind
  | validation
  | malformedIdentifier
  deriving DecidableEq, Repr

/-- The family of a cause: an identifier or partition that cannot be taken apart is
malformed, everything else fails validation. -/
def kind : InputError → Kind
  | unmarkedIdentifier _ | identifierWithoutCollections _ | identifierWorkflow _ _
  | undividedPartition _ => .malformedIdentifier
  | emptyCollections | markedCollections _ | workflow _ | unknownState _ | unsupportedStatus _
  | unknownEventType _ | offsetTimestamp _ | unreadableTimestamp _ _ | emptySpan
  | spanWithoutDigits _ | spanOutOfRange _ | unknownUnit _ => .validation

/-- What is wrong, without the name of the family. -/
def detail : InputError → String
  | emptyCollections => "collections must not be empty"
  | markedCollections collections =>
      "collections must not contain '/workflow-': " ++ collections
  | workflow fault => fault.message
  | unmarkedIdentifier identifier => "'" ++ identifier ++ "' does not contain '/workflow-'"
  | identifierWithoutCollections identifier => "'" ++ identifier ++ "' has no collections"
  | identifierWorkflow identifier fault => "'" ++ identifier ++ "': " ++ fault.message
  | undividedPartition partition =>
      "partition key '" ++ partition ++ "' is not <collections>_<workflow>"
  | unknownState name => "unknown state: " ++ name
  | unsupportedStatus name => "status does not support updates: " ++ name
  | unknownEventType name => "unknown event type: " ++ name
  | offsetTimestamp text => "timestamp must be utc iso valued string (" ++ text ++ ")"
  | unreadableTimestamp text fault =>
      "unparseable timestamp '" ++ text ++ "': " ++ fault.message
  | emptySpan => "duration must not be empty"
  | spanWithoutDigits text => "duration must be digits followed by a unit: '" ++ text ++ "'"
  | spanOutOfRange text => "duration out of range: '" ++ text ++ "'"
  | unknownUnit unit => "Unit must be 'd', 'h', or 'm'; got '" ++ unit.toString ++ "'"

/-- The full sentence shown to the caller. -/
def message (error : InputError) : String :=
  match error.kind with
  | .validation => "Validation error: " ++ error.detail
  | .malformedIdentifier => "Malformed payload identifier: " ++ error.detail

end InputError

end PayloadLedger
