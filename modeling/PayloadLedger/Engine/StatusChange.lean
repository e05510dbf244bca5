import PayloadLedger.Engine.ExecutionError
import PayloadLedger.EventError

namespace PayloadLedger
namespace Engine

/-!
Status changes of executions.

The engine reports that an execution ended with an event whose `detail` names the
execution, its status, its input and output, and the error if there was one.  Input and
output are documents that may be embedded or given as text; null and the empty text stand
for no document.
-/

/-- The end of an execution. -/
structure StatusChange where
  execution : String
  payloadId : String
  /-- The status as it was reported. -/
  status : String
  output : Option Json
  error : Option ExecutionError
  payloadUrl : Option String

namespace StatusChange

/-! ## The form of an event -/

def mismatch (value : Json) (needed : String) : Json.ReadError :=
  ⟨.invalidType (Json.describe value) needed, none⟩

def readText (value : Json) : Except Json.ReadError String :=
  match value with
  | .string text => .ok text
  | other => .error (mismatch other "a string")

/-- Nothing for null, otherwise what `reader` makes of the value. -/
def readOptional (reader : Json → Except Json.ReadError α) (value : Json) :
    Except Json.ReadError (Option α) :=
  match value with
  | .null => .ok none
  | other => some <$> reader other

/-- A record given as an object, whose fields are read in the order of their names, or as
an array of its fields in their own order.  Fields are named with whether they may be left
out; `read` takes the value of one of them. -/
def readRecord (name : String) (fields : List (String × Bool))
    (read : α → String → Json → Except Json.ReadError α) (empty : α) (value : Json) :
    Except Json.ReadError α := do
  match value with
  | .object given =>
      let filled ← given.foldlM (fun filled field =>
        if (fields.lookup field.1).isSome then read filled field.1 field.2 else .ok filled) empty
      match fields.find? fun field => !field.2 && (given.lookup field.1).isNone with
      | some missing => throw ⟨.missingField missing.1, none⟩
      | none => return filled
  | .array items =>
      let filled ← (fields.zip items).foldlM (fun filled pair => read filled pair.1.1 pair.2) empty
      match (fields.drop items.length).findIdx? fun field => !field.2 with
      | some skipped =>
          throw ⟨.invalidLength (items.length + skipped)
            (Json.withCount ("struct " ++ name) fields.length), none⟩
      | none =>
          if fields.length < items.length then
            throw ⟨.invalidLength items.length "fewer elements in array", none⟩
          else return filled
  | other => throw (mismatch other ("struct " ++ name))

def readError (value : Json) : Except Json.ReadError ExecutionError :=
  readRecord "ExecutionError" [("Error", true), ("Cause", true)]
    (fun failure name value => do
      let text ← readOptional readText value
      return if name = "Error" then { failure with error := text }
        else { failure with cause := text })
    ⟨none, none⟩ value

/-- The detail of an event, with its documents as they were given. -/
structure Detail where
  execution : String := ""
  input : Json := .null
  output : Json := .null
  status : String := ""
  error : Option ExecutionError := none

def readDetail (value : Json) : Except Json.ReadError Detail :=
  readRecord "RawDetail"
    [("executionArn", false), ("input", false), ("output", true), ("status", false),
      ("error", true)]
    (fun detail name value => do
      match name with
      | "executionArn" => return { detail with execution := ← readText value }
      | "input" => return { detail with input := value }
      | "output" => return { detail with output := value }
      | "status" => return { detail with status := ← readText value }
      | _ => return { detail with error := ← readOptional readError value })
    {} value

/-- An event with its detail and the place of the payload. -/
structure Event where
  detail : Detail := {}
  url : Option String := none

def readEvent (value : Json) : Except Json.ReadError Event :=
  readRecord "RawEvent" [("detail", false), ("url", true)]
    (fun event name value => do
      if name = "detail" then return { event with detail := ← readDetail value }
      else return { event with url := ← readOptional readText value })
    {} value

/-! ## From events to status changes -/

/-- The document in a value: embedded, given as text, or none. -/
def documentIn (value : Json) : Except EventError (Option Json) :=
  match value with
  | .null => .ok none
  | .string text =>
      if text = "" then .ok none else some <$> (Json.ofText? text).mapError .unreadable
  | other => .ok (some other)

/-- The status change that an event reports. -/
def ofEvent (event : Json) : Except EventError StatusChange := do
  let event ← (readEvent event).mapError .unknownEvent
  let detail := event.detail
  let input ← match ← documentIn detail.input with
    | some input => pure input
    | none => throw .emptyInput
  let payloadId ← match (input.field? "id").bind Json.string? with
    | some payloadId => pure payloadId
    | none => throw .inputWithoutId
  return {
    execution := detail.execution
    payloadId
    status := detail.status
    output := ← documentIn detail.output
    error := detail.error
    payloadUrl := event.url }

/-- The links of one feature of the output. -/
def linksOf (feature : Json) : List Json :=
  ((feature.field? "links").bind Json.array?).getD []

/-- What a link of a feature to itself refers to. -/
def selfReference? (link : Json) : Option String :=
  if (link.field? "rel").bind Json.string? = some "self" then
    (link.field? "href").bind Json.string?
  else none

/-- The references to the items of the output, if it lists features. -/
def outputRefs (change : StatusChange) : Option (List String) := do
  let output ← change.output
  let features ← (output.field? "features").bind Json.array?
  return (features.flatMap linksOf).filterMap selfReference?

end StatusChange

end Engine
end PayloadLedger
