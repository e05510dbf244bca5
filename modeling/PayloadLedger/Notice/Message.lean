import PayloadLedger.EventError
import PayloadLedger.Json.Shape
import PayloadLedger.Notice.Pattern

namespace PayloadLedger

/-!
Notices and the messages that carry them.

A notice tells subscribers about one event of one payload.  Its message has a body, which
is a JSON object of the notice's fields, and attributes that can be filtered on without
reading the body.  Extra fields of the caller stand beside the notice's own fields in the
body and cannot take their names.
-/

/-- One announced event. -/
structure Notice where
  event : EventType
  payloadId : String
  time : Time.Instant
  payloadUrl : Option String := none
  execution : Option String := none
  error : Option String := none
  /-- Fields of the caller, sorted by name. -/
  extra : List (String × Json) := []

/-- A body and its attributes, sorted by name. -/
structure Message where
  body : String
  attributes : List (String × String)
  deriving DecidableEq, Repr

namespace Message

/-- Put an attribute in its place by name, over any attribute of that name. -/
def insertAttribute (name value : String) :
    List (String × String) → List (String × String)
  | [] => [(name, value)]
  | (other, kept) :: rest =>
      if name = other then (name, value) :: rest
      else if name < other then (name, value) :: (other, kept) :: rest
      else (other, kept) :: insertAttribute name value rest

/-- Attributes sorted by name, where the last of a name counts. -/
def sortAttributes (attributes : List (String × String)) : List (String × String) :=
  attributes.foldl (fun sorted entry => insertAttribute entry.1 entry.2 sorted) []

def attributesJson (message : Message) : Json :=
  .object (message.attributes.map fun entry => (entry.1, .string entry.2))

def toJson (message : Message) : Json :=
  .object [("body", .string message.body), ("attributes", message.attributesJson)]

open Json in
/-- Read a message from a JSON document. -/
def ofJsonText? (text : String) : Except ReadError (Option Message) := do
  let halves ← document (record "NotificationMessage" fields (none, none)) (Source.ofString text)
  return do return ⟨← halves.1, sortAttributes (← halves.2)⟩
where
  fields : List (FieldReader (Option String × Option (List (String × String)))) :=
    [{ name := "body", absence := .refused, present := fun halves => halves.1.isSome
       read := fun halves source => do
        let (value, rest) ← Json.text source
        return ((some value, halves.2), rest) },
      { name := "attributes", absence := .refused, present := fun halves => halves.2.isSome
        read := fun halves source => do
          let (value, rest) ← dictionary Json.text source
          return ((halves.1, some value), rest) }]

end Message

namespace Notice

/-- The names of a notice's own fields. -/
def ownFields : List String :=
  ["event_type", "payload_id", "timestamp", "payload_url", "execution", "error"]

/-- Extra fields must not have the names of own fields. -/
def checkExtra (extra : List (String × Json)) : Except EventError Unit :=
  match ownFields.filter fun name => (extra.lookup name).isSome with
  | [] => .ok ()
  | names => .error (.reservedFields names)

/-- The notice with extra fields, if they may be added. -/
def withExtra (notice : Notice) (extra : List (String × Json)) : Except EventError Notice := do
  checkExtra extra
  return { notice with extra }

/-- A field that is left out when there is nothing in it. -/
def optionalField (name : String) (value : Option String) : List (String × Json) :=
  match value with
  | some value => if value = "" then [] else [(name, .string value)]
  | none => []

def bodyJson (notice : Notice) : Json :=
  Json.ofFields <|
    [("event_type", .string notice.event.name), ("payload_id", .string notice.payloadId),
      ("timestamp", .string notice.time.stored)] ++
    optionalField "payload_url" notice.payloadUrl ++
    optionalField "execution" notice.execution ++
    optionalField "error" notice.error ++
    notice.extra

/-- The attributes: the event, the collections and workflow of an identifier that fits the
pattern, and the error, an empty one too. -/
def attributes (notice : Notice) : List (String × String) :=
  let groups := groups? notice.payloadId
  Message.sortAttributes <|
    [("event_type", notice.event.name)] ++
    (match groups with
      | some groups => [("workflow", groups.workflow), ("collections", groups.collections)]
      | none => []) ++
    (match notice.error with
      | some error => [("error", error)]
      | none => [])

def message (notice : Notice) : Message :=
  ⟨notice.bodyJson.render, notice.attributes⟩

def fieldText? (body : List (String × Json)) (name : String) : Option String :=
  (body.lookup name).bind Json.string?

/-- Read a notice from the body of its message.  Own fields that are no strings are passed
over. -/
def ofBody? (text : String) : Except EventError Notice := do
  let body ← (Json.document Json.anyObject (Json.Source.ofString text)).mapError .unreadable
  let needed (name : String) : Except EventError String :=
    match fieldText? body name with
    | some value => .ok value
    | none => .error (.messageWithout name)
  let eventName ← needed "event_type"
  let event ← match EventType.ofName? eventName with
    | some event => pure event
    | none => throw (.input (.unknownEventType eventName))
  let payloadId ← needed "payload_id"
  let timestamp ← needed "timestamp"
  let time ← (Time.Timestamp.ofUtc? timestamp).mapError .input
  return {
    event, payloadId, time
    payloadUrl := fieldText? body "payload_url"
    execution := fieldText? body "execution"
    error := fieldText? body "error"
    extra := body.filter fun field => !ownFields.contains field.1 }

end Notice

end PayloadLedger
