import PayloadLedger.Json.Shape
import PayloadLedger.Key
import PayloadLedger.Lifecycle

namespace PayloadLedger

/-!
Records as callers see them.

A record says where a payload stands: its state, when it was first written and last
changed, the executions that worked on it, the most recent last, and the outputs or the
error of the last one.
-/

/-- The record of one payload. -/
structure Record where
  payloadId : String
  collections : String
  workflow : String
  /-- The item ids, joined by slashes. -/
  items : String
  state : State
  /-- The packed column as it is stored. -/
  stateUpdated : String
  created : Time.Instant
  updated : Time.Instant
  executions : List String
  outputs : Option (List String)
  lastError : Option String
  deriving DecidableEq, Repr

namespace Record

def key (record : Record) : Key :=
  ⟨record.collections ++ "_" ++ record.workflow, record.items⟩

/-- The execution that worked on the payload last. -/
def latestExecution (record : Record) : Option String :=
  record.executions.getLast?

/-- The record as a JSON object.  The packed column is not shown, and outputs and error
only where there are some. -/
def toJson (record : Record) : Json :=
  .object <|
    [("payload_id", .string record.payloadId), ("collections", .string record.collections),
      ("workflow", .string record.workflow), ("items", .string record.items),
      ("state", .string record.state.name), ("created", .string record.created.exact),
      ("updated", .string record.updated.exact),
      ("executions", Json.ofStrings record.executions)] ++
    (match record.outputs with
      | some outputs => [("outputs", Json.ofStrings outputs)]
      | none => []) ++
    (match record.lastError with
      | some error => [("last_error", .string error)]
      | none => [])

/-- A record of which only some fields have been read. -/
structure Draft where
  payloadId : Option String := none
  collections : Option String := none
  workflow : Option String := none
  items : Option String := none
  state : Option State := none
  created : Option Time.Instant := none
  updated : Option Time.Instant := none
  executions : Option (List String) := none
  outputs : Option (Option (List String)) := none
  lastError : Option (Option String) := none

namespace Draft

open Json in
def fields : List (FieldReader Draft) :=
  [needed "payload_id" payloadId text fun draft value => { draft with payloadId := value },
    needed "collections" collections text fun draft value => { draft with collections := value },
    needed "workflow" workflow text fun draft value => { draft with workflow := value },
    needed "items" items text fun draft value => { draft with items := value },
    needed "state" state (variant (State.all.map State.name) State.ofName?)
      fun draft value => { draft with state := value },
    needed "created" created instant fun draft value => { draft with created := value },
    needed "updated" updated instant fun draft value => { draft with updated := value },
    { needed "executions" executions (list text)
        fun draft value => { draft with executions := value } with absence := .allowed },
    { needed "outputs" outputs (optional (list text))
        fun draft value => { draft with outputs := value } with absence := .allowed },
    { needed "last_error" lastError (optional text)
        fun draft value => { draft with lastError := value } with absence := .allowed }]
where
  needed {α : Type} (name : String) (get : Draft → Option α) (reader : Reader α)
      (put : Draft → Option α → Draft) : FieldReader Draft :=
    { name, absence := .refused, present := fun draft => (get draft).isSome
      read := fun draft source => do
        let (value, rest) ← reader source
        return (put draft (some value), rest) }

/-- The record, once every needed field is there. -/
def complete? (draft : Draft) : Option Record := do
  return {
    payloadId := ← draft.payloadId
    collections := ← draft.collections
    workflow := ← draft.workflow
    items := ← draft.items
    state := ← draft.state
    stateUpdated := ""
    created := ← draft.created
    updated := ← draft.updated
    executions := draft.executions.getD []
    outputs := draft.outputs.getD none
    lastError := draft.lastError.getD none }

end Draft

def ofJsonText? (text : String) : Except Json.ReadError (Option Record) := do
  let draft ← Json.document (Json.record "StateRecord" Draft.fields {})
    (Json.Source.ofString text)
  return draft.complete?

end Record

namespace Key

def toJson (key : Key) : Json :=
  .object [("collections_workflow", .string key.partition), ("itemids", .string key.itemIds)]

open Json in
def ofJsonText? (text : String) : Except ReadError (Option Key) := do
  let halves ← document (record "StateKey" fields (none, none)) (Source.ofString text)
  return do return ⟨← halves.1, ← halves.2⟩
where
  fields : List (FieldReader (Option String × Option String)) :=
    [{ name := "collections_workflow", absence := .refused, present := fun halves => halves.1.isSome
       read := fun halves source => do
        let (value, rest) ← Json.text source
        return ((some value, halves.2), rest) },
      { name := "itemids", absence := .refused, present := fun halves => halves.2.isSome
        read := fun halves source => do
          let (value, rest) ← Json.text source
          return ((halves.1, some value), rest) }]

end Key

end PayloadLedger
