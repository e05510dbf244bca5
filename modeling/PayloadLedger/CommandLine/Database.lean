import PayloadLedger.EventLog
import PayloadLedger.Json.Reader
import PayloadLedger.Json.Printer
import PayloadLedger.Store.Table

namespace PayloadLedger
namespace CommandLine

/-!
Databases between runs.

A database holds the rows of the ledger and the events of the event log; the two may share
one.  It is kept in a file as a JSON document, or in memory for a single run.  An empty file
is an empty database.
-/

/-- The rows and events of a database. -/
structure Database where
  rows : Table := []
  events : List StoredEvent := []
  deriving DecidableEq, Repr

namespace Database

/-! ## Documents -/

def rowJson (row : Row) : Json :=
  .object [("partition", .string row.partition), ("items", .string row.itemIds),
    ("state_updated", .string row.stateUpdated), ("created", .string row.created),
    ("updated", .string row.updated), ("executions", .string row.executions),
    ("outputs", Json.ofString? row.outputs), ("last_error", Json.ofString? row.lastError)]

def eventJson (event : StoredEvent) : Json :=
  .object [("workflow", .string event.workflow), ("collections", .string event.collections),
    ("items", .string event.itemIds), ("execution", .string event.execution),
    ("time", .int event.time), ("measure", .string event.measure)]

/-- The document of a database. -/
def toText (database : Database) : String :=
  (Json.object [("rows", .array (database.rows.map rowJson)),
    ("events", .array (database.events.map eventJson))]).render

def text? (value : Json) (name : String) : Option String :=
  (value.field? name).bind Json.string?

def row? (value : Json) : Option Row := do
  return {
    partition := ← text? value "partition"
    itemIds := ← text? value "items"
    stateUpdated := ← text? value "state_updated"
    created := ← text? value "created"
    updated := ← text? value "updated"
    executions := ← text? value "executions"
    outputs := text? value "outputs"
    lastError := text? value "last_error" }

def event? (value : Json) : Option StoredEvent := do
  let time ← match value.field? "time" with
    | some (.int time) => some time
    | _ => none
  return {
    workflow := ← text? value "workflow"
    collections := ← text? value "collections"
    itemIds := ← text? value "items"
    execution := ← text? value "execution"
    time
    measure := ← text? value "measure" }

def ofText? (document : String) : Option Database :=
  if document.isEmpty then some {}
  else match Json.ofText? document with
    | .error _ => none
    | .ok value => do
        let rows ← (value.field? "rows").bind Json.array?
        let events ← (value.field? "events").bind Json.array?
        return ⟨← rows.mapM row?, ← events.mapM event?⟩

end Database

/-! ## Places -/

/-- Where a database is. -/
inductive Location
  | memory
  | file (path : String)
  deriving DecidableEq, Repr

namespace Location

/-- Text without any repetition of a word at its front. -/
def dropAll (word : List Char) : Nat → List Char → List Char
  | 0, text => text
  | fuel + 1, text =>
      match Text.dropPrefix? word text with
      | some rest => dropAll word fuel rest
      | none => text

def hexValue? (byte : UInt8) : Option UInt8 :=
  if 48 ≤ byte ∧ byte ≤ 57 then some (byte - 48)
  else if 97 ≤ byte ∧ byte ≤ 102 then some (byte - 87)
  else if 65 ≤ byte ∧ byte ≤ 70 then some (byte - 55)
  else none

/-- Bytes with those that are written as a percent sign and two digits. -/
def unescaped : List UInt8 → List UInt8
  | 37 :: high :: low :: rest =>
      match hexValue? high, hexValue? low with
      | some high, some low => (16 * high + low) :: unescaped rest
      | _, _ => 37 :: unescaped (high :: low :: rest)
  | byte :: rest => byte :: unescaped rest
  | [] => []

/-- What a setting in a URL does: the database is kept in memory, or nothing changes.  Other
settings are not known, and a database that is only read cannot be set up. -/
def isMemorySetting? (setting : List Char) : Option Bool :=
  if setting = "mode=memory".toList then some true
  else if ["mode=rw", "mode=rwc", "cache=private", "cache=shared", ""].any
      (·.toList = setting) then some false
  else none

/-- The location that a URL names. -/
def ofUrl? (url : String) : Option Location := do
  let text := url.toList
  let text := dropAll "sqlite:".toList text.length (dropAll "sqlite://".toList text.length text)
  let path := text.takeWhile (· ≠ '?')
  let settings := match text.dropWhile (· ≠ '?') with
    | _ :: settings => (settings.splitOn '&')
    | [] => []
  let inMemory ← settings.mapM isMemorySetting?
  if path = ":memory:".toList || inMemory.any id then return memory
  let bytes := ByteArray.mk (unescaped (Text.utf8 (String.ofList path))).toArray
  let path ← String.fromUTF8? bytes
  return if path.isEmpty then memory else file path

end Location

end CommandLine
end PayloadLedger
