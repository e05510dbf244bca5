import PayloadLedger.CommandLine.Command
import PayloadLedger.CommandLine.Database
import PayloadLedger.CommandLine.Host
import PayloadLedger.Ledger
import PayloadLedger.Settings

namespace PayloadLedger
namespace CommandLine

/-!
Runs of the service.

A run reads its settings, opens the ledger, carries out one command and keeps what it
changed.  Without the records of payloads there is no run, but an event log that cannot be
opened is left off.  No server for notices can be reached from here, so that notices are
left off too.
-/

/-- What a run leaves behind for its caller. -/
structure Report where
  exitCode : Nat := 0
  output : String := ""
  error : Option String := none
  deriving DecidableEq, Repr

namespace Report

def answer (value : Json) : Report where
  output := value.renderPretty ++ "\n"

def failed (message : String) : Report where
  exitCode := 1
  error := some ("Error: " ++ message)

/-- A run that broke off. -/
def brokenOff : Report where
  exitCode := 101

def ofStoreError (error : StoreError) : Report :=
  match error with
  | .beforeCalendar => brokenOff
  | error => failed error.message

def ofEventError (error : EventError) : Report :=
  match error with
  | .store error => match error with
    | .beforeCalendar => brokenOff
    | error => failed (EventError.store error).message
  | error => failed error.message

def ofResult (write : α → Json) (refused : ε → Report) : Except ε α → Report
  | .ok value => answer (write value)
  | .error error => refused error

end Report

/-! ## Opening and keeping databases -/

structure Opened where
  location : Location
  database : Database

/-- Open a database, and make it if it is not there. -/
def openDatabase [Monad m] (host : Host m) (url : String) : m (Option Opened) := do
  match Location.ofUrl? url with
  | none => return none
  | some .memory => return some ⟨.memory, {}⟩
  | some (.file path) =>
      match ← host.readFile path with
      | some text =>
          return (Database.ofText? text).map fun database => ⟨.file path, database⟩
      | none =>
          if ← host.writeFile path ({} : Database).toText then
            return some ⟨.file path, {}⟩
          else return none

/-- Keep a database that is in a file. -/
def keepDatabase [Monad m] (host : Host m) (opened : Opened) : m Unit := do
  match opened.location with
  | .memory => return
  | .file path => let _ ← host.writeFile path opened.database.toText

/-- The databases of a run. -/
structure Databases where
  state : Opened
  events : Option Opened

/-- Open the databases that settings name. -/
def openDatabases [Monad m] (host : Host m) (settings : Settings) : m (Option Databases) := do
  if settings.state.maxConnections = 0 then return none
  match ← openDatabase host settings.state.url with
  | none => return none
  | some state =>
      let events ← match settings.events with
        | none => pure none
        | some events => openDatabase host events.url
      return some ⟨state, events⟩

/-- The ledger in open databases. -/
def ledgerOf (settings : Settings) (databases : Databases) : Ledger where
  store := { Store.empty settings.state.scanPageSize settings.queryLimitCap with
    table := some databases.state.database.rows }
  log := match databases.events, settings.events with
    | some opened, some events =>
        .kept (if events.strict then .strict else .lenient) (some opened.database.events)
    | _, _ => .disabled

/-- Keep the rows and events of a ledger, which may share a file. -/
def keepLedger [Monad m] (host : Host m) (databases : Databases) (ledger : Ledger) : m Unit := do
  let state := { databases.state.database with rows := ledger.store.table.getD [] }
  match databases.events, ledger.log with
  | some events, .kept _ (some logged) =>
      if events.location = databases.state.location ∧ events.location ≠ .memory then
        keepDatabase host ⟨databases.state.location, { state with events := logged }⟩
      else do
        keepDatabase host ⟨databases.state.location, state⟩
        keepDatabase host ⟨events.location, { events.database with events := logged }⟩
  | _, _ => keepDatabase host ⟨databases.state.location, state⟩

/-! ## Carrying out commands -/

/-- The record after an announcement, or null. -/
def recordJson (record : Option Record) : Json :=
  match record with
  | some record => record.toJson
  | none => .null

def announce (ledger : Ledger) (event : EventType) (announcement : Announcement)
    (timestamp : Option String) (now : Time.Instant) : Report × Ledger :=
  match timestamp.mapM Time.Timestamp.ofUtc? with
  | .error error => (.failed error.message, ledger)
  | .ok time =>
      let (result, ledger) := ledger.announce event { announcement with time } now
      (.ofResult recordJson .ofEventError result, ledger)

/-- Record the status change in the text of an event. -/
def updateState (ledger : Ledger) (resolver : Engine.Resolver) (text : String)
    (now : Time.Instant) : Report × Ledger :=
  match Json.ofText? text with
  | .error _ => (.failed "parsing event JSON", ledger)
  | .ok event =>
      match Engine.StatusChange.ofEvent event with
      | .error error => (.ofEventError error, ledger)
      | .ok change =>
          let (result, ledger) := ledger.apply resolver change now
          (.ofResult recordJson .ofEventError result, ledger)

/-- The report of a question to the store, which stays as it is. -/
def asked (ledger : Ledger) (write : α → Json) (reply : Reply Store α) : Report × Ledger :=
  (.ofResult write .ofStoreError reply.result, ledger.observe reply.samples)

def getRecords (ledger : Ledger) (payloadIds : List String) : Report × Ledger :=
  match payloadIds.mapM Key.decode with
  | .error error => (.failed error.message, ledger)
  | .ok keys =>
      asked ledger (fun records => .array (records.map Record.toJson)) (ledger.store.getMany keys)

/-- Carry out a command; `event` is the text of its event, if it has one. -/
def perform (ledger : Ledger) (resolver : Engine.Resolver) (command : Command) (event : String)
    (now : Time.Instant) : Report × Ledger :=
  match command with
  | .updateState _ => updateState ledger resolver event now
  | .announce event payloadId execution error payloadUrl outputs timestamp =>
      announce ledger event
        { payloadId := some payloadId, execution, error, payloadUrl, outputs } timestamp now
  | .get payloadIds => getRecords ledger payloadIds
  | .query partition filter limit token =>
      asked ledger Page.toJson (ledger.store.query partition filter limit token now)
  | .count partition filter limit =>
      asked ledger Count.toJson (ledger.store.count partition filter limit now)
  | .summary partition since limit =>
      asked ledger Summary.toJson (ledger.store.summary partition since limit now)
  | .stats bucket duration =>
      let reply := ledger.log.queryBucket bucket duration now
      (.ofResult (fun counts => .array (counts.map BucketCount.toJson)) .ofStoreError reply.result,
        ledger.observe reply.samples)
  | .metrics =>
      ({ output := String.join (ledger.metrics.lines.map (· ++ "\n")) }, ledger)

/-! ## Runs -/

/-- Read the settings file.  A file that is not there may be there with an ending. -/
def readSettingsFile [Monad m] (host : Host m) (path : Option String) : m Settings.File := do
  match path with
  | none => return .unasked
  | some path =>
      match ← host.readFile path with
      | some contents => return .text contents
      | none =>
          match ← host.readFile (path ++ ".toml") with
          | some contents => return .text contents
          | none => return .missing

/-- Read the text of the event that a command is about. -/
def readEvent [Monad m] (host : Host m) (command : Command) : m (Except Report String) := do
  match command with
  | .updateState "-" =>
      match ← host.readInput with
      | some text => return .ok text
      | none => return .error (.failed "reading event from stdin")
  | .updateState path =>
      match ← host.readFile path with
      | some text => return .ok text
      | none => return .error (.failed ("reading event from " ++ path))
  | _ => return .ok ""

/-- Carry out a command with the settings of the service. -/
def serve [Monad m] (host : Host m) (settings : Settings) (command : Command)
    (now : Time.Instant) : m Report := do
  match ← openDatabases host settings with
  | none => return .failed ("opening state store at " ++ settings.state.url)
  | some databases =>
      match ← readEvent host command with
      | .error report => return report
      | .ok event =>
          let resolver : Engine.Resolver := { invalidTypes := settings.invalidErrorTypes }
          let (report, ledger) :=
            perform (ledgerOf settings databases) resolver command event now
          keepLedger host databases ledger
          return report

/-- Run the service with the words of a caller. -/
def run [Monad m] (host : Host m) (environment : List (String × String)) (now : Time.Instant)
    (words : List String) : m Report := do
  match Reading.ofWords words with
  | .misuse => return { exitCode := 2 }
  | .help text => return { output := text }
  | .command invocation =>
      match Settings.load (← readSettingsFile host invocation.settingsFile) environment with
      | .error _ => return .failed "loading settings"
      | .ok settings => serve host settings invocation.command now

end CommandLine
end PayloadLedger
