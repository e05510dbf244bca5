import PayloadLedger.Settings.Environment
import PayloadLedger.Toml.Document

namespace PayloadLedger

/-!
Settings.

Settings come from three sources: what the environment sets counts over what the settings
file sets, and that over the defaults.  The event log and the notifications are off unless
there are settings for them.
-/

/-- Where the records of payloads are kept, and how they are read. -/
structure StateSettings where
  url : String := "sqlite://flowstate.db"
  maxConnections : Nat := 5
  /-- Rows fetched by one statement of a scan. -/
  scanPageSize : Nat := 100
  deriving DecidableEq, Repr

/-- Where events are kept, and whether invalid ones are reported. -/
structure EventSettings where
  url : String
  strict : Bool := false
  deriving DecidableEq, Repr

/-- Where notices are sent. -/
structure NoticeSettings where
  server : String
  stream : String := "flowstate:workflow-events"
  deriving DecidableEq, Repr

/-- The settings of the service. -/
structure Settings where
  state : StateSettings := {}
  events : Option EventSettings := none
  notices : Option NoticeSettings := none
  /-- Types of errors about the input. -/
  invalidErrorTypes : List String := ["InvalidInput", "stactask.exceptions.InvalidInput"]
  /-- The largest page. -/
  queryLimitCap : Nat := 1000
  deriving DecidableEq, Repr

namespace Settings

/-- Why there are no settings. -/
inductive Fault
  /-- The settings file is not there. -/
  | missingFile
  /-- The settings file is no document. -/
  | malformedFile
  /-- A setting cannot be taken as the kind that is wanted. -/
  | wrongType
  /-- A setting with parts has another form, or lacks a part. -/
  | wrongForm
  deriving DecidableEq, Repr

inductive File
  /-- None is asked for. -/
  | unasked
  | missing
  | text (contents : String)
  deriving DecidableEq, Repr

/-! ## Parts of settings -/

/-- The parts of a setting: entries by name, or items in order. -/
def partOf (setting : Setting) : Except Fault (String → Nat → Option Setting) :=
  match setting with
  | .table entries => .ok fun name _ => entries.lookup name
  | .list items => .ok fun _ index => items[index]?
  | _ => .error .wrongForm

/-- What `read?` makes of a part, or `absent` if the part is not there. -/
def partOr (absent : α) (read? : Setting → Option α) (part : Option Setting) : Except Fault α :=
  match part with
  | none => .ok absent
  | some setting => match read? setting with
    | some value => .ok value
    | none => .error .wrongType

/-- A text that has to be there. -/
def neededText (part : Option Setting) : Except Fault String :=
  match part with
  | none => .error .wrongForm
  | some setting => match setting.text? with
    | some value => .ok value
    | none => .error .wrongType

/-- What `read` makes of a part, unless it is not there or nothing. -/
def optionalPart (read : Setting → Except Fault α) (part : Option Setting) :
    Except Fault (Option α) :=
  match part with
  | none | some .nothing => .ok none
  | some setting => some <$> read setting

/-- A count that fits in 32 bits. -/
def smallCount? (setting : Setting) : Option Nat :=
  setting.count?.filter (· < 0x100000000)

def readState (setting : Setting) : Except Fault StateSettings := do
  let part ← partOf setting
  let default : StateSettings := {}
  return {
    url := ← partOr default.url Setting.text? (part "url" 0)
    maxConnections := ← partOr default.maxConnections smallCount? (part "max_connections" 1)
    scanPageSize := ← partOr default.scanPageSize Setting.count? (part "scan_page_size" 2) }

/-- The settings for events.  Parts that are there are read before one that is needed is
missed. -/
def readEvents (setting : Setting) : Except Fault EventSettings := do
  let part ← partOf setting
  let strict ← partOr false Setting.flag? (part "strict" 1)
  return { url := ← neededText (part "url" 0), strict }

def readNotices (setting : Setting) : Except Fault NoticeSettings := do
  let part ← partOf setting
  let stream ← partOr "flowstate:workflow-events" Setting.text? (part "stream" 1)
  return { server := ← neededText (part "redis_url" 0), stream }

def readTexts (setting : Setting) : Except Fault (List String) :=
  match setting with
  | .list items => items.mapM fun item => partOr "" Setting.text? (some item)
  | _ => .error .wrongForm

def read (setting : Setting) : Except Fault Settings := do
  let part ← partOf setting
  let default : Settings := {}
  return {
    state := ← (part "state_db" 0).elim (.ok default.state) readState
    events := ← optionalPart readEvents (part "event_db" 1)
    notices := ← optionalPart readNotices (part "notifications" 2)
    invalidErrorTypes :=
      ← (part "invalid_error_types" 3).elim (.ok default.invalidErrorTypes) readTexts
    queryLimitCap := ← partOr default.queryLimitCap Setting.count? (part "query_limit_cap" 4) }

/-! ## Sources -/

/-- The named values of a settings file. -/
def ofFile (file : File) : Except Fault (List (String × Setting)) :=
  match file with
  | .unasked => .ok []
  | .missing => .error .missingFile
  | .text contents => match Toml.ofText? contents with
    | some values => .ok values
    | none => .error .malformedFile

/-- The settings that a file and an environment give. -/
def load (file : File) (environment : List (String × String)) : Except Fault Settings := do
  let values ← ofFile file
  read (Setting.putPaths (values ++ Setting.ofEnvironment environment) (.table []))

end Settings

end PayloadLedger
