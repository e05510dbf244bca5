import PayloadLedger.CommandLine.Help
import PayloadLedger.Decimal.Nearest
import PayloadLedger.Query

namespace PayloadLedger
namespace CommandLine

/-!
The commands of the service.

A command records something about a payload, asks for records, or asks for counts.
-/

/-- What a caller asks for. -/
inductive Command
  /-- Record the status change of an event, read from a file or from standard input. -/
  | updateState (event : String)
  | announce (event : EventType) (payloadId : String) (execution error payloadUrl : Option String)
      (outputs : Option (List String)) (timestamp : Option String)
  | get (payloadIds : List String)
  | query (partition : String) (filter : Filter) (limit : Nat) (token : Option String)
  | count (partition : String) (filter : Filter) (limit : Option Nat)
  | summary (partition : String) (since : Option String) (limit : Option Nat)
  /-- Count events in buckets of one span over another span. -/
  | stats (bucket duration : String)
  | metrics
  deriving Repr

/-- A command and the settings file to use. -/
structure Invocation where
  settingsFile : Option String
  command : Command
  deriving Repr

/-- What the words of a caller come to. -/
inductive Reading
  | command (invocation : Invocation)
  /-- The words do not fit any command. -/
  | misuse
  | help (text : String)

/-! ## Forms -/

def count? (word : String) : Option Nat :=
  if word.toList.head? = some '-' then none
  else (Decimal.wholeWithin? 0 0xFFFFFFFFFFFFFFFF word.toList).map Int.toNat

/-- A word for a count. -/
def isCount (word : String) : Bool :=
  (count? word).isSome

def sharedParameters : List Parameter :=
  [{ name := "config", letter := some 'c', placeholder := some "CONFIG", rank := 0
     help := "Settings file (TOML); FLOWSTATE__* environment variables override it"
     accepts := fun path => !path.isEmpty },
    { name := "json", rank := 1, help := "Emit logs as JSON" }]

/-- What stands before the name of a command. -/
def sharedForm : Form where
  name := ""
  about := "Workflow state tracking and event fan-out"
  parameters := sharedParameters

/-- A form with the parameters of every command. -/
def form (name about : String) (operands : List Operand) (parameters : List Parameter) : Form where
  name := name
  about := about
  parameters := parameters ++ sharedParameters
  operands := operands

def textParameter (rank : Nat) (name placeholder help : String) : Parameter :=
  { name, placeholder := some placeholder, help, rank }

def limitParameter (rank : Nat) : Parameter :=
  { name := "limit", placeholder := some "LIMIT", accepts := isCount, rank }

def filterParameters : List Parameter :=
  [{ textParameter 0 "state" "STATE" "Only records in this state" with
      accepts := fun name => (State.ofName? name).isSome },
    textParameter 1 "since" "SINCE" "Only records updated within this window, e.g. 6h or 2d",
    textParameter 2 "error-prefix" "ERROR_PREFIX"
      "Only records whose last error starts with this"]

def partitionOperand : Operand := { placeholder := "COLLECTIONS_WORKFLOW" }

/-- The form for recording a status change. -/
def updateStateForm : Form :=
  form "update-state" "Apply an engine status-change event" []
    [{ textParameter 0 "event" "EVENT" "Path to the event JSON, or - for stdin" with
        standard := some "-" }]

def announceForm : Form :=
  form "announce" "Announce a single workflow event"
    [{ placeholder := "EVENT_TYPE", help := "Event type, e.g. CLAIMED_PROCESSING or FAILED"
       accepts := fun name => (EventType.ofName? name).isSome },
      { placeholder := "PAYLOAD_ID" }]
    [textParameter 0 "execution" "EXECUTION" "", textParameter 1 "error" "ERROR" "",
      textParameter 2 "payload-url" "PAYLOAD_URL" "",
      { textParameter 3 "outputs" "OUTPUTS" "Output item references recorded on success" with
        repeats := true },
      textParameter 4 "timestamp" "TIMESTAMP" "Transition time (RFC 3339, UTC); defaults to now"]

def getForm : Form :=
  form "get" "Fetch state records by payload id"
    [{ placeholder := "PAYLOAD_IDS", repeats := true }] []

def queryForm : Form :=
  form "query" "List records in one collections/workflow partition"
    [{ partitionOperand with help := "Partition key, \x60<collections>_<workflow>\x60" }]
    (filterParameters ++
      [{ textParameter 3 "sort-index" "SORT_INDEX" "default, state_updated or updated" with
          standard := some "updated", accepts := fun name => (SortIndex.ofName? name).isSome },
        { name := "ascending", rank := 4 },
        { limitParameter 5 with standard := some "100" },
        textParameter 6 "nextkey" "NEXTKEY" "Cursor returned by a previous page"])

def countForm : Form :=
  form "count" "Count records in a partition, capped at --limit" [partitionOperand]
    (filterParameters ++ [limitParameter 3])

/-- The form for counting records state by state. -/
def summaryForm : Form :=
  form "summary" "Per-state counts for a partition" [partitionOperand]
    [textParameter 0 "since" "SINCE" "", limitParameter 1]

/-- The form for counting events. -/
def statsForm : Form :=
  form "stats" "Transition counts from the event log" []
    [{ textParameter 0 "bucket" "BUCKET" "Bucket width, e.g. 1h" with standard := some "1h" },
      { textParameter 1 "duration" "DURATION" "Window length, e.g. 1d" with
        standard := some "1d" }]

def metricsForm : Form :=
  form "metrics" "Print Prometheus metrics for this process" [] []

/-! ## Reading commands -/

def filterOf (given : Given) : Filter where
  state := (given.value? "state").bind State.ofName?
  since := given.value? "since"
  errorStart := given.value? "error-prefix"

def partitionOf (given : Given) : String :=
  (given.value? partitionOperand.placeholder).getD ""

def limitOf (given : Given) : Option Nat :=
  (given.value? "limit").bind count?

/-- The parts of a list that is divided by commas. -/
def commaParts : List Char → List Char → List String
  | part, [] => [String.ofList part.reverse]
  | part, c :: rest =>
      if c = ',' then String.ofList part.reverse :: commaParts [] rest
      else commaParts (c :: part) rest

/-- The outputs that were given, each value being a list of them. -/
def outputsOf (given : Given) : Option (List String) :=
  if given.has "outputs" then
    some ((given.values "outputs").flatMap fun value => commaParts [] value.toList)
  else none

/-- The forms of all commands, with the commands that given values make of them.  Values
have been accepted by the form, so the replacements for unreadable ones are never used. -/
def commands : List (Form × (Given → Command)) :=
  [(updateStateForm, fun given => .updateState ((given.value? "event").getD "-")),
    (announceForm, fun given => .announce
      (((given.value? "EVENT_TYPE").bind EventType.ofName?).getD .failed)
      ((given.value? "PAYLOAD_ID").getD "")
      (given.value? "execution") (given.value? "error") (given.value? "payload-url")
      (outputsOf given) (given.value? "timestamp")),
    (getForm, fun given => .get (given.values "PAYLOAD_IDS")),
    (queryForm, fun given => .query (partitionOf given)
      { filterOf given with
        order := ((given.value? "sort-index").bind SortIndex.ofName?).getD .updated
        ascending := given.has "ascending" }
      ((limitOf given).getD 100) (given.value? "nextkey")),
    (countForm, fun given => .count (partitionOf given) (filterOf given) (limitOf given)),
    (summaryForm, fun given => .summary (partitionOf given) (given.value? "since") (limitOf given)),
    (statsForm, fun given => .stats ((given.value? "bucket").getD "1h")
      ((given.value? "duration").getD "1d")),
    (metricsForm, fun _ => .metrics)]

/-- The form and the command of a name. -/
def command? (name : String) : Option (Form × (Given → Command)) :=
  commands.find? fun command => command.1.name = name

/-- Help for all commands. -/
def overview : String :=
  Form.overview sharedForm (commands.map Prod.fst)

/-- Help for the command that words name, or for all commands where there are no words. -/
def helpFor (words : List String) : Reading :=
  match words with
  | [] => .help overview
  | [name] => match command? name with
    | some (form, _) => .help form.help
    | none => .misuse
  | _ => .misuse

/-- Read the words of a caller.  A settings file may be given before or behind the name of
the command, and behind it counts more. -/
def Reading.ofWords (words : List String) : Reading :=
  match sharedForm.read false [] words with
  | .error .misuse | .ok (_, []) => .misuse
  | .error .help => .help overview
  | .ok (shared, name :: words) =>
      if name = "help" then helpFor words
      else match command? name with
        | none => .misuse
        | some (form, make) =>
            match form.readAll words with
            | .error .misuse => .misuse
            | .error .help => .help form.help
            | .ok given =>
                .command ⟨(given.value? "config").or (shared.value? "config"), make given⟩

end CommandLine
end PayloadLedger
