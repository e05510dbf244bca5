import PayloadLedger.Lifecycle

namespace PayloadLedger

/-!
Counting what happens.

Every call on the ledger reports what it did as a list of samples, and the metrics are the
samples of all calls so far.  The text shown to a scraper counts equal samples.  A family
of series is shown once it has a sample; the count of refused claims is always shown.
-/

/-- The operations whose calls are counted. -/
inductive Operation
  | claim
  | start
  | complete
  | setOutputs
  | fail
  | invalidate
  | abort
  | get
  | getMany
  | query
  | count
  | delete
  | recordTransition
  | queryBucket
  | queryHour
  deriving DecidableEq, Repr

namespace Operation

def name : Operation → String
  | claim => "claim"
  | start => "start"
  | complete => "complete"
  | setOutputs => "set_outputs"
  | fail => "fail"
  | invalidate => "invalidate"
  | abort => "abort"
  | get => "get"
  | getMany => "get_many"
  | query => "query"
  | count => "count"
  | delete => "delete"
  | recordTransition => "record_transition"
  | queryBucket => "query_bucket"
  | queryHour => "query_hour"

/-- The label of the table that an operation works on. -/
def store : Operation → String
  | recordTransition | queryBucket | queryHour => "sqlite_events"
  | claim | start | complete | setOutputs | fail | invalidate | abort | get | getMany | query
  | count | delete => "sqlite"

end Operation

/-- What became of an event offered to the event log. -/
inductive LogOutcome
  | recorded
  | skipped
  | failed
  deriving DecidableEq, Repr

namespace LogOutcome

def name : LogOutcome → String
  | recorded => "recorded"
  | skipped => "skipped"
  | failed => "failed"

end LogOutcome

/-- One thing that is counted. -/
inductive Sample
  /-- A record was written in this state. -/
  | transition (state : State)
  /-- A claim was refused. -/
  | claimConflict
  /-- An operation ended. -/
  | operation (operation : Operation)
  /-- An operation ended with an error of this label. -/
  | storeError (operation : Operation) (label : String)
  /-- An event was offered to the event log. -/
  | logWrite (outcome : LogOutcome)
  /-- A message was handed to the publisher. -/
  | notification (event : EventType) (published : Bool)
  deriving DecidableEq, Repr

abbrev Metrics := List Sample

namespace Metrics

/-- How often a sample occurs. -/
def count (metrics : Metrics) (sample : Sample) : Nat :=
  List.count sample metrics

/-- Keep the first of equal samples. -/
def distinct : Metrics → Metrics
  | [] => []
  | sample :: rest => sample :: (distinct rest).filter (· ≠ sample)

/-- A family of series. -/
structure Family where
  name : String
  help : String
  kind : String
  /-- The labels of a sample of this family, sorted by name. -/
  labels : Sample → Option (List (String × String))
  /-- What is written behind the name of the family. -/
  suffix : String := ""
  /-- The family is shown without samples. -/
  always : Bool := false

/-- The families, sorted by name. -/
def families : List Family :=
  [{ name := "flowstate_claim_conflicts_total"
     help := "Claims rejected because the payload was already claimed or processing"
     kind := "counter"
     labels := fun
      | .claimConflict => some []
      | _ => none
     always := true },
    { name := "flowstate_event_log_writes_total"
      help := "Event log writes"
      kind := "counter"
      labels := fun
        | .logWrite outcome => some [("outcome", outcome.name)]
        | _ => none },
    { name := "flowstate_notifications_total"
      help := "Workflow event notifications"
      kind := "counter"
      labels := fun
        | .notification event published =>
            some [("event_type", event.name),
              ("outcome", if published then "published" else "failed")]
        | _ => none },
    { name := "flowstate_state_transitions_total"
      help := "State transitions written to the state store"
      kind := "counter"
      labels := fun
        | .transition state => some [("state", state.name)]
        | _ => none },
    { name := "flowstate_store_errors_total"
      help := "Store operation errors"
      kind := "counter"
      labels := fun
        | .storeError operation label =>
            some [("error_type", label), ("operation", operation.name),
              ("store_type", operation.store)]
        | _ => none },
    { name := "flowstate_store_operation_seconds"
      help := "Store operation duration"
      kind := "histogram"
      suffix := "_count"
      labels := fun
        | .operation operation =>
            some [("operation", operation.name), ("store_type", operation.store)]
        | _ => none }]

/-- The labels of one series come before those of another. -/
def labelsBefore : List (String × String) → List (String × String) → Bool
  | [], _ => true
  | _ :: _, [] => false
  | (_, first) :: others, (_, second) :: rest =>
      first < second || (first == second && labelsBefore others rest)

def labelText : List (String × String) → String
  | [] => ""
  | labels =>
      "\x7b" ++
        String.intercalate "," (labels.map fun label => label.1 ++ "=\"" ++ label.2 ++ "\"") ++
        "\x7d"

namespace Family

/-- The series of a family with their counts, sorted by their labels. -/
def series (family : Family) (metrics : Metrics) : List (List (String × String) × Nat) :=
  let found := (distinct metrics).filterMap fun sample =>
    (family.labels sample).map fun labels => (labels, metrics.count sample)
  let sorted := found.mergeSort fun one other => labelsBefore one.1 other.1
  if sorted.isEmpty && family.always then [([], 0)] else sorted

def lines (family : Family) (metrics : Metrics) : List String :=
  match family.series metrics with
  | [] => []
  | series =>
      ("# HELP " ++ family.name ++ " " ++ family.help) ::
        ("# TYPE " ++ family.name ++ " " ++ family.kind) ::
        series.map fun entry =>
          family.name ++ family.suffix ++ labelText entry.1 ++ " " ++ toString entry.2

end Family

/-- The lines shown to a scraper. -/
def lines (metrics : Metrics) : List String :=
  families.flatMap fun family => family.lines metrics

end Metrics

end PayloadLedger
