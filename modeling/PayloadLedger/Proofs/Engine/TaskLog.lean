import PayloadLedger.Engine.TaskLog
import PayloadLedger.Proofs.Engine.Restating
import PayloadLedger.Proofs.Json.Depth
import PayloadLedger.Proofs.Steps

namespace PayloadLedger
namespace Engine
namespace TaskLog

/-!
Where the log of a failed task is found.

The log is looked for from the outside in: the cause of the error, the last attempt that the cause
lists, the container of that attempt, and the log stream that the container names.  The first of
these that is missing is the fault.  From the last attempt on nothing else is looked at, so that two
errors that lead to the same last attempt have the same log.
-/

/-! ## The pieces -/

/-- The error has this cause, which is embedded or given in some text. -/
inductive HasCause (error : Json) : Json → Prop
  | embedded {cause : Json} (given : error.field? "Cause" = some cause) (present : cause ≠ .null)
      (plain : ∀ text, cause ≠ .string text) : HasCause error cause
  | text {text : String} {cause : Json} (given : error.field? "Cause" = some (.string text))
      (read : Json.ofText? text = .ok cause) : HasCause error cause

/-- The error has no cause: there is nothing in its place, or a text that cannot be read. -/
inductive LacksCause (error : Json) : LogFault → Prop
  | missing (nothing : ∀ cause, error.field? "Cause" = some cause → cause = .null) :
      LacksCause error .missingCause
  | malformed {text : String} {reason : Json.ReadError}
      (given : error.field? "Cause" = some (.string text))
      (unread : Json.ofText? text = .error reason) : LacksCause error (.malformedCause reason)

/-- The attempt is the last one that the cause lists. -/
def ListsLast (cause attempt : Json) : Prop :=
  ∃ earlier, cause.field? "Attempts" = some (.array (earlier ++ [attempt]))

/-- The attempt has this container. -/
structure HasContainer (attempt container : Json) : Prop where
  given : attempt.field? "Container" = some container
  present : container ≠ .null

/-- The container names this log stream. -/
structure NamesStream (container : Json) (stream : String) : Prop where
  given : container.field? "LogStreamName" = some (.string stream)
  named : stream ≠ ""

/-- The cause of the error lists this attempt as its last. -/
inductive LeadsTo (error attempt : Json) : Prop
  | last {cause : Json} (caused : HasCause error cause) (listed : ListsLast cause attempt) :
      LeadsTo error attempt

/-- A log is located by all four pieces, or the first piece that is missing is the fault. -/
inductive Locating (error : Json) : Except LogFault TaskLog → Prop
  | withoutCause {fault : LogFault} (lacking : LacksCause error fault) :
      Locating error (.error fault)
  | emptyAttempts {cause : Json} (caused : HasCause error cause)
      (missing : ∀ attempt, ¬ ListsLast cause attempt) : Locating error (.error .emptyAttempts)
  | missingContainer {attempt : Json} (led : LeadsTo error attempt)
      (missing : ∀ container, ¬ HasContainer attempt container) :
      Locating error (.error .missingContainer)
  | missingLogStream {attempt container : Json} (led : LeadsTo error attempt)
      (held : HasContainer attempt container)
      (missing : ∀ stream, ¬ NamesStream container stream) :
      Locating error (.error .missingLogStream)
  | located {attempt container : Json} {stream : String} (led : LeadsTo error attempt)
      (held : HasContainer attempt container) (named : NamesStream container stream) :
      Locating error (.ok {
        stream
        containerReason := text? container "Reason"
        statusReason := text? attempt "StatusReason" })

/-! ## Looking for one piece -/

theorem text?_eq_some_iff {value : Json} {name text : String} :
    text? value name = some text ↔ value.field? name = some (.string text) := by
  rw [text?, Option.bind_eq_some_iff]
  constructor
  · rintro ⟨field, given, read⟩
    cases field with
    | string text =>
        cases read
        exact given
    | _ => cases read
  · intro given
    exact ⟨.string text, given, rfl⟩

theorem array?_eq_some_iff {value : Option Json} {items : List Json} :
    value.bind Json.array? = some items ↔ value = some (.array items) := by
  rw [Option.bind_eq_some_iff]
  constructor
  · rintro ⟨field, given, read⟩
    cases field with
    | array items =>
        cases read
        exact given
    | _ => cases read
  · intro given
    exact ⟨.array items, given, rfl⟩

/-- The only fault of a search is reported when there is nothing to be found. -/
theorem eq_error_iff_missing {result : Except LogFault α} {IsFound : α → Prop} {only : LogFault}
    (found : ∀ piece, result = .ok piece ↔ IsFound piece)
    (fails : ∀ fault, result = .error fault → fault = only) {fault : LogFault} :
    result = .error fault ↔ fault = only ∧ ∀ piece, ¬ IsFound piece := by
  constructor
  · intro failed
    refine ⟨fails fault failed, fun piece there => ?_⟩
    cases failed.symm.trans ((found piece).mpr there)
  · rintro ⟨rfl, missing⟩
    cases outcome : result with
    | ok piece => exact absurd ((found piece).mp outcome) (missing piece)
    | error fault => rw [fails fault outcome]

theorem causeOf_eq_ok_iff {error cause : Json} : causeOf error = .ok cause ↔ HasCause error cause := by
  constructor
  · intro found
    unfold causeOf at found
    split at found
    · cases found
    · cases found
    · next text given => exact .text given (ok_of_mapError_eq_ok found)
    · next cause present plain given =>
        cases found
        exact .embedded given present plain
  · intro caused
    unfold causeOf
    cases caused with
    | embedded given present plain =>
        rw [given]
        cases cause with
        | null => exact absurd rfl present
        | string text => exact absurd rfl (plain text)
        | _ => rfl
    | text given read =>
        rw [given]
        dsimp only
        rw [read]
        rfl

theorem causeOf_eq_error_iff {error : Json} {fault : LogFault} :
    causeOf error = .error fault ↔ LacksCause error fault := by
  constructor
  · intro failed
    unfold causeOf at failed
    split at failed
    · next absent =>
        cases failed
        exact .missing fun cause given => nomatch absent.symm.trans given
    · next null =>
        cases failed
        exact .missing fun cause given => Option.some.inj (given.symm.trans null)
    · next text given =>
        cases read : Json.ofText? text with
        | ok cause =>
            rw [read] at failed
            cases failed
        | error reason =>
            rw [read] at failed
            cases failed
            exact .malformed given read
    · cases failed
  · intro lacking
    unfold causeOf
    cases lacking with
    | missing nothing =>
        cases given : error.field? "Cause" with
        | none => rfl
        | some cause =>
            cases nothing cause given
            rfl
    | malformed given unread =>
        rw [given]
        dsimp only
        rw [unread]
        rfl

theorem lastAttempt_eq_ok_iff {cause attempt : Json} :
    lastAttempt cause = .ok attempt ↔ ListsLast cause attempt := by
  constructor
  · intro found
    unfold lastAttempt at found
    split at found
    · next last =>
        cases found
        rcases Option.bind_eq_some_iff.mp last with ⟨attempts, given, last⟩
        rcases List.getLast?_eq_some_iff.mp last with ⟨earlier, rfl⟩
        exact ⟨earlier, array?_eq_some_iff.mp given⟩
    · cases found
  · rintro ⟨earlier, given⟩
    simp only [lastAttempt, given, Option.bind_some, Json.array?, List.getLast?_concat]

theorem lastAttempt_eq_error_iff {cause : Json} {fault : LogFault} :
    lastAttempt cause = .error fault ↔
      fault = .emptyAttempts ∧ ∀ attempt, ¬ ListsLast cause attempt := by
  refine eq_error_iff_missing (fun _ => lastAttempt_eq_ok_iff) fun fault failed => ?_
  unfold lastAttempt at failed
  split at failed
  · cases failed
  · cases failed
    rfl

theorem containerOf_eq_ok_iff {attempt container : Json} :
    containerOf attempt = .ok container ↔ HasContainer attempt container := by
  constructor
  · intro found
    unfold containerOf at found
    split at found
    · cases found
    · cases found
    · next present given =>
        cases found
        exact ⟨given, present⟩
  · intro held
    unfold containerOf
    rw [held.given]
    cases container with
    | null => exact absurd rfl held.present
    | _ => rfl

theorem containerOf_eq_error_iff {attempt : Json} {fault : LogFault} :
    containerOf attempt = .error fault ↔
      fault = .missingContainer ∧ ∀ container, ¬ HasContainer attempt container := by
  refine eq_error_iff_missing (fun _ => containerOf_eq_ok_iff) fun fault failed => ?_
  unfold containerOf at failed
  split at failed
  · cases failed
    rfl
  · cases failed
    rfl
  · cases failed

theorem streamOf_eq_ok_iff {container : Json} {stream : String} :
    streamOf container = .ok stream ↔ NamesStream container stream := by
  constructor
  · intro found
    unfold streamOf at found
    split at found
    · next given =>
        split at found
        · cases found
        · next named =>
            cases found
            exact ⟨text?_eq_some_iff.mp given, named⟩
    · cases found
  · intro names
    rw [streamOf, text?_eq_some_iff.mpr names.given]
    exact if_neg names.named

theorem streamOf_eq_error_iff {container : Json} {fault : LogFault} :
    streamOf container = .error fault ↔
      fault = .missingLogStream ∧ ∀ stream, ¬ NamesStream container stream := by
  refine eq_error_iff_missing (fun _ => streamOf_eq_ok_iff) fun fault failed => ?_
  unfold streamOf at failed
  split at failed
  · split at failed
    · cases failed
      rfl
    · cases failed
  · cases failed
    rfl

/-! ## Looking for the log -/

/-- What is found from the last attempt. -/
def ofAttempt (attempt : Json) : Except LogFault TaskLog := do
  let container ← containerOf attempt
  let stream ← streamOf container
  return {
    stream
    containerReason := text? container "Reason"
    statusReason := text? attempt "StatusReason" }

theorem LeadsTo.ofError_eq {error attempt : Json} (led : LeadsTo error attempt) :
    ofError error = ofAttempt attempt := by
  rcases led with ⟨caused, listed⟩
  rw [ofError, causeOf_eq_ok_iff.mpr caused]
  simp only [bind, Except.bind, lastAttempt_eq_ok_iff.mpr listed]
  rfl

theorem Locating.ofError_eq {error : Json} {result : Except LogFault TaskLog}
    (locating : Locating error result) : ofError error = result := by
  cases locating with
  | withoutCause lacking =>
      rw [ofError, causeOf_eq_error_iff.mpr lacking]
      rfl
  | emptyAttempts caused missing =>
      rw [ofError, causeOf_eq_ok_iff.mpr caused]
      simp only [bind, Except.bind, lastAttempt_eq_error_iff.mpr ⟨rfl, missing⟩]
  | missingContainer led missing =>
      rw [led.ofError_eq, ofAttempt, containerOf_eq_error_iff.mpr ⟨rfl, missing⟩]
      rfl
  | missingLogStream led held missing =>
      rw [led.ofError_eq, ofAttempt, containerOf_eq_ok_iff.mpr held]
      simp only [bind, Except.bind, streamOf_eq_error_iff.mpr ⟨rfl, missing⟩]
  | located led held named =>
      rw [led.ofError_eq, ofAttempt, containerOf_eq_ok_iff.mpr held]
      simp only [bind, Except.bind, streamOf_eq_ok_iff.mpr named]
      rfl

theorem LeadsTo.unique {error attempt other : Json} (led : LeadsTo error attempt)
    (otherLed : LeadsTo error other) : attempt = other := by
  rcases led with ⟨caused, listed⟩
  rcases otherLed with ⟨otherCaused, otherListed⟩
  cases (causeOf_eq_ok_iff.mpr caused).symm.trans (causeOf_eq_ok_iff.mpr otherCaused)
  cases (lastAttempt_eq_ok_iff.mpr listed).symm.trans (lastAttempt_eq_ok_iff.mpr otherListed)
  rfl

theorem exists_locating (error : Json) : ∃ result, Locating error result := by
  cases cause : causeOf error with
  | error fault => exact ⟨_, .withoutCause (causeOf_eq_error_iff.mp cause)⟩
  | ok _ =>
      have caused := causeOf_eq_ok_iff.mp cause
      cases last : lastAttempt _ with
      | error fault => exact ⟨_, .emptyAttempts caused (lastAttempt_eq_error_iff.mp last).2⟩
      | ok attempt =>
          have led : LeadsTo error attempt := .last caused (lastAttempt_eq_ok_iff.mp last)
          cases container : containerOf attempt with
          | error fault => exact ⟨_, .missingContainer led (containerOf_eq_error_iff.mp container).2⟩
          | ok _ =>
              have held := containerOf_eq_ok_iff.mp container
              cases stream : streamOf _ with
              | error fault =>
                  exact ⟨_, .missingLogStream led held (streamOf_eq_error_iff.mp stream).2⟩
              | ok stream' => exact ⟨_, .located led held (streamOf_eq_ok_iff.mp stream)⟩

theorem ofError_eq_iff {error : Json} {result : Except LogFault TaskLog} :
    ofError error = result ↔ Locating error result := by
  constructor
  · rintro rfl
    rcases exists_locating error with ⟨result, locating⟩
    rwa [locating.ofError_eq]
  · exact Locating.ofError_eq

/-! ## Causes in their forms -/

/-- An object is the cause of an error in either form. -/
theorem HasCause.of_give {error : Json} {fields : List (String × Json)} (form : Form)
    (held : Json.IsHeld (Json.depthLimit - 1) (.object fields))
    (given : error.field? "Cause" = some (form.give (.object fields))) :
    HasCause error (.object fields) := by
  cases form with
  | embedded => exact .embedded given nofun nofun
  | text => exact .text given held.ofText?_render

/-- A cause in its compact form is malformed exactly if it is nested beyond the limit. -/
theorem malformedCause_iff {error cause : Json} {high : Nat} (held : Json.IsHeld high cause)
    (given : error.field? "Cause" = some (.string cause.render)) :
    (∃ reason, ofError error = .error (.malformedCause reason)) ↔
      ¬ Json.IsHeld (Json.depthLimit - 1) cause := by
  constructor
  · rintro ⟨reason, failed⟩ shallow
    cases ofError_eq_iff.mp failed with
    | withoutCause lacking =>
        cases lacking with
        | malformed other unread =>
            cases given.symm.trans other
            cases shallow.ofText?_render.symm.trans unread
  · intro deep
    rcases held.ofText?_render_of_deep deep with ⟨place, unread⟩
    exact ⟨_, ofError_eq_iff.mpr (.withoutCause (.malformed given unread))⟩

/-! ## The last attempt -/

/-- Of all log streams, only the one that the last attempt names is read. -/
theorem diagnose_congr {error : Json} {lastLine otherLastLine : String → LastLine}
    (same : ∀ attempt container stream, LeadsTo error attempt → HasContainer attempt container →
      NamesStream container stream → lastLine stream = otherLastLine stream) :
    diagnose error lastLine = diagnose error otherLastLine := by
  rcases exists_locating error with ⟨result, locating⟩
  rw [diagnose, diagnose, locating.ofError_eq]
  cases locating with
  | located led held named =>
      simp only [bind, Except.bind, same _ _ _ led held named]
  | _ => rfl

/-- The log of a failed task is located by the last attempt alone, whatever else the error and its
cause say and in whichever form the cause is given, or the first piece that is missing is told; and
no other log stream is read. -/
theorem located_by_last_attempt (error : Json) :
    (∀ result, ofError error = result ↔ Locating error result) ∧
      (∀ form fields, Json.IsHeld (Json.depthLimit - 1) (.object fields) →
        error.field? "Cause" = some (Form.give form (.object fields)) →
          HasCause error (.object fields)) ∧
      (∀ high cause, Json.IsHeld high cause →
        error.field? "Cause" = some (.string cause.render) →
          ((∃ reason, ofError error = .error (.malformedCause reason)) ↔
            ¬ Json.IsHeld (Json.depthLimit - 1) cause)) ∧
      (∀ other attempt, LeadsTo error attempt → LeadsTo other attempt →
        ofError other = ofError error ∧
          ∀ lastLine, diagnose other lastLine = diagnose error lastLine) ∧
      ∀ lastLine otherLastLine : String → LastLine,
        (∀ attempt container stream, LeadsTo error attempt → HasContainer attempt container →
          NamesStream container stream → lastLine stream = otherLastLine stream) →
        diagnose error lastLine = diagnose error otherLastLine := by
  refine ⟨fun _ => ofError_eq_iff, fun form _ => HasCause.of_give form, fun _ _ => malformedCause_iff,
    ?_, fun _ _ => diagnose_congr⟩
  intro other attempt led otherLed
  have same : ofError other = ofError error := otherLed.ofError_eq.trans led.ofError_eq.symm
  refine ⟨same, fun lastLine => ?_⟩
  rw [diagnose, diagnose, same]

/-- A task that ran twice, with its cause in text, and its second attempt alone. -/
theorem located_by_last_attempt_retried :
    let first := Json.object [("Container", .object [("LogStreamName", .string "first")])]
    let second := Json.object
      [("Container", .object [("LogStreamName", .string "second"), ("Reason", .string "killed")]),
        ("StatusReason", .string "failed")]
    let fields := [("Attempts", .array [first, second]), ("JobName", .string "é\n")]
    let error := Json.object
      [("Cause", .string (Json.object fields).render), ("Error", .string "States.TaskFailed")]
    let other := Json.object [("Cause", .object [("Attempts", .array [second])])]
    let lastLine := fun stream => LastLine.line (stream ++ ": last line")
    LeadsTo error second ∧ LeadsTo other second ∧
      ofError error = .ok ⟨"second", some "killed", some "failed"⟩ ∧
      ofError other = ofError error ∧
      diagnose error lastLine =
        diagnose error fun stream => if stream = "first" then .failed else lastLine stream := by
  intro first second fields error other lastLine
  have held : Json.IsHeld (Json.depthLimit - 1) (.object fields) := by decide
  have caused : HasCause error (.object fields) :=
    (located_by_last_attempt error).2.1 .text fields held rfl
  have led : LeadsTo error second := .last caused ⟨[first], rfl⟩
  have otherLed : LeadsTo other second := .last (.embedded rfl nofun nofun) ⟨[], rfl⟩
  refine ⟨led, otherLed, ?_, ?_, ?_⟩
  · exact led.ofError_eq.trans rfl
  · exact ((located_by_last_attempt error).2.2.2.1 other second led otherLed).1
  · apply (located_by_last_attempt error).2.2.2.2
    intro attempt container stream otherLed held names
    cases led.unique otherLed
    cases held.given
    cases names.given
    rfl

/-- A cause whose log is located where it is embedded, but that is nested too deep to be read from its
text. -/
theorem malformed_nested_cause :
    let cause := Json.object
      [("Attempts", .array [.object [("Container", .object [("LogStreamName", .string "s")])]]),
        ("deep", Nat.repeat (fun inner => .array [inner]) 127 .null)]
    ofError (.object [("Cause", cause)]) = .ok ⟨"s", none, none⟩ ∧
      ∃ place, ofError (.object [("Cause", .string cause.render)]) =
        .error (.malformedCause ⟨.recursionLimit, some place⟩) := by
  intro cause
  have held : Json.IsHeld Json.depthLimit cause := by decide +kernel
  have deep : ¬ Json.IsHeld (Json.depthLimit - 1) cause := by decide +kernel
  rcases held.ofText?_render_of_deep deep with ⟨place, unread⟩
  exact ⟨rfl, place, ofError_eq_iff.mpr (.withoutCause (.malformed rfl unread))⟩

end TaskLog
end Engine
end PayloadLedger
