import PayloadLedger.Proofs.Engine.Resolution
import PayloadLedger.Proofs.Ledger.Sinks
import PayloadLedger.Proofs.Store.History

namespace PayloadLedger
namespace Ledger

/-!
From the end of an execution to the record of its payload.

What the engine reports is judged, announced and written.  The record that is written carries the
judgement, whatever the ledger went through before.
-/

/-! ## Announced changes -/

/-- What an event asks of the store. -/
def changeOf (event : EventType) (announcement : Announcement) : Option Change :=
  match event with
  | .claimedProcessing => announcement.execution.map .claim
  | .startedProcessing => announcement.execution.map .start
  | .succeeded => some (.complete announcement.outputs)
  | .failed | .timedOut => some (.fail (announcement.error.getD ""))
  | .invalid => some (.invalidate (announcement.error.getD ""))
  | .aborted => some .abort
  | .alreadyInvalid | .alreadyProcessing | .alreadyCompleted | .duplicateIdEncountered
  | .recordExtractFailed | .notAProcessPayload => none

theorem writeState_eq_perform {event : EventType} {announcement : Announcement} {change : Change}
    (asked : changeOf event announcement = some change) (store : Store) (key : Key)
    (moment : Time.Instant) :
    let reply := store.perform ⟨key, moment, change⟩
    writeState store event key announcement moment =
      (reply.result.mapError EventError.store, reply.after, reply.samples) := by
  cases event with
  | claimedProcessing =>
      rcases Option.map_eq_some_iff.mp asked with ⟨execution, given, rfl⟩
      simp only [writeState, given]
      rfl
  | startedProcessing =>
      rcases Option.map_eq_some_iff.mp asked with ⟨execution, given, rfl⟩
      simp only [writeState, given]
      rfl
  | succeeded => cases asked; rfl
  | failed => cases asked; rfl
  | timedOut => cases asked; rfl
  | invalid => cases asked; rfl
  | aborted => cases asked; rfl
  | _ => cases asked

theorem writeState_unasked {event : EventType} {announcement : Announcement}
    (unasked : changeOf event announcement = none) (store : Store) (key : Key)
    (moment : Time.Instant) :
    (writeState store event key announcement moment).2 = (store, []) := by
  cases event with
  | claimedProcessing =>
      have missing := Option.map_eq_none_iff.mp unasked
      simp only [writeState, missing]
  | startedProcessing =>
      have missing := Option.map_eq_none_iff.mp unasked
      simp only [writeState, missing]
  | succeeded => cases unasked
  | failed => cases unasked
  | timedOut => cases unasked
  | invalid => cases unasked
  | aborted => cases unasked
  | _ => rfl

/-- What an event asks for that ends the work on its payload. -/
structure Ends (change : Change) (state : State) (announcement : Announcement) : Prop where
  target : change.target = some state
  allowed : ∀ account, change.isRefused account = false
  message : change.message? = if state.carriesError then some (announcement.error.getD "") else none
  outputs : change.outputs? = if state = .completed then announcement.outputs else none

theorem changeOf_ends {event : EventType} {state : State} (target : event.target = some state)
    (terminal : state.isTerminal = true) (announcement : Announcement) :
    ∃ change, changeOf event announcement = some change ∧ Ends change state announcement := by
  cases event with
  | claimedProcessing => cases target; cases terminal
  | startedProcessing => cases target; cases terminal
  | succeeded => cases target; exact ⟨_, rfl, rfl, fun _ => rfl, rfl, rfl⟩
  | failed => cases target; exact ⟨_, rfl, rfl, fun _ => rfl, rfl, rfl⟩
  | timedOut => cases target; exact ⟨_, rfl, rfl, fun _ => rfl, rfl, rfl⟩
  | invalid => cases target; exact ⟨_, rfl, rfl, fun _ => rfl, rfl, rfl⟩
  | aborted => cases target; exact ⟨_, rfl, rfl, fun _ => rfl, rfl, rfl⟩
  | _ => cases target

/-- An accepted announcement of an end is answered with the record that it leaves. -/
theorem announce_ends {ledger : Ledger} {accounts : Accounts}
    (holds : ledger.store.Holds accounts) {event : EventType} {announcement : Announcement}
    {payloadId : String} {key : Key} (accepted : accept announcement = .ok (payloadId, key))
    (decoded : key.IsDecoded) {change : Change}
    (asked : changeOf event announcement = some change) {state : State}
    (ends : Ends change state announcement) {now moment : Time.Instant}
    (happened : announcement.time.getD now = moment) (storable : moment.IsStorable) :
    let record := (change.write state moment ((accounts key).getD (.blank moment))).record key
    let announced := ledger.announce event announcement now
    announced.1 = .ok (some record) ∧ (announced.2.store.get key).result = .ok (some record) := by
  intro record announced
  have proper : Step.IsProper ⟨key, moment, change⟩ := ⟨decoded, storable⟩
  have follows := holds.perform proper
  have next : change.next moment (accounts key) =
      some (change.write state moment ((accounts key).getD (.blank moment))) :=
    Change.next_of_target ends.target (ends.allowed _) moment
  have answered : (ledger.store.perform ⟨key, moment, change⟩).result = .ok (some record) := by
    rw [follows.result, Accounts.answer]
    simp only [ends.allowed, next]
    rfl
  have written : writeState ledger.store event key announcement moment =
      (.ok (some record), (ledger.store.perform ⟨key, moment, change⟩).after,
        (ledger.store.perform ⟨key, moment, change⟩).samples) := by
    rw [writeState_eq_perform asked, answered]
    rfl
  have got := follows.after.get_result key
  rw [Accounts.after, Accounts.set_self, next, Option.map_some] at got
  subst happened
  rcases announce_of_written accepted written with ⟨answer, store⟩
  exact ⟨answer, store ▸ got⟩

/-! ## Applied status changes -/

theorem isTerminal_of_judges {resolver : Engine.Resolver} {change : Engine.StatusChange}
    {state : State} {error : Option String} (judges : resolver.Judges change state error) :
    state.isTerminal = true := by
  cases judges with
  | succeeded => rfl
  | aborted => rfl
  | invalid => rfl
  | failed => rfl

/-- An error is judged exactly for the states that carry one. -/
theorem error_of_judges {resolver : Engine.Resolver} {change : Engine.StatusChange}
    {state : State} {error : Option String} (judges : resolver.Judges change state error) :
    (if state.carriesError then some (error.getD "") else none) = error := by
  cases judges with
  | succeeded => rfl
  | aborted => rfl
  | invalid => rfl
  | failed => rfl

/-- What is announced of a status change that is resolved. -/
def announcementOf (change : Engine.StatusChange) (resolution : Engine.Resolution) : Announcement where
  payloadId := some change.payloadId
  execution := some change.execution
  error := resolution.error
  outputs := if resolution.event = .succeeded then change.outputRefs else none
  payloadUrl := change.payloadUrl

theorem apply_eq_announce {resolver : Engine.Resolver} {change : Engine.StatusChange}
    {resolution : Engine.Resolution} (resolved : resolver.resolve change = .ok resolution)
    (ledger : Ledger) (now : Time.Instant) :
    ledger.apply resolver change now =
      ledger.announce resolution.event (announcementOf change resolution) now := by
  simp only [apply, resolved]
  rfl

theorem accept_announcementOf {change : Engine.StatusChange} {key : Key}
    (decoded : Key.decode change.payloadId = .ok key) (resolution : Engine.Resolution) :
    accept (announcementOf change resolution) = .ok (change.payloadId, key) := by
  simp only [accept, announcementOf, decoded]
  rfl

theorem apply_judged {ledger : Ledger} {accounts : Accounts} (holds : ledger.store.Holds accounts)
    {resolver : Engine.Resolver} {change : Engine.StatusChange} {resolution : Engine.Resolution}
    (resolved : resolver.resolve change = .ok resolution)
    (judges : resolver.Judges change resolution.state resolution.error)
    (target : resolution.event.target = some resolution.state) {key : Key}
    (decoded : Key.decode change.payloadId = .ok key) {now : Time.Instant}
    (storable : now.IsStorable) :
    ∃ record, (ledger.apply resolver change now).1 = .ok (some record) ∧
      ((ledger.apply resolver change now).2.store.get key).result = .ok (some record) ∧
      record.updated = now.kept ∧ resolver.Judges change record.state record.lastError ∧
      (record.state = .completed → record.outputs =
        change.outputRefs.or (Record.outputsOf ((accounts key).map (Account.record key)))) := by
  have accepted := accept_announcementOf decoded resolution
  rcases changeOf_ends target (isTerminal_of_judges judges) (announcementOf change resolution) with
    ⟨request, asked, ends⟩
  have announced := announce_ends holds accepted ⟨_, decoded⟩ asked ends rfl storable
  rw [apply_eq_announce resolved]
  refine ⟨_, announced.1, announced.2, rfl, ?_, ?_⟩
  · have error : request.message? = resolution.error := by
      rw [ends.message]
      exact error_of_judges judges
    change resolver.Judges change resolution.state request.message?
    rw [error]
    exact judges
  · intro completed
    have finished : resolution.state = .completed := completed
    have event : resolution.event = .succeeded := by
      rw [finished] at target
      cases resolved : resolution.event with
      | succeeded => rfl
      | _ => rw [resolved] at target; cases target
    have outputs : request.outputs? = change.outputRefs := by
      rw [ends.outputs, if_pos finished]
      exact if_pos event
    rw [Record.outputsOf_account]
    change request.outputs?.or ((accounts key).getD (.blank now)).outputs = _
    rw [outputs]
    cases accounts key <;> rfl

/-- The end of an execution, from the engine's report to the record.  On every store that a run of
proper steps reaches, a status that the engine does not use for an end is refused, with nothing
changed, and only such a status is.  Any other is answered with the new record of the payload, which
carries the judgement and the time that is kept of the clock's, cut to microseconds.  The history
matters only to a failure that comes without an error, and one that cannot be read is like none.  The
clock never shows a time before 1970, so that it is storable up to the year 9999. -/
theorem apply_resolves (sliceSize limitCap : Nat) (steps : List Step)
    (proper : ∀ step ∈ steps, step.IsProper) (sinks : EventLog × Option Publisher)
    (metrics : Metrics) (resolver : Engine.Resolver) (change : Engine.StatusChange) {key : Key}
    (decoded : Key.decode change.payloadId = .ok key) {now : Time.Instant}
    (storable : now.IsStorable) :
    let words := ["SUCCEEDED", "FAILED", "ABORTED", "TIMED_OUT"]
    let ledger : Ledger := ⟨(Store.empty sliceSize limitCap).run steps, sinks.1, sinks.2, metrics⟩
    let applied := ledger.apply resolver change now
    (applied = (.error (.unsupportedStatus change.status), ledger) ↔ change.status ∉ words) ∧
    (change.status ∈ words → ∃ before record,
      (ledger.store.get key).result = .ok before ∧ applied.1 = .ok (some record) ∧
      (applied.2.store.get key).result = .ok (some record) ∧ record.updated = now.kept ∧
      resolver.Judges change record.state record.lastError ∧
      (record.state = .completed →
        record.outputs = change.outputRefs.or (Record.outputsOf before))) ∧
    (∀ history, change.status ≠ "FAILED" ∨ change.error.isSome = true →
      ledger.apply { resolver with history } change now = applied) ∧
    ledger.apply { resolver with history := .unavailable } change now =
      ledger.apply { resolver with history := .absent } change now := by
  intro words ledger applied
  have holds : ledger.store.Holds _ := (Store.empty_holds sliceSize limitCap).run proper
  refine ⟨?_, ?_, ?_, rfl⟩
  · rcases resolver.resolve_cases change with
      ⟨foreign, refused⟩ | ⟨member, resolution, resolved, judges, target⟩
    · have same : applied = (.error (.unsupportedStatus change.status), ledger) := by
        simp only [applied, apply, refused]
      exact ⟨fun _ => foreign, fun _ => same⟩
    · rcases apply_judged holds resolved judges target decoded storable with ⟨record, answered, _⟩
      constructor
      · intro refused
        change applied.1 = _ at answered
        rw [refused] at answered
        cases answered
      · intro foreign
        exact absurd member foreign
  · intro member
    rcases resolver.resolve_cases change with
      ⟨foreign, _⟩ | ⟨_, resolution, resolved, judges, target⟩
    · exact absurd member foreign
    · rcases apply_judged holds resolved judges target decoded storable with ⟨record, facts⟩
      exact ⟨_, record, holds.get_result key, facts⟩
  · intro history looked
    simp only [applied, apply, Engine.Resolver.resolve_withHistory looked history]

/-- A failure comes without an error, and the history records one about the input. -/
theorem apply_resolves_recorded :
    let key : Key := ⟨"c_w", "a"⟩
    let steps : List Step := [⟨key, ⟨0, 0⟩, .claim "one"⟩]
    let failure : Engine.ExecutionError := ⟨some "task.InvalidInput", none⟩
    let resolver : Engine.Resolver := ⟨["BadRequest"], .kept fun _ => some failure⟩
    let change : Engine.StatusChange := ⟨"one", "c/workflow-w/a", "FAILED", none, none, none⟩
    let ledger : Ledger := ⟨(Store.empty 100 1000).run steps, .disabled, none, []⟩
    (∀ step ∈ steps, step.IsProper) ∧ Key.decode change.payloadId = .ok key ∧
      (⟨1, 0⟩ : Time.Instant).IsStorable ∧
      ∃ record, (ledger.apply resolver change ⟨1, 0⟩).1 = .ok (some record) ∧
        record.state = .invalid ∧ record.lastError = some "task.InvalidInput: unknown" := by
  intro key steps failure resolver change ledger
  have decoded : Key.decode "c/workflow-w/a" = .ok key := rfl
  have storable : (⟨1, 0⟩ : Time.Instant).IsStorable := by decide
  have proper : ∀ step ∈ steps, step.IsProper := by
    intro step member
    rw [List.mem_singleton.mp member]
    exact ⟨⟨_, decoded⟩, by decide⟩
  refine ⟨proper, decoded, storable, ?_⟩
  rcases (apply_resolves 100 1000 steps proper (.disabled, none) [] resolver change decoded
    storable).2.1 (by decide) with ⟨before, record, _, answered, _, _, judges, _⟩
  have only : ∀ other, resolver.Fails change other → other = failure := by
    intro other fails
    cases fails with
    | ranOut status => exact absurd status (by decide)
    | told status told => cases told
    | recorded status silent kept found =>
        cases kept
        exact (Option.some.inj found).symm
    | unknown status silent unrecorded => cases unrecorded _ rfl
  refine ⟨record, answered, ?_⟩
  generalize record.state = state at judges ⊢
  generalize record.lastError = error at judges ⊢
  cases judges with
  | succeeded status => exact absurd status (by decide)
  | aborted status => exact absurd status (by decide)
  | invalid fails about =>
      cases only _ fails
      exact ⟨rfl, by decide⟩
  | failed fails other =>
      cases only _ fails
      have about : resolver.IsAboutInput "task.InvalidInput" := .last (show _ = "task" ++ _ from rfl)
      exact absurd about other

end Ledger
end PayloadLedger
