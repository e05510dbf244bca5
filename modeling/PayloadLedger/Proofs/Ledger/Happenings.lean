import PayloadLedger.Proofs.Ledger.Works
import PayloadLedger.Proofs.Metrics
import PayloadLedger.Proofs.Store.Reporting

namespace PayloadLedger

/-!
What the metrics tell.

What happens in a run is what its calls to the store, to the log and to the publisher are answered.
On a store that can be read the samples tell of these happenings one by one, in their order, so that
the counts shown to a scraper are the numbers of the calls.
-/

/-! ## Happenings -/

/-- What a call comes to, as its caller sees it. -/
inductive Happening
  /-- A transition was answered with a record in this state. -/
  | returned (state : State)
  /-- A claim was answered with who holds the payload. -/
  | refused
  /-- A transition was offered to a log that is kept. -/
  | offered
  /-- An announcement succeeded where there is a publisher. -/
  | told
  deriving DecidableEq, Repr

/-- What a sample tells of. -/
def Sample.tells : Sample → Option Happening
  | transition state => some (.returned state)
  | claimConflict => some .refused
  | logWrite _ => some .offered
  | notification _ _ => some .told
  | operation _ | storeError _ _ => none

namespace Metrics

/-- The happenings that some samples tell of. -/
def told (metrics : Metrics) : List Happening :=
  metrics.filterMap Sample.tells

variable (metrics : Metrics)

theorem told_append (one other : Metrics) : told (one ++ other) = told one ++ told other :=
  List.filterMap_append

theorem count_eq_countP {happening : Happening} {counts : Sample → Bool}
    (agree : ∀ sample, (sample.tells == some happening) = counts sample) :
    (told metrics).count happening = metrics.countP counts := by
  rw [told, List.count_filterMap, ← funext agree]

theorem count_returned (state : State) :
    (told metrics).count (.returned state) = metrics.count (.transition state) := by
  apply count_eq_countP
  intro sample
  cases sample with
  | transition other => cases other <;> cases state <;> rfl
  | _ => rfl

theorem count_refused : (told metrics).count .refused = metrics.count .claimConflict := by
  apply count_eq_countP
  intro sample
  cases sample <;> rfl

theorem countP_eq_add {counts one other : Sample → Bool}
    (splits : ∀ sample, (counts sample).toNat = (one sample).toNat + (other sample).toNat) :
    metrics.countP counts = metrics.countP one + metrics.countP other := by
  induction metrics with
  | nil => rfl
  | cons sample rest ih =>
      have once (holds : Bool) : (if holds = true then 1 else 0) = holds.toNat := by
        cases holds <;> rfl
      rw [List.countP_cons, List.countP_cons, List.countP_cons, once, once, once, ih, splits]
      omega

/-- A log records what it is offered, or skips it, or fails to record it. -/
theorem count_offered :
    (told metrics).count .offered = metrics.count (.logWrite .recorded) +
      metrics.count (.logWrite .skipped) + metrics.count (.logWrite .failed) := by
  have written : metrics.countP (fun sample =>
        sample == .logWrite .recorded || sample == .logWrite .skipped) =
      metrics.count (.logWrite .recorded) + metrics.count (.logWrite .skipped) := by
    apply countP_eq_add
    intro sample
    cases sample with
    | logWrite outcome => cases outcome <;> rfl
    | _ => rfl
  rw [told, List.count_filterMap, ← written]
  apply countP_eq_add
  intro sample
  cases sample with
  | logWrite outcome => cases outcome <;> rfl
  | _ => rfl

/-- A publisher takes what it is told or does not. -/
theorem count_told :
    (told metrics).count .told =
      metrics.countP (Sample.isNotification true) +
        metrics.countP (Sample.isNotification false) := by
  rw [told, List.count_filterMap]
  apply countP_eq_add
  intro sample
  cases sample with
  | notification event published => cases published <;> rfl
  | _ => rfl

theorem told_of_technical {samples : List Sample}
    (technical : ∀ sample ∈ samples, sample.isTechnical = true) : told samples = [] := by
  refine List.filterMap_eq_nil_iff.mpr fun sample member => ?_
  have tells := technical sample member
  cases sample with
  | operation operation => rfl
  | storeError operation label => rfl
  | _ => cases tells

theorem count_recorded_le :
    metrics.count (.logWrite .recorded) ≤ (told metrics).count .offered := by
  rw [count_offered, Nat.add_assoc]
  exact Nat.le_add_right _ _

end Metrics

/-! ## Calls and what happens in them -/

/-- What the answer to a step comes to: a transition that returned a record, or a claim that was
refused.  A step that is no transition comes to nothing. -/
def Step.happenings (step : Step) (result : Except StoreError (Option Record)) : List Happening :=
  match result with
  | .ok (some record) => if step.change.target.isSome then [.returned record.state] else []
  | .ok none => []
  | .error error => if step.change.isClaim && error.isAlreadyClaimed then [.refused] else []

/-- A step is never offered to a log. -/
theorem Step.offered_notMem (step : Step) (result : Except StoreError (Option Record)) :
    .offered ∉ step.happenings result := by
  unfold Step.happenings
  split
  · split <;> simp
  · simp
  · split <;> simp

theorem Store.Reports.told {store : Store} {step : Step} {reply : Reply Store (Option Record)}
    (reports : store.Reports step reply) :
    Metrics.told reply.samples = step.happenings reply.result := by
  cases reports with
  | refused claims conflict =>
      simp only [Step.happenings, claims, conflict]
      rfl
  | moved target readable operation =>
      simp only [Step.happenings, target]
      rfl
  | stayed target readable operation =>
      unfold Step.happenings
      split
      · rw [target]
        rfl
      · rfl
      · next same => cases same
  | lost operation =>
      have answered : StoreError.database.isAlreadyClaimed = false := rfl
      simp only [Step.happenings, answered, Bool.and_false]
      rfl

/-- A refused claim counts a conflict and no error. -/
theorem Store.Reports.samples_of_refused {store : Store} {step : Step}
    {reply : Reply Store (Option Record)} (reports : store.Reports step reply)
    (refused : .refused ∈ step.happenings reply.result) :
    reply.samples = [.operation .claim, .claimConflict, .operation .get] ∧
      ∃ error, reply.result = .error error := by
  rw [← reports.told] at refused
  cases reports with
  | refused claims conflict => exact ⟨rfl, _, rfl⟩
  | moved target readable operation => simp [Metrics.told, Sample.tells] at refused
  | stayed target readable operation => simp [Metrics.told, Sample.tells] at refused
  | lost operation => simp [Metrics.told, Sample.tells] at refused

theorem EventLog.countIn_isReading (log : EventLog) (operation : Operation)
    (window : Except StoreError Window) : (log.countIn operation window).IsReading log := by
  cases log with
  | disabled => exact ⟨rfl, nofun⟩
  | kept mode events => exact ⟨rfl, List.forall_mem_cons.mpr ⟨rfl, nofun⟩⟩

namespace Ledger

/-- What an announcement comes to at the store. -/
def storeHappenings (ledger : Ledger) (call : Call) : List Happening :=
  match call.step? with
  | none => []
  | some step => step.happenings (ledger.store.perform step).result

/-- What an announcement comes to at the log. -/
def logHappenings (ledger : Ledger) (call : Call) : List Happening :=
  if call.event.target.isSome && call.announcement.execution.isSome && ledger.log.isEnabled
    then [.offered] else []

/-- What an announcement comes to in all three places, of which the store comes first. -/
def callHappenings (ledger : Ledger) (call : Call) : List Happening :=
  ledger.storeHappenings call ++
    match ledger.answerTo call with
    | .error _ => []
    | .ok _ =>
        ledger.logHappenings call ++ if ledger.publisher.isSome then [.told] else []

/-- What one work comes to.  Nothing comes of a reading. -/
def happenings (ledger : Ledger) : Work → List Happening
  | .change step => step.happenings (ledger.store.perform step).result
  | .look _ => []
  | .record _ _ _ _ => if ledger.log.isEnabled then [.offered] else []
  | .request request now =>
      match request.call? now with
      | none => []
      | some call => ledger.callHappenings call

/-- What happens in a run, in order. -/
def happened (ledger : Ledger) : List Work → List Happening
  | [] => []
  | work :: works => ledger.happenings work ++ (ledger.after work).happened works

/-! ## What is told on the way -/

/-- The samples on the way from one ledger to another tell of what happened, and as many rows were
appended to the log as are counted. -/
structure Goes (before after : Ledger) (happened : List Happening) : Prop where
  readable : after.store.IsReadable
  told : Metrics.told after.metrics = Metrics.told before.metrics ++ happened
  appended : ∃ added, after.log.rows = before.log.rows ++ added ∧
    Metrics.count after.metrics (.logWrite .recorded) =
      Metrics.count before.metrics (.logWrite .recorded) + added.length

variable {ledger between later : Ledger} {happened others : List Happening}

theorem Goes.refl (readable : ledger.store.IsReadable) : Goes ledger ledger [] where
  readable := readable
  told := (List.append_nil _).symm
  appended := ⟨[], (List.append_nil _).symm, rfl⟩

theorem Goes.trans (first : Goes ledger between happened) (second : Goes between later others) :
    Goes ledger later (happened ++ others) where
  readable := second.readable
  told := by rw [second.told, first.told, List.append_assoc]
  appended := by
    rcases first.appended with ⟨one, oneRows, oneCount⟩
    rcases second.appended with ⟨other, otherRows, otherCount⟩
    refine ⟨one ++ other, ?_, ?_⟩
    · rw [otherRows, oneRows, List.append_assoc]
    · rw [otherCount, oneCount, List.length_append, Nat.add_assoc]

/-- Where the log is not touched and nothing is offered to it, the samples decide. -/
theorem Goes.of_samples (samples : List Sample) (told : Metrics.told samples = happened)
    (unoffered : .offered ∉ happened) (readable : later.store.IsReadable)
    (log : later.log = ledger.log) (metrics : later.metrics = ledger.metrics ++ samples) :
    Goes ledger later happened where
  readable := readable
  told := by rw [metrics, Metrics.told_append, told]
  appended := by
    have unwritten : Metrics.count samples (.logWrite .recorded) = 0 := by
      have most := Metrics.count_recorded_le samples
      rw [told, List.count_eq_zero.mpr unoffered] at most
      exact Nat.le_zero.mp most
    refine ⟨[], ?_, ?_⟩
    · rw [log, List.append_nil]
    · rw [metrics, Metrics.count, List.count_append]
      exact congrArg (Metrics.count ledger.metrics (.logWrite .recorded) + ·) unwritten

theorem perform_goes (readable : ledger.store.IsReadable) {step : Step} (proper : step.IsProper) :
    let reply := ledger.store.perform step
    Goes ledger (ledger.storeReplied reply) (step.happenings reply.result) := by
  intro reply
  have reports : ledger.store.Reports step reply := Store.perform_reports readable proper
  exact .of_samples reply.samples reports.told (step.offered_notMem reply.result)
    (reports.readable readable) rfl rfl

theorem record_goes (readable : ledger.store.IsReadable) (key : Key) (measure : Measure)
    (time execution : String) :
    Goes ledger (ledger.logReplied (ledger.log.record key measure time execution))
      (if ledger.log.isEnabled then [.offered] else []) := by
  have reports := ledger.log.record_reports key measure time execution
  generalize ledger.log.record key measure time execution = reply at reports
  cases reports with
  | ignored disabled =>
      rw [disabled]
      exact .of_samples [] rfl List.not_mem_nil readable rfl rfl
  | @unwritten result outcome kept different =>
      have uncounted : Metrics.count [.operation .recordTransition, .logWrite outcome]
          (.logWrite .recorded) = 0 := by
        cases outcome with
        | recorded => exact absurd rfl different
        | _ => rfl
      rw [kept]
      refine ⟨readable, Metrics.told_append _ _, [], (List.append_nil _).symm, ?_⟩
      exact List.count_append.trans (congrArg (_ + ·) uncounted)
  | written kept rows =>
      rw [kept]
      exact ⟨readable, Metrics.told_append _ _, _, rows, List.count_append⟩

theorem advance_written_goes (readable : ledger.store.IsReadable) (call : Call) (payloadId : String)
    (key : Key) (record : Option Record) :
    Goes ledger (ledger.advance call (.written payloadId key record)).2
      (ledger.logHappenings call) := by
  rw [advance_written, logHappenings]
  cases call.event.target with
  | none => exact .refl readable
  | some state =>
      cases call.announcement.execution with
      | none => exact .refl readable
      | some execution => exact record_goes readable key _ _ execution

theorem advance_logged_goes (readable : ledger.store.IsReadable) {call : Call} {payloadId : String}
    {key : Key} (accepted : accept call.announcement = .ok (payloadId, key))
    (record : Option Record) :
    Goes ledger (ledger.advance call (.logged payloadId record)).2
      (if ledger.publisher.isSome then [.told] else []) := by
  rw [advance_logged accepted]
  rcases ledger with ⟨store, log, publisher, metrics⟩
  cases publisher with
  | none => exact .of_samples [] rfl List.not_mem_nil readable rfl rfl
  | some publisher => exact .of_samples [_] rfl (by simp) readable rfl rfl

theorem commit_goes (readable : ledger.store.IsReadable) {call : Call}
    (storable : call.moment.IsStorable) :
    Goes ledger (ledger.commit call).2 (ledger.storeHappenings call) := by
  rw [commit_after, storeHappenings]
  cases asks : call.step? with
  | none => exact .refl readable
  | some step => exact perform_goes readable (call.isProper_of_step? asks storable)

theorem announce_goes (readable : ledger.store.IsReadable) {call : Call}
    (storable : call.moment.IsStorable) :
    Goes ledger (ledger.announce call.event call.announcement call.now).2
      (ledger.callHappenings call) := by
  have first := commit_goes readable storable
  have commits := commit_commits ledger call
  unfold callHappenings answerTo
  generalize ledger.commit call = reply at first commits
  cases commits with
  | refused log publisher whole =>
      rw [whole]
      exact first.trans (.refl first.readable)
  | @taken payloadId key record after later accepted log publisher rest whole =>
      have second := advance_written_goes first.readable call payloadId key record
      have third := advance_logged_goes second.readable accepted record
      have offered : after.logHappenings call = ledger.logHappenings call := by
        rw [logHappenings, log, logHappenings]
      rw [offered] at second
      rw [rest] at third
      rw [whole]
      refine first.trans (second.trans ?_)
      exact publisher ▸ third

/-! ## Works and runs -/

theorem storeReplied_goes (readable : ledger.store.IsReadable) {reply : Reply Store α}
    (reads : reply.IsReading ledger.store) : Goes ledger (ledger.storeReplied reply) [] := by
  refine .of_samples reply.samples (Metrics.told_of_technical reads.technical) List.not_mem_nil ?_
    rfl rfl
  change reply.after.IsReadable
  rw [reads.after]
  exact readable

theorem logReplied_goes (readable : ledger.store.IsReadable) {reply : Reply EventLog α}
    (reads : reply.IsReading ledger.log) : Goes ledger (ledger.logReplied reply) [] :=
  .of_samples reply.samples (Metrics.told_of_technical reads.technical) List.not_mem_nil readable
    reads.after rfl

theorem afterLook_goes (readable : ledger.store.IsReadable) (look : Look) :
    Goes ledger (ledger.afterLook look) [] := by
  cases look with
  | get key => exact storeReplied_goes readable (ledger.store.answer_isReading .get _)
  | getState key =>
      exact storeReplied_goes readable ((ledger.store.answer_isReading .get _).map _)
  | getMany keys => exact storeReplied_goes readable (ledger.store.answer_isReading .getMany _)
  | getStates keys =>
      exact storeReplied_goes readable ((ledger.store.answer_isReading .getMany _).map _)
  | query partition filter limit token now =>
      exact storeReplied_goes readable (ledger.store.query_isReading partition filter _ token now)
  | count partition filter limit now =>
      exact storeReplied_goes readable (ledger.store.count_isReading partition filter limit now)
  | getItems partition filter limit now =>
      exact storeReplied_goes readable (ledger.store.getItems_isReading partition filter limit now)
  | summary partition since limit now =>
      exact storeReplied_goes readable (ledger.store.summary_isReading partition since limit now)
  | queryBucket bucket duration now =>
      exact logReplied_goes readable (ledger.log.countIn_isReading .queryBucket _)
  | queryHour start finish now =>
      exact logReplied_goes readable (ledger.log.countIn_isReading .queryHour _)

theorem after_goes (readable : ledger.store.IsReadable) {work : Work} (proper : work.IsProper) :
    Goes ledger (ledger.after work) (ledger.happenings work) := by
  cases work with
  | change step => exact perform_goes readable proper
  | look look => exact afterLook_goes readable look
  | record key measure time execution => exact record_goes readable key measure time execution
  | request request now =>
      simp only [after, happenings, serve_after]
      cases asks : request.call? now with
      | none => exact .refl readable
      | some call => exact announce_goes readable (proper call asks)

theorem afterAll_goes (readable : ledger.store.IsReadable) {works : List Work}
    (proper : ∀ work ∈ works, work.IsProper) :
    Goes ledger (ledger.afterAll works) (ledger.happened works) := by
  induction works generalizing ledger with
  | nil => exact .refl readable
  | cons work works ih =>
      rw [List.forall_mem_cons] at proper
      have first := after_goes readable proper.1
      exact first.trans (ih first.readable proper.2)

/-! ## Refused claims -/

theorem announce_of_error {call : Call} {error : EventError}
    (failed : ledger.answerTo call = .error error) :
    (ledger.announce call.event call.announcement call.now).2 = (ledger.commit call).2 := by
  have commits := commit_commits ledger call
  unfold answerTo at failed
  generalize ledger.commit call = reply at commits
  cases commits with
  | refused log publisher whole => rw [whole]
  | taken accepted log publisher rest whole =>
      rw [whole] at failed
      cases failed

/-- Neither the log nor the publisher is asked for a claim. -/
theorem refused_mem_storeHappenings {call : Call}
    (refused : .refused ∈ ledger.callHappenings call) : .refused ∈ ledger.storeHappenings call := by
  rcases List.mem_append.mp refused with early | late
  · exact early
  · split at late
    · cases late
    · rcases List.mem_append.mp late with offered | told
      · unfold logHappenings at offered
        split at offered <;> simp at offered
      · split at told <;> simp at told

theorem metrics_of_refused_call (readable : ledger.store.IsReadable) {call : Call}
    (storable : call.moment.IsStorable) (refused : .refused ∈ ledger.callHappenings call) :
    (ledger.announce call.event call.announcement call.now).2.metrics =
      ledger.metrics ++ [.operation .claim, .claimConflict, .operation .get] := by
  have early := refused_mem_storeHappenings refused
  unfold storeHappenings at early
  cases asks : call.step? with
  | none =>
      rw [asks] at early
      cases early
  | some step =>
      rw [asks] at early
      have reports := Store.perform_reports readable (call.isProper_of_step? asks storable)
      rcases reports.samples_of_refused early with ⟨samples, error, failed⟩
      have answered := answerTo_of_step? asks ledger
      rw [failed] at answered
      rw [announce_of_error answered, commit_after, asks]
      exact congrArg (ledger.metrics ++ ·) samples

theorem metrics_of_refused (readable : ledger.store.IsReadable) {work : Work}
    (proper : work.IsProper) (refused : .refused ∈ ledger.happenings work) :
    (ledger.after work).metrics =
      ledger.metrics ++ [.operation .claim, .claimConflict, .operation .get] := by
  cases work with
  | change step =>
      have reports := Store.perform_reports readable proper
      exact congrArg (ledger.metrics ++ ·) (reports.samples_of_refused refused).1
  | look look => cases refused
  | record key measure time execution =>
      simp only [happenings] at refused
      split at refused <;> simp at refused
  | request request now =>
      simp only [happenings] at refused
      simp only [after, serve_after]
      cases asks : request.call? now with
      | none =>
          rw [asks] at refused
          cases refused
      | some call =>
          rw [asks] at refused
          exact metrics_of_refused_call readable (proper call asks) refused

/-- Metrics tell what happened.  In every run from zeroed counters on a store that can be read, the
counts shown to a scraper are the numbers of the calls that came to that: transitions that returned
a record, by its state; claims that were refused, of which none adds an error; rows that were
appended to the log; transitions that were offered to a log that is kept; and announcements that
succeeded where there is a publisher. -/
theorem metrics_tell {store : Store} (readable : store.IsReadable) (log : EventLog)
    (publisher : Option Publisher) {works : List Work} (proper : ∀ work ∈ works, work.IsProper) :
    let first : Ledger := ⟨store, log, publisher, []⟩
    let last := first.afterAll works
    let happened := first.happened works
    (∀ state, last.metrics.total "flowstate_state_transitions_total" [("state", state.name)] =
      happened.count (.returned state)) ∧
    last.metrics.total "flowstate_claim_conflicts_total" [] = happened.count .refused ∧
    (∀ earlier work later, works = earlier ++ work :: later →
      let before := first.afterAll earlier
      .refused ∈ before.happenings work →
        (before.after work).metrics.total "flowstate_store_errors_total" [] =
          before.metrics.total "flowstate_store_errors_total" []) ∧
    (∃ added, last.log.rows = log.rows ++ added ∧
      last.metrics.total "flowstate_event_log_writes_total" [("outcome", "recorded")] =
        added.length) ∧
    last.metrics.total "flowstate_event_log_writes_total" [("outcome", "recorded")] +
        last.metrics.total "flowstate_event_log_writes_total" [("outcome", "skipped")] +
        last.metrics.total "flowstate_event_log_writes_total" [("outcome", "failed")] =
      happened.count .offered ∧
    last.metrics.total "flowstate_notifications_total" [("outcome", "published")] +
        last.metrics.total "flowstate_notifications_total" [("outcome", "failed")] =
      happened.count .told := by
  intro first last happened
  have goes : Goes first last happened := afterAll_goes readable proper
  have told : Metrics.told last.metrics = happened := goes.told
  have outcomes := Metrics.total_logWrites last.metrics
  refine ⟨?_, ?_, ?_, ?_, ?_, ?_⟩
  · intro state
    rw [Metrics.total_transitions, ← told, Metrics.count_returned]
  · rw [Metrics.total_claimConflicts, ← told, Metrics.count_refused]
  · intro earlier work later whole before refused
    rw [whole, List.forall_mem_append, List.forall_mem_cons] at proper
    have reached : before.store.IsReadable := (afterAll_goes readable proper.1).readable
    rw [metrics_of_refused reached proper.2.1 refused, Metrics.total_storeErrors,
      Metrics.total_storeErrors, List.countP_append]
    rfl
  · rcases goes.appended with ⟨added, rows, counted⟩
    exact ⟨added, rows, (outcomes .recorded).trans (counted.trans (Nat.zero_add _))⟩
  · rw [← told, Metrics.count_offered]
    exact congrArg₂ (· + ·) (congrArg₂ (· + ·) (outcomes .recorded) (outcomes .skipped))
      (outcomes .failed)
  · rw [← told, Metrics.count_told]
    exact congrArg₂ (· + ·) (Metrics.total_notifications last.metrics true)
      (Metrics.total_notifications last.metrics false)

/-- A rival is refused a payload that is completed afterwards, by an execution without a name that a
lenient log passes over. -/
theorem metrics_tell_rivals :
    let key : Key := ⟨"c_w", "a"⟩
    let works : List Work :=
      [.request (.claimProcessing "c/workflow-w/a" "one" none) ⟨0, 0⟩,
        .change ⟨key, ⟨1, 0⟩, .claim "two"⟩, .look (.get key),
        .request (.succeeded "c/workflow-w/a" "" none none) ⟨2, 0⟩,
        .change ⟨key, ⟨3, 0⟩, .delete⟩]
    let first : Ledger := ⟨.empty 100 1000, .empty .lenient, some (.broadcast (.empty 4 true)), []⟩
    let last := first.afterAll works
    first.store.IsReadable ∧ (∀ work ∈ works, work.IsProper) ∧
      first.happened works = [.returned .claimed, .offered, .told, .refused,
        .returned .completed, .offered, .told] ∧
      last.metrics.total "flowstate_state_transitions_total" [("state", "COMPLETED")] = 1 ∧
      last.metrics.total "flowstate_claim_conflicts_total" [] = 1 ∧
      last.metrics.total "flowstate_event_log_writes_total" [("outcome", "recorded")] = 1 := by
  intro key works first last
  have readable : first.store.IsReadable :=
    Store.isReadable_of_table rfl Table.Holds.empty.isReadable
  have decoded : key.IsDecoded := ⟨"c/workflow-w/a", rfl⟩
  have proper : ∀ work ∈ works, work.IsProper := by
    simp only [works, List.forall_mem_cons]
    refine ⟨?_, ⟨decoded, by decide⟩, trivial, ?_, ⟨decoded, by decide⟩, List.forall_mem_nil _⟩
    · rintro call ⟨⟩
      decide
    · rintro call ⟨⟩
      decide
  have happened : first.happened works = [.returned .claimed, .offered, .told, .refused,
      .returned .completed, .offered, .told] := by decide +kernel
  have rows : last.log.rows.length = 1 := by decide +kernel
  rcases metrics_tell readable (.empty .lenient) (some (.broadcast (.empty 4 true))) proper with
    ⟨transitions, conflicts, _, ⟨added, appended, recorded⟩, _⟩
  refine ⟨readable, proper, happened, ?_, ?_, ?_⟩
  · exact (transitions .completed).trans (congrArg (List.count _) happened)
  · exact conflicts.trans (congrArg (List.count _) happened)
  · exact recorded.trans ((congrArg List.length appended).symm.trans rows)

end Ledger
end PayloadLedger
