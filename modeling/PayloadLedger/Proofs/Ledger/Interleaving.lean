import Mathlib.Data.List.Induction
import Mathlib.Logic.Function.Basic
import PayloadLedger.Proofs.Ledger.Progress

namespace PayloadLedger
namespace Ledger

/-!
Announcements at the same time.

Several callers announce, and the steps of their calls are taken in any order that keeps each
call's own.  The first steps decide, and a whole announcement is three steps in a row, so that
whatever the others did in between, the callers cannot tell it from one announcement after another.
-/

namespace Progress

variable {Caller : Type u} [DecidableEq Caller] {calls : Caller → Call} {origin : Ledger}
  {progress : Progress Caller} {caller : Caller}

/-! ## Schedules -/

/-- A caller takes the next step of its call, if there is one. -/
def step (calls : Caller → Call) (progress : Progress Caller) (caller : Caller) :
    Progress Caller :=
  let (stage, ledger) := progress.ledger.advance (calls caller) (progress.stage caller)
  { ledger
    stage := Function.update progress.stage caller stage
    order := match progress.stage caller with
      | .called => progress.order ++ [caller]
      | _ => progress.order }

/-- The callers of a schedule take a step each, one after another. -/
def run (calls : Caller → Call) (progress : Progress Caller) (schedule : List Caller) :
    Progress Caller :=
  schedule.foldl (step calls) progress

theorem run_append (progress : Progress Caller) (first second : List Caller) :
    progress.run calls (first ++ second) = (progress.run calls first).run calls second :=
  List.foldl_append

section

variable (calls) {progress : Progress Caller} {caller : Caller} {stage : Stage}

theorem step_ledger (here : progress.stage caller = stage) :
    (progress.step calls caller).ledger = (progress.ledger.advance (calls caller) stage).2 := by
  rw [← here]
  rfl

theorem step_stage_self (here : progress.stage caller = stage) :
    (progress.step calls caller).stage caller =
      (progress.ledger.advance (calls caller) stage).1 := by
  rw [← here]
  exact Function.update_self ..

theorem step_pair (here : progress.stage caller = stage) :
    ((progress.step calls caller).stage caller, (progress.step calls caller).ledger) =
      progress.ledger.advance (calls caller) stage :=
  Prod.ext (step_stage_self calls here) (step_ledger calls here)

theorem step_stage_of_ne {other : Caller} (different : other ≠ caller) :
    (progress.step calls caller).stage other = progress.stage other :=
  Function.update_of_ne different ..

theorem step_elsewhere (property : Stage → Prop) (other : Caller) (different : other ≠ caller) :
    property (progress.stage other) ↔ property ((progress.step calls caller).stage other) := by
  rw [step_stage_of_ne calls different]

theorem step_order_of_called (called : progress.stage caller = .called) :
    (progress.step calls caller).order = progress.order ++ [caller] := by
  simp only [step, called]

theorem step_order_of_begun (begun : progress.stage caller ≠ .called) :
    (progress.step calls caller).order = progress.order := by
  unfold step
  cases here : progress.stage caller with
  | called => exact absurd here begun
  | _ => rfl

end

/-! ## The store and the answers -/

theorem Follows.step_fits (follows : Follows calls origin progress)
    (fit : ((progress.step calls caller).stage caller).Fits (calls caller)) (other : Caller) :
    ((progress.step calls caller).stage other).Fits (calls other) := by
  by_cases same : other = caller
  · rw [same]
    exact fit
  · rw [step_stage_of_ne calls same]
    exact follows.fits other

theorem map_outcome_step {callers : List Caller}
    (same : caller ∈ callers →
      ((progress.step calls caller).stage caller).outcome? = (progress.stage caller).outcome?) :
    callers.map (fun one => ((progress.step calls caller).stage one).outcome?) =
      callers.map fun one => (progress.stage one).outcome? := by
  apply List.map_congr_left
  intro other member
  by_cases here : other = caller
  · rw [here]
    exact same (here ▸ member)
  · rw [step_stage_of_ne calls here]

theorem Follows.first (follows : Follows calls origin progress)
    (missing : caller ∉ progress.order) : Follows calls origin (progress.step calls caller) := by
  have called := follows.waiting caller missing
  rcases commit_settles follows.store (calls caller) with ⟨outcome, store⟩
  have order := step_order_of_called calls called
  refine ⟨?once, ?waiting, follows.step_fits ?fit, ?store, ?outcomes⟩
  case once =>
    rw [order, ← List.concat_eq_append, List.nodup_concat]
    exact ⟨missing, follows.once⟩
  case waiting =>
    intro other absent
    rw [order, List.mem_append, List.mem_singleton, not_or] at absent
    rw [step_stage_of_ne calls absent.2]
    exact follows.waiting other absent.1
  case fit =>
    rw [step_stage_self calls called]
    exact commit_fits progress.ledger (calls caller)
  case store =>
    rw [order, List.map_append, List.map_singleton, session_append_singleton, ← store,
      step_ledger calls called, advance]
  case outcomes =>
    rw [order, List.map_append, List.map_append, List.map_singleton, List.map_singleton,
      answers_append_singleton, List.map_append, List.map_singleton, ← outcome, ← follows.outcomes,
      step_stage_self calls called, advance, map_outcome_step fun member => absurd member missing]

theorem Follows.later (follows : Follows calls origin progress)
    (member : caller ∈ progress.order) : Follows calls origin (progress.step calls caller) := by
  have begun := follows.ne_called member
  rcases advance_settled begun (follows.fits caller) progress.ledger with ⟨outcome, store, fit⟩
  have order := step_order_of_begun calls begun
  refine ⟨?once, ?waiting, follows.step_fits ?fit, ?store, ?outcomes⟩
  case once =>
    rw [order]
    exact follows.once
  case waiting =>
    intro other missing
    rw [order] at missing
    have different : other ≠ caller := fun same => missing (same ▸ member)
    rw [step_stage_of_ne calls different]
    exact follows.waiting other missing
  case fit =>
    rw [step_stage_self calls rfl]
    exact fit
  case store =>
    rw [order, ← follows.store, step_ledger calls rfl]
    exact store
  case outcomes =>
    rw [order, ← follows.outcomes, map_outcome_step]
    intro _
    rw [step_stage_self calls rfl]
    exact outcome

theorem Follows.step (follows : Follows calls origin progress) (caller : Caller) :
    Follows calls origin (progress.step calls caller) := by
  by_cases member : caller ∈ progress.order
  · exact follows.later member
  · exact follows.first member

theorem Follows.run (follows : Follows calls origin progress) (schedule : List Caller) :
    Follows calls origin (progress.run calls schedule) := by
  induction schedule generalizing progress with
  | nil => exact follows
  | cons caller schedule ih => exact ih (follows.step caller)

/-! ## The log and the publisher -/

variable {mode : LogMode} {events : List StoredEvent} {publisher : Publisher}
  {logged told : List Caller}

theorem Fills.commit (fills : Fills calls mode events publisher progress logged told)
    (called : progress.stage caller = .called) :
    Fills calls mode events publisher (progress.step calls caller) logged told := by
  have here := step_stage_self calls called
  have ledger := step_ledger calls called
  rcases commit_sinks progress.ledger (calls caller) with ⟨log, sameness, unlogged⟩
  refine ⟨?passedLog, ?passedPublisher, ?log, ?published⟩
  case passedLog =>
    apply fills.passedLog.keep _ (step_elsewhere calls Stage.HasLogged)
    rw [called, here]
    exact iff_of_false id unlogged
  case passedPublisher =>
    apply fills.passedPublisher.keep _ (step_elsewhere calls Stage.HasTold)
    rw [called, here]
    exact iff_of_false id fun told => unlogged told.hasLogged
  case log =>
    rw [ledger]
    exact log.trans fills.log
  case published =>
    rw [ledger]
    exact sameness ▸ fills.published

theorem Fills.log_step (fills : Fills calls mode events publisher progress logged told)
    (follows : Follows calls origin progress) (storable : (calls caller).moment.IsStorable)
    {payloadId : String} {key : Key} {record : Option Record}
    (written : progress.stage caller = .written payloadId key record) :
    Fills calls mode events publisher (progress.step calls caller) (logged ++ [caller]) told := by
  have here := step_stage_self calls written
  have ledger := step_ledger calls written
  have accepted := follows.fits caller
  rw [written] at accepted
  refine ⟨?passedLog, ?passedPublisher, ?log, ?published⟩
  case passedLog =>
    apply fills.passedLog.add _ _ (step_elsewhere calls Stage.HasLogged)
    · rw [written]
      exact id
    · rw [here]
      trivial
  case passedPublisher =>
    apply fills.passedPublisher.keep _ (step_elsewhere calls Stage.HasTold)
    rw [written, here]
    exact iff_of_false id id
  case log =>
    rw [ledger, advance_log fills.log accepted storable, List.flatMap_append,
      List.flatMap_singleton, List.append_assoc]
  case published =>
    rw [ledger]
    exact fills.published

theorem Fills.tell (fills : Fills calls mode events publisher progress logged told)
    (follows : Follows calls origin progress) {payloadId : String} {record : Option Record}
    (passed : progress.stage caller = .logged payloadId record) :
    Fills calls mode events publisher (progress.step calls caller) logged (told ++ [caller]) := by
  have here := step_stage_self calls passed
  have ledger := step_ledger calls passed
  have held := follows.fits caller
  rw [passed] at held
  rcases held with ⟨key, accepted⟩
  rcases fills.published with ⟨before, reached, healthy, taken⟩
  rcases advance_publisher reached healthy accepted record with ⟨after, reaches, keeps, took⟩
  rw [advance_logged accepted] at here ledger reaches
  refine ⟨?passedLog, ?passedPublisher, ?log, ?published⟩
  case passedLog =>
    apply fills.passedLog.keep _ (step_elsewhere calls Stage.HasLogged)
    rw [passed, here]
    exact iff_of_true trivial trivial
  case passedPublisher =>
    apply fills.passedPublisher.add _ _ (step_elsewhere calls Stage.HasTold)
    · rw [passed]
      exact id
    · rw [here]
      trivial
  case log =>
    rw [ledger]
    exact fills.log
  case published =>
    rw [ledger, List.map_append, List.map_singleton]
    exact ⟨after, reaches, keeps, taken.append took⟩

theorem step_answered {answer : Except EventError (Option Record)}
    (answered : progress.stage caller = .answered answer) : progress.step calls caller = progress := by
  rw [step, answered, advance]
  simp only
  rw [← answered, Function.update_eq_self]

theorem Fills.step (fills : Fills calls mode events publisher progress logged told)
    (follows : Follows calls origin progress) (storable : (calls caller).moment.IsStorable) :
    ∃ logged told, Fills calls mode events publisher (progress.step calls caller) logged told := by
  cases here : progress.stage caller with
  | called => exact ⟨logged, told, fills.commit here⟩
  | written payloadId key record => exact ⟨_, told, fills.log_step follows storable here⟩
  | logged payloadId record => exact ⟨logged, _, fills.tell follows here⟩
  | answered answer =>
      rw [step_answered here]
      exact ⟨logged, told, fills⟩

theorem Fills.run (fills : Fills calls mode events publisher progress logged told)
    (follows : Follows calls origin progress)
    (storable : ∀ caller, (calls caller).moment.IsStorable) (schedule : List Caller) :
    ∃ logged told, Fills calls mode events publisher (progress.run calls schedule) logged told := by
  induction schedule generalizing progress logged told with
  | nil => exact ⟨logged, told, fills⟩
  | cons caller schedule ih =>
      rcases fills.step follows (storable caller) with ⟨logged, told, next⟩
      exact ih next (follows.step caller)

/-! ## One after another -/

theorem Follows.thrice (follows : Follows calls origin progress)
    (missing : caller ∉ progress.order) :
    let call := calls caller
    let later := progress.run calls [caller, caller, caller]
    later.ledger = (progress.ledger.announce call.event call.announcement call.now).2 ∧
      later.order = progress.order ++ [caller] ∧ (progress.IsSettled → later.IsSettled) := by
  intro call later
  let first := progress.step calls caller
  let second := first.step calls caller
  have called := follows.waiting caller missing
  have order : first.order = progress.order ++ [caller] := step_order_of_called calls called
  have begun : caller ∈ first.order := by
    rw [order]
    exact List.mem_append_right _ List.mem_cons_self
  have once := follows.first missing
  have kept : second.order = first.order := step_order_of_begun calls (once.ne_called begun)
  have twice := once.later begun
  have keeps : later.order = second.order :=
    step_order_of_begun calls (twice.ne_called (kept ▸ begun))
  have taken : (later.stage caller, later.ledger) =
      (.answered (progress.ledger.answerTo call),
        (progress.ledger.announce call.event call.announcement call.now).2) :=
    advance_thrice (step_pair calls called).symm (step_pair calls rfl).symm
      (step_pair calls rfl).symm
  rw [Prod.mk.injEq] at taken
  refine ⟨taken.2, by rw [keeps, kept, order], ?_⟩
  intro settled other
  by_cases same : other = caller
  · rw [same, taken.1]
    rfl
  · have still : later.stage other = progress.stage other := by
      calc
        later.stage other = second.stage other := step_stage_of_ne calls same
        _ = first.stage other := step_stage_of_ne calls same
        _ = progress.stage other := step_stage_of_ne calls same
    rw [still]
    exact settled other

/-- Whole announcements one after another are one way to take the steps. -/
theorem Follows.run_sequential (follows : Follows calls origin progress)
    {order : List Caller} (once : order.Nodup) (missing : ∀ caller ∈ order, caller ∉ progress.order) :
    let later := progress.run calls (order.flatMap fun caller => [caller, caller, caller])
    later.ledger = progress.ledger.session (order.map calls) ∧
      later.order = progress.order ++ order ∧ (progress.IsSettled → later.IsSettled) := by
  induction order generalizing progress with
  | nil => exact ⟨rfl, (List.append_nil _).symm, id⟩
  | cons caller order ih =>
      intro later
      have split : later = (progress.run calls [caller, caller, caller]).run calls
          (order.flatMap fun caller => [caller, caller, caller]) := by
        rw [← run_append]
        rfl
      rcases follows.thrice (missing caller List.mem_cons_self) with ⟨ledger, firsts, settled⟩
      rw [List.nodup_cons] at once
      have others : ∀ other ∈ order,
          other ∉ (progress.run calls [caller, caller, caller]).order := by
        intro other member
        rw [firsts, List.mem_append, List.mem_singleton, not_or]
        exact ⟨missing other (List.mem_cons_of_mem _ member),
          fun same => once.1 (same ▸ member)⟩
      rcases ih (follows.run _) once.2 others with ⟨ledgers, orders, settles⟩
      rw [split]
      refine ⟨?_, ?_, fun before => settles (settled before)⟩
      · rw [ledgers, ledger]
        rfl
      · rw [orders, firsts, List.append_assoc]
        rfl

/-! ## Any order -/

/-- The callers take their first steps in the order in which a schedule first names them. -/
theorem order_run (calls : Caller → Call) (ledger : Ledger) (schedule : List Caller) :
    ((start ledger).run calls schedule).order = schedule.eraseDups := by
  induction schedule using List.reverseRecOn with
  | nil => rfl
  | append_singleton schedule caller ih =>
      have follows := (follows_start calls ledger).run schedule
      rw [run_append, List.eraseDups_append, ← ih]
      change (Progress.step calls _ caller).order = _
      by_cases member : caller ∈ ((start ledger).run calls schedule).order
      · have again : [caller].removeAll schedule = [] := by
          rw [ih, List.mem_eraseDups] at member
          simp [List.removeAll, member]
        rw [step_order_of_begun calls (follows.ne_called member), again, List.eraseDups_nil,
          List.append_nil]
      · have new : [caller].removeAll schedule = [caller] := by
          rw [ih, List.mem_eraseDups] at member
          simp [List.removeAll, member]
        rw [step_order_of_called calls (follows.waiting caller member), new]
        rfl

/-- Announcements may take their steps in any order.  At every moment the store and the answers are
those of whole announcements in the order of the first steps, and what is logged and published is of
callers whom the store has taken.  Once every call is answered, the log has the entries of all of
them, each once, and gives the counts that the announcements give one after another, as does every
other schedule in which the store takes the same callers. -/
theorem interleaved_as_in_order (calls : Caller → Call)
    (storable : ∀ caller, (calls caller).moment.IsStorable) {ledger : Ledger}
    (kept : ledger.log = .kept mode (some events)) (reached : ledger.publisher = some publisher)
    (healthy : publisher.IsHealthy) (schedule : List Caller) :
    let progress := (start ledger).run calls schedule
    progress.order = schedule.eraseDups ∧ Follows calls ledger progress ∧
      (∃ logged told, Fills calls mode events publisher progress logged told ∧
        ∀ caller, caller ∈ logged ∨ caller ∈ told → (progress.stage caller).HasWritten) ∧
      (progress.IsSettled →
        progress.order.map progress.stage =
            (ledger.answers (progress.order.map calls)).map .answered ∧
          (∃ logged, Lists logged (fun caller => (progress.stage caller).HasWritten) ∧
            progress.ledger.log = .kept mode
              (some (events ++ logged.flatMap fun caller => (calls caller).entries))) ∧
          EventLog.CountsAlike progress.ledger.log
            (ledger.session (progress.order.map calls)).log ∧
          ∀ others, let other := (start ledger).run calls others
            other.IsSettled →
            (∀ caller, (progress.stage caller).HasWritten ↔ (other.stage caller).HasWritten) →
            EventLog.CountsAlike progress.ledger.log other.ledger.log) := by
  intro progress
  have follows : Follows calls ledger progress := (follows_start calls ledger).run schedule
  have fills (schedule : List Caller) :=
    (fills_start kept reached healthy calls).run (follows_start calls ledger) storable schedule
  rcases fills schedule with ⟨logged, told, filled⟩
  refine ⟨order_run calls ledger schedule, follows,
    ⟨logged, told, filled, fun _ => filled.hasWritten⟩, ?_⟩
  intro settled
  refine ⟨follows.answered settled, ⟨logged, filled.lists_written settled, filled.log⟩, ?_, ?_⟩
  · have fresh : ∀ caller ∈ progress.order, caller ∉ (start ledger).order :=
      fun _ _ => List.not_mem_nil
    rcases (follows_start calls ledger).run_sequential follows.once fresh with
      ⟨session, order, answered⟩
    rcases fills (progress.order.flatMap fun caller => [caller, caller, caller]) with
      ⟨_, _, sequential⟩
    change _ = ledger.session _ at session
    rw [← session]
    apply filled.countsAlike sequential settled (answered fun _ => rfl)
    intro caller
    have same := follows.outcome_eq ((follows_start calls ledger).run _) order.symm caller
    rw [Stage.HasWritten, Stage.HasWritten, same]
  · intro others other otherSettled same
    rcases fills others with ⟨_, _, otherFilled⟩
    exact filled.countsAlike otherFilled settled otherSettled same

/-- Three callers at once, two of whom want the same payload: one is refused, and the others come to
the log in another order than to the store. -/
theorem interleaved_as_in_order_rivals :
    let publisher : Publisher := .broadcast (.empty 4 true)
    let ledger : Ledger := ⟨.empty 100 1000, .empty .strict, some publisher, []⟩
    let claim (payloadId execution : String) (seconds : Int) : Call :=
      ⟨.claimedProcessing, { payloadId := some payloadId, execution := some execution },
        ⟨seconds, 0⟩⟩
    let calls : Fin 3 → Call := fun caller =>
      [claim "c/workflow-w/a" "one" 0, claim "c/workflow-w/a" "two" 1,
        claim "c/workflow-w/b" "three" 2][caller]
    let progress := (start ledger).run calls [0, 1, 2, 2, 0, 2, 0]
    (∀ caller, (calls caller).moment.IsStorable) ∧ ledger.log = .kept .strict (some []) ∧
      ledger.publisher = some publisher ∧ publisher.IsHealthy ∧ progress.IsSettled ∧
      EventLog.CountsAlike progress.ledger.log (ledger.session ([0, 1, 2].map calls)).log := by
  intro publisher ledger claim calls progress
  have storable : ∀ caller, (calls caller).moment.IsStorable := by decide
  have healthy : publisher.IsHealthy := ⟨rfl, by decide⟩
  have settled : progress.IsSettled := by
    unfold IsSettled
    decide +kernel
  have empty : ledger.log = .kept .strict (some []) := rfl
  rcases interleaved_as_in_order calls storable empty rfl healthy [0, 1, 2, 2, 0, 2, 0] with
    ⟨order, _, _, ended⟩
  rcases ended settled with ⟨_, _, alike, _⟩
  have firsts : ([0, 1, 2, 2, 0, 2, 0] : List (Fin 3)).eraseDups = [0, 1, 2] := by decide
  rw [order, firsts] at alike
  refine ⟨storable, empty, rfl, healthy, settled, ?_⟩
  -- Without this the steps would be taken once more to compare the two sides.
  with_reducible exact alike

/-- Which of two claims on a payload comes first is seen in the counts. -/
theorem rivals_counted_apart :
    let ledger : Ledger :=
      ⟨.empty 100 1000, .empty .strict, some (.broadcast (.empty 4 true)), []⟩
    let claim (execution : String) (seconds : Int) : Call :=
      ⟨.claimedProcessing, { payloadId := some "c/workflow-w/a", execution := some execution },
        ⟨seconds, 0⟩⟩
    let calls : Bool → Call := fun second => if second then claim "two" 3600 else claim "one" 0
    let one := (start ledger).run calls [false, false, false, true]
    let other := (start ledger).run calls [true, true, true, false]
    (∀ caller, (calls caller).moment.IsStorable) ∧ one.IsSettled ∧ other.IsSettled ∧
      (one.ledger.log.queryHour 1 1 ⟨3600, 0⟩).result ≠
        (other.ledger.log.queryHour 1 1 ⟨3600, 0⟩).result ∧
      (one.ledger.log.queryBucket "1h" "1h" ⟨3600, 0⟩).result ≠
        (other.ledger.log.queryBucket "1h" "1h" ⟨3600, 0⟩).result := by
  intro ledger claim calls one other
  refine ⟨by decide, ?_, ?_, ?_, ?_⟩
  · unfold IsSettled
    decide +kernel
  · unfold IsSettled
    decide +kernel
  · intro same
    have shown := congrArg Except.toOption same
    revert shown
    decide +kernel
  · intro same
    have shown := congrArg Except.toOption same
    revert shown
    decide +kernel

end Progress
end Ledger
end PayloadLedger
