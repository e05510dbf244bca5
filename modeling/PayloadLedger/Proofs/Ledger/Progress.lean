import Mathlib.Data.List.Nodup
import PayloadLedger.Proofs.Ledger.Steps
import PayloadLedger.Proofs.Log.Aggregate

namespace PayloadLedger
namespace Ledger

/-!
Several callers of one ledger.

What is known of a ledger while calls are under way: the store and the answers are those of whole
announcements, in the order in which the store was written; the log and the publisher may have been
filled in another order, but only for calls that the store has taken.  Once every call is answered,
the counts of the log do not tell in which order it was filled.
-/

/-- A ledger in use by several callers. -/
structure Progress (Caller : Type u) where
  ledger : Ledger
  stage : Caller → Stage
  /-- The callers whose first step is taken, the earliest first. -/
  order : List Caller

namespace Progress

variable {Caller : Type u} {calls : Caller → Call} {origin : Ledger}
  {progress other : Progress Caller} {caller : Caller}

/-- Nobody has begun. -/
def start (ledger : Ledger) : Progress Caller :=
  ⟨ledger, fun _ => .called, []⟩

/-- Every call that was begun is answered. -/
def IsSettled (progress : Progress Caller) : Prop :=
  ∀ caller, (progress.stage caller).isUnderWay = false

/-! ## The store and the answers -/

/-- The store and the answers are those of whole announcements from `origin` on, in the order of
the first steps. -/
structure Follows (calls : Caller → Call) (origin : Ledger) (progress : Progress Caller) :
    Prop where
  once : progress.order.Nodup
  waiting : ∀ caller ∉ progress.order, progress.stage caller = .called
  fits : ∀ caller, (progress.stage caller).Fits (calls caller)
  store : progress.ledger.store = (origin.session (progress.order.map calls)).store
  outcomes : progress.order.map (fun caller => (progress.stage caller).outcome?) =
    (origin.answers (progress.order.map calls)).map some

theorem follows_start (calls : Caller → Call) (origin : Ledger) :
    Follows calls origin (start origin) :=
  ⟨List.nodup_nil, fun _ _ => rfl, fun _ => trivial, rfl, rfl⟩

theorem Follows.ne_called (follows : Follows calls origin progress)
    (member : caller ∈ progress.order) : progress.stage caller ≠ .called := by
  intro called
  have outcome := List.mem_map_of_mem (f := fun caller => (progress.stage caller).outcome?) member
  rw [follows.outcomes, called, List.mem_map] at outcome
  rcases outcome with ⟨answer, _, settled⟩
  cases settled

theorem Follows.outcome_eq (follows : Follows calls origin progress)
    (others : Follows calls origin other) (same : progress.order = other.order) (caller : Caller) :
    (progress.stage caller).outcome? = (other.stage caller).outcome? := by
  by_cases member : caller ∈ progress.order
  · have outcomes := follows.outcomes
    rw [same, ← others.outcomes, List.map_inj_left] at outcomes
    exact outcomes caller (same ▸ member)
  · rw [follows.waiting caller member, others.waiting caller (same ▸ member)]

theorem Follows.answered (follows : Follows calls origin progress) (settled : progress.IsSettled) :
    progress.order.map progress.stage =
      (origin.answers (progress.order.map calls)).map Stage.answered := by
  calc
    progress.order.map progress.stage =
        progress.order.map fun caller => .ofOutcome (progress.stage caller).outcome? := by
      apply List.map_congr_left
      intro caller _
      exact (Stage.ofOutcome_outcome (settled caller)).symm
    _ = (progress.order.map fun caller => (progress.stage caller).outcome?).map .ofOutcome := by
      rw [List.map_map]
      rfl
    _ = ((origin.answers (progress.order.map calls)).map some).map .ofOutcome := by
      rw [follows.outcomes]
    _ = (origin.answers (progress.order.map calls)).map .answered := List.map_map

/-! ## The log and the publisher -/

/-- A list of the callers with a property, each once. -/
structure Lists (callers : List Caller) (property : Caller → Prop) : Prop where
  once : callers.Nodup
  mem_iff : ∀ caller, caller ∈ callers ↔ property caller

section

variable {callers : List Caller} {before after : Caller → Prop} {caller : Caller}

theorem Lists.perm {others : List Caller} (one : Lists callers before) (other : Lists others after)
    (same : ∀ caller, before caller ↔ after caller) : callers.Perm others := by
  rw [List.perm_ext_iff_of_nodup one.once other.once]
  intro caller
  rw [one.mem_iff, other.mem_iff, same]

theorem Lists.keep (lists : Lists callers before) (here : before caller ↔ after caller)
    (elsewhere : ∀ other, other ≠ caller → (before other ↔ after other)) :
    Lists callers after where
  once := lists.once
  mem_iff other := by
    rw [lists.mem_iff]
    by_cases same : other = caller
    · rw [same, here]
    · exact elsewhere other same

theorem Lists.add (lists : Lists callers before) (new : ¬ before caller) (now : after caller)
    (elsewhere : ∀ other, other ≠ caller → (before other ↔ after other)) :
    Lists (callers ++ [caller]) after where
  once := by
    rw [← List.concat_eq_append, List.nodup_concat]
    exact ⟨fun member => new ((lists.mem_iff caller).mp member), lists.once⟩
  mem_iff other := by
    rw [List.mem_append, List.mem_singleton, lists.mem_iff]
    by_cases same : other = caller
    · rw [same]
      exact iff_of_true (.inr rfl) now
    · rw [elsewhere other same, or_iff_left same]

end

/-- The log has gained the entries of the `logged` callers, and the publisher has taken the messages
of the `told` ones. -/
structure Fills (calls : Caller → Call) (mode : LogMode) (events : List StoredEvent)
    (publisher : Publisher) (progress : Progress Caller) (logged told : List Caller) : Prop where
  passedLog : Lists logged fun caller => (progress.stage caller).HasLogged
  passedPublisher : Lists told fun caller => (progress.stage caller).HasTold
  log : progress.ledger.log =
    .kept mode (some (events ++ logged.flatMap fun caller => (calls caller).entries))
  published : ∃ next, progress.ledger.publisher = some next ∧ next.IsHealthy ∧
    publisher.TookAll (told.map fun caller => (calls caller).message) next

variable {mode : LogMode} {events : List StoredEvent} {publisher : Publisher}
  {logged told : List Caller}

theorem fills_start {ledger : Ledger} (kept : ledger.log = .kept mode (some events))
    (reached : ledger.publisher = some publisher) (healthy : publisher.IsHealthy)
    (calls : Caller → Call) : Fills calls mode events publisher (start ledger) [] [] where
  passedLog := ⟨List.nodup_nil, fun _ => iff_of_false List.not_mem_nil id⟩
  passedPublisher := ⟨List.nodup_nil, fun _ => iff_of_false List.not_mem_nil id⟩
  log := by
    rw [List.flatMap_nil, List.append_nil]
    exact kept
  published := ⟨publisher, reached, healthy, Publisher.tookAll_nil healthy⟩

/-- Whoever's entries or messages are there was taken by the store before. -/
theorem Fills.hasWritten (fills : Fills calls mode events publisher progress logged told)
    (passed : caller ∈ logged ∨ caller ∈ told) : (progress.stage caller).HasWritten := by
  rcases passed with passed | passed
  · exact ((fills.passedLog.mem_iff caller).mp passed).hasWritten
  · exact ((fills.passedPublisher.mem_iff caller).mp passed).hasLogged.hasWritten

theorem Fills.lists_written (fills : Fills calls mode events publisher progress logged told)
    (settled : progress.IsSettled) :
    Lists logged fun caller => (progress.stage caller).HasWritten where
  once := fills.passedLog.once
  mem_iff caller := by
    rw [fills.passedLog.mem_iff]
    exact ⟨Stage.HasLogged.hasWritten, fun written => (written.hasTold (settled caller)).hasLogged⟩

theorem Fills.countsAlike {othersLogged othersTold : List Caller}
    (fills : Fills calls mode events publisher progress logged told)
    (others : Fills calls mode events publisher other othersLogged othersTold)
    (settled : progress.IsSettled) (otherSettled : other.IsSettled)
    (same : ∀ caller,
      (progress.stage caller).HasWritten ↔ (other.stage caller).HasWritten) :
    EventLog.CountsAlike progress.ledger.log other.ledger.log := by
  have perm := (fills.lists_written settled).perm (others.lists_written otherSettled) same
  rw [fills.log, others.log]
  apply EventLog.countsAlike_of_perm
  exact (perm.flatMap_right _).append_left events

end Progress
end Ledger
end PayloadLedger
