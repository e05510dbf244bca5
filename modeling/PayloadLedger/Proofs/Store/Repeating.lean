import PayloadLedger.Proofs.Store.Coherence

namespace PayloadLedger

/-!
Changes that are asked for again.

A transition that is never held back takes from the account only what it has left there itself, so
that asking for it again moves the times and nothing else.
-/

/-! ## Accounts -/

/-- The record with the same state reached again at another time. -/
def Record.retimed (record : Record) (moment : Time.Instant) : Record :=
  { record with stateUpdated := Row.pack record.state moment, updated := moment.kept }

theorem Account.extended_extended (executions : List String) (execution : String) :
    extended (extended executions execution) execution = extended executions execution :=
  if_pos (getLast?_extended executions execution)

namespace Change

theorem write_write (change : Change) (state : State) (earlier later : Time.Instant)
    (opened : Account) :
    change.write state later (change.write state earlier opened) =
      change.write state later opened := by
  have outputs : change.outputs?.or (change.outputs?.or opened.outputs) =
      change.outputs?.or opened.outputs := by
    cases change.outputs? <;> rfl
  simp only [write, outputs]
  cases change.execution? with
  | none => rfl
  | some execution =>
      simp only [Option.map_some, Option.getD_some, Account.extended_extended]

/-- A transition to a state that no account holds back. -/
structure IsFree (change : Change) (state : State) : Prop where
  target : change.target = some state
  allowed : ∀ account, change.isRefused account = false

end Change

/-- The step is about another payload, or asks for this change. -/
def Step.Repeats (step : Step) (key : Key) (change : Change) : Prop :=
  step.key = key → step.change = change

/-- When a payload was last asked about, if it was `first` before. -/
def lastMoment (key : Key) (first : Time.Instant) (steps : List Step) : Time.Instant :=
  steps.foldl (fun last step => if step.key = key then step.moment else last) first

theorem lastMoment_cons (key : Key) (first : Time.Instant) (step : Step) (steps : List Step) :
    lastMoment key first (step :: steps) =
      lastMoment key (if step.key = key then step.moment else first) steps := rfl

namespace Accounts

variable {key : Key} {change : Change} {state : State} {first : Time.Instant} {opened : Account}

/-- The account stays the one that the change has written, but for the time. -/
theorem run_repeated (free : change.IsFree state) {accounts : Accounts}
    (written : accounts key = some (change.write state first opened)) {steps : List Step}
    (repeats : ∀ step ∈ steps, step.Repeats key change) :
    accounts.run steps key = some (change.write state (lastMoment key first steps) opened) := by
  induction steps generalizing accounts first with
  | nil => exact written
  | cons step steps ih =>
      rw [run_cons, lastMoment_cons]
      refine ih ?_ fun step member => repeats step (List.mem_cons_of_mem _ member)
      by_cases own : step.key = key
      · have same := repeats step List.mem_cons_self own
        rw [after, own, set_self, same, Change.next_of_target free.target (free.allowed _), written,
          Option.getD_some, Change.write_write, if_pos rfl]
      · rw [after, set_of_ne accounts (Ne.symm own), if_neg own, written]

end Accounts

/-! ## Stores -/

namespace Store

/-- A change that is never held back is carried out, and leaves the same record however often it is
asked for again, with steps about other payloads in between.  Only the times follow the last one. -/
theorem Holds.repeated {store : Store} {accounts : Accounts} (holds : store.Holds accounts)
    {key : Key} (decoded : key.IsDecoded) {change : Change} {state : State}
    (free : change.IsFree state) {first : Time.Instant} (storable : first.IsStorable) :
    let reply := store.perform ⟨key, first, change⟩
    ∃ record, reply.result = .ok (some record) ∧ (reply.after.get key).result = .ok (some record) ∧
      ∀ steps : List Step, (∀ step ∈ steps, step.IsProper) →
        (∀ step ∈ steps, step.Repeats key change) →
        ((reply.after.run steps).get key).result =
            .ok (some (record.retimed (lastMoment key first steps))) ∧
          ∀ now : Time.Instant, now.IsStorable →
            ((reply.after.run steps).perform ⟨key, now, change⟩).result =
              .ok (some (record.retimed now)) := by
  intro reply
  have firstProper : Step.IsProper ⟨key, first, change⟩ := ⟨decoded, storable⟩
  have follows := holds.perform firstProper
  have next : ∀ (account : Option Account) (moment : Time.Instant),
      change.next moment account =
        some (change.write state moment (account.getD (.blank moment))) := fun account =>
    Change.next_of_target free.target (free.allowed account)
  generalize opens : (accounts key).getD (.blank first) = opened
  have written : accounts.after ⟨key, first, change⟩ key =
      some (change.write state first opened) := by
    rw [Accounts.after, Accounts.set_self, next, opens]
  refine ⟨(change.write state first opened).record key, ?_, ?_, ?_⟩
  · rw [follows.result, Accounts.answer]
    simp only [free.allowed, next, opens]
    rfl
  · rw [follows.after.get_result, written]
    rfl
  · intro steps proper repeats
    have later := follows.after.run proper
    have kept := Accounts.run_repeated free written repeats
    constructor
    · rw [later.get_result, kept]
      rfl
    · intro now nowStorable
      have nowProper : Step.IsProper ⟨key, now, change⟩ := ⟨decoded, nowStorable⟩
      have again := later.perform nowProper
      rw [again.result, Accounts.answer]
      simp only [free.allowed, next, kept, Option.getD_some, Change.write_write]
      rfl

end Store
end PayloadLedger
