import Mathlib.Data.List.Induction
import PayloadLedger.Proofs.Store.Coherence

namespace PayloadLedger

/-!
What records tell of a run.

A record says when and how its payload was last moved, which error that brought, and when the
payload was first written about since there was no record of it.  Each of these is found again
in the run: it is the last step that counts as a transition, as a failure, or as an opening of
the payload.
-/

namespace Store

/-! ## The last step of a kind -/

/-- The last step of a run that counts, judged by the store that the step meets. -/
def lastWhere (counts : Store → Step → Bool) (store : Store) : List Step → Option Step
  | [] => none
  | step :: steps =>
      (lastWhere counts (store.perform step).after steps).or
        (if counts store step then some step else none)

theorem lastWhere_concat (counts : Store → Step → Bool) (store : Store) (steps : List Step)
    (step : Step) :
    store.lastWhere counts (steps ++ [step]) =
      if counts (store.run steps) step then some step else store.lastWhere counts steps := by
  induction steps generalizing store with
  | nil => rfl
  | cons head steps ih =>
      rw [List.cons_append, lastWhere, ih, lastWhere, run_cons]
      by_cases counted : counts ((store.perform head).after.run steps) step = true
      · rw [if_pos counted, if_pos counted, Option.some_or]
      · rw [if_neg counted, if_neg counted]

/-- The step moves the payload to a state and is not refused. -/
def isTransitionOf (key : Key) (store : Store) (step : Step) : Bool :=
  step.key = key && step.change.target.isSome && (store.perform step).result.isOk

/-- The step tells of an error of the payload. -/
def isFailureOf (key : Key) (_ : Store) (step : Step) : Bool :=
  step.key = key && step.change.message?.isSome

/-- There is a record of the payload. -/
def hasRecord (store : Store) (key : Key) : Bool :=
  match (store.get key).result with
  | .ok (some _) => true
  | _ => false

/-- The step gives a record to a payload that has none. -/
def isOpeningOf (key : Key) (store : Store) (step : Step) : Bool :=
  step.key = key && !store.hasRecord key && (store.perform step).after.hasRecord key

namespace Holds

variable {store : Store} {accounts : Accounts} {step : Step}

theorem isTransitionOf_eq (holds : store.Holds accounts) (proper : step.IsProper) (key : Key) :
    store.isTransitionOf key step =
      (decide (step.key = key) && step.change.target.isSome &&
        !step.change.isRefused (accounts step.key)) := by
  rw [isTransitionOf, (holds.perform proper).result, Accounts.isOk_answer]

theorem hasRecord_eq (holds : store.Holds accounts) (key : Key) :
    store.hasRecord key = (accounts key).isSome := by
  rw [hasRecord, holds.get_result]
  cases accounts key <;> rfl

theorem isOpeningOf_eq (holds : store.Holds accounts) (proper : step.IsProper) (key : Key) :
    store.isOpeningOf key step =
      (decide (step.key = key) && (accounts key).isNone && (accounts.after step key).isSome) := by
  rw [isOpeningOf, holds.hasRecord_eq, (holds.perform proper).after.hasRecord_eq, Option.not_isSome]

end Holds
end Store

/-! ## Accounts and their history -/

/-- The account tells what became of the payload in a run. -/
structure Account.Tells (account : Account) (start : Store) (steps : List Step) (key : Key) :
    Prop where
  reached : ∃ last, start.lastWhere (Store.isTransitionOf key) steps = some last ∧
    last.change.target = some account.state ∧ account.reached = last.moment
  error : ∀ message, account.lastError = some message →
    ∃ last, start.lastWhere (Store.isFailureOf key) steps = some last ∧
      last.change.message? = some message
  created : ∃ first, start.lastWhere (Store.isOpeningOf key) steps = some first ∧
    account.created = first.moment

namespace Account

variable {start : Store} {steps : List Step} {step : Step} {key : Key} {account later : Account}

/-- A step that is neither a transition nor an opening nor a failure changes nothing that the
account tells. -/
theorem Tells.keep (tells : account.Tells start steps key)
    (transition : (start.run steps).isTransitionOf key step = false)
    (failure : (start.run steps).isFailureOf key step = false)
    (opening : (start.run steps).isOpeningOf key step = false)
    (same : later.state = account.state ∧ later.reached = account.reached ∧
      later.created = account.created ∧ later.lastError = account.lastError) :
    later.Tells start (steps ++ [step]) key := by
  rcases same with ⟨state, reached, created, error⟩
  constructor
  · rw [Store.lastWhere_concat, transition, state, reached]
    exact tells.reached
  · rw [Store.lastWhere_concat, failure, error]
    exact tells.error
  · rw [Store.lastWhere_concat, opening, created]
    exact tells.created

/-- What a transition writes tells of that transition. -/
theorem Tells.write {account : Option Account} {state : State}
    (tells : ∀ known, account = some known → known.Tells start steps key)
    (target : step.change.target = some state)
    (transition : (start.run steps).isTransitionOf key step = true)
    (failure : (start.run steps).isFailureOf key step = step.change.message?.isSome)
    (opening : (start.run steps).isOpeningOf key step = account.isNone) :
    (step.change.write state step.moment (account.getD (.blank step.moment))).Tells start
      (steps ++ [step]) key := by
  constructor
  · rw [Store.lastWhere_concat, transition]
    exact ⟨step, rfl, target, rfl⟩
  · intro message told
    have brought : step.change.message? = some message := told
    rw [Store.lastWhere_concat, failure, brought]
    exact ⟨step, rfl, brought⟩
  · rw [Store.lastWhere_concat, opening]
    cases account with
    | none => exact ⟨step, rfl, rfl⟩
    | some account => exact (tells account rfl).created

end Account

/-- After every run from an empty ledger each account tells what became of its payload. -/
theorem Accounts.run_tells {start : Store} (empty : start.Holds fun _ => none)
    {steps : List Step} (proper : ∀ step ∈ steps, step.IsProper) (key : Key) :
    ∀ account, run (fun _ => none) steps key = some account → account.Tells start steps key := by
  induction steps using List.reverseRecOn with
  | nil => exact nofun
  | append_singleton steps step ih =>
      have before : ∀ other ∈ steps, other.IsProper := fun other member =>
        proper other (List.mem_append_left _ member)
      have last : step.IsProper := proper step (List.mem_append_right _ List.mem_cons_self)
      have holds := empty.run before
      have told := ih before
      have transition := holds.isTransitionOf_eq last key
      have opening := holds.isOpeningOf_eq last key
      intro account kept
      rw [run_append] at kept
      change (after (run (fun _ => none) steps) step) key = some account at kept
      by_cases own : step.key = key
      · subst own
        rw [decide_eq_true rfl, Bool.true_and] at transition opening
        rw [kept, Option.isSome_some, Bool.and_true] at opening
        rw [after, set_self] at kept
        have failure : (start.run steps).isFailureOf step.key step =
            step.change.message?.isSome := by
          rw [Store.isFailureOf, decide_eq_true rfl, Bool.true_and]
        rcases Change.next_cases kept with ⟨state, target, allowed, rfl⟩ | ⟨refused, same⟩ |
            ⟨known, outputs, change, same, rfl⟩
        · rw [target, allowed] at transition
          exact Account.Tells.write told target transition failure opening
        · rw [refused, Bool.not_true, Bool.and_false] at transition
          rw [same] at opening
          rw [Change.message?_of_isRefused refused] at failure
          exact (told account same).keep transition failure opening ⟨rfl, rfl, rfl, rfl⟩
        · rw [change] at transition failure
          rw [same] at opening
          exact (told known same).keep transition failure opening ⟨rfl, rfl, rfl, rfl⟩
      · have other : key ≠ step.key := fun same => own same.symm
        rw [after, set_of_ne _ other] at kept
        rw [decide_eq_false own] at transition opening
        have failure : (start.run steps).isFailureOf key step = false := by
          rw [Store.isFailureOf, decide_eq_false own, Bool.false_and]
        exact (told account kept).keep transition failure opening ⟨rfl, rfl, rfl, rfl⟩

/-! ## What one step changes -/

namespace Record

/-- The executions of a record, none where there is no record. -/
def executionsOf (current : Option Record) : List String :=
  (current.map executions).getD []

/-- The outputs of a record, none where there is no record. -/
def outputsOf (current : Option Record) : Option (List String) :=
  current.bind outputs

@[simp] theorem executionsOf_account (key : Key) (account : Option Account) :
    executionsOf (account.map (Account.record key)) = (account.map Account.executions).getD [] := by
  cases account <;> rfl

@[simp] theorem outputsOf_account (key : Key) (account : Option Account) :
    outputsOf (account.map (Account.record key)) = account.bind Account.outputs := by
  cases account <;> rfl

end Record

/-- How a step may change the lists of a payload's record: an accepted execution stands at the
end of the executions afterwards, nothing else but a removal changes them, and outputs come only
from a step that brings some. -/
structure Step.Extends (step : Step) (accepted : Bool) (key : Key) (before later : Option Record) :
    Prop where
  executions : Record.executionsOf later = Record.executionsOf before ∨
    (step.key = key ∧ step.change = .delete ∧ later = none) ∨
    ∃ execution, step.key = key ∧ step.change.execution? = some execution ∧ accepted = true ∧
      Record.executionsOf later = Record.executionsOf before ++ [execution]
  latest : ∀ execution, step.key = key → step.change.execution? = some execution →
    accepted = true → (Record.executionsOf later).getLast? = some execution
  outputs : Record.outputsOf later = Record.outputsOf before ∨
    (step.key = key ∧ (step.change = .delete ∨ ∃ outputs, step.change.outputs? = some outputs ∧
      Record.outputsOf later = some outputs))

namespace Accounts

variable (accounts : Accounts) (step : Step) (key : Key)

/-- What the accounts show of a payload. -/
def shown (accounts : Accounts) (key : Key) : Option Record :=
  (accounts key).map (Account.record key)

theorem extends_of_write {state : State} (target : step.change.target = some state)
    (allowed : step.change.isRefused (accounts step.key) = false) :
    step.Extends true step.key (accounts.shown step.key) ((accounts.after step).shown step.key) := by
  have written := Change.next_of_target target allowed step.moment
  have later : (accounts.after step) step.key = some (step.change.write state step.moment
      ((accounts step.key).getD (.blank step.moment))) := by
    rw [after, set_self, written]
  have opened : ((accounts step.key).getD (.blank step.moment)).executions =
      Record.executionsOf (accounts.shown step.key) := by
    rw [shown, Record.executionsOf_account]
    cases accounts step.key <;> rfl
  have listed : Record.executionsOf ((accounts.after step).shown step.key) =
      (step.change.execution?.map (Account.extended (Record.executionsOf
        (accounts.shown step.key)))).getD (Record.executionsOf (accounts.shown step.key)) := by
    rw [← opened, shown, Record.executionsOf_account, later]
    rfl
  constructor
  · rw [listed]
    cases brought : step.change.execution? with
    | none => exact .inl rfl
    | some execution =>
        rw [Option.map_some, Option.getD_some, Account.extended]
        split
        · exact .inl rfl
        · exact .inr (.inr ⟨execution, rfl, rfl, rfl, rfl⟩)
  · intro execution _ brought _
    rw [listed, brought]
    exact Account.getLast?_extended _ execution
  · rw [shown, shown, Record.outputsOf_account, Record.outputsOf_account, later]
    cases brought : step.change.outputs? with
    | none =>
        left
        rw [Option.bind_some, Change.write, brought]
        cases accounts step.key <;> rfl
    | some outputs =>
        right
        refine ⟨rfl, .inr ⟨outputs, rfl, ?_⟩⟩
        rw [Option.bind_some, Change.write, brought]
        rfl

theorem extends_of_setOutputs {outputs : List String} (change : step.change = .setOutputs outputs)
    (accepted : Bool) :
    step.Extends accepted step.key (accounts.shown step.key)
      ((accounts.after step).shown step.key) := by
  have later : (accounts.after step) step.key =
      (accounts step.key).map fun account => account.withOutputs outputs step.moment := by
    rw [after, set_self, change]
    rfl
  constructor
  · left
    rw [shown, shown, Record.executionsOf_account, Record.executionsOf_account, later]
    cases accounts step.key <;> rfl
  · intro execution _ brought
    rw [change] at brought
    cases brought
  · rw [shown, shown, Record.outputsOf_account, Record.outputsOf_account, later]
    cases accounts step.key with
    | none => exact .inl rfl
    | some account =>
        exact .inr ⟨rfl, .inr ⟨outputs, congrArg Change.outputs? change, rfl⟩⟩

/-- What one step does to the lists of one payload. -/
theorem after_extends :
    step.Extends (accounts.answer step).isOk key (accounts.shown key)
      ((accounts.after step).shown key) := by
  by_cases own : step.key = key
  · subst own
    cases target : step.change.target with
    | some state =>
        cases refused : step.change.isRefused (accounts step.key) with
        | false =>
            have won : (accounts.answer step).isOk = true := by
              rw [isOk_answer, refused]
              rfl
            rw [won]
            exact accounts.extends_of_write step target refused
        | true =>
            have lost : (accounts.answer step).isOk = false := by
              rw [isOk_answer, refused]
              rfl
            rw [lost, accounts.after_of_refused refused]
            exact ⟨.inl rfl, nofun, .inl rfl⟩
    | none =>
        cases change : step.change with
        | setOutputs outputs => exact accounts.extends_of_setOutputs step change _
        | delete =>
            have gone : (accounts.after step) step.key = none := by
              rw [after, set_self, change]
              rfl
            have removed : (accounts.after step).shown step.key = none := by
              rw [shown, gone]
              rfl
            constructor
            · exact .inr (.inl ⟨rfl, change, removed⟩)
            · intro execution _ brought
              rw [change] at brought
              cases brought
            · exact .inr ⟨rfl, .inl change⟩
        | _ => rw [change] at target; cases target
  · have same : (accounts.after step).shown key = accounts.shown key := by
      rw [shown, after, set_of_ne accounts (Ne.symm own), shown]
    rw [same]
    exact ⟨.inl rfl, fun _ equal => absurd equal own, .inl rfl⟩

end Accounts

namespace Store

end Store
end PayloadLedger
