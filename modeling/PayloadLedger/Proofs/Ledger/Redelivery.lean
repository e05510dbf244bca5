import PayloadLedger.Proofs.Ledger.Asking

namespace PayloadLedger
namespace Ledger

/-!
Status changes that are delivered again.

Whoever delivers the end of an execution may deliver it more than once, with others about other
payloads in between.  To the store each delivery is a step, and those about the payload all ask for
the same change.
-/

/-! ## Deliveries -/

/-- What is delivered after the first delivery of a status change. -/
inductive Delivery
  /-- The same status change, through the same resolver. -/
  | again (now : Time.Instant)
  | other (resolver : Engine.Resolver) (change : Engine.StatusChange) (now : Time.Instant)

/-- The clock shows a time that can be stored, and another status change is about another payload. -/
def Delivery.IsProper (first : Engine.StatusChange) : Delivery → Prop
  | again now => now.IsStorable
  | other _ change now =>
      now.IsStorable ∧ Key.decode change.payloadId ≠ Key.decode first.payloadId

/-- When the status change was last delivered, if it was at `first` before. -/
def lastDelivery (first : Time.Instant) (deliveries : List Delivery) : Time.Instant :=
  deliveries.foldl (fun last delivery =>
    match delivery with
    | .again now => now
    | .other _ _ _ => last) first

variable (resolver : Engine.Resolver) (change : Engine.StatusChange)

def deliver (ledger : Ledger) (delivery : Delivery) : Ledger :=
  match delivery with
  | .again now => (ledger.apply resolver change now).2
  | .other resolver change now => (ledger.apply resolver change now).2

def deliverAll (ledger : Ledger) (deliveries : List Delivery) : Ledger :=
  deliveries.foldl (deliver resolver change) ledger

theorem deliverAll_cons (ledger : Ledger) (delivery : Delivery) (deliveries : List Delivery) :
    ledger.deliverAll resolver change (delivery :: deliveries) =
      (ledger.deliver resolver change delivery).deliverAll resolver change deliveries := rfl

/-! ## Deliveries as steps -/

/-- The steps that the deliveries come to. -/
structure ComesTo (key : Key) (request : Change) (first last : Time.Instant) (before after : Store)
    (steps : List Step) : Prop where
  run : after = before.run steps
  proper : ∀ step ∈ steps, step.IsProper
  repeats : ∀ step ∈ steps, step.Repeats key request
  last : lastMoment key first steps = last

variable {resolver change} {key : Key} {request : Change} {state : State}

theorem ComesTo.cons {first moment last : Time.Instant} {before between after : Store}
    {steps : List Step} {step : Step} (performed : between = (before.perform step).after)
    (proper : step.IsProper) (repeats : step.Repeats key request)
    (happened : (if step.key = key then step.moment else first) = moment)
    (rest : ComesTo key request moment last between after steps) :
    ComesTo key request first last before after (step :: steps) where
  run := by rw [Store.run_cons, ← performed, rest.run]
  proper := List.forall_mem_cons.mpr ⟨proper, rest.proper⟩
  repeats := List.forall_mem_cons.mpr ⟨repeats, rest.repeats⟩
  last := by rw [lastMoment_cons, happened, rest.last]

theorem Requests.comesTo (requests : Requests resolver change key request) (ledger : Ledger)
    (first : Time.Instant) {deliveries : List Delivery}
    (proper : ∀ delivery ∈ deliveries, delivery.IsProper change) :
    ∃ steps, ComesTo key request first (lastDelivery first deliveries) ledger.store
      (ledger.deliverAll resolver change deliveries).store steps := by
  induction deliveries generalizing ledger first with
  | nil => exact ⟨[], rfl, nofun, nofun, rfl⟩
  | cons delivery deliveries ih =>
      rw [List.forall_mem_cons] at proper
      cases delivery with
      | again now =>
          rcases ih (ledger.apply resolver change now).2 now proper.2 with ⟨steps, rest⟩
          have own : Step.IsProper ⟨key, now, request⟩ := ⟨⟨_, requests.decoded⟩, proper.1⟩
          exact ⟨_, .cons (requests.store ledger now) own (fun _ => rfl) (if_pos rfl) rest⟩
      | other resolver' change' now =>
          rcases proper.1 with ⟨storable, apart⟩
          cases apply_asks resolver' change' with
          | nothing _ refused =>
              rw [deliverAll_cons, deliver, refused ledger now]
              exact ih ledger first proper.2
          | @transition otherKey request' _ requests' _ =>
              have different : otherKey ≠ key := by
                rintro rfl
                exact apart (requests'.decoded.trans requests.decoded.symm)
              have foreign : Step.IsProper ⟨otherKey, now, request'⟩ :=
                ⟨⟨_, requests'.decoded⟩, storable⟩
              rcases ih (ledger.apply resolver' change' now).2 first proper.2 with ⟨steps, rest⟩
              exact ⟨_, .cons (requests'.store ledger now) foreign
                (fun same => absurd same different) (if_neg different) rest⟩

/-! ## Redelivery -/

/-- A store that holds accounts keeps the record of the first delivery, but for the times, however
often the status change is delivered again. -/
theorem Requests.repeated (requests : Requests resolver change key request)
    (free : request.IsFree state) {ledger : Ledger} {accounts : Accounts}
    (holds : ledger.store.Holds accounts) {first : Time.Instant} (storable : first.IsStorable) :
    let applied := ledger.apply resolver change first
    ∃ record, applied.1 = .ok (some record) ∧
      (applied.2.store.get key).result = .ok (some record) ∧
      ∀ deliveries : List Delivery, (∀ delivery ∈ deliveries, delivery.IsProper change) →
        let later := applied.2.deliverAll resolver change deliveries
        (later.store.get key).result =
            .ok (some (record.retimed (lastDelivery first deliveries))) ∧
          ∀ now : Time.Instant, now.IsStorable →
            (later.apply resolver change now).1 = .ok (some (record.retimed now)) := by
  intro applied
  rcases holds.repeated ⟨_, requests.decoded⟩ free storable with ⟨record, answered, got, repeated⟩
  have stored : applied.2.store = _ := requests.store ledger first
  refine ⟨record, ?_, ?_, ?_⟩
  · have result : applied.1 = _ := requests.result ledger first
    rw [result, answered]
    rfl
  · rw [stored, got]
  · intro deliveries proper later
    rcases requests.comesTo applied.2 first proper with ⟨steps, comes⟩
    have run : later.store = _ := comes.run
    rw [stored] at run
    rcases repeated steps comes.proper comes.repeats with ⟨last, again⟩
    constructor
    · rw [run, last, comes.last]
    · intro now nowStorable
      rw [requests.result, run, again now nowStorable]
      rfl

theorem result_start {store : Store} {execution : String} {moment : Time.Instant} {record : Record}
    (answered : (store.perform ⟨key, moment, .start execution⟩).result = .ok (some record)) :
    (store.start key execution moment).result = .ok record := by
  change (store.start key execution moment).result.map some = _ at answered
  cases result : (store.start key execution moment).result with
  | error error =>
      rw [result] at answered
      cases answered
  | ok written =>
      rw [result] at answered
      cases answered
      rfl

/-- Delivering again is safe on every store that a run of proper steps reaches.  A status change
that is accepted is answered with a record, and after any further deliveries of it, with others about
other payloads in between, the record is still that one but for the times of the last delivery; every
further delivery is answered with it as well.  The same holds of an execution that tells again and
again that it started, with steps about other payloads in between. -/
theorem redelivery_safe (sliceSize limitCap : Nat) (steps : List Step)
    (reached : ∀ step ∈ steps, step.IsProper) (sinks : EventLog × Option Publisher)
    (metrics : Metrics) {first : Time.Instant} (storable : first.IsStorable) :
    let ledger : Ledger := ⟨(Store.empty sliceSize limitCap).run steps, sinks.1, sinks.2, metrics⟩
    (∀ (resolver : Engine.Resolver) (change : Engine.StatusChange),
      let applied := ledger.apply resolver change first
      applied.1.isOk = true → ∃ key record, Key.decode change.payloadId = .ok key ∧
        applied.1 = .ok (some record) ∧ (applied.2.store.get key).result = .ok (some record) ∧
        ∀ deliveries : List Delivery, (∀ delivery ∈ deliveries, delivery.IsProper change) →
          let later := applied.2.deliverAll resolver change deliveries
          (later.store.get key).result =
              .ok (some (record.retimed (lastDelivery first deliveries))) ∧
            ∀ now : Time.Instant, now.IsStorable →
              (later.apply resolver change now).1 = .ok (some (record.retimed now))) ∧
    ∀ (key : Key) (execution : String), key.IsDecoded →
      let started := ledger.store.start key execution first
      ∃ record, started.result = .ok record ∧ (started.after.get key).result = .ok (some record) ∧
        ∀ others : List Step, (∀ step ∈ others, step.IsProper) →
          (∀ step ∈ others, step.Repeats key (.start execution)) →
          let later := started.after.run others
          (later.get key).result = .ok (some (record.retimed (lastMoment key first others))) ∧
            ∀ now : Time.Instant, now.IsStorable →
              (later.start key execution now).result = .ok (record.retimed now) := by
  intro ledger
  have holds : ledger.store.Holds _ := (Store.empty_holds sliceSize limitCap).run reached
  constructor
  · intro resolver change applied accepted
    cases apply_asks resolver change with
    | nothing _ refused =>
        change (ledger.apply resolver change first).1.isOk = true at accepted
        rw [refused ledger first] at accepted
        cases accepted
    | transition requests free =>
        rcases requests.repeated free holds storable with ⟨record, kept⟩
        exact ⟨_, record, requests.decoded, kept⟩
  · intro key execution decoded started
    have free : Change.IsFree (.start execution) .processing := ⟨rfl, fun _ => rfl⟩
    rcases holds.repeated decoded free storable with ⟨record, answered, got, repeated⟩
    refine ⟨record, result_start answered, got, ?_⟩
    intro others proper repeats later
    rcases repeated others proper repeats with ⟨last, again⟩
    exact ⟨last, fun now nowStorable => result_start (again now nowStorable)⟩

/-- A claimed payload is completed twice, and another one is aborted in between. -/
theorem redelivery_safe_completed :
    let key : Key := ⟨"c_w", "a"⟩
    let steps : List Step := [⟨key, ⟨0, 0⟩, .claim "one"⟩]
    let resolver : Engine.Resolver := ⟨[], .absent⟩
    let change : Engine.StatusChange := ⟨"one", "c/workflow-w/a", "SUCCEEDED", none, none, none⟩
    let aborted : Engine.StatusChange := ⟨"two", "c/workflow-w/b", "ABORTED", none, none, none⟩
    let ledger : Ledger := ⟨(Store.empty 100 1000).run steps, .disabled, none, []⟩
    let applied := ledger.apply resolver change ⟨60, 0⟩
    (∀ step ∈ steps, step.IsProper) ∧ (⟨60, 0⟩ : Time.Instant).IsStorable ∧
      applied.1.isOk = true ∧ ∃ record, applied.1 = .ok (some record) ∧
        ((applied.2.deliverAll resolver change
          [.other resolver aborted ⟨90, 0⟩, .again ⟨120, 0⟩]).store.get key).result =
          .ok (some (record.retimed ⟨120, 0⟩)) := by
  intro key steps resolver change aborted ledger applied
  have decoded : Key.decode "c/workflow-w/a" = .ok key := rfl
  have storable : (⟨60, 0⟩ : Time.Instant).IsStorable := by decide
  have proper : ∀ step ∈ steps, step.IsProper := by
    intro step member
    rw [List.mem_singleton.mp member]
    exact ⟨⟨_, decoded⟩, by decide⟩
  have accepted : applied.1.isOk = true := by decide
  refine ⟨proper, storable, accepted, ?_⟩
  rcases (redelivery_safe 100 1000 steps proper (.disabled, none) [] storable).1 resolver change
    accepted with ⟨other, record, same, answered, _, safe⟩
  cases decoded.symm.trans same
  have apart : ∀ delivery ∈ [Delivery.other resolver aborted ⟨90, 0⟩, .again ⟨120, 0⟩],
      delivery.IsProper change := by
    intro delivery member
    rcases List.mem_cons.mp member with rfl | later
    · exact ⟨by decide, by decide⟩
    · rw [List.mem_singleton.mp later]
      exact (by decide : (⟨120, 0⟩ : Time.Instant).IsStorable)
  exact ⟨record, answered, (safe _ apart).1⟩

end Ledger
end PayloadLedger
