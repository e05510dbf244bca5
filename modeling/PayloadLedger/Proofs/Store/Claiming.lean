import PayloadLedger.Proofs.Store.Coherence

namespace PayloadLedger

/-!
Exclusive claims.

A claim succeeds exactly on a payload that no execution holds, and once it has succeeded the
payload stays held until something ends that.  So the successful claims of one payload are kept
apart, whoever makes them, and of several claims in a row one wins.
-/

namespace Change

/-- An execution asks for the payload. -/
def isClaim : Change → Bool
  | claim _ => true
  | _ => false

/-- The payload is let go, whatever held it. -/
def releases : Change → Bool
  | complete _ | fail _ | invalidate _ | abort | delete => true
  | claim _ | start _ | setOutputs _ => false

/-- Only a release ends that an execution holds the payload. -/
theorem next_inFlight {change : Change} (keeps : change.releases = false)
    (moment : Time.Instant) {account : Option Account}
    (inFlight : account.any Account.isInFlight = true) :
    (change.next moment account).any Account.isInFlight = true := by
  cases change with
  | claim execution =>
      rw [next, if_pos inFlight]
      exact inFlight
  | start execution => rfl
  | setOutputs outputs =>
      cases account with
      | none => cases inFlight
      | some account => exact inFlight
  | _ => cases keeps

/-- An execution holds the payload after every claim, refused or not. -/
theorem next_claim_inFlight {change : Change} (claims : change.isClaim = true)
    (moment : Time.Instant) (account : Option Account) :
    (change.next moment account).any Account.isInFlight = true := by
  cases change with
  | claim execution =>
      rw [next]
      split
      · assumption
      · rfl
  | _ => cases claims

theorem isRefused_of_isClaim {change : Change} (claims : change.isClaim = true)
    (account : Option Account) :
    change.isRefused account = account.any Account.isInFlight := by
  cases change with
  | claim execution => rfl
  | _ => cases claims

end Change

namespace Accounts

/-- Without a release of its own the payload is held through a whole run. -/
theorem run_inFlight {accounts : Accounts} {key : Key} {steps : List Step}
    (keeps : ∀ step ∈ steps, step.key = key → step.change.releases = false)
    (inFlight : (accounts key).any Account.isInFlight = true) :
    ((accounts.run steps) key).any Account.isInFlight = true := by
  induction steps generalizing accounts with
  | nil => exact inFlight
  | cons step steps ih =>
      have later := fun other member => keeps other (List.mem_cons_of_mem step member)
      have held : ((accounts.after step) key).any Account.isInFlight = true := by
        rw [after]
        by_cases same : key = step.key
        · have kept := keeps step List.mem_cons_self same.symm
          rw [same, set_self]
          exact Change.next_inFlight kept step.moment (same ▸ inFlight)
        · rw [set_of_ne accounts same]
          exact inFlight
      exact ih later held

/-- A payload is free when it has no record, or its record is in a final state. -/
theorem free_iff (accounts : Accounts) (key : Key) :
    (accounts key).any Account.isInFlight = false ↔
      (accounts key).map (Account.record key) = none ∨
        ∃ record, (accounts key).map (Account.record key) = some record ∧
          record.state.isTerminal = true := by
  cases accounts key with
  | none => exact ⟨fun _ => .inl rfl, fun _ => rfl⟩
  | some account =>
      rw [Option.any_some, Option.map_some, ← Bool.not_eq_true', Account.isInFlight,
        ← State.isTerminal_eq_not_isInFlight]
      constructor
      · intro terminal
        exact .inr ⟨account.record key, rfl, terminal⟩
      · rintro (⟨⟨⟩⟩ | ⟨record, ⟨⟩, terminal⟩)
        exact terminal

end Accounts

namespace Store

/-- What a run of steps is answered, step by step. -/
def replies (store : Store) : List Step → List (Except StoreError (Option Record))
  | [] => []
  | step :: steps => (store.perform step).result :: replies (store.perform step).after steps

/-- Claims of a payload that is held are all refused. -/
theorem Holds.replies_of_inFlight {store : Store} {accounts : Accounts} {key : Key}
    {claims : List Step} (holds : store.Holds accounts)
    (inFlight : (accounts key).any Account.isInFlight = true)
    (proper : ∀ step ∈ claims, step.IsProper)
    (wanted : ∀ step ∈ claims, step.key = key ∧ step.change.isClaim = true) :
    (store.replies claims).countP Except.isOk = 0 := by
  induction claims generalizing store accounts with
  | nil => rfl
  | cons step claims ih =>
      rcases wanted step List.mem_cons_self with ⟨same, isClaim⟩
      have follows := holds.perform (proper step List.mem_cons_self)
      have refused : (store.perform step).result.isOk = false := by
        rw [follows.result, Accounts.isOk_answer, Change.isRefused_of_isClaim isClaim, same,
          inFlight]
        rfl
      have held : ((accounts.after step) key).any Account.isInFlight = true := by
        rw [Accounts.after, ← same, Accounts.set_self]
        exact Change.next_claim_inFlight isClaim step.moment _
      rw [replies, List.countP_cons_of_neg (ne_true_of_eq_false refused)]
      exact ih follows.after held (fun other member => proper other (List.mem_cons_of_mem _ member))
        fun other member => wanted other (List.mem_cons_of_mem _ member)

/-- Of some claims of a payload that is free, the first wins. -/
theorem Holds.replies_of_free {store : Store} {accounts : Accounts} {key : Key}
    {claims : List Step} (holds : store.Holds accounts)
    (free : (accounts key).any Account.isInFlight = false)
    (some : claims ≠ []) (proper : ∀ step ∈ claims, step.IsProper)
    (wanted : ∀ step ∈ claims, step.key = key ∧ step.change.isClaim = true) :
    (store.replies claims).countP Except.isOk = 1 := by
  cases claims with
  | nil => exact absurd rfl some
  | cons step claims =>
      rcases wanted step List.mem_cons_self with ⟨same, isClaim⟩
      have follows := holds.perform (proper step List.mem_cons_self)
      have won : (store.perform step).result.isOk = true := by
        rw [follows.result, Accounts.isOk_answer, Change.isRefused_of_isClaim isClaim, same, free]
        rfl
      have held : ((accounts.after step) key).any Account.isInFlight = true := by
        rw [Accounts.after, ← same, Accounts.set_self]
        exact Change.next_claim_inFlight isClaim step.moment _
      have lost := follows.after.replies_of_inFlight held
        (fun other member => proper other (List.mem_cons_of_mem _ member))
        fun other member => wanted other (List.mem_cons_of_mem _ member)
      rw [replies, List.countP_cons_of_pos won, lost]

theorem perform_claim (store : Store) (key : Key) (moment : Time.Instant) (execution : String) :
    store.perform ⟨key, moment, .claim execution⟩ =
      (store.claim key execution moment).map some := rfl

/-- A claim succeeds on a payload without a record, and on one whose record is in a final state. -/
theorem Holds.claim_succeeds_iff {store : Store} {accounts : Accounts} {key : Key}
    {moment : Time.Instant} (holds : store.Holds accounts) (decoded : key.IsDecoded)
    (storable : moment.IsStorable) (execution : String) :
    (∃ record, (store.claim key execution moment).result = .ok record) ↔
      ((accounts key).map (Account.record key) = none ∨
        ∃ record, (accounts key).map (Account.record key) = some record ∧
          record.state.isTerminal = true) := by
  have proper : Step.IsProper ⟨key, moment, .claim execution⟩ := ⟨decoded, storable⟩
  have answered := congrArg Except.isOk (holds.perform proper).result
  rw [Accounts.isOk_answer, Change.isRefused_of_isClaim rfl] at answered
  rw [← Accounts.free_iff, ← Bool.not_eq_true', ← answered, perform_claim, Reply.map]
  cases (store.claim key execution moment).result with
  | error error =>
      constructor
      · rintro ⟨record, same⟩
        cases same
      · intro succeeded
        cases succeeded
  | ok record => exact ⟨fun _ => rfl, fun _ => ⟨record, rfl⟩⟩

/-- A refused claim writes nothing and names the state and the execution that hold the payload. -/
theorem Holds.claim_refused {store : Store} {accounts : Accounts} {key : Key}
    {moment : Time.Instant} {execution : String} {error : StoreError}
    (holds : store.Holds accounts) (coherent : accounts.AreCoherent) (decoded : key.IsDecoded)
    (storable : moment.IsStorable)
    (refused : (store.claim key execution moment).result = .error error) :
    (store.claim key execution moment).after = store ∧
      ∃ record holder, (accounts key).map (Account.record key) = some record ∧
        record.latestExecution = some holder ∧
        error = .alreadyClaimed key.payloadId (some record.state) (some holder) := by
  have proper : Step.IsProper ⟨key, moment, .claim execution⟩ := ⟨decoded, storable⟩
  have answered := (holds.perform proper).result
  rw [perform_claim, Reply.map, refused, Accounts.answer] at answered
  cases inFlight : (accounts key).any Account.isInFlight with
  | false =>
      rw [Change.isRefused, inFlight] at answered
      cases answered
  | true =>
      constructor
      · have unchanged : (store.perform ⟨key, moment, .claim execution⟩).after = store :=
          after_perform_of_refused holds inFlight
        exact unchanged
      · cases found : accounts key with
        | none =>
            rw [found] at inFlight
            cases inFlight
        | some account =>
            rw [found, Option.any_some] at inFlight
            have worked := (coherent key account found).worked inFlight
            simp only [Change.isRefused, found, Option.any_some, inFlight, if_true] at answered
            refine ⟨account.record key, account.executions.getLast worked, rfl, ?_, ?_⟩
            · exact List.getLast?_eq_some_getLast worked
            · rw [← List.getLast?_eq_some_getLast worked]
              exact Except.error.inj answered

/-- Between two claims of one payload that both succeed there is a release of it. -/
theorem Holds.release_between {store : Store} {accounts : Accounts} {first second : Step}
    {between : List Step} (holds : store.Holds accounts)
    (proper : ∀ step ∈ first :: between ++ [second], step.IsProper)
    (same : second.key = first.key) (firstClaims : first.change.isClaim = true)
    (secondClaims : second.change.isClaim = true)
    (won : ((store.run (first :: between)).perform second).result.isOk = true) :
    ∃ step ∈ between, step.key = first.key ∧ step.change.releases = true := by
  apply Classical.byContradiction
  intro absent
  have keeps : ∀ step ∈ between, step.key = first.key → step.change.releases = false := by
    intro step member own
    exact eq_false_of_ne_true fun releases => absent ⟨step, member, own, releases⟩
  have claimed : ((accounts.after first) first.key).any Account.isInFlight = true := by
    rw [Accounts.after, Accounts.set_self]
    exact Change.next_claim_inFlight firstClaims first.moment _
  have held : ((accounts.run (first :: between)) first.key).any Account.isInFlight = true := by
    rw [Accounts.run_cons]
    exact Accounts.run_inFlight keeps claimed
  have reached : (store.run (first :: between)).Holds (accounts.run (first :: between)) :=
    holds.run fun step member => proper step (List.mem_append_left _ member)
  have follows := reached.perform (proper second (List.mem_append_right _ List.mem_cons_self))
  rw [follows.result, Accounts.isOk_answer, Change.isRefused_of_isClaim secondClaims, same,
    held] at won
  cases won

/-- Claims are exclusive.  On every store that a run of proper steps reaches, a claim succeeds
exactly where there is no record or a final state; refused, it leaves the store as it is and
reports who holds the payload.  Between two successful claims of one payload there is a release
of it, and of any claims of a free payload one after another exactly one succeeds. -/
theorem claim_exclusive (sliceSize limitCap : Nat) (steps : List Step)
    (proper : ∀ step ∈ steps, step.IsProper) :
    let store := (empty sliceSize limitCap).run steps
    (∀ key execution moment, key.IsDecoded → moment.IsStorable →
      ∃ current, (store.get key).result = .ok current ∧
        ((∃ record, (store.claim key execution moment).result = .ok record) ↔
          current = none ∨ ∃ record, current = some record ∧ record.state.isTerminal = true) ∧
        ∀ error, (store.claim key execution moment).result = .error error →
          (store.claim key execution moment).after = store ∧
            ∃ record holder, current = some record ∧ record.latestExecution = some holder ∧
              error = .alreadyClaimed key.payloadId (some record.state) (some holder)) ∧
    (∀ earlier first between second later,
      steps = earlier ++ first :: between ++ second :: later →
      second.key = first.key → first.change.isClaim = true → second.change.isClaim = true →
      (((empty sliceSize limitCap).run earlier).perform first).result.isOk = true →
      (((empty sliceSize limitCap).run (earlier ++ first :: between)).perform
        second).result.isOk = true →
      ∃ step ∈ between, step.key = first.key ∧ step.change.releases = true) ∧
    ∀ key claims current, (store.get key).result = .ok current →
      (current = none ∨ ∃ record, current = some record ∧ record.state.isTerminal = true) →
      claims ≠ [] → (∀ step ∈ claims, step.IsProper) →
      (∀ step ∈ claims, step.key = key ∧ step.change.isClaim = true) →
      (store.replies claims).countP Except.isOk = 1 := by
  intro store
  have holds := (empty_holds sliceSize limitCap).run proper
  have coherent := Accounts.run_areCoherent steps
  refine ⟨?_, ?_, ?_⟩
  · intro key execution moment decoded storable
    refine ⟨_, holds.get_result key, holds.claim_succeeds_iff decoded storable execution, ?_⟩
    intro error refused
    exact holds.claim_refused coherent decoded storable refused
  · intro earlier first between second later whole same firstClaims secondClaims _ won
    rw [whole] at proper
    have properBefore : ∀ step ∈ earlier, step.IsProper := fun step member =>
      proper step (List.mem_append_left _ (List.mem_append_left _ member))
    have before := (empty_holds sliceSize limitCap).run properBefore
    rw [run_append] at won
    refine before.release_between (fun step member => proper step ?_) same firstClaims
      secondClaims won
    rcases List.mem_append.mp member with inside | last
    · exact List.mem_append_left _ (List.mem_append_right _ inside)
    · rw [List.mem_singleton.mp last]
      exact List.mem_append_right _ List.mem_cons_self
  · intro key claims current got free some claimsProper wanted
    rw [holds.get_result key] at got
    cases got
    refine holds.replies_of_free ?_ some claimsProper wanted
    exact (Accounts.free_iff _ key).mpr free

/-- After an aborted attempt three claims compete, and one of them wins. -/
theorem claim_exclusive_rivals :
    let key : Key := ⟨"c_w", "a"⟩
    let mine : Step := ⟨key, ⟨0, 0⟩, .claim "one"⟩
    let rival : Step := ⟨key, ⟨1, 0⟩, .claim "two"⟩
    let ended : Step := ⟨key, ⟨2, 0⟩, .abort⟩
    (∀ step ∈ [mine, ended], step.IsProper) ∧ (∀ step ∈ [rival, mine, rival], step.IsProper) ∧
      (((empty 100 1000).run [mine, ended]).replies [rival, mine, rival]).countP Except.isOk = 1 := by
  intro key mine rival ended
  have decoded : key.IsDecoded := ⟨"c/workflow-w/a", rfl⟩
  have mineProper : mine.IsProper := ⟨decoded, by decide⟩
  have rivalProper : rival.IsProper := ⟨decoded, by decide⟩
  have proper : ∀ step ∈ [mine, ended], step.IsProper := by
    intro step member
    rcases List.mem_cons.mp member with rfl | last
    · exact mineProper
    · exact List.mem_singleton.mp last ▸ ⟨decoded, by decide⟩
  have competing : ∀ step ∈ [rival, mine, rival],
      step.IsProper ∧ step.key = key ∧ step.change.isClaim = true := by
    intro step member
    rcases List.mem_cons.mp member with rfl | member
    · exact ⟨rivalProper, rfl, rfl⟩
    · rcases List.mem_cons.mp member with rfl | last
      · exact ⟨mineProper, rfl, rfl⟩
      · exact List.mem_singleton.mp last ▸ ⟨rivalProper, rfl, rfl⟩
  refine ⟨proper, fun step member => (competing step member).1, ?_⟩
  refine (claim_exclusive 100 1000 [mine, ended] proper).2.2 key [rival, mine, rival]
    (some ⟨"c/workflow-w/a", "c", "w", "a", .aborted, "ABORTED_1970-01-01T00:00:02.000000Z",
      ⟨0, 0⟩, ⟨2, 0⟩, ["one"], none, none⟩) ?_ (.inr ⟨_, rfl, rfl⟩) nofun
    (fun step member => (competing step member).1) fun step member => (competing step member).2
  decide +kernel

end Store
end PayloadLedger
