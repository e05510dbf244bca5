import PayloadLedger.Proofs.Store.Reading
import PayloadLedger.Proofs.Time.Accepted

namespace PayloadLedger

/-!
Transitions at accepted instants.

A transition writes its instant into the row whether or not the text is read back.  For years of
four digits it is, and the row does no harm to later readings.  For any other year the row is
written all the same, and neither the transition nor a later look at the payload gets past it.
-/

namespace Account

/-- The row of an account whose last change is not read back does not read. -/
theorem record_row_unread {key : Key} (decoded : key.IsDecoded) {account : Account}
    (created : account.created = account.updated ∨ account.created.IsStorable)
    {error : InputError} (unread : Time.Timestamp.ofUtc? account.updated.stored = .error error) :
    (account.row key).record = .error (.corruptTime key.payloadId error) := by
  have updated : Row.readTime key account.updated.stored =
      .error (.corruptTime key.payloadId error) := by
    rw [Row.readTime, unread]
    rfl
  rw [Row.record]
  simp only [row, decoded.ofPartition, Except.mapError, bind, Except.bind, pure, Except.pure,
    Row.ofPacked?_pack]
  rcases created with same | storable
  · simp only [same, updated]
  · simp only [readTime_stored key storable, updated]

end Account

namespace Store

variable {store : Store} {accounts : Accounts} {key : Key} {change : Change} {state : State}

theorem get_wrote (store : Store) (operation : Operation) (state : State) {row : Row}
    {table : Table} {error : StoreError} (unread : row.record = .error error) :
    ((store.wrote operation state row (table.put row)).after.get row.key).result =
      .error error := by
  have found : (table.put row).find? row.key = some row := by
    rw [Table.find?_put, if_pos rfl]
  simp only [wrote, get, answer, found, unread]
  rfl

/-- A transition at an instant that is not read back fails behind its writing, and what it has
written stays unread. -/
theorem Holds.perform_unread (holds : store.Holds accounts) (decoded : key.IsDecoded)
    (target : change.target = some state) (allowed : change.isRefused (accounts key) = false)
    {moment : Time.Instant} {error : InputError}
    (unread : Time.Timestamp.ofUtc? moment.stored = .error error) :
    let reply := store.perform ⟨key, moment, change⟩
    reply.result = .error (.corruptTime key.payloadId error) ∧
      (reply.after.get key).result = .error (.corruptTime key.payloadId error) := by
  rcases holds with ⟨table, present, kept⟩
  rcases perform_wrote present kept target allowed moment with ⟨operation, written⟩
  have created : ((accounts key).getD (.blank moment)).created = moment ∨
      ((accounts key).getD (.blank moment)).created.IsStorable := by
    cases found : accounts key with
    | none => exact .inl rfl
    | some account => exact .inr (kept.storable key account found).created
  have lost : ((change.write state moment ((accounts key).getD (.blank moment))).row key).record =
      .error (.corruptTime key.payloadId error) :=
    Account.record_row_unread decoded created unread
  simp only [written]
  constructor
  · exact congrArg (Except.map some) lost
  · exact get_wrote store operation state lost

/-- Accepted instants are kept.  On every store that a run of proper steps reaches, a transition
at an accepted instant that is not held back by another execution is answered with a record of
that instant, cut to microseconds, and does no harm to later readings, if the year of the instant
has four digits.  Otherwise the stored text is not read back, and both the transition and a look
at the payload fail with the row that was written. -/
theorem accepted_kept (sliceSize limitCap : Nat) (steps : List Step)
    (proper : ∀ step ∈ steps, step.IsProper) {text : String} {moment : Time.Instant}
    (accepted : Time.Timestamp.ofUtc? text = .ok moment) {key : Key} (decoded : key.IsDecoded)
    {change : Change} (moves : change.target.isSome = true)
    (free : ∀ holder execution,
      (((empty sliceSize limitCap).run steps).perform ⟨key, moment, change⟩).result ≠
        .error (.alreadyClaimed key.payloadId holder execution)) :
    let reply := ((empty sliceSize limitCap).run steps).perform ⟨key, moment, change⟩
    let readBack := Time.Timestamp.ofUtc? moment.stored
    let fits := 0 ≤ moment.date.year ∧ moment.date.year ≤ 9999
    (fits → readBack = .ok moment.truncate ∧
      ∃ record, reply.result = .ok (some record) ∧ record.updated = moment.truncate ∧
        ∀ later, (∀ step ∈ later, step.IsProper) → (reply.after.run later).ReadsWell) ∧
    (¬ fits → ∃ error, readBack = .error error ∧
      reply.result = .error (.corruptTime key.payloadId error) ∧
      (reply.after.get key).result = .error (.corruptTime key.payloadId error)) := by
  intro reply readBack fits
  have start := empty_holds sliceSize limitCap
  have holds := start.run proper
  obtain ⟨state, target⟩ := Option.isSome_iff_exists.mp moves
  have allowed : change.isRefused (Accounts.run (fun _ => none) steps key) = false := by
    apply eq_false_of_ne_true
    intro refused
    have held : Holds.Follows reply _ ⟨key, moment, change⟩ := holds.refused refused
    have answered := held.result
    simp only [Accounts.answer, refused, if_true] at answered
    exact free _ _ answered
  constructor
  · rintro ⟨nonneg, le⟩
    have regular := Time.Timestamp.isRegular_of_accepted accepted
    have storable := regular.isStorable nonneg le
    have cut := Time.Instant.kept_of_leapEndsMinute regular.leap
    have step : Step.IsProper ⟨key, moment, change⟩ := ⟨decoded, storable⟩
    have answered : reply.result = _ := (holds.perform step).result
    simp only [Accounts.answer, allowed, Change.next_of_target target allowed] at answered
    have readBack := Time.Timestamp.ofUtc?_stored storable
    rw [cut] at readBack
    refine ⟨readBack, _, answered, cut, ?_⟩
    intro later properLater
    have whole : reply.after.run later =
        (empty sliceSize limitCap).run (steps ++ ⟨key, moment, change⟩ :: later) :=
      (run_append _ steps (⟨key, moment, change⟩ :: later)).symm
    have all : ∀ step ∈ steps ++ ⟨key, moment, change⟩ :: later, step.IsProper := by
      intro other member
      rcases List.mem_append.mp member with early | member
      · exact proper other early
      · rcases List.mem_cons.mp member with rfl | late
        · exact step
        · exact properLater other late
    rw [whole]
    exact (start.run all).readsWell (sliceSize_run_empty_pos sliceSize limitCap _)
  · intro outside
    rcases Time.Timestamp.ofUtc?_stored_signed outside with ⟨fault, unread⟩
    exact ⟨_, unread, holds.perform_unread decoded target allowed unread⟩

/-- A leap second is kept, and the first second of the year 10000 is not. -/
theorem accepted_kept_leap :
    let key : Key := ⟨"c_w", "a"⟩
    let steps : List Step := [⟨key, ⟨0, 0⟩, .fail "lost"⟩]
    let store := (empty 100 1000).run steps
    let leap : Time.Instant := ⟨1483228799, 1123456700⟩
    let far : Time.Instant := ⟨253402300800, 0⟩
    (∀ step ∈ steps, step.IsProper) ∧ key.IsDecoded ∧
      Time.Timestamp.ofUtc? " 2016-12-31T23:59:60.1234567" = .ok leap ∧
      Time.Timestamp.ofUtc? "+10000-01-01T00:00:00" = .ok far ∧
      (∃ record, (store.perform ⟨key, leap, .claim "one"⟩).result = .ok (some record) ∧
        record.updated = ⟨1483228799, 1123456000⟩) ∧
      ∃ error, Time.Timestamp.ofUtc? far.stored = .error error ∧
        (store.perform ⟨key, far, .claim "one"⟩).result =
          .error (.corruptTime key.payloadId error) ∧
        ((store.perform ⟨key, far, .claim "one"⟩).after.get key).result =
          .error (.corruptTime key.payloadId error) := by
  intro key steps store leap far
  have decoded : key.IsDecoded := ⟨"c/workflow-w/a", rfl⟩
  have proper : ∀ step ∈ steps, step.IsProper := by
    intro step member
    rw [List.mem_singleton.mp member]
    exact ⟨decoded, by decide⟩
  have near : Time.Timestamp.ofUtc? " 2016-12-31T23:59:60.1234567" = .ok leap := by
    decide +kernel
  have distant : Time.Timestamp.ofUtc? "+10000-01-01T00:00:00" = .ok far := by decide +kernel
  have free : ∀ moment ∈ [leap, far], ∀ holder execution,
      (((empty 100 1000).run steps).perform ⟨key, moment, .claim "one"⟩).result ≠
        .error (.alreadyClaimed key.payloadId holder execution) := by
    have unclaimed : ∀ moment ∈ [leap, far],
        ((store.perform ⟨key, moment, .claim "one"⟩).result.map fun _ => ()).mapError
          StoreError.isAlreadyClaimed ≠ .error true := by decide +kernel
    intro moment member holder execution held
    apply unclaimed moment member
    change ((((empty 100 1000).run steps).perform ⟨key, moment, .claim "one"⟩).result.map _).mapError
      _ = _
    rw [held]
    rfl
  refine ⟨proper, decoded, near, distant, ?_, ?_⟩
  · rcases (accepted_kept 100 1000 steps proper near decoded rfl (free leap (by decide))).1
      (by decide +kernel) with ⟨_, record, answered, updated, _⟩
    exact ⟨record, answered, updated.trans (by decide)⟩
  · exact (accepted_kept 100 1000 steps proper distant decoded rfl
      (free far (by decide))).2 (by decide +kernel)

end Store
end PayloadLedger
