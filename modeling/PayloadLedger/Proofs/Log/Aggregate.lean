import PayloadLedger.EventLog
import PayloadLedger.Proofs.Distinct

namespace PayloadLedger

/-!
Counts do not tell the order of the events.

A log is only ever read as counts.  They are sorted by bucket and measure, and none of them looks
at the place of an event in the log, so that two logs with the same events give the same answers.
-/

namespace EventLog

/-! ## Groups -/

theorem groupBefore_iff (one other : Int × String) :
    groupBefore one other = true ↔
      one.1 < other.1 ∨ one.1 = other.1 ∧ one.2 ≤ other.2 := by
  rw [groupBefore, Bool.or_eq_true, Bool.and_eq_true, decide_eq_true_iff, beq_iff_eq,
    Bool.not_eq_true', decide_eq_false_iff_not, String.not_lt]

theorem groupBefore_trans (one other third : Int × String) (first : groupBefore one other)
    (second : groupBefore other third) : groupBefore one third := by
  rw [groupBefore_iff] at first second ⊢
  rcases first with earlier | ⟨same, first⟩
  · left
    rcases second with later | ⟨same, _⟩ <;> omega
  · rcases second with later | ⟨equal, second⟩
    · left
      omega
    · exact .inr ⟨same.trans equal, String.le_trans first second⟩

theorem groupBefore_total (one other : Int × String) :
    groupBefore one other || groupBefore other one := by
  rw [Bool.or_eq_true, groupBefore_iff, groupBefore_iff]
  rcases Int.lt_trichotomy one.1 other.1 with earlier | same | later
  · exact .inl (.inl earlier)
  · rcases String.le_total one.2 other.2 with first | second
    · exact .inl (.inr ⟨same, first⟩)
    · exact .inr (.inr ⟨same.symm, second⟩)
  · exact .inr (.inl later)

theorem groupBefore_antisymm (one other : Int × String) (first : groupBefore one other)
    (second : groupBefore other one) : one = other := by
  rw [groupBefore_iff] at first second
  apply Prod.ext
  · omega
  · exact String.le_antisymm (first.resolve_left (by omega)).2 (second.resolve_left (by omega)).2

/-! ## Counts -/

/-- A window includes both its ends. -/
def isWithin (window : Window) (event : StoredEvent) : Bool :=
  window.start ≤ event.time && event.time ≤ window.finish

def groupIn (window : Window) (event : StoredEvent) : Int × String :=
  (bucketOf window.size window.origin event.time, event.measure)

/-- The count of a group that has these members. -/
def countGroup (group : Int × String) (members : List StoredEvent) :
    Except StoreError BucketCount := do
  let bucket ← match Time.Instant.ofMilliseconds? group.1 with
    | some bucket => pure bucket
    | none => throw (.bucketOutOfRange group.1)
  let measure ← match Measure.ofName? group.2 with
    | some measure => pure measure
    | none => throw (.unknownMeasure group.2)
  return ⟨bucket, measure, (members.map StoredEvent.itemIds).eraseDups.length, members.length⟩

theorem aggregate_eq (events : List StoredEvent) (window : Window) :
    aggregate events window =
      let inside := events.filter (isWithin window)
      ((inside.map (groupIn window)).eraseDups.mergeSort groupBefore).mapM fun group =>
        countGroup group (inside.filter fun event => groupIn window event = group) :=
  rfl

theorem countGroup_perm {one other : List StoredEvent} (same : one.Perm other)
    (group : Int × String) : countGroup group one = countGroup group other := by
  have items := eraseDups_perm (same.map StoredEvent.itemIds)
  unfold countGroup
  rw [same.length_eq, items.length_eq]

theorem aggregate_perm {one other : List StoredEvent} (same : one.Perm other) (window : Window) :
    aggregate one window = aggregate other window := by
  have inside := same.filter (isWithin window)
  have groups := mergeSort_eq_of_perm groupBefore_trans groupBefore_total groupBefore_antisymm
    (eraseDups_perm (inside.map (groupIn window)))
  rw [aggregate_eq, aggregate_eq]
  simp only [groups]
  congr 1
  funext group
  exact countGroup_perm (inside.filter _) group

/-- Two logs give the same counts to everyone who asks. -/
structure CountsAlike (one other : EventLog) : Prop where
  bucket : ∀ bucket duration now,
    (one.queryBucket bucket duration now).result = (other.queryBucket bucket duration now).result
  hour : ∀ start finish now,
    (one.queryHour start finish now).result = (other.queryHour start finish now).result

/-- Neither the order of the events nor what a log does about invalid ones is seen in its counts. -/
theorem countsAlike_of_perm {one other : List StoredEvent} (same : one.Perm other)
    (mode otherMode : LogMode) :
    CountsAlike (kept mode (some one)) (kept otherMode (some other)) := by
  have counted (operation : Operation) (window : Except StoreError Window) :
      ((kept mode (some one)).countIn operation window).result =
        ((kept otherMode (some other)).countIn operation window).result := by
    cases window with
    | error error => rfl
    | ok window => exact aggregate_perm same window
  exact ⟨fun _ _ _ => counted _ _, fun _ _ _ => counted _ _⟩

end EventLog
end PayloadLedger
