import Mathlib.Algebra.Ring.Nat
import Mathlib.Data.Finset.Card
import PayloadLedger.Proofs.Log.Aggregate
import PayloadLedger.Proofs.Steps
import PayloadLedger.Proofs.Time.Milliseconds

namespace PayloadLedger

/-!
Tallies.

The events of a window are grouped by bucket and measure, and an answer has one row for each group.
The groups are a partition of the window, so that the rows lose no event and invent none, as long
as every bucket has a place in the calendar and every measure is known.
-/

/-! ## Names of measures -/

theorem Measure.name_injective {one other : Measure} (same : one.name = other.name) :
    one = other := by
  revert same
  rcases one with ⟨⟨⟩⟩ | _ <;> rcases other with ⟨⟨⟩⟩ | _ <;> decide

theorem Measure.name_of_ofName? {text : String} {measure : Measure}
    (found : ofName? text = some measure) : measure.name = text := by
  rw [ofName?] at found
  split at found
  · next same =>
      cases found
      exact same.symm
  · rw [Option.map_eq_some_iff] at found
    rcases found with ⟨state, found, rfl⟩
    exact beq_iff_eq.mp (List.find?_some found :)

theorem Measure.ofName?_name (measure : Measure) : ofName? measure.name = some measure := by
  rcases measure with ⟨⟨⟩⟩ | _ <;> decide

/-! ## Groups of a list -/

/-- The items under each of some keys are all items, if each has one of the keys. -/
theorem flatMap_filter_perm {α : Type u} {β : Type v} [DecidableEq β] (key : α → β) {keys : List β}
    (distinct : keys.Nodup) {values : List α} (known : ∀ value ∈ values, key value ∈ keys) :
    (keys.flatMap fun wanted => values.filter fun value => key value = wanted).Perm values := by
  induction keys generalizing values with
  | nil =>
      cases values with
      | nil => exact .nil
      | cons value values => cases known value List.mem_cons_self
  | cons first keys ih =>
      rcases List.nodup_cons.mp distinct with ⟨fresh, distinct⟩
      let others := values.filter fun value => !decide (key value = first)
      have kept : ∀ wanted ∈ keys, (values.filter fun value => key value = wanted) =
          others.filter fun value => key value = wanted := by
        intro wanted member
        have different : wanted ≠ first := fun same => fresh (same ▸ member)
        rw [List.filter_filter]
        apply List.filter_congr
        intro value _
        by_cases own : key value = wanted
        · simp [own, different]
        · simp [own]
      have rest : (keys.flatMap fun wanted => others.filter fun value => key value = wanted).Perm
          others := by
        apply ih distinct
        intro value member
        rcases List.mem_filter.mp member with ⟨member, other⟩
        rw [Bool.not_eq_true', decide_eq_false_iff_not] at other
        exact (List.mem_cons.mp (known value member)).resolve_left other
      rw [List.flatMap_cons, List.flatMap_congr kept]
      exact (rest.append_left _).trans (List.filter_append_perm _ values)

/-! ## Rows -/

/-- What the rows of an answer are sorted by: the start of the bucket, and the name of the
measure. -/
def BucketCount.label (row : BucketCount) : Int × String :=
  (row.bucket.milliseconds, row.measure.name)

namespace Window

/-- The events of the window, both its ends included. -/
def inside (window : Window) (events : List StoredEvent) : List StoredEvent :=
  events.filter (EventLog.isWithin window)

/-- The events of the window that are in the bucket and have the measure of a row. -/
def counted (window : Window) (events : List StoredEvent) (row : BucketCount) :
    List StoredEvent :=
  (window.inside events).filter fun event => EventLog.groupIn window event = row.label

theorem mem_inside {window : Window} {events : List StoredEvent} {event : StoredEvent} :
    event ∈ window.inside events ↔
      event ∈ events ∧ window.start ≤ event.time ∧ event.time ≤ window.finish := by
  rw [inside, List.mem_filter, EventLog.isWithin, Bool.and_eq_true, decide_eq_true_eq,
    decide_eq_true_eq]

theorem mem_counted {window : Window} {events : List StoredEvent} {row : BucketCount}
    {event : StoredEvent} : event ∈ window.counted events row ↔
      event ∈ window.inside events ∧ EventLog.groupIn window event = row.label := by
  rw [counted, List.mem_filter, decide_eq_true_eq]

end Window

/-- The rows count the events of a window, group by group. -/
structure Tallies (window : Window) (events : List StoredEvent) (rows : List BucketCount) :
    Prop where
  /-- Rows with later buckets come later, and in a bucket the measures are sorted by name. -/
  sorted : rows.Pairwise fun one other =>
    one.label.1 < other.label.1 ∨ one.label.1 = other.label.1 ∧ one.label.2 < other.label.2
  /-- Buckets start with a millisecond of the calendar. -/
  bucket : ∀ row ∈ rows,
    Time.Instant.ofMilliseconds? row.bucket.milliseconds = some row.bucket
  mem_labels : ∀ event ∈ window.inside events,
    EventLog.groupIn window event ∈ rows.map BucketCount.label
  counted_ne_nil : ∀ row ∈ rows, window.counted events row ≠ []
  count : ∀ row ∈ rows, row.count = (window.counted events row).length
  unique : ∀ row ∈ rows,
    row.unique = ((window.counted events row).map StoredEvent.itemIds).toFinset.card

namespace Tallies

variable {window : Window} {events : List StoredEvent} {rows : List BucketCount}

theorem nodup_labels (tallies : Tallies window events rows) :
    (rows.map BucketCount.label).Nodup := by
  rw [List.Nodup, List.pairwise_map]
  refine tallies.sorted.imp ?_
  intro one other before same
  rw [same] at before
  rcases before with less | ⟨_, less⟩
  · exact Int.lt_irrefl _ less
  · exact String.lt_irrefl _ less

/-- Rows with the same label are the same row. -/
theorem eq_of_label (tallies : Tallies window events rows) {one other : BucketCount}
    (member : one ∈ rows) (otherMember : other ∈ rows) (same : one.label = other.label) :
    one = other :=
  List.inj_on_of_nodup_map tallies.nodup_labels member otherMember same

/-- The rows are sorted by bucket and name. -/
theorem pairwise_rows (tallies : Tallies window events rows) :
    rows.Pairwise fun one other => one.bucket < other.bucket ∨
      one.bucket = other.bucket ∧ one.measure.name < other.measure.name := by
  refine tallies.sorted.imp_of_mem ?_
  intro one other member otherMember before
  have found := tallies.bucket one member
  have otherFound := tallies.bucket other otherMember
  rcases before with earlier | ⟨same, less⟩
  · exact .inl (Time.Instant.lt_of_ofMilliseconds? found otherFound earlier)
  · have start : one.bucket.milliseconds = other.bucket.milliseconds := same
    rw [start, otherFound] at found
    exact .inr ⟨(Option.some.inj found).symm, less⟩

/-- Every event of the window is counted in one row and in no other. -/
theorem existsUnique_row (tallies : Tallies window events rows) {event : StoredEvent}
    (inside : event ∈ window.inside events) :
    ∃! row, row ∈ rows ∧ event ∈ window.counted events row := by
  rcases List.mem_map.mp (tallies.mem_labels event inside) with ⟨row, member, label⟩
  refine ⟨row, ⟨member, Window.mem_counted.mpr ⟨inside, label.symm⟩⟩, ?_⟩
  rintro other ⟨otherMember, counted⟩
  have same := (Window.mem_counted.mp counted).2
  exact tallies.eq_of_label otherMember member (same.symm.trans label.symm)

/-- The rows together count the events of the window. -/
theorem flatMap_counted (tallies : Tallies window events rows) :
    (rows.flatMap (window.counted events)).Perm (window.inside events) := by
  have groups := flatMap_filter_perm (EventLog.groupIn window) tallies.nodup_labels
    tallies.mem_labels
  rw [List.flatMap_map] at groups
  exact groups

/-- A row counts at least one item, and no more items than events. -/
theorem unique_bounds (tallies : Tallies window events rows) {row : BucketCount}
    (member : row ∈ rows) : 1 ≤ row.unique ∧ row.unique ≤ row.count := by
  rw [tallies.count row member, tallies.unique row member]
  constructor
  · rw [Nat.succ_le_iff, Finset.card_pos, List.toFinset_nonempty_iff, ne_eq, List.map_eq_nil_iff]
    exact tallies.counted_ne_nil row member
  · calc ((window.counted events row).map StoredEvent.itemIds).toFinset.card
        ≤ ((window.counted events row).map StoredEvent.itemIds).length := List.toFinset_card_le _
      _ = (window.counted events row).length := List.length_map _

/-- Of what a row counts, all or nothing has a measure. -/
theorem filter_counted (row : BucketCount) (measure : Measure) :
    ((window.counted events row).filter fun event => event.measure = measure.name) =
      if row.measure = measure then window.counted events row else [] := by
  have own : ∀ event ∈ window.counted events row, event.measure = row.measure.name :=
    fun event counted => congrArg Prod.snd (Window.mem_counted.mp counted).2
  split
  · next same =>
      rw [List.filter_eq_self]
      intro event counted
      exact decide_eq_true ((own event counted).trans (congrArg Measure.name same))
  · next different =>
      rw [List.filter_eq_nil_iff]
      intro event counted same
      rw [decide_eq_true_eq, own event counted] at same
      exact different (Measure.name_injective same)

/-- The counts of a measure add up to its events in the window. -/
theorem sum_count (tallies : Tallies window events rows) (measure : Measure) :
    ((rows.filter fun row => row.measure = measure).map BucketCount.count).sum =
      ((window.inside events).filter fun event => event.measure = measure.name).length := by
  have counted := tallies.count
  rw [← (tallies.flatMap_counted.filter _).length_eq]
  clear tallies
  induction rows with
  | nil => rfl
  | cons row rows ih =>
      have rest := ih fun other member => counted other (List.mem_cons_of_mem _ member)
      rw [List.flatMap_cons, List.filter_append, List.length_append, filter_counted, ← rest,
        List.filter_cons]
      by_cases same : row.measure = measure
      · simp [same, counted row List.mem_cons_self]
      · simp [same]

end Tallies

/-! ## Answers -/

namespace EventLog

/-- Groups come before one another once they are sorted without repetitions. -/
theorem pairwise_groups (groups : List (Int × String)) :
    (groups.eraseDups.mergeSort groupBefore).Pairwise fun one other =>
      one.1 < other.1 ∨ one.1 = other.1 ∧ one.2 < other.2 := by
  have sorted : (groups.eraseDups.mergeSort groupBefore).Pairwise fun one other =>
      groupBefore one other = true :=
    List.pairwise_mergeSort groupBefore_trans groupBefore_total _
  have once : (groups.eraseDups.mergeSort groupBefore).Nodup :=
    (List.mergeSort_perm _ _).nodup_iff.mpr (nodup_eraseDups groups)
  refine (sorted.and once).imp ?_
  rintro one other ⟨before, different⟩
  rcases (groupBefore_iff one other).mp before with earlier | ⟨same, least⟩
  · exact .inl earlier
  · refine .inr ⟨same, ?_⟩
    rcases Std.lt_trichotomy one.2 other.2 with less | equal | greater
    · exact less
    · exact absurd (Prod.ext same equal) different
    · exact absurd greater (String.not_lt.mpr least)

theorem mem_groups_iff {window : Window} {members : List StoredEvent} {group : Int × String} :
    group ∈ (members.map (groupIn window)).eraseDups.mergeSort groupBefore ↔
      ∃ event ∈ members, groupIn window event = group := by
  rw [(List.mergeSort_perm _ _).mem_iff, List.mem_eraseDups, List.mem_map]

/-- A group whose bucket lies in the calendar and whose measure is known has a row. -/
theorem exists_countGroup {group : Int × String} {bucket : Time.Instant}
    (found : Time.Instant.ofMilliseconds? group.1 = some bucket) {measure : Measure}
    (named : Measure.ofName? group.2 = some measure) (members : List StoredEvent) :
    ∃ row, countGroup group members = .ok row ∧
      Time.Instant.ofMilliseconds? row.bucket.milliseconds = some row.bucket ∧
      row.label = group ∧ row.count = members.length ∧
      row.unique = (members.map StoredEvent.itemIds).toFinset.card := by
  refine ⟨⟨bucket, measure, (members.map StoredEvent.itemIds).eraseDups.length, members.length⟩,
    ?_, ?_, ?_, rfl, ?_⟩
  · simp only [countGroup, found, named, bind, Except.bind, pure, Except.pure]
  · rw [Time.Instant.milliseconds_ofMilliseconds? found]
    exact found
  · exact Prod.ext (Time.Instant.milliseconds_ofMilliseconds? found)
      (Measure.name_of_ofName? named)
  · have same : (members.map StoredEvent.itemIds).eraseDups.toFinset =
        (members.map StoredEvent.itemIds).toFinset := by
      ext item
      rw [List.mem_toFinset, List.mem_toFinset, List.mem_eraseDups]
    rw [← same]
    exact (List.toFinset_card_of_nodup (nodup_eraseDups _)).symm

/-- A group that has a row has a measure that is known. -/
theorem isSome_of_countGroup {group : Int × String} {members : List StoredEvent}
    {row : BucketCount} (counts : countGroup group members = .ok row) :
    (Measure.ofName? group.2).isSome = true := by
  cases known : Measure.ofName? group.2 with
  | some measure => rfl
  | none =>
      rw [countGroup, known] at counts
      split at counts <;> cases counts

/-- A window that was counted has events of known measures only. -/
theorem isSome_of_aggregate {events : List StoredEvent} {window : Window}
    {rows : List BucketCount} (answered : aggregate events window = .ok rows) :
    ∀ event ∈ window.inside events, (Measure.ofName? event.measure).isSome = true := by
  intro event inside
  rw [aggregate_eq] at answered
  rcases exists_of_mapM_eq_ok answered (groupIn window event)
    (mem_groups_iff.mpr ⟨event, inside, rfl⟩) with ⟨row, counts⟩
  exact isSome_of_countGroup counts

/-- A window is counted if its buckets lie in the calendar and its measures are known. -/
theorem exists_aggregate {events : List StoredEvent} {window : Window}
    (reached : ∀ event ∈ window.inside events, ∃ bucket,
      Time.Instant.ofMilliseconds? (bucketOf window.size window.origin event.time) = some bucket)
    (named : ∀ event ∈ window.inside events, (Measure.ofName? event.measure).isSome = true) :
    ∃ rows, aggregate events window = .ok rows ∧ Tallies window events rows := by
  rw [aggregate_eq]
  let groups := ((window.inside events).map (groupIn window)).eraseDups.mergeSort groupBefore
  have mem_groups (group : Int × String) : group ∈ groups ↔
      ∃ event ∈ window.inside events, groupIn window event = group := mem_groups_iff
  have each : ∀ group ∈ groups, ∃ row,
      countGroup group ((window.inside events).filter fun event => groupIn window event = group) =
        .ok row ∧ group = row.label ∧
        Time.Instant.ofMilliseconds? row.bucket.milliseconds = some row.bucket ∧
        row.count = (window.counted events row).length ∧
        row.unique = ((window.counted events row).map StoredEvent.itemIds).toFinset.card := by
    intro group member
    rcases (mem_groups group).mp member with ⟨event, inside, rfl⟩
    rcases reached event inside with ⟨bucket, found⟩
    rcases Option.isSome_iff_exists.mp (named event inside) with ⟨measure, known⟩
    have bucket : Time.Instant.ofMilliseconds? (groupIn window event).1 = some bucket := found
    rcases exists_countGroup bucket known _ with
      ⟨row, counts, found, label, count, unique⟩
    refine ⟨row, counts, label.symm, found, ?_⟩
    rw [Window.counted, label]
    exact ⟨count, unique⟩
  rcases exists_mapM_eq_ok each with ⟨rows, answered, related⟩
  have labels : groups = rows.map BucketCount.label := by
    rw [← List.forall₂_eq_eq_eq, List.forall₂_map_right_iff]
    exact related.imp fun _ _ both => both.1
  rw [labels, List.forall₂_map_left_iff, List.forall₂_same] at related
  refine ⟨rows, answered, ?_, fun row member => (related row member).2.1, ?_, ?_,
    fun row member => (related row member).2.2.1, fun row member => (related row member).2.2.2⟩
  · have sorted := pairwise_groups ((window.inside events).map (groupIn window))
    change groups.Pairwise _ at sorted
    rw [labels, List.pairwise_map] at sorted
    exact sorted
  · intro event inside
    rw [← labels, mem_groups]
    exact ⟨event, inside, rfl⟩
  · intro row member
    have group : row.label ∈ groups := labels ▸ List.mem_map_of_mem member
    rcases (mem_groups row.label).mp group with ⟨event, inside, label⟩
    exact List.ne_nil_of_mem (Window.mem_counted.mpr ⟨inside, label⟩)

end EventLog
end PayloadLedger
