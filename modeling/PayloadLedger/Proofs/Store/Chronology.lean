import PayloadLedger.Proofs.Store.Readable
import PayloadLedger.Proofs.Store.Scan
import PayloadLedger.Proofs.Text.Order
import PayloadLedger.Proofs.Time.Accepted
import PayloadLedger.Proofs.Time.Order

namespace PayloadLedger

/-!
Rows in the order of time.

The columns that hold times are compared as texts, and their texts stand in the order of the times
that were written.  In a partition that is sorted by its last changes nothing that comes after a
record outside the window is inside it, so that leaving the window early skips nothing.
-/

namespace Row

variable {one other : Time.Instant}

/-- In an order, rows stand by some times and, where the times are the same, by their item ids. -/
def AreInTime (order : SortIndex) (one other : Time.Instant) (first second : Row) : Prop :=
  placeBefore (first.place order) (second.place order) = true ↔
    one < other ∨ (one = other ∧ first.itemIds < second.itemIds)

theorem areInTime_of_updated (storable : one.IsStorable) (alsoStorable : other.IsStorable)
    {first second : Row} (written : first.updated = one.stored)
    (alsoWritten : second.updated = other.stored) :
    AreInTime .updated one.kept other.kept first second := by
  unfold AreInTime
  rw [placeBefore_iff, ← Time.Instant.stored_lt_iff storable alsoStorable,
    ← Time.Instant.stored_eq_iff storable alsoStorable, ← written, ← alsoWritten]
  rfl

/-- The packed columns of one state are compared by the times behind the name of the state. -/
theorem pack_lt_iff (state : State) (one other : Time.Instant) :
    pack state one < pack state other ↔ one.stored < other.stored := by
  unfold pack
  generalize state.name ++ "_" = front
  rw [String.lt_iff, String.lt_iff, String.toList_append, String.toList_append,
    Text.append_lt_append_iff]

theorem pack_inj (state : State) (one other : Time.Instant) :
    pack state one = pack state other ↔ one.stored = other.stored := by
  rw [pack, pack, String.append_right_inj]

theorem areInTime_of_stateUpdated (storable : one.IsStorable) (alsoStorable : other.IsStorable)
    {state : State} {first second : Row} (written : first.stateUpdated = pack state one)
    (alsoWritten : second.stateUpdated = pack state other) :
    AreInTime .stateUpdated one.kept other.kept first second := by
  unfold AreInTime
  rw [placeBefore_iff, ← Time.Instant.stored_lt_iff storable alsoStorable,
    ← Time.Instant.stored_eq_iff storable alsoStorable, ← pack_lt_iff state, ← pack_inj state,
    ← written, ← alsoWritten]
  rfl

theorem accepted_of_record {row : Row} {record : Record} (reads : row.record = .ok record) :
    Time.Timestamp.ofUtc? row.updated = .ok record.updated := by
  rw [Row.record] at reads
  rcases exists_of_bind_eq_ok reads with ⟨key, _, reads⟩
  cases packed : State.ofPacked? row.stateUpdated with
  | none =>
      simp only [packed] at reads
      cases reads
  | some state =>
      simp only [packed] at reads
      rcases exists_of_bind_eq_ok reads with ⟨_, _, reads⟩
      rcases exists_of_bind_eq_ok reads with ⟨created, _, reads⟩
      rcases exists_of_bind_eq_ok reads with ⟨updated, time, reads⟩
      rcases exists_of_bind_eq_ok reads with ⟨executions, _, reads⟩
      have accepted : Time.Timestamp.ofUtc? row.updated = .ok updated := ok_of_mapError_eq_ok time
      cases outputs : row.outputs with
      | none =>
          simp only [outputs] at reads
          cases reads
          exact accepted
      | some column =>
          simp only [outputs] at reads
          rcases exists_of_bind_eq_ok reads with ⟨_, _, reads⟩
          cases reads
          exact accepted

/-- The time of a record is what was kept of the one that was written in its row. -/
theorem updated_of_record {row : Row} {record : Record} (storable : one.IsStorable)
    (written : row.updated = one.stored) (reads : row.record = .ok record) :
    record.updated = one.kept := by
  have accepted := accepted_of_record reads
  rw [written, Time.Timestamp.ofUtc?_stored storable] at accepted
  exact (Except.ok.inj accepted).symm

end Row

/-! ## Leaving the window -/

/-- The row reads as the record, and its last change was written at a time of a fixed width. -/
structure Row.IsTimely (row : Row) (record : Record) : Prop where
  reads : row.record = .ok record
  written : ∃ moment : Time.Instant, moment.IsStorable ∧ row.updated = moment.stored

/-- Rows that are in time were written as texts in the order of the times of their records. -/
theorem Row.IsTimely.updated_lt {first second : Row} {one other : Record}
    (timely : first.IsTimely one) (alsoTimely : second.IsTimely other)
    (earlier : one.updated < other.updated) : first.updated < second.updated := by
  rcases timely with ⟨reads, moment, storable, written⟩
  rcases alsoTimely with ⟨alsoReads, later, alsoStorable, alsoWritten⟩
  rw [updated_of_record storable written reads,
    updated_of_record alsoStorable alsoWritten alsoReads] at earlier
  rw [written, alsoWritten]
  exact (Time.Instant.stored_lt_iff storable alsoStorable).mpr earlier

/-- Times with years of four digits are stored as texts that sort like time, byte by byte, alone in a
column or behind the name of a state, if a leap second ends a minute, as it does in every text that is
accepted; and where a partition is sorted by such texts, newest first, leaving the window at the first
record outside skips nothing that is inside. -/
theorem stored_times_sort_like_time :
    (∀ text moment, Time.Timestamp.ofUtc? text = .ok moment → moment.LeapEndsMinute ∧
      (0 ≤ moment.date.year → moment.date.year ≤ 9999 → moment.IsStorable)) ∧
    (∀ one other : Time.Instant, one.IsStorable → other.IsStorable →
      one.LeapEndsMinute → other.LeapEndsMinute →
      (Text.utf8 one.stored < Text.utf8 other.stored ↔ one.truncate < other.truncate) ∧
      (Text.utf8 one.stored = Text.utf8 other.stored ↔ one.truncate = other.truncate) ∧
      (Text.utf8 other.stored < Text.utf8 one.stored ↔ other.truncate < one.truncate) ∧
      (∀ first second : Row, first.updated = one.stored → second.updated = other.stored →
        Row.AreInTime .updated one.truncate other.truncate first second) ∧
      ∀ (state : State) (first second : Row), first.stateUpdated = Row.pack state one →
        second.stateUpdated = Row.pack state other →
          Row.AreInTime .stateUpdated one.truncate other.truncate first second) ∧
    ∀ (table : Table) (read : Row → Record), (∀ row ∈ table, row.IsTimely (read row)) →
      ∀ (partition : String) (filter : PinnedFilter) (position : Option Cursor),
        let records := (table.behind partition filter.toFilter position).map read
        (Table.visit filter none records).1 = records.filter filter.accepts ∧
          ∀ room, 0 < room →
            (Table.visit filter (some room) records).1 =
              (records.filter filter.accepts).take room := by
  refine ⟨?_, ?_, ?_⟩
  · intro text moment accepted
    have regular := Time.Timestamp.isRegular_of_accepted accepted
    exact ⟨regular.leap, regular.isStorable⟩
  · intro one other storable alsoStorable ends alsoEnds
    rw [← Time.Instant.kept_of_leapEndsMinute ends, ← Time.Instant.kept_of_leapEndsMinute alsoEnds]
    refine ⟨?_, ?_, ?_, fun _ _ => Row.areInTime_of_updated storable alsoStorable,
      fun _ _ _ => Row.areInTime_of_stateUpdated storable alsoStorable⟩
    · rw [Text.utf8_lt_iff, Time.Instant.stored_lt_iff storable alsoStorable]
    · rw [Text.utf8_inj, Time.Instant.stored_eq_iff storable alsoStorable]
    · rw [Text.utf8_lt_iff, Time.Instant.stored_lt_iff alsoStorable storable]
  · intro table read timely partition filter position
    have leaves : ((table.behind partition filter.toFilter position).map read).Pairwise _ :=
      Table.pairwise_leaves fun _ one member other otherMember =>
        (timely one (Table.mem_behind.mp member).1).updated_lt
          (timely other (Table.mem_behind.mp otherMember).1)
    exact ⟨Table.visit_none filter leaves, fun room some => (Table.visit_finds some leaves).found⟩

/-- A time that was built with the fraction of a leap second inside a minute is earlier than the next
second and sorts behind it.  A column that another hand filled may be out of order as well, so that
leaving the window skips a record that is inside. -/
theorem stored_times_unlike_inner_leap :
    let inner : Time.Instant := ⟨1704110404, 1333333333⟩
    let next : Time.Instant := ⟨1704110405, 0⟩
    let whole : Row :=
      ⟨"c_w", "a", "COMPLETED_", "2024-01-01T00:00:00Z", "2024-01-01T00:00:00Z", "[]", none, none⟩
    let later : Row := { whole with itemIds := "b", updated := "2024-01-01T00:00:00.500000Z" }
    let record (items : String) (nanos : Nat) : Record :=
      ⟨"c/workflow-w/" ++ items, "c", "w", items, .completed, "COMPLETED_", ⟨1704067200, 0⟩,
        ⟨1704067200, nanos⟩, [], none, none⟩
    let filter : PinnedFilter := { ({} : Filter) with cutoff := some ⟨1704067200, 200000000⟩ }
    (inner.IsStorable ∧ next.IsStorable ∧ inner.truncate < next.truncate ∧
      inner.stored = "2024-01-01T12:00:05.333333Z" ∧ next.stored = "2024-01-01T12:00:05.000000Z" ∧
      ¬ Text.utf8 inner.stored < Text.utf8 next.stored ∧
      Text.utf8 next.stored < Text.utf8 inner.stored) ∧
    whole.record.toOption = some (record "a" 0) ∧
      later.record.toOption = some (record "b" 500000000) ∧
      Table.behind [whole, later] "c_w" filter.toFilter none = [whole, later] ∧
      (Table.visit filter none [record "a" 0, record "b" 500000000]).1 = [] ∧
      filter.accepts (record "b" 500000000) = true := by
  intro inner next whole later record filter
  have times : inner.IsStorable ∧ next.IsStorable ∧ inner.truncate < next.truncate ∧
      inner.stored = "2024-01-01T12:00:05.333333Z" ∧ next.stored = "2024-01-01T12:00:05.000000Z" ∧
      ¬ Text.utf8 inner.stored < Text.utf8 next.stored ∧
      Text.utf8 next.stored < Text.utf8 inner.stored := by decide
  have sorted : Table.behind [whole, later] "c_w" filter.toFilter none = [whole, later] :=
    List.mergeSort_of_pairwise (by decide)
  exact ⟨times, by decide +kernel, by decide +kernel, sorted, by decide, by decide⟩

/-- A payload that changed right after a leap second, and one that changed in it. -/
theorem stored_times_sort_like_time_leap :
    let leap : Time.Instant := ⟨1483228799, 1999999999⟩
    let after : Time.Instant := ⟨1483228800, 0⟩
    let account := fun moment => { Account.blank moment with state := .completed }
    let later := (account after).row ⟨"c_w", "b"⟩
    let earlier := (account leap).row ⟨"c_w", "a"⟩
    let read := fun row : Row =>
      (account (if row.itemIds = "b" then after else leap)).record ⟨"c_w", row.itemIds⟩
    let filter : PinnedFilter := { ({} : Filter) with cutoff := some after }
    Time.Timestamp.ofUtc? "2016-12-31T23:59:60.999999999Z" = .ok leap ∧ leap.IsStorable ∧
      after.IsStorable ∧ leap.truncate < after.truncate ∧
      leap.stored = "2016-12-31T23:59:60.999999Z" ∧ after.stored = "2017-01-01T00:00:00.000000Z" ∧
      Text.utf8 leap.stored < Text.utf8 after.stored ∧
      (∀ row ∈ [later, earlier], row.IsTimely (read row)) ∧
      Table.behind [later, earlier] "c_w" filter.toFilter none = [later, earlier] ∧
      (Table.visit filter none ([later, earlier].map read)).1 = [read later] := by
  intro leap after account later earlier read filter
  have accepted : Time.Timestamp.ofUtc? "2016-12-31T23:59:60.999999999Z" = .ok leap := by
    decide +kernel
  rcases stored_times_sort_like_time.1 _ _ accepted with ⟨ends, fits⟩
  have storable : leap.IsStorable := fits (by decide) (by decide)
  have alsoStorable : after.IsStorable := by decide
  have order : leap.truncate < after.truncate := by decide
  have timely : ∀ row ∈ [later, earlier], row.IsTimely (read row) := by
    intro row member
    rcases List.mem_pair.mp member with rfl | rfl
    · exact ⟨Account.record_row ⟨"c/workflow-w/b", rfl⟩ ⟨alsoStorable, alsoStorable, alsoStorable⟩,
        after, alsoStorable, rfl⟩
    · exact ⟨Account.record_row ⟨"c/workflow-w/a", rfl⟩ ⟨storable, storable, storable⟩,
        leap, storable, rfl⟩
  have sorted : Table.behind [later, earlier] "c_w" filter.toFilter none = [later, earlier] :=
    List.mergeSort_of_pairwise (by decide)
  have visited := (stored_times_sort_like_time.2.2 _ read timely "c_w" filter none).1
  rw [sorted] at visited
  refine ⟨accepted, storable, alsoStorable, order, by decide, by decide, ?_, timely, sorted, ?_⟩
  · exact (stored_times_sort_like_time.2.1 leap after storable alsoStorable ends (by decide)).1.mpr
      order
  · exact visited.trans (by decide)

end PayloadLedger
