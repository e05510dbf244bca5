import PayloadLedger.Proofs.Store.Chronology
import PayloadLedger.Proofs.Store.Once
import PayloadLedger.Proofs.Store.Readers

namespace PayloadLedger

/-!
What is found for a state.

Where the rows of a partition can be read, a query for a state lists the rows whose records are in
the state, if the state is packed, and a count counts them, each once.  The scan has to come by every
row for that: the rows are not sorted by times, or the times are written as the ledger writes them,
or all rows are fetched at once.
-/

/-! ## The rows of a state -/

namespace Table

/-- The row is wanted for a state: it lies in the partition, its record is in the state, the state is
packed, and the record is accepted. -/
structure Wants (table : Table) (partition : String) (state : State) (filter : PinnedFilter)
    (row : Row) (record : Record) : Prop where
  member : row ∈ table
  own : row.partition = partition
  reads : row.record = .ok record
  state : record.state = state
  packed : row.isPacked = true
  accepted : filter.accepts record = true

/-- The last changes in the partition are written as the ledger writes times. -/
def IsStamped (table : Table) (partition : String) : Prop :=
  ∀ row ∈ table, row.partition = partition → ∀ record, row.record = .ok record →
    row.updated = record.updated.stored

/-- A scan with the filter comes by every row of the partition. -/
inductive IsCovered (table : Table) (partition : String) (filter : Filter) (sliceSize : Nat) : Prop
  | unsorted (order : filter.order ≠ .updated)
  | stamped (written : table.IsStamped partition)
  | whole (everything : filter.since = none)
      (few : (List.filter (fun row => decide (row.partition = partition)) table).length < sliceSize)

variable {table : Table} {partition : String} {filter : PinnedFilter} {read : Row → Record}
  {state : State} {sliceSize : Nat}

theorem ReadsAs.timely (readsAs : table.ReadsAs partition read) (written : table.IsStamped partition)
    {filter : Filter} {position : Option Cursor} {row : Row}
    (member : row ∈ table.behind partition filter position) : row.IsTimely (read row) := by
  have reads := readsAs.of_behind member
  rw [mem_behind] at member
  have same := written row member.1 member.2.1 _ reads
  have accepted := Row.accepted_of_record reads
  rw [same] at accepted
  exact ⟨reads, _, Time.Timestamp.isStorable_of_accepted_stored accepted, same⟩

theorem ReadsAs.places (readsAs : table.ReadsAs partition read)
    (covered : table.IsCovered partition filter.toFilter sliceSize) :
    (table.behind partition filter.toFilter none).length < sliceSize ∨
      ∀ row ∈ table.behind partition filter.toFilter none,
        (read row).place filter.order = row.place filter.order := by
  cases covered with
  | unsorted order =>
      exact .inr fun row member => Row.place_of_record (readsAs.of_behind member) order
  | stamped written =>
      refine .inr fun row member => ?_
      have reads := readsAs.of_behind member
      by_cases order : filter.order = .updated
      · rw [mem_behind] at member
        have same := written row member.1 member.2.1 _ reads
        rw [order]
        exact Prod.ext same.symm (Row.items_of_record reads)
      · exact Row.place_of_record reads order
  | whole everything few => exact .inl (Nat.lt_of_le_of_lt length_behind_le_filter few)

theorem ReadsAs.leaves (readsAs : table.ReadsAs partition read)
    (covered : table.IsCovered partition filter.toFilter sliceSize)
    (bounded : filter.since = none → filter.cutoff = none) (position : Option Cursor) :
    ((table.behind partition filter.toFilter position).map read).Pairwise fun one other =>
      filter.isExhaustedBy one = true → filter.isOutside other = true := by
  cases covered with
  | unsorted order => exact pairwise_leaves fun same => absurd same order
  | stamped written =>
      exact pairwise_leaves fun _ one member other otherMember =>
        (readsAs.timely written member).updated_lt (readsAs.timely written otherMember)
  | whole everything few => exact pairwise_leaves_of_cutoff (bounded everything) _

/-- The rows that are wanted for a state, in the order of the filter. -/
def wantedRows (table : Table) (read : Row → Record) (partition : String) (state : State)
    (filter : PinnedFilter) : List Row :=
  (table.behind partition (filter.inState (some state)).toFilter none).filter fun row =>
    filter.accepts (read row)

theorem ReadsAs.mem_wantedRows (readsAs : table.ReadsAs partition read) (row : Row) :
    row ∈ table.wantedRows read partition state filter ↔
      ∃ record, table.Wants partition state filter row record := by
  rw [wantedRows, List.mem_filter, mem_behind]
  constructor
  · rintro ⟨⟨member, own, selected, _⟩, accepted⟩
    have reads := readsAs.reads row member own
    have inState := selected state rfl
    rw [Row.isInState_of_record reads, Bool.and_eq_true, decide_eq_true_eq] at inState
    exact ⟨read row, member, own, reads, inState.1, inState.2, accepted⟩
  · rintro ⟨record, member, own, reads, same, packed, accepted⟩
    obtain rfl : read row = record :=
      Except.ok.inj ((readsAs.reads row member own).symm.trans reads)
    refine ⟨⟨member, own, ?_, rfl⟩, accepted⟩
    intro wanted asked
    cases asked
    rw [Row.isInState_of_record reads, packed, same, Bool.and_true]
    exact decide_eq_true rfl

theorem ReadsAs.nodup_wantedRows (readsAs : table.ReadsAs partition read) :
    (table.wantedRows read partition state filter).Nodup :=
  List.Pairwise.sublist List.filter_sublist readsAs.distinct.nodup_behind

/-- What is accepted behind a position is what is wanted of the rows past it. -/
theorem ReadsAs.filter_behind (readsAs : table.ReadsAs partition read) (position : Option Cursor) :
    ((table.behind partition (filter.inState (some state)).toFilter position).map read).filter
        filter.accepts =
      ((table.wantedRows read partition state filter).filter
        (filter.isPast (fun row => row.place filter.order) position)).map read := by
  rw [readsAs.distinct.behind_eq_filter, wantedRows, List.filter_map, List.filter_filter,
    List.filter_filter]
  congr 1
  apply List.filter_congr
  intro row _
  exact Bool.and_comm _ _

/-! ## Records of any rows -/

theorem visit_subset (filter : PinnedFilter) (room : Option Nat) (records : List Record) :
    (visit filter room records).1 ⊆ records := by
  induction records generalizing room with
  | nil => exact List.Subset.refl _
  | cons record records ih =>
      rw [visit]
      split
      · exact List.nil_subset _
      split
      · split
        · exact List.cons_subset_cons record (List.nil_subset records)
        · exact List.cons_subset_cons record (ih _)
      · exact List.subset_cons_of_subset record (ih room)

/-- What is read from a slice are records of rows that are selected. -/
theorem exists_row_of_slice {position : Option Cursor} {records : List Record}
    (reads : (table.slice partition filter.toFilter position sliceSize).mapM Row.record =
      .ok records) :
    ∀ record ∈ records,
      ∃ row ∈ table.behind partition filter.toFilter none, row.record = .ok record := by
  intro record member
  rcases exists_of_mem_mapM reads record member with ⟨row, fetched, shown⟩
  rw [slice_eq] at fetched
  have behind := mem_behind.mp (List.mem_of_mem_take fetched)
  exact ⟨row, mem_behind.mpr ⟨behind.1, behind.2.1, behind.2.2.1, rfl⟩, shown⟩

/-- Whatever the round trips of a scan find are records of rows that are selected. -/
theorem Trips.exists_row {room : Option Nat} {position : Option Cursor} {slices : List (List Row)}
    {answer : List Record × Option Cursor}
    (trips : table.Trips partition filter sliceSize room position slices answer) :
    ∀ record ∈ answer.1,
      ∃ row ∈ table.behind partition filter.toFilter none, row.record = .ok record := by
  induction trips with
  | @last room position rows records found halt fetched reads visited ended =>
      subst fetched
      have among := visit_subset filter room records
      rw [visited] at among
      exact fun record member => exists_row_of_slice reads record (among member)
  | @next room position stop rows records found others slices fetched reads visited full later ih =>
      subst fetched
      have among := visit_subset filter room records
      rw [visited] at among
      intro record member
      rcases List.mem_append.mp member with early | late
      · exact exists_row_of_slice reads record (among early)
      · exact ih record late

end Table

/-! ## Queries and counts -/

theorem PinnedFilter.accepts_inState (filter : PinnedFilter) (state : Option State) :
    (filter.inState state).accepts = filter.accepts :=
  rfl

namespace Store

/-- A query lists these rows in this order, page by page, and a count counts them. -/
structure Finds (store : Store) (partition : String) (filter : Filter) (now : Time.Instant)
    (rows : List Row) : Prop where
  query : ∀ limit token position, startOf filter token = .ok position →
    let past := rows.filter (filter.isPast (fun row => row.place filter.order) position)
    ∃ page, (store.query partition filter limit token now).result = .ok page ∧
      page.items.map Except.ok = (past.take (max 1 (min limit store.limitCap))).map Row.record
  count : ∀ limit,
    (store.count partition filter limit now).result = .ok (.upTo limit rows.length)

variable {store : Store} {table : Table} {read : Row → Record} {partition : String}
  {filter : Filter} {now : Time.Instant} {pinned : PinnedFilter} {state : State}

theorem finds_wantedRows (present : store.table = some table)
    (readsAs : table.ReadsAs partition read) (positive : 0 < store.sliceSize)
    (accepted : (Key.ofPartition partition "").isOk = true) (window : filter.pin now = .ok pinned)
    (covered : table.IsCovered partition filter store.sliceSize) :
    store.Finds partition (filter.inState (some state)) now
      (table.wantedRows read partition state pinned) := by
  obtain rfl := Filter.toFilter_pin window
  let wanting := pinned.inState (some state)
  have inState : (pinned.toFilter.inState (some state)).pin now = .ok wanting := by
    rw [Filter.pin_inState, window]
    rfl
  have alsoCovered : table.IsCovered partition wanting.toFilter store.sliceSize := by
    cases covered with
    | unsorted order => exact .unsorted order
    | stamped written => exact .stamped written
    | whole everything few => exact .whole everything few
  have leaves (position : Option Cursor) :=
    readsAs.leaves alsoCovered (Filter.cutoff_of_pin inState) position
  have scanned (room : Option Nat) (position : Option Cursor) :
      store.scan partition wanting room position =
        let visited := Table.visit wanting room
          ((table.behind partition wanting.toFilter position).map read)
        .ok (visited.1, visited.2.position?) := by
    rw [scan, present]
    exact readsAs.distinct.scan_eq_visit positive (fun row => readsAs.of_behind)
      (readsAs.places alsoCovered) (Table.length_behind_lt_scanFuel room) room
  constructor
  · intro limit token position start past
    have roomy : 0 < max 1 (min limit store.limitCap) :=
      Nat.lt_of_lt_of_le Nat.zero_lt_one (Nat.le_max_left _ _)
    have result : (store.query partition wanting.toFilter limit token now).result = _ :=
      query_of_scan accepted inState start limit
    rw [scanned] at result
    refine ⟨_, result, ?_⟩
    have found := (Table.visit_finds roomy (leaves position)).found
    rw [PinnedFilter.accepts_inState, readsAs.filter_behind position, ← List.map_take] at found
    simp only [found, List.map_map]
    apply List.map_congr_left
    intro row member
    have listed := List.mem_filter.mp (List.mem_of_mem_take member)
    exact (readsAs.of_behind (List.mem_filter.mp listed.1).1).symm
  · intro limit
    rw [count_of_visit accepted inState (leaves none) (fun room => scanned room none) limit,
      PinnedFilter.accepts_inState, readsAs.filter_behind none, List.length_map]
    have all : (table.wantedRows read partition state pinned).filter
        (pinned.isPast (fun row => row.place pinned.order) none) =
          table.wantedRows read partition state pinned :=
      List.filter_eq_self.mpr fun row _ => rfl
    rw [all]

/-! ## Readers of the packed column -/

/-- What the three readers of the packed column make of a row. -/
structure ReadersAgree (store : Store) (table : Table) (row : Row) (record : Record) : Prop where
  alone : row.isPacked = false ↔ row.stateUpdated = record.state.name
  claim : ∀ execution moment,
    if record.state.isInFlight = true ∧ row.isPacked = true then
      store.Refuses row record execution moment
    else store.Accepts table row execution moment
  range : ∀ state, row.isInState state = true ↔ record.state = state ∧ row.isPacked = true

/-- What is found in a partition for a state, with any other wishes: what is found where the rows
that are not selected lie elsewhere, and so rows of the state that are packed.  All of these that the
filter wants are found, each once, where a scan comes by every row. -/
structure SelectsByState (store : Store) (table : Table) (partition : String) (state : State)
    (filter : Filter) (now : Time.Instant) : Prop where
  query : ∀ limit token,
    (store.query partition (filter.inState (some state)) limit token now).result =
      ((store.apart state).query partition (filter.inState none) limit token now).result
  count : ∀ limit,
    (store.count partition (filter.inState (some state)) limit now).result =
      ((store.apart state).count partition (filter.inState none) limit now).result
  listed : ∀ limit token page,
    (store.query partition (filter.inState (some state)) limit token now).result = .ok page →
      ∀ record ∈ page.items, record.state = state ∧
        ∃ row ∈ table, row.partition = partition ∧ row.isPacked = true ∧ row.record = .ok record
  found : ∀ pinned, filter.pin now = .ok pinned → (Key.ofPartition partition "").isOk = true →
    0 < store.sliceSize → table.IsDistinct → table.IsCovered partition filter store.sliceSize →
      ∃ rows : List Row, rows.Nodup ∧
        (∀ row, row ∈ rows ↔ ∃ record, table.Wants partition state pinned row record) ∧
        store.Finds partition (filter.inState (some state)) now rows

/-- A page for a state shows packed rows of the state. -/
theorem exists_row_of_query (present : store.table = some table) {limit : Nat}
    {token : Option String} {page : Page}
    (listed : (store.query partition (filter.inState (some state)) limit token now).result = .ok page)
    {record : Record} (member : record ∈ page.items) :
    record.state = state ∧
      ∃ row ∈ table, row.partition = partition ∧ row.isPacked = true ∧ row.record = .ok record := by
  rcases store.query_cases partition (filter.inState (some state)) now limit token with
    ⟨error, refused, _⟩ | ⟨accepted, pinned, position, window, start⟩
  · cases listed.symm.trans refused
  rw [query_of_scan accepted window start, scan, present] at listed
  simp only at listed
  rcases exists_of_map_eq_ok listed with ⟨⟨found, stop⟩, scanned, rfl⟩
  rcases Table.exists_trips_of_scan scanned with ⟨slices, trips⟩
  rcases trips.exists_row record member with ⟨row, behind, reads⟩
  rw [Table.mem_behind, Filter.toFilter_pin window] at behind
  have selected := behind.2.2.1 state rfl
  rw [Row.isInState_of_record reads, Bool.and_eq_true, decide_eq_true_eq] at selected
  exact ⟨selected.1, row, behind.1, behind.2.1, selected.2, reads⟩

/-- A count for a state is the number of rows that are wanted for it. -/
theorem SelectsByState.count_eq (selects : store.SelectsByState table partition state filter now)
    (window : filter.pin now = .ok pinned) (accepted : (Key.ofPartition partition "").isOk = true)
    (positive : 0 < store.sliceSize) (distinct : table.IsDistinct)
    (covered : table.IsCovered partition filter store.sliceSize) {rows : List Row}
    (nodup : rows.Nodup)
    (wanted : ∀ row, row ∈ rows ↔ ∃ record, table.Wants partition state pinned row record)
    (limit : Option Nat) :
    (store.count partition (filter.inState (some state)) limit now).result =
      .ok (.upTo limit rows.length) := by
  rcases selects.found pinned window accepted positive distinct covered with
    ⟨others, alone, members, finds⟩
  have same : others.Perm rows :=
    (List.perm_ext_iff_of_nodup alone nodup).mpr fun row => (members row).trans (wanted row).symm
  rw [← same.length_eq]
  exact finds.count limit

/-- The readers of the packed column agree on rows whose state is packed.  Of a stored row that can
be read, a claim is refused if its record is in flight and packed, and is written otherwise, and a
range holds it if its record is in the state and packed.  Where the rows of a partition can be
read, queries and counts that are filtered on a state answer as if the rows not so selected lay
elsewhere: a query lists and a count counts a row if its record is in the state and packed.
Unpacked is a column that is no more than the name of its state. -/
theorem readers_agree_on_packed (present : store.table = some table) :
    (∀ row record, table.find? row.key = some row → row.record = .ok record →
      store.ReadersAgree table row record) ∧
    ∀ partition,
      (∀ row ∈ table, row.partition = partition → ∃ record, row.record = .ok record) →
      ∀ state filter now, store.SelectsByState table partition state filter now := by
  constructor
  · intro row record found reads
    refine ⟨Row.isPacked_eq_false_iff reads, ?_, ?_⟩
    · intro execution moment
      have guard := Row.isClaimable_of_record reads
      split
      · next held =>
          rw [held.1, held.2] at guard
          exact refuses_of_guarded present found reads guard execution moment
      · next free =>
          rw [← Bool.and_eq_true, Bool.not_eq_true] at free
          rw [free] at guard
          exact accepts_of_free present found reads guard execution moment
    · intro state
      rw [Row.isInState_of_record reads, Bool.and_eq_true, decide_eq_true_eq]
  · intro partition readable state filter now
    refine ⟨query_inState present readable state filter now,
      count_inState present readable state filter now,
      fun limit token page listed record member => exists_row_of_query present listed member, ?_⟩
    intro pinned window accepted positive distinct covered
    rcases Table.exists_readsAs distinct readable with ⟨read, readsAs⟩
    exact ⟨table.wantedRows read partition state pinned, readsAs.nodup_wantedRows,
      readsAs.mem_wantedRows,
      finds_wantedRows present readsAs positive accepted window covered⟩

/-- A claimed row without an underscore is claimed again and counted nowhere; a row that ends with
its underscore is held, and counted in its state. -/
theorem readers_agree_on_packed_alone :
    let alone : Row := ⟨"c_w", "a", "CLAIMED", "2024-01-01T00:00:00Z", "2024-01-01T00:00:00Z", "[]",
      none, none⟩
    let packed : Row := { alone with itemIds := "b", stateUpdated := "PROCESSING_" }
    let store : Store := { table := some [alone, packed] }
    (∃ record, alone.record = .ok record ∧ record.state = .claimed ∧
      alone.isInState .claimed = false ∧ store.Accepts [alone, packed] alone "one" ⟨0, 0⟩) ∧
    (∃ record, packed.record = .ok record ∧ store.Refuses packed record "one" ⟨0, 0⟩) ∧
    (∀ state, store.SelectsByState [alone, packed] "c_w" state {} ⟨0, 0⟩) ∧
    (store.count "c_w" { state := some .claimed } none ⟨0, 0⟩).result = .ok (.exact 0) ∧
    (store.count "c_w" { state := some .processing } none ⟨0, 0⟩).result = .ok (.exact 1) := by
  intro alone packed store
  have present : store.table = some [alone, packed] := rfl
  have agree := readers_agree_on_packed present
  obtain ⟨first, aloneReads⟩ : ∃ record, alone.record = .ok record :=
    exists_of_isOk (by decide +kernel)
  obtain ⟨second, packedReads⟩ : ∃ record, packed.record = .ok record :=
    exists_of_isOk (by decide +kernel)
  have firstState : first.state = .claimed := by
    rcases Row.fronts_of_record aloneReads with ⟨isPacked, _⟩ | ⟨_, same⟩
    · exact absurd isPacked (by decide)
    · exact State.name_injective same.symm
  have secondState : State.processing = second.state := by
    rcases Row.fronts_of_record packedReads with ⟨_, front⟩ | ⟨notPacked, _⟩
    · have own : State.processing.Fronts packed.stateUpdated := ⟨[], by decide⟩
      exact own.unique front
    · exact absurd notPacked (by decide)
  have readable : ∀ row ∈ [alone, packed], row.partition = "c_w" →
      ∃ record, row.record = .ok record := by
    intro row member _
    rcases List.mem_cons.mp member with rfl | last
    · exact ⟨first, aloneReads⟩
    · exact List.mem_singleton.mp last ▸ ⟨second, packedReads⟩
  have selects := fun state => agree.2 "c_w" readable state {} ⟨0, 0⟩
  let everything : PinnedFilter := { cutoff := none }
  have keyed : Table.IsDistinct [alone, packed] := by
    unfold Table.IsDistinct
    decide
  have wants : ∀ state row,
      (∃ record, Table.Wants [alone, packed] "c_w" state everything row record) ↔
        row = packed ∧ state = .processing := by
    intro state row
    constructor
    · rintro ⟨record, member, own, reads, same, isPacked, accepted⟩
      rcases List.mem_cons.mp member with rfl | last
      · exact absurd isPacked (by decide)
      · obtain rfl := List.mem_singleton.mp last
        cases packedReads.symm.trans reads
        exact ⟨rfl, same.symm.trans secondState.symm⟩
    · rintro ⟨rfl, rfl⟩
      exact ⟨second, .tail _ (.head _), rfl, packedReads, secondState.symm, by decide, rfl⟩
  have counted (state : State) (rows : List Row) (nodup : rows.Nodup)
      (wanted : ∀ row, row ∈ rows ↔ row = packed ∧ state = .processing) :=
    (selects state).count_eq rfl (by decide) (by decide) keyed (.whole rfl (by decide)) nodup
      (fun row => (wanted row).trans (wants state row).symm) none
  refine ⟨⟨first, aloneReads, firstState, by decide, ?_⟩, ⟨second, packedReads, ?_⟩, selects, ?_, ?_⟩
  · have claim := (agree.1 alone first rfl aloneReads).claim "one" ⟨0, 0⟩
    rw [if_neg fun held => absurd held.2 (by decide)] at claim
    exact claim
  · have claim := (agree.1 packed second rfl packedReads).claim "one" ⟨0, 0⟩
    rw [← secondState, if_pos ⟨rfl, by decide⟩] at claim
    exact claim
  · exact counted .claimed [] .nil (by simp)
  · exact counted .processing [packed] (List.nodup_cons.mpr ⟨List.not_mem_nil, .nil⟩) (by simp)

end Store
end PayloadLedger
