import PayloadLedger.Proofs.Query.Cursor
import PayloadLedger.Proofs.Store.Refinement
import PayloadLedger.Proofs.Store.Scan

namespace PayloadLedger

/-!
Pages.

What is asked of a partition has one answer: the wanted records, sorted by the bytes of their
places.  A page is the front of that answer, or of what comes after a cursor in it, and the pages
that follow one another are the whole of it.
-/

/-! ## The answer -/

/-- The filter wants the record. -/
structure Record.IsWanted (record : Record) (filter : PinnedFilter) : Prop where
  state : ∀ state, filter.state = some state → record.state = state
  inside : ∀ cutoff, filter.cutoff = some cutoff → cutoff ≤ record.updated
  error : ∀ start, filter.errorStart = some start →
    ∃ error, record.lastError = some error ∧ start.toList <+: error.toList

namespace Filter

/-- One place comes first in the direction of the filter, byte by byte. -/
def ComesFirst (filter : Filter) (one other : String × String) : Prop :=
  let before (first second : String × String) :=
    Text.utf8 first.1 < Text.utf8 second.1 ∨
      (Text.utf8 first.1 = Text.utf8 second.1 ∧ Text.utf8 first.2 < Text.utf8 second.2)
  if filter.ascending then before one other else before other one

theorem precedes_iff (filter : Filter) (one other : String × String) :
    filter.precedes one other = true ↔ filter.ComesFirst one other := by
  have before (first second : String × String) : Row.placeBefore first second = true ↔
      Text.utf8 first.1 < Text.utf8 second.1 ∨
        (Text.utf8 first.1 = Text.utf8 second.1 ∧ Text.utf8 first.2 < Text.utf8 second.2) := by
    rw [Row.placeBefore_iff, Text.utf8_lt_iff, Text.utf8_lt_iff, Text.utf8_inj]
  unfold precedes ComesFirst
  by_cases up : filter.ascending = true
  · rw [if_pos up, if_pos up]
    exact before one other
  · rw [if_neg up, if_neg up]
    exact before other one

instance (filter : Filter) (one other : String × String) :
    Decidable (filter.ComesFirst one other) :=
  decidable_of_iff _ (filter.precedes_iff one other)

end Filter

/-- The records are those that the filter wants of a partition, in its order. -/
structure Store.Lists (store : Store) (partition : String) (filter : PinnedFilter)
    (records : List Record) : Prop where
  mem : ∀ record, record ∈ records ↔ ∃ table row, store.table = some table ∧ row ∈ table ∧
    row.partition = partition ∧ row.record = .ok record ∧ record.IsWanted filter
  place : ∀ record ∈ records, ∃ table row, store.table = some table ∧ row ∈ table ∧
    row.record = .ok record ∧ record.place filter.order = row.place filter.order
  sorted : records.Pairwise fun one other =>
    filter.ComesFirst (one.place filter.order) (other.place filter.order)

/-! ## Listing a table that reads -/

namespace Table

/-- The wanted records of a partition, in order. -/
def listing (table : Table) (read : Row → Record) (partition : String) (filter : PinnedFilter) :
    List Record :=
  ((table.behind partition filter.toFilter none).map read).filter filter.accepts

/-- What comes after a position in the listing. -/
def rest (table : Table) (read : Row → Record) (partition : String) (filter : PinnedFilter)
    (position : Option Cursor) : List Record :=
  (table.listing read partition filter).filter
    (filter.isPast (fun record => record.place filter.order) position)

theorem rest_none (table : Table) (read : Row → Record) (partition : String)
    (filter : PinnedFilter) :
    table.rest read partition filter none = table.listing read partition filter :=
  List.filter_eq_self.mpr fun _ _ => rfl

theorem rest_some (table : Table) (read : Row → Record) (partition : String)
    (filter : PinnedFilter) (cursor : Cursor) :
    table.rest read partition filter (some cursor) =
      (table.listing read partition filter).filter fun record => decide
        (filter.ComesFirst (cursor.sortValue, cursor.itemIds) (record.place filter.order)) := by
  apply List.filter_congr
  intro record _
  rw [Bool.eq_iff_iff, decide_eq_true_eq, ← Filter.precedes_iff]
  rfl

/-- The position at which a page of the rest ends, if the page is full. -/
def stop (room : Nat) (order : SortIndex) (rest : List Record) : Option Cursor :=
  if room ≤ rest.length then (rest.take room).getLast?.map (Cursor.ofRecord order) else none

namespace IsOrderly

variable {table : Table} {read : Row → Record} {partition : String} {filter : PinnedFilter}

theorem accepts_iff (filter : PinnedFilter) (record : Record) :
    filter.accepts record = true ↔
      (∀ cutoff, filter.cutoff = some cutoff → cutoff ≤ record.updated) ∧
        ∀ start, filter.errorStart = some start →
          ∃ error, record.lastError = some error ∧ start.toList <+: error.toList := by
  rw [PinnedFilter.accepts, Bool.and_eq_true, PinnedFilter.isOutside]
  refine and_congr ?_ ?_
  · cases filter.cutoff with
    | none => simp
    | some cutoff =>
        simp only [Bool.not_eq_true', decide_eq_false_iff_not, Option.some.injEq]
        exact ⟨fun inside _ same => same ▸ inside, fun inside => inside cutoff rfl⟩
  · cases filter.errorStart with
    | none => simp
    | some start =>
        cases record.lastError with
        | none => simp
        | some error => simp

theorem mem_listing (orderly : table.IsOrderly read) {record : Record} :
    record ∈ table.listing read partition filter ↔ ∃ row, row ∈ table ∧
      row.partition = partition ∧ row.record = .ok record ∧ record.IsWanted filter := by
  rw [listing, List.mem_filter, List.mem_map, accepts_iff]
  constructor
  · rintro ⟨⟨row, member, rfl⟩, inside, error⟩
    rcases mem_behind.mp member with ⟨kept, own, state, _⟩
    refine ⟨row, kept, own, orderly.reads row kept, ?_, inside, error⟩
    intro wanted asked
    have found := state wanted asked
    rw [orderly.state row kept] at found
    exact of_decide_eq_true found
  · rintro ⟨row, kept, own, reads, wanted⟩
    have same : read row = record := Except.ok.inj ((orderly.reads row kept).symm.trans reads)
    refine ⟨⟨row, mem_behind.mpr ⟨kept, own, ?_, rfl⟩, same⟩, wanted.inside, wanted.error⟩
    intro state asked
    rw [orderly.state row kept, same]
    exact decide_eq_true (wanted.state state asked)

theorem sorts_listing (orderly : table.IsOrderly read) :
    filter.Sorts (fun record => record.place filter.order)
      (table.listing read partition filter) := by
  refine Filter.Sorts.restrict ?_ filter.accepts
  unfold Filter.Sorts
  rw [List.pairwise_map]
  have sorted : filter.Sorts (fun row => row.place filter.order)
      (table.behind partition filter.toFilter none) := orderly.distinct.sorts_behind
  refine List.Pairwise.imp_of_mem ?_ sorted
  intro one other member otherMember before
  rw [mem_behind] at member otherMember
  change filter.precedes ((read one).place filter.order) ((read other).place filter.order) = true
  rw [orderly.place one member.1, orderly.place other otherMember.1]
  exact before

/-- What a scan accepts behind a position is what comes after it in the listing. -/
theorem filter_behind (orderly : table.IsOrderly read) (position : Option Cursor) :
    ((table.behind partition filter.toFilter position).map read).filter filter.accepts =
      table.rest read partition filter position := by
  rw [orderly.distinct.behind_eq_filter, rest, listing, List.filter_filter]
  have past : ∀ row ∈ table.behind partition filter.toFilter none,
      filter.isPast (fun row => row.place filter.order) position row =
        filter.isPast (fun record => record.place filter.order) position (read row) := by
    intro row member
    cases position with
    | none => rfl
    | some cursor =>
        simp only [Filter.isPast, orderly.place row (mem_behind.mp member).1]
  rw [List.filter_congr past, List.filter_map, List.filter_map, List.filter_filter]
  congr 1
  apply List.filter_congr
  intro row _
  exact Bool.and_comm _ _

/-- A scan with room answers with the front of what comes after its position. -/
theorem scan_eq (orderly : table.IsOrderly read) {sliceSize room : Nat} (positive : 0 < sliceSize)
    (roomy : 0 < room) (position : Option Cursor) :
    table.scan partition filter sliceSize (table.scanFuel (some room)) (some room) position =
      .ok ((table.rest read partition filter position).take room,
        stop room filter.order (table.rest read partition filter position)) := by
  have visited := visit_finds roomy (orderly.leaves partition filter position)
  rw [orderly.scan_eq_visit positive (length_behind_lt_scanFuel _)]
  simp only [visited.found, visited.position, orderly.filter_behind, stop]

/-- Behind a full page comes what is left of the rest. -/
theorem rest_stop (orderly : table.IsOrderly read) {room : Nat} (roomy : 0 < room)
    {position : Option Cursor}
    (full : room ≤ (table.rest read partition filter position).length) :
    ∃ cursor, stop room filter.order (table.rest read partition filter position) = some cursor ∧
      cursor.order = filter.order ∧
      table.rest read partition filter (some cursor) =
        (table.rest read partition filter position).drop room := by
  have parts := List.take_append_drop room (table.rest read partition filter position)
  have length := List.length_take_of_le full
  rcases List.eq_nil_or_concat ((table.rest read partition filter position).take room) with
    none | ⟨init, last, ends⟩
  · rw [none] at length
    exact absurd length (Nat.ne_of_lt roomy)
  · rw [List.concat_eq_append] at ends
    refine ⟨Cursor.ofRecord filter.order last, ?_, rfl, ?_⟩
    · rw [stop, if_pos full, ends, List.getLast?_concat]
      rfl
    · rw [ends, List.append_assoc] at parts
      exact orderly.sorts_listing.filter_isPast parts.symm rfl

end IsOrderly

/-- A table that holds accounts reads in order. -/
theorem Holds.isOrderly {table : Table} {accounts : Accounts} (holds : table.Holds accounts) :
    table.IsOrderly fun row =>
      ((accounts row.key).getD (.blank ⟨0, 0⟩)).record row.key where
  distinct := holds.distinct
  reads row member := by
    rcases holds.row_of_mem member with ⟨account, kept, same⟩
    rw [kept, Option.getD_some]
    have reads := Account.record_row (holds.decoded row.key account kept)
      (holds.storable row.key account kept)
    rw [← same] at reads
    exact reads
  place row member order := by
    rcases holds.row_of_mem member with ⟨account, kept, same⟩
    rw [kept, Option.getD_some]
    refine Eq.trans ?_ (congrArg (fun row => row.place order) same.symm)
    cases order with
    | itemIds => rfl
    | stateUpdated => rfl
    | updated =>
        have column := (holds.storable row.key account kept).updated.stored_kept
        exact congrArg (fun text => (text, row.key.itemIds)) column
  state row member state := by
    rcases holds.row_of_mem member with ⟨account, kept, same⟩
    rw [kept, Option.getD_some]
    have packed : row.stateUpdated = Row.pack account.state account.reached := by
      rw [same]
      rfl
    exact Row.isInState_of_packed packed state
  updated one member other otherMember less := by
    rcases holds.row_of_mem member with ⟨account, kept, same⟩
    rcases holds.row_of_mem otherMember with ⟨later, laterKept, laterSame⟩
    simp only [kept, laterKept, Option.getD_some] at less
    have written : account.updated.stored < later.updated.stored :=
      (Time.Instant.stored_lt_iff (holds.storable one.key account kept).updated
        (holds.storable other.key later laterKept).updated).mpr less
    rw [same, laterSame]
    exact written

end Table

/-! ## Pages of a store -/

theorem Filter.toFilter_pin {filter : Filter} {now : Time.Instant} {pinned : PinnedFilter}
    (window : filter.pin now = .ok pinned) : pinned.toFilter = filter := by
  rw [pin] at window
  split at window
  · cases window
    rfl
  · split at window
    · cases window
    · split at window
      · cases window
      · cases window
        rfl

/-- Without a window to ask for, nothing is cut off. -/
theorem Filter.cutoff_of_pin {filter : Filter} {now : Time.Instant} {pinned : PinnedFilter}
    (window : filter.pin now = .ok pinned) (everything : pinned.since = none) :
    pinned.cutoff = none := by
  have asked : filter.since = none := Filter.toFilter_pin window ▸ everything
  rw [pin, asked] at window
  cases window
  rfl

namespace Store

/-- A query that is accepted is one scan. -/
theorem query_of_scan {store : Store} {partition : String} {filter : Filter} {now : Time.Instant}
    {pinned : PinnedFilter} {token : Option String} {position : Option Cursor}
    (accepted : (Key.ofPartition partition "").isOk = true) (window : filter.pin now = .ok pinned)
    (start : startOf filter token = .ok position) (limit : Nat) :
    (store.query partition filter limit token now).result =
      (store.scan partition pinned (some (max 1 (min limit store.limitCap))) position).map
        fun answer => ⟨answer.1, answer.2.map Cursor.encode⟩ := by
  rcases exists_of_isOk accepted with ⟨key, named⟩
  unfold query
  simp only [named, window, start, Except.mapError, bind, Except.bind, pure, Except.pure]
  rfl

/-- A store that reads in order, and what is asked of it. -/
structure Asks (store : Store) (table : Table) (read : Row → Record) (partition : String)
    (filter : Filter) (now : Time.Instant) (pinned : PinnedFilter) : Prop where
  present : store.table = some table
  orderly : table.IsOrderly read
  positive : 0 < store.sliceSize
  accepted : (Key.ofPartition partition "").isOk = true
  window : filter.pin now = .ok pinned

namespace Asks

variable {store : Store} {table : Table} {read : Row → Record} {partition : String}
  {filter : Filter} {now : Time.Instant} {pinned : PinnedFilter}

theorem lists (asks : store.Asks table read partition filter now pinned) :
    store.Lists partition pinned (table.listing read partition pinned) where
  mem record := by
    rw [asks.orderly.mem_listing]
    constructor
    · rintro ⟨row, found⟩
      exact ⟨table, row, asks.present, found⟩
    · rintro ⟨other, row, same, found⟩
      cases asks.present.symm.trans same
      exact ⟨row, found⟩
  place record member := by
    rcases asks.orderly.mem_listing.mp member with ⟨row, kept, _, reads, _⟩
    have place := asks.orderly.place row kept pinned.order
    rw [Except.ok.inj ((asks.orderly.reads row kept).symm.trans reads)] at place
    exact ⟨table, row, asks.present, kept, reads, place⟩
  sorted := by
    refine List.Pairwise.imp ?_ asks.orderly.sorts_listing
    intro one other before
    exact (pinned.precedes_iff _ _).mp before

/-- A page is the front of the rest behind its token. -/
theorem query_result (asks : store.Asks table read partition filter now pinned)
    {token : Option String} {position : Option Cursor} (start : startOf filter token = .ok position)
    (limit : Nat) :
    let room := max 1 (min limit store.limitCap)
    let rest := table.rest read partition pinned position
    (store.query partition filter limit token now).result =
      .ok ⟨rest.take room, (Table.stop room pinned.order rest).map Cursor.encode⟩ := by
  intro room rest
  have roomy : 0 < room := Nat.lt_of_lt_of_le Nat.zero_lt_one (Nat.le_max_left _ _)
  have scanned : store.scan partition pinned (some room) position =
      .ok (rest.take room, Table.stop room pinned.order rest) := by
    rw [scan, asks.present]
    exact asks.orderly.scan_eq asks.positive roomy position
  rw [query_of_scan asks.accepted asks.window start, scanned]
  rfl

theorem isSome_stop {room : Nat} (roomy : 0 < room) (order : SortIndex) (rest : List Record) :
    ((Table.stop room order rest).map Cursor.encode).isSome = true ↔
      (rest.take room).length = room := by
  rw [Option.isSome_map, Table.stop, List.length_take]
  by_cases full : room ≤ rest.length
  · rw [if_pos full, Option.isSome_map]
    have some : rest.take room ≠ [] := by
      apply List.ne_nil_of_length_pos
      rw [List.length_take_of_le full]
      exact roomy
    rw [List.getLast?_eq_some_getLast some]
    exact ⟨fun _ => Nat.min_eq_left full, fun _ => rfl⟩
  · rw [if_neg full]
    exact ⟨nofun, fun same => absurd (by omega) full⟩

/-- The pages that follow one another are the whole rest. -/
theorem pages_flatten (asks : store.Asks table read partition filter now pinned) (limit : Nat)
    {most : Nat} {token : Option String} {position : Option Cursor}
    (start : startOf filter token = .ok position)
    (enough : (table.rest read partition pinned position).length < most) :
    ∃ pages, (store.pages partition filter limit now most token).1 = .ok pages ∧
      (pages.map Page.items).flatten = table.rest read partition pinned position ∧
      ∃ last, pages.getLast? = some last ∧ last.next = none := by
  induction most generalizing token position with
  | zero => exact absurd enough (Nat.not_lt_zero _)
  | succ most ih =>
      have page := asks.query_result start limit
      have roomy : 0 < max 1 (min limit store.limitCap) :=
        Nat.lt_of_lt_of_le Nat.zero_lt_one (Nat.le_max_left _ _)
      generalize max 1 (min limit store.limitCap) = room at page roomy
      rw [pages]
      simp only [page]
      by_cases full : room ≤ (table.rest read partition pinned position).length
      · rcases asks.orderly.rest_stop roomy full with ⟨cursor, stopped, order, behind⟩
        have next : startOf filter (some cursor.encode) = .ok (some cursor) := by
          have same : cursor.order = filter.order := by rw [order, Filter.toFilter_pin asks.window]
          simp only [startOf, Cursor.decode_encode, bind, Except.bind, if_pos same]
          rfl
        have fewer : (table.rest read partition pinned (some cursor)).length < most := by
          rw [behind, List.length_drop]
          omega
        rcases ih next fewer with ⟨others, followed, joined, last, ends, closed⟩
        simp only [stopped, Option.map_some, followed]
        refine ⟨_, rfl, ?_, last, ?_, closed⟩
        · rw [List.map_cons, List.flatten_cons, joined, behind, List.take_append_drop]
        · rw [List.getLast?_cons, ends]
          rfl
      · have stopped : Table.stop room pinned.order
            (table.rest read partition pinned position) = none := if_neg full
        simp only [stopped, Option.map_none]
        refine ⟨_, rfl, ?_, _, rfl, rfl⟩
        rw [List.map_cons, List.map_nil, List.flatten_cons, List.flatten_nil, List.append_nil]
        exact List.take_of_length_le (Nat.le_of_not_le full)

end Asks

/-- Paging is exact.  On every store that a run of proper steps reaches there is one sorted list
of what a filter wants of a partition: a page without a token is its front, a page behind a cursor
is the front of what comes strictly after the cursor, wherever the cursor comes from, a page says
that more may follow exactly when it is full, and the pages that follow one another are the whole
list. -/
theorem pages_exact (sliceSize limitCap : Nat) (steps : List Step)
    (proper : ∀ step ∈ steps, step.IsProper) (partition : String)
    (accepted : (Key.ofPartition partition "").isOk = true) (filter : Filter)
    (now : Time.Instant) (pinned : PinnedFilter) (window : filter.pin now = .ok pinned)
    (limit : Nat) :
    let store := (empty sliceSize limitCap).run steps
    let room := max 1 (min limit (max 1 limitCap))
    ∃ all, store.Lists partition pinned all ∧
      (∃ next, (store.query partition filter limit none now).result = .ok ⟨all.take room, next⟩ ∧
        (next.isSome = true ↔ (all.take room).length = room)) ∧
      (∀ token cursor, Cursor.decode token = .ok cursor → cursor.order = filter.order →
        let behind := all.filter fun record => decide
          (filter.ComesFirst (cursor.sortValue, cursor.itemIds) (record.place filter.order))
        ∃ next, (store.query partition filter limit (some token) now).result =
            .ok ⟨behind.take room, next⟩ ∧
          (next.isSome = true ↔ (behind.take room).length = room)) ∧
      ∀ most, all.length < most →
        ∃ pages, (store.pages partition filter limit now most none).1 = .ok pages ∧
          (pages.map Page.items).flatten = all ∧
          ∃ last, pages.getLast? = some last ∧ last.next = none := by
  intro store room
  rcases (empty_holds sliceSize limitCap).run proper with ⟨table, present, kept⟩
  have positive : 0 < store.sliceSize := sliceSize_run_empty_pos sliceSize limitCap steps
  have roomEq : max 1 (min limit store.limitCap) = room := by
    rw [((empty sliceSize limitCap).run_sizes steps).2]
    rfl
  have roomy : 0 < room := Nat.lt_of_lt_of_le Nat.zero_lt_one (Nat.le_max_left _ _)
  have asks : store.Asks table _ partition filter now pinned :=
    ⟨present, kept.isOrderly, positive, accepted, window⟩
  obtain rfl := Filter.toFilter_pin window
  refine ⟨table.listing _ partition pinned, asks.lists, ?_, ?_, ?_⟩
  · have start : startOf pinned.toFilter none = .ok none := rfl
    have page := asks.query_result start limit
    rw [roomEq, Table.rest_none] at page
    exact ⟨_, page, Asks.isSome_stop roomy _ _⟩
  · intro token cursor decoded order
    have start : startOf pinned.toFilter (some token) = .ok (some cursor) := by
      simp only [startOf, decoded, bind, Except.bind, if_pos order]
      rfl
    have page := asks.query_result start limit
    rw [roomEq, Table.rest_some] at page
    exact ⟨_, page, Asks.isSome_stop roomy _ _⟩
  · intro most enough
    have start : startOf pinned.toFilter none = .ok none := rfl
    rw [← Table.rest_none] at enough ⊢
    exact asks.pages_flatten limit start enough

/-- A page behind a position that no page ended at, in a window of one hour. -/
theorem pages_exact_between :
    let filter : Filter := { since := some "1h", order := .itemIds, ascending := true }
    let pinned : PinnedFilter := { filter with cutoff := some ⟨3600, 0⟩ }
    let steps : List Step :=
      [⟨⟨"c_w", "a"⟩, ⟨4000, 0⟩, .claim "one"⟩, ⟨⟨"c_w", "c"⟩, ⟨5000, 0⟩, .claim "two"⟩,
        ⟨⟨"c_w", "b"⟩, ⟨3000, 0⟩, .claim "three"⟩]
    let store := (empty 1 1000).run steps
    (∀ step ∈ steps, step.IsProper) ∧ (Key.ofPartition "c_w" "").isOk = true ∧
      filter.pin ⟨7200, 0⟩ = .ok pinned ∧
      ∃ all, store.Lists "c_w" pinned all ∧
        ∃ next, (store.query "c_w" filter 2 (some (Cursor.encode ⟨.itemIds, "aa", ""⟩))
            ⟨7200, 0⟩).result =
          .ok ⟨(all.filter fun record => decide
            (filter.ComesFirst ("aa", "") (record.place .itemIds))).take 2, next⟩ := by
  intro filter pinned steps store
  have own : ∀ step ∈ steps, step.key.IsDecoded := by
    intro step member
    rcases List.mem_cons.mp member with rfl | member
    · exact ⟨"c/workflow-w/a", rfl⟩
    · rcases List.mem_cons.mp member with rfl | last
      · exact ⟨"c/workflow-w/c", rfl⟩
      · exact List.mem_singleton.mp last ▸ ⟨"c/workflow-w/b", rfl⟩
  have storable : ∀ step ∈ steps, step.moment.IsStorable := by decide
  have proper : ∀ step ∈ steps, step.IsProper := fun step member =>
    ⟨own step member, storable step member⟩
  have accepted : (Key.ofPartition "c_w" "").isOk = true := by decide
  have window : filter.pin ⟨7200, 0⟩ = .ok pinned := rfl
  rcases pages_exact 1 1000 steps proper "c_w" accepted filter ⟨7200, 0⟩ pinned window 2 with
    ⟨all, lists, _, behind, _⟩
  rcases behind _ ⟨.itemIds, "aa", ""⟩ (Cursor.decode_encode _) rfl with ⟨next, page, _⟩
  exact ⟨proper, accepted, window, all, lists, next, page⟩

end Store
end PayloadLedger
