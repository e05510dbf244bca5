import PayloadLedger.Proofs.Store.Counting
import PayloadLedger.Proofs.Store.Fuel

namespace PayloadLedger

/-!
Rows that are listed once.

On a store that nobody writes to, pages, walks along their tokens and counts come from scans.  As
long as every row is passed, a scan takes as many round trips as its rows fill slices, and one more
at most, and neither a page nor a walk nor a count has a row twice.
-/

namespace Table

variable {table : Table} {partition : String} {filter : Filter} {position : Option Cursor}

theorem length_behind_le_filter : (table.behind partition filter position).length ≤
    (List.filter (fun row => decide (row.partition = partition)) table).length := by
  rw [behind, List.length_mergeSort]
  apply List.Sublist.length_le
  apply List.monotone_filter_right
  intro row selected
  rw [Bool.and_eq_true, Bool.and_eq_true] at selected
  exact selected.1.1

/-- The rows of a partition have different item ids. -/
theorem IsDistinct.nodup_itemIds (distinct : table.IsDistinct) :
    ((table.behind partition filter position).map Row.itemIds).Nodup := by
  have sorted : filter.Sorts (fun row => row.place filter.order)
      (table.behind partition filter position) := distinct.sorts_behind
  rw [List.Nodup, List.pairwise_map]
  refine List.Pairwise.imp_of_mem ?_ sorted
  intro one other member otherMember before same
  rw [mem_behind] at member otherMember
  have place : one.place .itemIds = other.place .itemIds := Prod.ext same same
  rw [distinct.eq_of_place member.1 otherMember.1 (member.2.1.trans otherMember.2.1.symm) place,
    Filter.precedes_irrefl] at before
  cases before

/-- Records of different rows of a partition are about different items. -/
theorem ReadsAs.nodup_items {read : Row → Record} (readsAs : table.ReadsAs partition read)
    {rows : List Row} (listed : rows.Sublist (table.behind partition filter position)) :
    ((rows.map read).map Record.items).Nodup := by
  have items : (rows.map read).map Record.items = rows.map Row.itemIds := by
    rw [List.map_map]
    exact List.map_congr_left fun row member =>
      Row.items_of_record (readsAs.of_behind (listed.subset member))
  rw [items]
  exact readsAs.distinct.nodup_itemIds.sublist (listed.map Row.itemIds)

theorem Advances.nodup {sliceSize : Nat} {slices : List (List Row)} {kept : List Row}
    {stop : Option Cursor} (distinct : table.IsDistinct)
    (advances : Advances table partition filter sliceSize position slices kept stop) :
    filter.Sorts (fun row => row.place filter.order) slices.flatten ∧ slices.flatten.Nodup := by
  have sorted : filter.Sorts (fun row => row.place filter.order) slices.flatten :=
    List.Pairwise.sublist advances.fetched distinct.sorts_behind
  refine ⟨sorted, sorted.imp ?_⟩
  intro one other before same
  rw [same, Filter.precedes_irrefl] at before
  cases before

/-- A scan takes no more round trips than its rows fill slices, and one more. -/
theorem Advances.length_le {sliceSize : Nat} {slices : List (List Row)} {kept : List Row}
    {stop : Option Cursor} (positive : 0 < sliceSize)
    (advances : Advances table partition filter sliceSize position slices kept stop) :
    slices.length ≤ (table.behind partition filter position).length / sliceSize + 1 := by
  rw [← Nat.add_div_right _ positive, Nat.le_div_iff_mul_le positive]
  exact advances.length

/-- Whatever the ledger wrote itself is passed. -/
theorem Holds.passes {accounts : Accounts} (holds : table.Holds accounts) (partition : String)
    (filter : Filter) : table.Passes partition filter := by
  intro row member
  rcases holds.row_of_mem (mem_behind.mp member).1 with ⟨account, kept, same⟩
  have reads := Account.record_row (holds.decoded row.key account kept)
    (holds.storable row.key account kept)
  rw [← same] at reads
  refine Row.isPassed_of_stored reads ?_ filter
  have column : row.updated = account.updated.stored := by
    rw [same]
    rfl
  exact column.trans (holds.storable row.key account kept).updated.stored_kept.symm

end Table

namespace Store

/-- The pages of a walk on a store that stays as it is.  Each page is asked for with the token of
the one before, with any limit and at any time, and the walk may end with any page. -/
inductive Turns (store : Store) (partition : String) (filter : Filter) :
    Option String → List Page → Prop
  | last {token : Option String} {limit : Nat} {now : Time.Instant} {page : Page}
      (answered : (store.query partition filter limit token now).result = .ok page) :
      Turns store partition filter token [page]
  | next {token : Option String} {limit : Nat} {now : Time.Instant} {page : Page} {next : String}
      {pages : List Page}
      (answered : (store.query partition filter limit token now).result = .ok page)
      (more : page.next = some next) (later : Turns store partition filter (some next) pages) :
      Turns store partition filter token (page :: pages)

section

variable {store : Store} {table : Table} {read : Row → Record} {partition : String}
  {filter : Filter}

/-- A store with a partition that reads, all rows of which are passed. -/
structure Passes (store : Store) (table : Table) (read : Row → Record) (partition : String)
    (filter : Filter) : Prop where
  present : store.table = some table
  readsAs : table.ReadsAs partition read
  positive : 0 < store.sliceSize
  passes : table.Passes partition filter

theorem Passes.exists_scan {pinned : PinnedFilter}
    (passes : store.Passes table read partition pinned.toFilter) (room : Option Nat)
    (position : Option Cursor) :
    ∃ slices kept stop,
      table.Trips partition pinned store.sliceSize room position slices (kept.map read, stop) ∧
      store.scan partition pinned room position = .ok (kept.map read, stop) ∧
      (∀ row ∈ kept, pinned.accepts (read row) = true) ∧
      Table.Advances table partition pinned.toFilter store.sliceSize position slices kept stop := by
  rcases passes.passes.exists_trips passes.readsAs passes.positive room position with
    ⟨slices, kept, stop, trips, accepts, advances⟩
  refine ⟨slices, kept, stop, trips, ?_, accepts, advances⟩
  rw [scan, passes.present]
  exact Table.scan_eq_ok_iff.mpr ⟨slices, trips⟩

/-- A page lists rows from behind its position, and its token leads behind them. -/
theorem Passes.exists_page (passes : store.Passes table read partition filter)
    {now : Time.Instant} {pinned : PinnedFilter}
    (accepted : (Key.ofPartition partition "").isOk = true) (window : filter.pin now = .ok pinned)
    {token : Option String} {position : Option Cursor}
    (start : startOf filter token = .ok position) (limit : Nat) :
    ∃ (kept : List Row) (next : Option String),
      (store.query partition filter limit token now).result = .ok ⟨kept.map read, next⟩ ∧
      kept.Sublist (table.behind partition filter position) ∧
      ∀ token, next = some token → ∃ cursor, startOf filter (some token) = .ok (some cursor) ∧
        (kept ++ table.behind partition filter (some cursor)).Sublist
          (table.behind partition filter position) := by
  obtain rfl := Filter.toFilter_pin window
  rcases passes.exists_scan (some (max 1 (min limit store.limitCap))) position with
    ⟨slices, kept, stop, _, scanned, _, advances⟩
  refine ⟨kept, stop.map Cursor.encode, ?_, advances.found.trans advances.fetched, ?_⟩
  · rw [query_of_scan accepted window start, scanned]
    rfl
  · intro token more
    rcases Option.map_eq_some_iff.mp more with ⟨cursor, stopped, rfl⟩
    refine ⟨cursor, ?_, advances.rest cursor stopped⟩
    simp only [startOf, Cursor.decode_encode, bind, Except.bind,
      if_pos (advances.order cursor stopped)]
    rfl

/-- A walk lists rows from behind the position at which it starts. -/
theorem Turns.exists_rows {token : Option String} {pages : List Page}
    (turns : Turns store partition filter token pages)
    (passes : store.Passes table read partition filter) :
    ∃ (position : Option Cursor) (kept : List Row), startOf filter token = .ok position ∧
      pages.flatMap Page.items = kept.map read ∧
      kept.Sublist (table.behind partition filter position) := by
  induction turns with
  | @last token limit now page answered =>
      rcases store.query_cases partition filter now limit token with
        ⟨error, refused, _⟩ | ⟨accepted, pinned, position, window, start⟩
      · cases answered.symm.trans refused
      rcases passes.exists_page accepted window start limit with ⟨kept, next, result, listed, _⟩
      cases answered.symm.trans result
      exact ⟨position, kept, start, List.flatMap_singleton .., listed⟩
  | @next token limit now page next pages answered more later ih =>
      rcases store.query_cases partition filter now limit token with
        ⟨error, refused, _⟩ | ⟨accepted, pinned, position, window, start⟩
      · cases answered.symm.trans refused
      rcases passes.exists_page accepted window start limit with ⟨kept, _, result, _, leads⟩
      cases answered.symm.trans result
      rcases leads next more with ⟨cursor, started, behind⟩
      rcases ih with ⟨_, others, alsoStarted, told, listed⟩
      cases alsoStarted.symm.trans started
      refine ⟨position, kept ++ others, start, ?_, (listed.append_left kept).trans behind⟩
      rw [List.flatMap_cons, told, List.map_append]

/-- A count counts different rows that are selected and accepted. -/
theorem Passes.exists_counted (passes : store.Passes table read partition filter)
    {now : Time.Instant} {pinned : PinnedFilter}
    (accepted : (Key.ofPartition partition "").isOk = true) (window : filter.pin now = .ok pinned)
    (limit : Option Nat) :
    ∃ counted : List Row, counted.Nodup ∧
      (∀ row ∈ counted, row ∈ table.behind partition filter none ∧
        ∃ record, row.record = .ok record ∧ pinned.accepts record = true) ∧
      (store.count partition filter limit now).result = .ok (.upTo limit counted.length) := by
  obtain rfl := Filter.toFilter_pin window
  rcases passes.exists_scan (limit.map (· + 1)) none with
    ⟨slices, kept, stop, _, scanned, accepts, advances⟩
  refine ⟨kept, advances.found.nodup (advances.nodup passes.readsAs.distinct).2, ?_, ?_⟩
  · intro row member
    have listed := (advances.found.trans advances.fetched).subset member
    exact ⟨listed, read row, passes.readsAs.of_behind listed, accepts row member⟩
  · rw [count_of_scan accepted window, scanned]
    exact congrArg (fun number => Except.ok (Count.upTo limit number)) (List.length_map _)

end

/-- Where all rows that a filter selects are passed, nothing is listed twice.  A scan takes no more
round trips than the rows of the partition fill slices, and one more, and fetches its rows strictly
in the order of the filter; no page and no walk along the tokens has a row twice; a query that is
accepted is answered, and so is a count, with a number of different rows that are selected and
accepted.  Where a selected row is not passed, there is a size of slices and a position from which a
scan of everything never ends. -/
theorem scans_list_once (store : Store) {table : Table} (present : store.table = some table)
    (distinct : table.IsDistinct) (positive : 0 < store.sliceSize) (partition : String)
    (readable : ∀ row ∈ table, row.partition = partition → ∃ record, row.record = .ok record)
    (filter : Filter) :
    let selected := table.behind partition filter none
    let size := (List.filter (fun row => decide (row.partition = partition)) table).length
    ((∀ row ∈ selected, row.IsPassed filter) →
      (∀ pinned : PinnedFilter, pinned.toFilter = filter → ∀ room position, ∃ slices answer,
        table.Trips partition pinned store.sliceSize room position slices answer ∧
        store.scan partition pinned room position = .ok answer ∧
        slices.length ≤ size / store.sliceSize + 1 ∧
        filter.Sorts (fun row => row.place filter.order) slices.flatten ∧
        slices.flatten.Nodup ∧ (answer.1.map Record.items).Nodup) ∧
      (∀ token pages, store.Turns partition filter token pages →
        ((pages.flatMap Page.items).map Record.items).Nodup) ∧
      ((Key.ofPartition partition "").isOk = true → ∀ now pinned, filter.pin now = .ok pinned →
        (∀ limit token position, startOf filter token = .ok position →
          ∃ page, (store.query partition filter limit token now).result = .ok page) ∧
        ∀ limit, ∃ counted : List Row, counted.Nodup ∧
          (∀ row ∈ counted, row ∈ selected ∧
            ∃ record, row.record = .ok record ∧ pinned.accepts record = true) ∧
          (store.count partition filter limit now).result = .ok (.upTo limit counted.length))) ∧
    ∀ row ∈ selected, ¬ row.IsPassed filter → ∃ sliceSize position, 0 < sliceSize ∧
      ∀ pinned : PinnedFilter, pinned.toFilter = filter → pinned.cutoff = none →
        ∀ slices answer, ¬ table.Trips partition pinned sliceSize none position slices answer := by
  intro selected size
  rcases Table.exists_readsAs distinct readable with ⟨read, readsAs⟩
  refine ⟨?_, ?_⟩
  · intro passed
    have passes : store.Passes table read partition filter := ⟨present, readsAs, positive, passed⟩
    refine ⟨?_, ?_, ?_⟩
    · rintro pinned rfl room position
      rcases passes.exists_scan room position with
        ⟨slices, kept, stop, trips, scanned, _, advances⟩
      have once := advances.nodup distinct
      refine ⟨slices, _, trips, scanned, ?_, once.1, once.2,
        readsAs.nodup_items (advances.found.trans advances.fetched)⟩
      calc slices.length
          ≤ (table.behind partition pinned.toFilter position).length / store.sliceSize + 1 :=
            advances.length_le positive
        _ ≤ size / store.sliceSize + 1 :=
            Nat.succ_le_succ (Nat.div_le_div_right Table.length_behind_le_filter)
    · intro token pages turns
      rcases turns.exists_rows passes with ⟨position, kept, _, told, listed⟩
      rw [told]
      exact readsAs.nodup_items listed
    · intro accepted now pinned window
      refine ⟨?_, ?_⟩
      · intro limit token position start
        rcases passes.exists_page accepted window start limit with ⟨kept, next, result, _⟩
        exact ⟨_, result⟩
      · exact passes.exists_counted accepted window
  · exact fun row selected stuck => readsAs.exists_endless selected stuck

/-- A row whose time was stored without a fraction is passed with the newest first, and holds up a
scan with the oldest first. -/
theorem scans_list_once_fraction :
    let row : Row := ⟨"c_w", "i", "COMPLETED_2024-01-01T00:00:00.000000Z",
      "2024-01-01T00:00:00.000000Z", "2024-01-01T00:00:00Z", "[]", none, none⟩
    let store : Store := { table := some [row], sliceSize := 1 }
    let newest : Filter := {}
    let oldest : Filter := { ascending := true }
    (∃ record, row.record = .ok record) ∧ row.IsPassed newest ∧ ¬ row.IsPassed oldest ∧
      (∃ slices answer,
        Table.Trips [row] "c_w" { newest with cutoff := none } 1 none none slices answer ∧
        store.scan "c_w" { newest with cutoff := none } none none = .ok answer ∧
        slices.length ≤ 2) ∧
      ∃ sliceSize position, 0 < sliceSize ∧ ∀ slices answer,
        ¬ Table.Trips [row] "c_w" { oldest with cutoff := none } sliceSize none position slices
          answer := by
  intro row store newest oldest
  let shown : Record := ⟨"c/workflow-w/i", "c", "w", "i", .completed,
    "COMPLETED_2024-01-01T00:00:00.000000Z", ⟨1704067200, 0⟩, ⟨1704067200, 0⟩, [], none, none⟩
  have reads : row.record = .ok shown := by decide +kernel
  have distinct : Table.IsDistinct [row] := List.pairwise_singleton _ _
  have readable : ∀ other ∈ [row], other.partition = "c_w" →
      ∃ record, other.record = .ok record := by
    intro other member _
    rw [List.mem_singleton.mp member]
    exact ⟨shown, reads⟩
  have less : shown.updated.stored < row.updated := by decide
  have passed : row.IsPassed newest := by
    intro record alsoReads _
    cases alsoReads.symm.trans reads
    exact String.lt_asymm less
  have stuck : ¬ row.IsPassed oldest := fun passed => passed shown reads rfl less
  have selected (filter : Filter) (stateless : filter.state = none) :
      row ∈ Table.behind [row] "c_w" filter none := by
    rw [Table.mem_behind]
    exact ⟨List.mem_singleton_self row, rfl, by rw [stateless]; nofun, rfl⟩
  have all : ∀ other ∈ Table.behind [row] "c_w" newest none, other.IsPassed newest := by
    intro other member
    rw [List.mem_singleton.mp (Table.mem_behind.mp member).1]
    exact passed
  rcases (scans_list_once store rfl distinct Nat.one_pos "c_w" readable newest).1 all with
    ⟨scans, _⟩
  rcases scans { newest with cutoff := none } rfl none none with
    ⟨slices, answer, trips, scanned, few, _⟩
  rcases (scans_list_once store rfl distinct Nat.one_pos "c_w" readable oldest).2 row
    (selected oldest rfl) stuck with ⟨sliceSize, position, positive, endless⟩
  exact ⟨⟨shown, reads⟩, passed, stuck, ⟨slices, answer, trips, scanned, Nat.le_trans few (by decide)⟩,
    sliceSize, position, positive, endless { oldest with cutoff := none } rfl rfl⟩

end Store
end PayloadLedger
