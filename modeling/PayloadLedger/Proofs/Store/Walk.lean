import Mathlib.Data.List.Nodup
import PayloadLedger.Proofs.Store.Reading

namespace PayloadLedger

/-!
Walks through the pages of a ledger that changes.

A walk asks for page after page, each with the token of the page before, and clients may write
whatever they want between two pages.  A record that none of them touches stays at its place, so
that it is either past the position that the walk has reached, and still to come, or it has been
told of on a page.
-/

/-- The records that are about a payload of their partition. -/
def Key.pick (key : Key) (records : List Record) : List Record :=
  records.filter fun record => record.items = key.itemIds

theorem Key.pick_append (key : Key) (one other : List Record) :
    key.pick (one ++ other) = key.pick one ++ key.pick other :=
  List.filter_append one other

/-- The record, if it is past a position and therefore still to come. -/
def Filter.pending (filter : Filter) (record : Record) (position : Option Cursor) : List Record :=
  [record].filter (filter.isPast (fun other => other.place filter.order) position)

/-! ## One record of a listing -/

namespace Table

/-- Where everything is wanted, every row is listed. -/
theorem length_listing {table : Table} {read : Row → Record} {partition : String}
    {filter : PinnedFilter} (own : ∀ row ∈ table, row.partition = partition)
    (stateless : filter.state = none) (accepts : ∀ record, filter.accepts record = true) :
    (table.listing read partition filter).length = table.length := by
  have selected : ∀ row ∈ table, (decide (row.partition = partition) && true && true) = true := by
    intro row member
    rw [own row member, decide_eq_true rfl]
    rfl
  rw [listing, List.filter_eq_self.mpr fun record _ => accepts record, List.length_map, behind,
    List.length_mergeSort]
  simp only [stateless, Filter.isPast]
  rw [List.filter_eq_self.mpr selected]

theorem length_rest_le {table : Table} {read : Row → Record} {partition : String}
    {filter : PinnedFilter} {position : Option Cursor} :
    (table.rest read partition filter position).length ≤ table.length := by
  calc (table.rest read partition filter position).length
      ≤ (table.listing read partition filter).length := List.length_filter_le _ _
    _ ≤ ((table.behind partition filter.toFilter none).map read).length :=
        List.length_filter_le _ _
    _ = (table.behind partition filter.toFilter none).length := List.length_map _
    _ ≤ table.length := length_behind_le

namespace IsOrderly

variable {table : Table} {read : Row → Record} {filter : PinnedFilter}

theorem nodup_listing (orderly : table.IsOrderly read) (partition : String) :
    (table.listing read partition filter).Nodup := by
  have sorted : filter.Sorts (fun record => record.place filter.order)
      (table.listing read partition filter) := orderly.sorts_listing
  refine List.Pairwise.imp ?_ sorted
  intro one other before same
  rw [same, Filter.precedes_irrefl] at before
  cases before

theorem items_eq (orderly : table.IsOrderly read) {row : Row} (member : row ∈ table)
    {record : Record} (reads : row.record = .ok record) : record.items = row.itemIds := by
  have same : read row = record := Except.ok.inj ((orderly.reads row member).symm.trans reads)
  rw [← same]
  exact congrArg Prod.snd (orderly.place row member .itemIds)

/-- A wanted record is all that a listing tells of its payload. -/
theorem pick_listing (orderly : table.IsOrderly read) {row : Row} {record : Record}
    (member : row ∈ table) (reads : row.record = .ok record) (wanted : record.IsWanted filter) :
    row.key.pick (table.listing read row.partition filter) = [record] := by
  have listed : record ∈ table.listing read row.partition filter :=
    orderly.mem_listing.mpr ⟨row, member, rfl, reads, wanted⟩
  have only : ∀ other ∈ table.listing read row.partition filter,
      decide (other.items = row.itemIds) = (other == record) := by
    intro other otherListed
    rw [Bool.eq_iff_iff, decide_eq_true_eq, beq_iff_eq]
    constructor
    · intro items
      rcases orderly.mem_listing.mp otherListed with ⟨found, kept, partition, shown, _⟩
      rw [orderly.items_eq kept shown] at items
      have place : found.place .itemIds = row.place .itemIds := by
        rw [Row.place, Row.place, Row.sortColumn, Row.sortColumn, items]
      rw [orderly.distinct.eq_of_place kept member partition place, reads] at shown
      exact (Except.ok.inj shown).symm
    · intro equal
      rw [equal, orderly.items_eq member reads]
  have once := List.count_eq_one_of_mem (orderly.nodup_listing row.partition) listed
  rw [Key.pick, Row.key, List.filter_congr only, List.filter_beq, once]
  rfl

theorem pick_rest (orderly : table.IsOrderly read) {row : Row} {record : Record}
    (member : row ∈ table) (reads : row.record = .ok record) (wanted : record.IsWanted filter)
    (position : Option Cursor) :
    row.key.pick (table.rest read row.partition filter position) =
      filter.pending record position := by
  rw [Filter.pending, ← orderly.pick_listing member reads wanted, rest, Key.pick, Key.pick,
    List.filter_filter, List.filter_filter]
  apply List.filter_congr
  intro other _
  exact Bool.and_comm _ _

end IsOrderly
end Table

/-! ## One page of a walk -/

namespace Store

section

variable {store : Store} {partition : String} {filter : Filter} {limit : Nat}
  {token : Option String} {now : Time.Instant} {page : Page}

theorem exists_row_of_get {table : Table} (present : store.table = some table) {key : Key}
    {record : Record} (found : (store.get key).result = .ok (some record)) :
    ∃ row ∈ table, row.key = key ∧ row.record = .ok record := by
  simp only [get, answer, present] at found
  cases kept : table.find? key with
  | none =>
      rw [kept] at found
      cases found
  | some row =>
      simp only [kept] at found
      rcases Table.mem_of_find? kept with ⟨member, same⟩
      refine ⟨row, member, same, ?_⟩
      cases reads : row.record with
      | error error =>
          rw [reads] at found
          cases found
      | ok shown =>
          rw [reads] at found
          exact congrArg Except.ok (Option.some.inj (Except.ok.inj found))

/-- A page is full, and its token leads to what is left, or it is all that is left. -/
theorem Asks.page_cases {table : Table} {read : Row → Record} {pinned : PinnedFilter}
    (asks : store.Asks table read partition filter now pinned) {position : Option Cursor}
    (start : startOf filter token = .ok position) (limit : Nat) :
    let room := max 1 (min limit store.limitCap)
    let rest := table.rest read partition pinned
    (room ≤ (rest position).length ∧ ∃ cursor : Cursor,
      (store.query partition filter limit token now).result =
        .ok ⟨(rest position).take room, some cursor.encode⟩ ∧
      startOf filter (some cursor.encode) = .ok (some cursor) ∧
      rest (some cursor) = (rest position).drop room) ∨
    ((rest position).length < room ∧
      (store.query partition filter limit token now).result = .ok ⟨rest position, none⟩) := by
  intro room rest
  obtain rfl := Filter.toFilter_pin asks.window
  have result := asks.query_result start limit
  have roomy : 0 < room := Nat.lt_of_lt_of_le Nat.zero_lt_one (Nat.le_max_left _ _)
  by_cases full : room ≤ (rest position).length
  · rcases asks.orderly.rest_stop roomy full with ⟨cursor, stopped, order, behind⟩
    refine .inl ⟨full, cursor, ?_, ?_, behind⟩
    · rw [result, stopped, Option.map_some]
    · simp only [startOf, Cursor.decode_encode, bind, Except.bind, if_pos order]
      rfl
  · have stopped : Table.stop room pinned.order (rest position) = none := if_neg full
    refine .inr ⟨Nat.lt_of_not_le full, ?_⟩
    rw [result, stopped, Option.map_none, List.take_of_length_le (Nat.le_of_not_le full)]

/-- A page tells of the record if that is past its position, unless the record is still to come
behind the page. -/
structure Tells (page : Page) (filter : Filter) (key : Key) (record : Record)
    (position : Option Cursor) : Prop where
  last : page.next = none → key.pick page.items = filter.pending record position
  more : ∀ next, page.next = some next → ∃ cursor, startOf filter (some next) = .ok (some cursor) ∧
    key.pick page.items ++ filter.pending record (some cursor) = filter.pending record position

theorem Asks.tells {table : Table} {read : Row → Record} {pinned : PinnedFilter} {row : Row}
    (asks : store.Asks table read row.partition filter now pinned) (member : row ∈ table)
    {record : Record} (reads : row.record = .ok record) (wanted : record.IsWanted pinned)
    {position : Option Cursor} (start : startOf filter token = .ok position)
    (answered : (store.query row.partition filter limit token now).result = .ok page) :
    Tells page filter row.key record position := by
  have told := asks.orderly.pick_rest member reads wanted
  rw [Filter.toFilter_pin asks.window] at told
  rcases asks.page_cases start limit with ⟨_, cursor, result, started, behind⟩ | ⟨_, result⟩
  · obtain rfl := Except.ok.inj (answered.symm.trans result)
    refine ⟨nofun, ?_⟩
    intro next more
    obtain rfl := Option.some.inj more
    refine ⟨cursor, started, ?_⟩
    rw [← told, ← told, behind, ← Key.pick_append, List.take_append_drop]
  · obtain rfl := Except.ok.inj (answered.symm.trans result)
    exact ⟨fun _ => told position, nofun⟩

end

/-! ## Walks -/

/-- One call for a page: the store as the call meets it, the present instant, and the page. -/
structure PageCall where
  store : Store
  now : Time.Instant
  page : Page

/-- The calls of a walk that starts with a token.  Each page but the last has the token for the
next call, before which clients take any proper steps and the clock goes anywhere. -/
inductive Walks (partition : String) (filter : Filter) (limit : Nat) :
    Option String → Store → List PageCall → Prop
  | last {token : Option String} {store : Store} {now : Time.Instant} {page : Page}
      (answered : (store.query partition filter limit token now).result = .ok page)
      (closed : page.next = none) :
      Walks partition filter limit token store [⟨store, now, page⟩]
  | next {token : Option String} {store : Store} {now : Time.Instant} {page : Page}
      {next : String} {steps : List Step} {calls : List PageCall}
      (answered : (store.query partition filter limit token now).result = .ok page)
      (more : page.next = some next) (proper : ∀ step ∈ steps, step.IsProper)
      (later : Walks partition filter limit (some next) (store.run steps) calls) :
      Walks partition filter limit token store (⟨store, now, page⟩ :: calls)

/-- A call meets the record of a payload, and its filter wants the record at that time. -/
structure PageCall.Meets (call : PageCall) (filter : Filter) (key : Key) (record : Record) :
    Prop where
  found : (call.store.get key).result = .ok (some record)
  wanted : ∀ pinned, filter.pin call.now = .ok pinned → record.IsWanted pinned

/-- The records on the pages of some calls. -/
def told (calls : List PageCall) : List Record :=
  calls.flatMap fun call => call.page.items

theorem Holds.tells {store : Store} {accounts : Accounts} (holds : store.Holds accounts)
    (positive : 0 < store.sliceSize) {key : Key} {filter : Filter} {limit : Nat}
    {token : Option String} {now : Time.Instant} {page : Page}
    (answered : (store.query key.partition filter limit token now).result = .ok page)
    {record : Record} (meets : PageCall.Meets ⟨store, now, page⟩ filter key record)
    {position : Option Cursor} (start : startOf filter token = .ok position) :
    Tells page filter key record position := by
  rcases holds with ⟨table, present, kept⟩
  rcases store.query_cases key.partition filter now limit token with
    ⟨error, refused, _⟩ | ⟨accepted, pinned, _, window, _⟩
  · cases answered.symm.trans refused
  rcases exists_row_of_get present meets.found with ⟨row, member, rfl, reads⟩
  have asks : store.Asks table _ row.partition filter now pinned :=
    ⟨present, kept.isOrderly, positive, accepted, window⟩
  exact asks.tells member reads (meets.wanted pinned window) start answered

/-- A walk tells once of a record that all its calls meet, if the record is past the position at
which the walk starts, and otherwise not at all. -/
theorem Walks.pick_told {store : Store} {accounts : Accounts} (holds : store.Holds accounts)
    (positive : 0 < store.sliceSize) {key : Key} {filter : Filter} {limit : Nat}
    {token : Option String} {calls : List PageCall}
    (walks : Walks key.partition filter limit token store calls) {record : Record}
    (meets : ∀ call ∈ calls, call.Meets filter key record) {position : Option Cursor}
    (start : startOf filter token = .ok position) :
    key.pick (told calls) = filter.pending record position := by
  induction walks generalizing accounts position with
  | last answered closed =>
      have tells := holds.tells positive answered (meets _ List.mem_cons_self) start
      rw [told, List.flatMap_singleton]
      exact tells.last closed
  | @next token store now page next steps calls answered more proper later ih =>
      have tells := holds.tells positive answered (meets _ List.mem_cons_self) start
      rcases tells.more next more with ⟨cursor, started, split⟩
      have kept : 0 < (store.run steps).sliceSize := by
        rw [(store.run_sizes steps).1]
        exact positive
      have rest := ih (holds.run proper) kept
        (fun call member => meets call (List.mem_cons_of_mem _ member)) started
      rw [told, List.flatMap_cons, Key.pick_append, ← split, ← rest]
      rfl

/-- A walk through the pages is stable.  Whatever clients write between its calls, and wherever
the clock goes, a record that is there and wanted at every call is told of exactly once, and
nothing else is told of its payload. -/
theorem walk_stable (sliceSize limitCap : Nat) (steps : List Step)
    (proper : ∀ step ∈ steps, step.IsProper) (key : Key) (filter : Filter) (limit : Nat)
    {calls : List PageCall}
    (walks : Walks key.partition filter limit none ((empty sliceSize limitCap).run steps) calls)
    {record : Record} (meets : ∀ call ∈ calls, call.Meets filter key record) :
    (told calls).filter (fun other => other.items = key.itemIds) = [record] := by
  have holds := (empty_holds sliceSize limitCap).run proper
  have positive := sliceSize_run_empty_pos sliceSize limitCap steps
  have start : startOf filter none = .ok none := rfl
  exact walks.pick_told holds positive meets start

/-- A record stays what it is while clients write about other payloads. -/
theorem Holds.get_run_of_ne {store : Store} {accounts : Accounts} (holds : store.Holds accounts)
    {steps : List Step} (proper : ∀ step ∈ steps, step.IsProper) {key : Key}
    (others : ∀ step ∈ steps, step.key ≠ key) :
    ((store.run steps).get key).result = (store.get key).result := by
  induction steps generalizing store accounts with
  | nil => rfl
  | cons step steps ih =>
      have first := holds.perform (proper step List.mem_cons_self)
      have same : ((store.perform step).after.get key).result = (store.get key).result := by
        rw [first.after.get_result, holds.get_result, Accounts.after,
          Accounts.set_of_ne accounts (Ne.symm (others step List.mem_cons_self))]
      have rest := ih first.after (fun other member => proper other (List.mem_cons_of_mem _ member))
        fun other member => others other (List.mem_cons_of_mem _ member)
      rw [run_cons, rest, same]

/-- Both records of the first page are removed, also the one at which it ended, before the second
page is asked for. -/
theorem walk_stable_removed :
    let filter : Filter := { order := .itemIds, ascending := true }
    let key : Key := ⟨"c_w", "c"⟩
    let steps : List Step :=
      [⟨⟨"c_w", "a"⟩, ⟨1, 0⟩, .claim "one"⟩, ⟨⟨"c_w", "b"⟩, ⟨2, 0⟩, .claim "two"⟩,
        ⟨key, ⟨3, 0⟩, .claim "three"⟩]
    let between : List Step :=
      [⟨⟨"c_w", "b"⟩, ⟨4, 0⟩, .delete⟩, ⟨⟨"c_w", "a"⟩, ⟨5, 0⟩, .delete⟩]
    let store := (empty 1 1000).run steps
    (∀ step ∈ steps ++ between, step.IsProper) ∧ ∃ record first last,
      Walks "c_w" filter 2 none store
        [⟨store, ⟨9, 0⟩, first⟩, ⟨store.run between, ⟨8, 0⟩, last⟩] ∧
      first.items.length = 2 ∧
      (first.items ++ last.items).filter (fun other => other.items = "c") = [record] := by
  intro filter key steps between store
  have decoded : ∀ step ∈ steps ++ between, step.key.IsDecoded := by
    have named : ∀ step ∈ steps ++ between,
        step.key = ⟨"c_w", "a"⟩ ∨ step.key = ⟨"c_w", "b"⟩ ∨ step.key = key := by decide
    intro step member
    rcases named step member with same | same | same
    · exact same ▸ ⟨"c/workflow-w/a", rfl⟩
    · exact same ▸ ⟨"c/workflow-w/b", rfl⟩
    · exact same ▸ ⟨"c/workflow-w/c", rfl⟩
  have storable : ∀ step ∈ steps ++ between, step.moment.IsStorable := by decide
  have proper : ∀ step ∈ steps ++ between, step.IsProper := fun step member =>
    ⟨decoded step member, storable step member⟩
  have early : ∀ step ∈ steps, step.IsProper := fun step member =>
    proper step (List.mem_append_left _ member)
  have later : ∀ step ∈ between, step.IsProper := fun step member =>
    proper step (List.mem_append_right _ member)
  have holds := (empty_holds 1 1000).run early
  obtain ⟨record, found⟩ : ∃ record, (store.get key).result = .ok (some record) :=
    ⟨_, holds.get_result key⟩
  have stays : ((store.run between).get key).result = .ok (some record) :=
    (holds.get_run_of_ne later (by decide)).trans found
  have wanted : ∀ now pinned, filter.pin now = .ok pinned → record.IsWanted pinned := by
    intro now pinned window
    cases window
    exact ⟨nofun, nofun, nofun⟩
  have meetsFirst (page : Page) : PageCall.Meets ⟨store, ⟨9, 0⟩, page⟩ filter key record :=
    ⟨found, wanted _⟩
  have meetsLast (page : Page) :
      PageCall.Meets ⟨store.run between, ⟨8, 0⟩, page⟩ filter key record := ⟨stays, wanted _⟩
  rcases holds with ⟨table, present, held⟩
  rcases Holds.run ⟨table, present, held⟩ later with ⟨remaining, left, heldLater⟩
  have accepted : (Key.ofPartition "c_w" "").isOk = true := by decide
  have asks : store.Asks table _ "c_w" filter ⟨9, 0⟩ _ :=
    ⟨present, held.isOrderly, Nat.one_pos, accepted, rfl⟩
  have asksLater : (store.run between).Asks remaining _ "c_w" filter ⟨8, 0⟩ _ :=
    ⟨left, heldLater.isOrderly, Nat.one_pos, accepted, rfl⟩
  have many : table.length = 3 ∧ ∀ row ∈ table, row.partition = "c_w" := by
    have rows : ∃ rows, store.table = some rows ∧ rows.length = 3 ∧
        ∀ row ∈ rows, row.partition = "c_w" := ⟨_, rfl, by decide +kernel, by decide +kernel⟩
    rcases rows with ⟨rows, same, facts⟩
    cases present.symm.trans same
    exact facts
  have few : remaining.length = 1 := by
    have rows : ∃ rows, (store.run between).table = some rows ∧ rows.length = 1 :=
      ⟨_, rfl, by decide +kernel⟩
    rcases rows with ⟨rows, same, count⟩
    cases left.symm.trans same
    exact count
  have start : startOf filter none = .ok none := rfl
  rcases asks.page_cases start 2 with ⟨full, cursor, first, started, _⟩ | ⟨short, _⟩
  · rcases asksLater.page_cases started 2 with ⟨full', _⟩ | ⟨_, last⟩
    · have bound := Nat.le_trans full' Table.length_rest_le
      rw [few] at bound
      exact absurd bound (by decide)
    · have walks := Walks.next first rfl later (.last last rfl)
      refine ⟨proper, record, _, _, walks, List.length_take_of_le full, ?_⟩
      have stable := walk_stable 1 1000 steps early key filter 2 walks
        (List.forall_mem_cons.mpr ⟨meetsFirst _, List.forall_mem_singleton.mpr (meetsLast _)⟩)
      rw [told, List.flatMap_cons, List.flatMap_singleton] at stable
      exact stable
  · rw [Table.rest_none, Table.length_listing many.2 rfl fun _ => rfl, many.1] at short
    exact absurd short (by decide)

end Store
end PayloadLedger
