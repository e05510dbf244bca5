import PayloadLedger.Proofs.Store.Reading
import PayloadLedger.Proofs.Store.Readers

namespace PayloadLedger

/-!
Counting.

A count scans a partition in the order of its filter and stops one record beyond its limit.  It is
the number of records that the filter wants, whatever the order: the scan may stop early in one
order only, and nothing is wanted behind the place where it does.
-/

/-! ## What is wanted -/

theorem Record.isWanted_iff (record : Record) (filter : PinnedFilter) :
    record.IsWanted filter ↔
      filter.state.all (fun state => record.state = state) = true ∧
        filter.accepts record = true := by
  rw [Table.IsOrderly.accepts_iff]
  constructor
  · rintro ⟨state, inside, error⟩
    refine ⟨?_, inside, error⟩
    rw [Option.all_eq_true]
    intro wanted asked
    exact decide_eq_true (state wanted asked)
  · rintro ⟨state, inside, error⟩
    refine ⟨?_, inside, error⟩
    intro wanted asked
    exact of_decide_eq_true ((Option.all_eq_true _ _).mp state wanted asked)

instance (record : Record) (filter : PinnedFilter) : Decidable (record.IsWanted filter) :=
  decidable_of_iff _ (record.isWanted_iff filter).symm

/-- The records of a partition that a filter wants, as they come. -/
def Table.wanted (table : Table) (partition : String) (filter : PinnedFilter) : List Record :=
  ((table.filter fun row => row.partition = partition).filterMap fun row =>
    row.record.toOption).filter fun record => record.IsWanted filter

/-- What a store holds of a partition that a filter wants. -/
def Store.wanted (store : Store) (partition : String) (filter : PinnedFilter) : List Record :=
  (store.table.getD []).wanted partition filter

/-- The window of a filter is pinned without a look at what else it asks for. -/
theorem Filter.pin_of_since {filter : Filter} {now : Time.Instant} {pinned : PinnedFilter}
    (window : filter.pin now = .ok pinned) (other : Filter) (same : other.since = filter.since) :
    other.pin now = .ok { other with cutoff := pinned.cutoff } := by
  rw [pin] at window ⊢
  rw [same]
  split at window
  · cases window
    rfl
  · split at window
    · cases window
    · split at window
      · cases window
      · cases window
        rfl

namespace Store

variable {partition : String} {filter other : PinnedFilter}

/-- The order of a filter does not matter for what it wants. -/
theorem wanted_congr (store : Store) (state : filter.state = other.state)
    (cutoff : filter.cutoff = other.cutoff) (error : filter.errorStart = other.errorStart) :
    store.wanted partition filter = store.wanted partition other := by
  apply List.filter_congr
  intro record _
  have accepts : filter.accepts record = other.accepts record := by
    rw [PinnedFilter.accepts, PinnedFilter.accepts, PinnedFilter.isOutside, PinnedFilter.isOutside,
      cutoff, error]
  rw [decide_eq_decide, Record.isWanted_iff, Record.isWanted_iff, state, accepts]

/-- A filter for a state wants those in the state of what the filter wants without it. -/
theorem wanted_inState (store : Store) (stateless : filter.state = none) (state : State) :
    store.wanted partition (filter.inState (some state)) =
      (store.wanted partition filter).filter fun record => record.state = state := by
  rw [Store.wanted, Store.wanted, Table.wanted, Table.wanted, List.filter_filter]
  apply List.filter_congr
  intro record _
  have accepts : (filter.inState (some state)).accepts record = filter.accepts record := rfl
  rw [Bool.eq_iff_iff, Bool.and_eq_true, decide_eq_true_eq, decide_eq_true_eq, decide_eq_true_eq,
    Record.isWanted_iff, Record.isWanted_iff, stateless, accepts]
  simp [PinnedFilter.inState]

end Store

/-- Every record is in one of the states. -/
theorem State.sum_length_filter (records : List Record) :
    (State.all.map fun state =>
      (records.filter fun record => record.state = state).length).sum = records.length := by
  induction records with
  | nil => rfl
  | cons record records ih =>
      simp only [all, List.map_cons, List.map_nil, List.sum_cons, List.sum_nil, List.filter_cons]
        at ih ⊢
      cases record.state <;> simp <;> omega

/-- A number of records, counted up to a limit. -/
def Count.upTo (limit : Option Nat) (number : Nat) : Count :=
  match limit with
  | none => .exact number
  | some limit => if number ≤ limit then .exact number else .moreThan limit

namespace Table

namespace IsOrderly

variable {table : Table} {read : Row → Record} {partition : String} {filter : PinnedFilter}

theorem filterMap_record (orderly : table.IsOrderly read) {rows : List Row}
    (members : ∀ row ∈ rows, row ∈ table) :
    rows.filterMap (fun row => row.record.toOption) = rows.map read := by
  induction rows with
  | nil => rfl
  | cons row rows ih =>
      rw [List.filterMap_cons, orderly.reads row (members row List.mem_cons_self),
        ih fun other member => members other (List.mem_cons_of_mem _ member)]
      rfl

/-- A listing holds what is wanted, in another order. -/
theorem listing_perm (orderly : table.IsOrderly read) :
    (table.listing read partition filter).Perm (table.wanted partition filter) := by
  have behind : (table.behind partition filter.toFilter none).Perm (table.filter _) :=
    List.mergeSort_perm _ _
  refine ((behind.map read).filter _).trans (.of_eq ?_)
  rw [wanted, orderly.filterMap_record fun row member => (List.mem_filter.mp member).1,
    List.filter_map, List.filter_map, List.filter_filter, List.filter_filter]
  congr 1
  apply List.filter_congr
  intro row member
  rw [Bool.eq_iff_iff]
  simp only [Function.comp_apply, Bool.and_eq_true, decide_eq_true_eq, Record.isWanted_iff]
  cases asked : filter.state with
  | none => simp [Filter.isPast, and_comm]
  | some state => simp [Filter.isPast, orderly.state row member, and_comm, and_assoc]

end IsOrderly

/-- A visit for one record more than a limit tells how many are accepted, up to the limit. -/
theorem upTo_visit {filter : PinnedFilter} {records : List Record}
    (leaves : records.Pairwise fun one other =>
      filter.isExhaustedBy one = true → filter.isOutside other = true) (limit : Option Nat) :
    Count.upTo limit (visit filter (limit.map (· + 1)) records).1.length =
      .upTo limit (records.filter filter.accepts).length := by
  cases limit with
  | none => rw [Option.map_none, visit_none filter leaves]
  | some limit =>
      rw [Option.map_some, (visit_finds (Nat.succ_pos limit) leaves).found, List.length_take]
      by_cases beyond : (records.filter filter.accepts).length ≤ limit
      · rw [Nat.min_eq_right (Nat.le_succ_of_le beyond)]
      · rw [Nat.min_eq_left (Nat.not_le.mp beyond)]
        simp only [Count.upTo, if_neg beyond, if_neg (Nat.not_succ_le_self limit)]

end Table

namespace Store

variable {store : Store} {table : Table} {read : Row → Record} {partition : String}
  {filter : Filter} {now : Time.Instant} {pinned : PinnedFilter}

theorem Asks.wanted_eq (asks : store.Asks table read partition filter now pinned) :
    store.wanted partition pinned = table.wanted partition pinned := by
  rw [Store.wanted, asks.present]
  rfl

/-- A count that is accepted is one scan for one record more than its limit. -/
theorem count_of_scan (accepted : (Key.ofPartition partition "").isOk = true)
    (window : filter.pin now = .ok pinned) (limit : Option Nat) :
    (store.count partition filter limit now).result =
      (store.scan partition pinned (limit.map (· + 1)) none).map
        fun answer => .upTo limit answer.1.length := by
  rcases exists_of_isOk accepted with ⟨key, named⟩
  unfold count
  simp only [named, window, Except.mapError, bind, Except.bind]
  cases limit with
  | none => rfl
  | some limit =>
      refine congrArg (fun counted => Except.map counted _) ?_
      funext answer
      by_cases more : limit < answer.1.length
      · simp only [Count.upTo, if_pos more, if_neg (Nat.not_le.mpr more)]
      · simp only [Count.upTo, if_neg more, if_pos (Nat.not_lt.mp more)]

/-- A count of what one visit finds is the number of records that are accepted, up to its limit. -/
theorem count_of_visit (accepted : (Key.ofPartition partition "").isOk = true)
    (window : filter.pin now = .ok pinned) {records : List Record}
    (leaves : records.Pairwise fun one other =>
      pinned.isExhaustedBy one = true → pinned.isOutside other = true)
    (scanned : ∀ room, store.scan partition pinned room none =
      .ok ((Table.visit pinned room records).1, (Table.visit pinned room records).2.position?))
    (limit : Option Nat) :
    (store.count partition filter limit now).result =
      .ok (.upTo limit (records.filter pinned.accepts).length) := by
  rw [count_of_scan accepted window, scanned, ← Table.upTo_visit leaves limit]
  rfl

/-- A count is the number of wanted records, up to its limit. -/
theorem Asks.count_result (asks : store.Asks table read partition filter now pinned)
    (limit : Option Nat) :
    (store.count partition filter limit now).result =
      .ok (.upTo limit (store.wanted partition pinned).length) := by
  rw [asks.wanted_eq, ← asks.orderly.listing_perm.length_eq]
  refine count_of_visit asks.accepted asks.window (asks.orderly.leaves partition pinned none) ?_ limit
  intro room
  rw [scan, asks.present]
  exact asks.orderly.scan_eq_visit asks.positive (Table.length_behind_lt_scanFuel room) room

/-- The counts of some states, where each of them is asked for. -/
theorem countStates_result {since : Option String} {limit : Option Nat} {counts : State → Count}
    (counted : ∀ state, (store.count partition { state := some state, since } limit now).result =
      .ok (counts state)) (states : List State) :
    (store.countStates partition since limit now states).1 =
      .ok (states.map fun state => (state, counts state)) := by
  induction states with
  | nil => rfl
  | cons state states ih =>
      rw [countStates]
      simp only [counted state, ih]
      rfl

/-- A filter without a state, and the same window for each state. -/
theorem Asks.exists_counts (asks : store.Asks table read partition filter now pinned) :
    ∃ counts : State → Nat,
      (store.summary partition filter.since none now).result =
        .ok ⟨(Key.mk partition "").collections, (Key.mk partition "").workflow,
          State.all.map fun state => (state, .exact (counts state))⟩ ∧
      (store.count partition { since := filter.since } none now).result =
        .ok (.exact (State.all.map counts).sum) := by
  let stateless : PinnedFilter := { since := filter.since, cutoff := pinned.cutoff }
  have whole : store.Asks table read partition { since := filter.since } now stateless :=
    { asks with window := Filter.pin_of_since asks.window _ rfl }
  have each (state : State) : store.Asks table read partition
      { state := some state, since := filter.since } now (stateless.inState (some state)) :=
    { asks with
      window := by
        have window := Filter.pin_of_since asks.window
          { state := some state, since := filter.since } rfl
        exact window }
  let records := store.wanted partition stateless
  refine ⟨fun state => (records.filter fun record => record.state = state).length, ?_, ?_⟩
  · have counted (state : State) := (each state).count_result none
    have apart : stateless.state = none := rfl
    simp only [wanted_inState store apart] at counted
    rcases exists_of_isOk asks.accepted with ⟨key, named⟩
    have same : (⟨partition, ""⟩ : Key) = key := by
      rw [Key.ofPartition] at named
      rcases exists_of_bind_eq_ok named with ⟨halves, _, whole⟩
      exact Except.ok.inj whole
    simp only [summary, named, countStates_result counted, ← same]
    rfl
  · rw [whole.count_result, State.sum_length_filter]
    rfl

/-- A count in another order is the same count. -/
theorem Asks.count_sorted (asks : store.Asks table read partition filter now pinned)
    (order : SortIndex) (ascending : Bool) (limit : Option Nat) :
    (store.count partition { filter with order, ascending } limit now).result =
      (store.count partition filter limit now).result := by
  obtain rfl := Filter.toFilter_pin asks.window
  have sorted : store.Asks table read partition { pinned.toFilter with order, ascending } now _ :=
    { asks with window := Filter.pin_of_since asks.window _ rfl }
  rw [sorted.count_result, asks.count_result]
  congr 3
  exact wanted_congr store rfl rfl rfl

/-- The pages that follow one another hold as many records as are wanted. -/
theorem Asks.exists_pages (asks : store.Asks table read partition filter now pinned) (limit : Nat)
    {most : Nat} (enough : (store.wanted partition pinned).length < most) :
    ∃ pages, (store.pages partition filter limit now most none).1 = .ok pages ∧
      (pages.map Page.items).flatten.length = (store.wanted partition pinned).length ∧
      ∃ last, pages.getLast? = some last ∧ last.next = none := by
  have all : (table.rest read partition pinned none).length =
      (store.wanted partition pinned).length := by
    rw [Table.rest_none, asks.orderly.listing_perm.length_eq, ← asks.wanted_eq]
  have start : startOf filter none = .ok none := rfl
  rw [← all] at enough ⊢
  rcases asks.pages_flatten limit start enough with ⟨pages, followed, joined, last⟩
  exact ⟨pages, followed, congrArg List.length joined, last⟩

/-- Counting is exact.  On every store that a run of proper steps reaches, a count of a partition is
the number of records that its filter wants there, or more than the limit just when that number is
beyond the limit.  The order of the filter does not matter, the pages that follow one another hold
as many records, and the counts of a summary add up to the count for all states.  A count fails only
for what is asked: a partition without two halves, or a window that cannot be pinned. -/
theorem count_exact (sliceSize limitCap : Nat) (steps : List Step)
    (proper : ∀ step ∈ steps, step.IsProper) (partition : String) (filter : Filter)
    (now : Time.Instant) :
    let store := (empty sliceSize limitCap).run steps
    (∀ pinned, (Key.ofPartition partition "").isOk = true → filter.pin now = .ok pinned →
      let number := (store.wanted partition pinned).length
      (store.count partition filter none now).result = .ok (.exact number) ∧
      (∀ limit, (store.count partition filter (some limit) now).result =
        .ok (if number ≤ limit then .exact number else .moreThan limit)) ∧
      (∀ order ascending limit,
        (store.count partition { filter with order, ascending } limit now).result =
          (store.count partition filter limit now).result) ∧
      (∀ limit most, number < most →
        ∃ pages, (store.pages partition filter limit now most none).1 = .ok pages ∧
          (pages.map Page.items).flatten.length = number ∧
          ∃ last, pages.getLast? = some last ∧ last.next = none) ∧
      ∃ counts : State → Nat,
        (store.summary partition filter.since none now).result =
          .ok ⟨(Key.mk partition "").collections, (Key.mk partition "").workflow,
            State.all.map fun state => (state, .exact (counts state))⟩ ∧
        (store.count partition { since := filter.since } none now).result =
          .ok (.exact (State.all.map counts).sum)) ∧
    ∀ limit, ((Key.ofPartition partition "").isOk = false ∨
        ∃ error, filter.pin now = .error error) →
      ∃ error, (store.count partition filter limit now).result = .error error := by
  intro store
  constructor
  · intro pinned accepted window number
    rcases (empty_holds sliceSize limitCap).run proper with ⟨table, present, kept⟩
    have positive : 0 < store.sliceSize := sliceSize_run_empty_pos sliceSize limitCap steps
    have asks : store.Asks table _ partition filter now pinned :=
      ⟨present, kept.isOrderly, positive, accepted, window⟩
    exact ⟨asks.count_result none, fun limit => asks.count_result (some limit), asks.count_sorted,
      fun limit most => asks.exists_pages limit, asks.exists_counts⟩
  · intro limit refused
    rcases store.count_cases partition filter now limit with
      ⟨error, failed, _⟩ | ⟨accepted, pinned, window, _⟩
    · exact ⟨error, failed⟩
    · rcases refused with refused | ⟨error, failed⟩
      · rw [accepted] at refused
        cases refused
      · cases failed.symm.trans window

/-- Three records of a partition, of which two lie in the window, counted up to one, two and none at
all. -/
theorem count_exact_capped :
    let filter : Filter := { since := some "1h" }
    let pinned : PinnedFilter := { filter with cutoff := some ⟨3600, 0⟩ }
    let steps : List Step :=
      [⟨⟨"c_w", "a"⟩, ⟨4000, 0⟩, .claim "one"⟩, ⟨⟨"c_w", "c"⟩, ⟨5000, 0⟩, .fail "lost"⟩,
        ⟨⟨"c_w", "b"⟩, ⟨3000, 0⟩, .claim "three"⟩]
    let store := (empty 1 1000).run steps
    (∀ step ∈ steps, step.IsProper) ∧ (store.wanted "c_w" pinned).length = 2 ∧
      (store.count "c_w" filter none ⟨7200, 0⟩).result = .ok (.exact 2) ∧
      (store.count "c_w" filter (some 2) ⟨7200, 0⟩).result = .ok (.exact 2) ∧
      (store.count "c_w" filter (some 1) ⟨7200, 0⟩).result = .ok (.moreThan 1) ∧
      (store.count "c_w" filter (some 0) ⟨7200, 0⟩).result = .ok (.moreThan 0) := by
  intro filter pinned steps store
  have decoded : ∀ step ∈ steps, step.key.IsDecoded := by
    have named : ∀ step ∈ steps,
        step.key = ⟨"c_w", "a"⟩ ∨ step.key = ⟨"c_w", "b"⟩ ∨ step.key = ⟨"c_w", "c"⟩ := by decide
    intro step member
    rcases named step member with same | same | same
    · exact same ▸ ⟨"c/workflow-w/a", rfl⟩
    · exact same ▸ ⟨"c/workflow-w/b", rfl⟩
    · exact same ▸ ⟨"c/workflow-w/c", rfl⟩
  have storable : ∀ step ∈ steps, step.moment.IsStorable := by decide
  have proper : ∀ step ∈ steps, step.IsProper := fun step member =>
    ⟨decoded step member, storable step member⟩
  have two : (store.wanted "c_w" pinned).length = 2 := by decide +kernel
  have counts := (count_exact 1 1000 steps proper "c_w" filter ⟨7200, 0⟩).1 pinned (by decide) rfl
  have capped := counts.2.1
  rw [two] at capped
  refine ⟨proper, two, ?_, capped 2, capped 1, capped 0⟩
  rw [← two]
  exact counts.1

end Store
end PayloadLedger
