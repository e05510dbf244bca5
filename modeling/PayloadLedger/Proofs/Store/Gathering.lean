import PayloadLedger.Proofs.Key.Grammar
import PayloadLedger.Proofs.Store.Alike
import PayloadLedger.Proofs.Store.Once
import PayloadLedger.Proofs.Store.Walk

namespace PayloadLedger

/-!
Gathering the first records of a partition.

Records are gathered page by page, each page with room for what is still wanted, and every page
takes the round trips of a scan.  On a store whose rows the ledger wrote itself both loops end, and
neither the size of a page nor that of a slice can be seen in what is gathered.
-/

/-- Tables that hold the same accounts list the same records. -/
theorem Table.Holds.listing_eq {one other : Table} {accounts : Accounts}
    (holds : one.Holds accounts) (otherHolds : other.Holds accounts) (read : Row → Record)
    (partition : String) (filter : PinnedFilter) :
    one.listing read partition filter = other.listing read partition filter := by
  have perm := perm_of_find? holds.distinct otherHolds.distinct fun key =>
    (holds.find? key).trans (otherHolds.find? key).symm
  rw [listing, listing, holds.distinct.behind_perm perm]

namespace Store

/-! ## Rounds without a bound -/

/-- A query answers with a page, after the round trips of its scan. -/
structure Serves (store : Store) (partition : String) (filter : Filter) (now : Time.Instant)
    (limit : Nat) (token : Option String) (page : Page) : Prop where
  answered : (store.query partition filter limit token now).result = .ok page
  scanned : ∃ table pinned position slices stop, store.table = some table ∧
    filter.pin now = .ok pinned ∧ startOf filter token = .ok position ∧
    table.Trips partition pinned store.sliceSize (some (max 1 (min limit store.limitCap)))
      position slices (page.items, stop) ∧
    page.next = stop.map Cursor.encode

/-- The pages that are asked for while records are wanted, from a token on.  There may be any number
of them: they end with a page that has no token, or with one after which enough is there. -/
inductive Gathers (store : Store) (partition : String) (filter : Filter) (now : Time.Instant) :
    Nat → Option String → List Page → Prop
  | enough {token : Option String} : Gathers store partition filter now 0 token []
  | last {wanted : Nat} {token : Option String} {page : Page} (short : 0 < wanted)
      (serves : store.Serves partition filter now wanted token page) (closed : page.next = none) :
      Gathers store partition filter now wanted token [page]
  | next {wanted : Nat} {token : Option String} {page : Page} {next : String} {pages : List Page}
      (short : 0 < wanted) (serves : store.Serves partition filter now wanted token page)
      (more : page.next = some next)
      (later : Gathers store partition filter now (wanted - page.items.length) (some next) pages) :
      Gathers store partition filter now wanted token (page :: pages)

section

variable {store : Store} {partition : String} {filter : Filter} {now : Time.Instant}

/-- With fuel for all pages, what is on them is collected. -/
theorem Gathers.collect_eq {wanted : Nat} {token : Option String} {pages : List Page}
    (gathers : store.Gathers partition filter now wanted token pages) {fuel : Nat}
    (fuelled : pages.length ≤ fuel) :
    (store.collect partition filter now fuel wanted token).1 = .ok (pages.flatMap Page.items) := by
  induction gathers generalizing fuel with
  | enough => cases fuel <;> rfl
  | @last wanted token page short serves closed =>
      cases fuel with
      | zero => exact absurd fuelled (Nat.not_succ_le_zero _)
      | succ fuel =>
          obtain ⟨less, rfl⟩ := Nat.exists_eq_succ_of_ne_zero (Nat.ne_of_gt short)
          rw [collect]
          · simp only [serves.answered, closed, List.flatMap_singleton]
          · exact Nat.succ_ne_zero less
  | @next wanted token page next pages short serves more later ih =>
      cases fuel with
      | zero => exact absurd fuelled (Nat.not_succ_le_zero _)
      | succ fuel =>
          obtain ⟨less, rfl⟩ := Nat.exists_eq_succ_of_ne_zero (Nat.ne_of_gt short)
          have rest := ih (Nat.le_of_succ_le_succ fuelled)
          rw [collect]
          · simp only [serves.answered, more, rest, List.flatMap_cons]
            rfl
          · exact Nat.succ_ne_zero less

variable {table : Table} {read : Row → Record} {pinned : PinnedFilter}

/-- Where all rows are passed, a page is the answer of a scan that ends. -/
theorem Asks.serves (asks : store.Asks table read partition filter now pinned)
    (passes : table.Passes partition filter) {token : Option String} {position : Option Cursor}
    (start : startOf filter token = .ok position) {limit : Nat} {page : Page}
    (answered : (store.query partition filter limit token now).result = .ok page) :
    store.Serves partition filter now limit token page := by
  obtain rfl := Filter.toFilter_pin asks.window
  have readsAs : table.ReadsAs partition read :=
    ⟨asks.orderly.distinct, fun row member _ => asks.orderly.reads row member⟩
  rcases Passes.exists_scan ⟨asks.present, readsAs, asks.positive, passes⟩
      (some (max 1 (min limit store.limitCap))) position with
    ⟨slices, kept, stop, trips, scanned, _⟩
  have same := answered
  rw [query_of_scan asks.accepted asks.window start limit, scanned] at same
  cases same
  exact ⟨answered, table, pinned, position, slices, stop, asks.present, asks.window, start, trips,
    rfl⟩

/-- Of what is left behind a position, as much is gathered as is wanted. -/
theorem Asks.exists_gathers (asks : store.Asks table read partition filter now pinned)
    (passes : table.Passes partition filter) (wanted : Nat) {token : Option String}
    {position : Option Cursor} (start : startOf filter token = .ok position) :
    ∃ pages, store.Gathers partition filter now wanted token pages ∧ pages.length ≤ wanted ∧
      pages.flatMap Page.items = (table.rest read partition pinned position).take wanted := by
  -- on how many records are wanted: a page that has a token holds one of them at least
  induction wanted using Nat.strong_induction_on generalizing token position with
  | _ wanted ih =>
    rcases Nat.eq_zero_or_pos wanted with rfl | short
    · exact ⟨[], .enough, Nat.le_refl 0, rfl⟩
    let room := max 1 (min wanted store.limitCap)
    have roomy : 0 < room := Nat.lt_of_lt_of_le Nat.zero_lt_one (Nat.le_max_left _ _)
    have within : room ≤ wanted := Nat.max_le.mpr ⟨short, Nat.min_le_left _ _⟩
    rcases asks.page_cases start wanted with
      ⟨full, cursor, answered, started, behind⟩ | ⟨few, answered⟩
    · have items := List.length_take_of_le full
      rcases ih (wanted - room) (Nat.sub_lt short roomy) started with
        ⟨pages, later, bound, gathered⟩
      refine ⟨_ :: pages, .next short (asks.serves passes start answered) rfl ?_, ?_, ?_⟩
      · rw [items]
        exact later
      · rw [List.length_cons]
        omega
      · rw [List.flatMap_cons, gathered, behind, ← List.take_add, Nat.add_sub_cancel' within]
    · refine ⟨[_], .last short (asks.serves passes start answered) rfl, short, ?_⟩
      rw [List.flatMap_singleton, List.take_of_length_le]
      exact Nat.le_of_lt (Nat.lt_of_lt_of_le few within)

/-- A partition that is refused is refused by the first page, if one is asked for. -/
theorem getItems_refused (store : Store) {error : InputError}
    (refused : Key.ofPartition partition "" = .error error) (limit : Nat) :
    (store.getItems partition filter limit now).result =
      if limit = 0 then .ok [] else .error (.input error) := by
  cases limit with
  | zero => rfl
  | succ limit =>
      have answered : (store.query partition filter (limit + 1) none now).result =
          .error (.input error) := by
        unfold query
        simp only [refused]
        rfl
      rw [getItems, collect]
      · rw [answered, if_neg (Nat.succ_ne_zero limit)]
      · exact Nat.succ_ne_zero limit

end

/-- Gathering is exact.  After a run of proper steps there is one list of what a filter wants of a
partition, in its order, and whatever the sizes of slices and pages are, the first records of that
list are gathered, as many as are asked for, from finitely many pages that each take finitely many
round trips.  A partition without two halves is refused as soon as a record is asked for. -/
theorem items_exact (steps : List Step) (proper : ∀ step ∈ steps, step.IsProper)
    (partition : String) (filter : Filter) (now : Time.Instant) (pinned : PinnedFilter)
    (window : filter.pin now = .ok pinned) :
    ((Key.ofPartition partition "").isOk = true → ∃ all, ∀ sliceSize limitCap,
      let store := (empty sliceSize limitCap).run steps
      store.Lists partition pinned all ∧ ∀ limit,
        (store.getItems partition filter limit now).result = .ok (all.take limit) ∧
        ∃ pages, store.Gathers partition filter now limit none pages ∧
          pages.flatMap Page.items = all.take limit) ∧
    ∀ error, Key.ofPartition partition "" = .error error → ∀ sliceSize limitCap limit,
      (((empty sliceSize limitCap).run steps).getItems partition filter limit now).result =
        if limit = 0 then .ok [] else .error (.input error) := by
  refine ⟨?_, fun error refused _ _ => getItems_refused _ refused⟩
  intro accepted
  rcases (empty_holds 1 1).run proper with ⟨first, _, held⟩
  obtain ⟨read, orderly⟩ : ∃ read, ∀ table : Table,
      table.Holds (Accounts.run (fun _ => none) steps) → table.IsOrderly read :=
    ⟨_, fun _ holds => holds.isOrderly⟩
  refine ⟨first.listing read partition pinned, ?_⟩
  intro sliceSize limitCap store
  rcases (empty_holds sliceSize limitCap).run proper with ⟨table, present, kept⟩
  rw [held.listing_eq kept]
  have positive : 0 < store.sliceSize := sliceSize_run_empty_pos sliceSize limitCap steps
  have asks : store.Asks table read partition filter now pinned :=
    ⟨present, orderly table kept, positive, accepted, window⟩
  refine ⟨asks.lists, ?_⟩
  intro limit
  have start : startOf filter none = .ok none := rfl
  rcases asks.exists_gathers (kept.passes partition filter) limit start with
    ⟨pages, gathers, bound, gathered⟩
  rw [Table.rest_none] at gathered
  refine ⟨?_, pages, gathers, gathered⟩
  rw [← gathered, ← gathers.collect_eq bound]
  rfl

/-- Three records of which two lie in the window, gathered one by one and all at once. -/
theorem items_exact_sizes :
    let filter : Filter := { since := some "1h", order := .itemIds, ascending := true }
    let pinned : PinnedFilter := { filter with cutoff := some ⟨3600, 0⟩ }
    let steps : List Step :=
      [⟨⟨"c_w", "a"⟩, ⟨4000, 0⟩, .claim "one"⟩, ⟨⟨"c_w", "c"⟩, ⟨5000, 0⟩, .fail "lost"⟩,
        ⟨⟨"c_w", "b"⟩, ⟨3000, 0⟩, .claim "three"⟩]
    let narrow := (empty 1 1).run steps
    let wide := (empty 100 1000).run steps
    (∀ step ∈ steps, step.IsProper) ∧ filter.pin ⟨7200, 0⟩ = .ok pinned ∧
      (Key.ofPartition "c_w" "").isOk = true ∧ ∃ all, narrow.Lists "c_w" pinned all ∧ ∀ limit,
        (narrow.getItems "c_w" filter limit ⟨7200, 0⟩).result = .ok (all.take limit) ∧
        (wide.getItems "c_w" filter limit ⟨7200, 0⟩).result = .ok (all.take limit) := by
  intro filter pinned steps narrow wide
  have parts : Key.AreParts "c" "w" := ⟨by decide, by decide, by decide⟩
  have decoded (itemIds : String) : (Key.mk "c_w" itemIds).IsDecoded := parts.isDecoded itemIds
  have proper : ∀ step ∈ steps, step.IsProper := by
    have storable : ∀ step ∈ steps, step.moment.IsStorable := by decide
    have own : ∀ step ∈ steps, step.key = ⟨"c_w", step.key.itemIds⟩ := by decide
    intro step member
    refine ⟨?_, storable step member⟩
    rw [own step member]
    exact decoded _
  have accepted : (Key.ofPartition "c_w" "").isOk = true := by decide
  have window : filter.pin ⟨7200, 0⟩ = .ok pinned := rfl
  rcases (items_exact steps proper "c_w" filter ⟨7200, 0⟩ pinned window).1 accepted with
    ⟨all, gathered⟩
  exact ⟨proper, window, accepted, all, (gathered 1 1).1, fun limit =>
    ⟨((gathered 1 1).2 limit).1, ((gathered 100 1000).2 limit).1⟩⟩

end Store
end PayloadLedger
