import PayloadLedger.Proofs.Store.Readable
import PayloadLedger.Proofs.Store.Scan

namespace PayloadLedger

/-!
Round trips of a scan.

A scan goes on behind the position of the last record that it read.  The position of a record in
the order of last change is its time written anew, which is not the place of its row if the time
was stored in another form.  As long as no such position comes before its row, every round trip
leaves what it fetched behind, so that a scan fetches no row twice and ends.  A row whose position
comes before it is fetched once more by the round trip that follows, and a scan whose round trips
all end with it never ends.
-/

/-! ## Rows and their positions -/

namespace Row

variable {row : Row} {record : Record}

/-- The position of the row's record is not before the row, in the direction of the filter. -/
def IsPassed (row : Row) (filter : Filter) : Prop :=
  ∀ record, row.record = .ok record → filter.order = .updated →
    if filter.ascending then ¬ record.updated.stored < row.updated
    else ¬ row.updated < record.updated.stored

/-- A row with a time in the form in which times are stored is passed in both directions. -/
theorem isPassed_of_stored (reads : row.record = .ok record)
    (written : row.updated = record.updated.stored) (filter : Filter) : row.IsPassed filter := by
  intro other alsoReads _
  cases alsoReads.symm.trans reads
  rw [written, ite_self]
  exact String.lt_irrefl _

theorem items_of_record (reads : row.record = .ok record) : record.items = row.itemIds := by
  rcases (isReadable_of_record reads).shown with ⟨_, shown⟩
  cases reads.symm.trans shown.reads
  exact shown.items

/-- Only a time is written anew: in another order the record stands where its row does. -/
theorem place_of_record (reads : row.record = .ok record) {order : SortIndex}
    (different : order ≠ .updated) : record.place order = row.place order := by
  have items := items_of_record reads
  rcases (isReadable_of_record reads).shown with ⟨_, shown⟩
  cases reads.symm.trans shown.reads
  cases order with
  | itemIds => exact Prod.ext items items
  | stateUpdated => exact Prod.ext shown.stateUpdated items
  | updated => exact absurd rfl different

theorem isPassed_iff (reads : row.record = .ok record) (filter : Filter) :
    row.IsPassed filter ↔
      filter.precedes (record.place filter.order) (row.place filter.order) = false := by
  by_cases order : filter.order = .updated
  · have place : record.place filter.order = (record.updated.stored, row.itemIds) := by
      rw [order, ← items_of_record reads]
      rfl
    have rowPlace : row.place filter.order = (row.updated, row.itemIds) := by
      rw [order]
      rfl
    rw [place, rowPlace, Filter.precedes_items]
    constructor
    · exact fun passed => passed record reads order
    · intro passed other alsoReads _
      cases alsoReads.symm.trans reads
      exact passed
  · refine iff_of_true (fun _ _ same => absurd same order) ?_
    rw [place_of_record reads order]
    exact filter.precedes_irrefl _

end Row

namespace Table

variable {table : Table} {partition : String} {filter : PinnedFilter} {read : Row → Record}

/-- The rows of a partition read. -/
structure ReadsAs (table : Table) (partition : String) (read : Row → Record) : Prop where
  distinct : table.IsDistinct
  reads : ∀ row ∈ table, row.partition = partition → row.record = .ok (read row)

theorem exists_readsAs (distinct : table.IsDistinct)
    (readable : ∀ row ∈ table, row.partition = partition → ∃ record, row.record = .ok record) :
    ∃ read, table.ReadsAs partition read := by
  have shown (row : Row) : ∃ record, row ∈ table → row.partition = partition →
      row.record = .ok record := by
    by_cases own : row ∈ table ∧ row.partition = partition
    · rcases readable row own.1 own.2 with ⟨record, reads⟩
      exact ⟨record, fun _ _ => reads⟩
    · exact ⟨(Account.blank ⟨0, 0⟩).record row.key, fun member same => absurd ⟨member, same⟩ own⟩
  rcases Classical.skolem.mp shown with ⟨read, reads⟩
  exact ⟨read, distinct, reads⟩

theorem ReadsAs.of_behind (readsAs : table.ReadsAs partition read) {filter : Filter}
    {position : Option Cursor} {row : Row} (member : row ∈ table.behind partition filter position) :
    row.record = .ok (read row) := by
  rw [mem_behind] at member
  exact readsAs.reads row member.1 member.2.1

/-- Every row that may be fetched is passed. -/
def Passes (table : Table) (partition : String) (filter : Filter) : Prop :=
  ∀ row ∈ table.behind partition filter none, row.IsPassed filter

/-- Behind the position of a row that is passed lies none of what comes before it, nor the row. -/
theorem Passes.behind_sublist {filter : Filter} (passes : table.Passes partition filter)
    (readsAs : table.ReadsAs partition read) {position : Option Cursor} {front back : List Row}
    {row : Row} (split : table.behind partition filter position = front ++ row :: back) :
    (table.behind partition filter (some (Cursor.ofRecord filter.order (read row)))).Sublist
      back := by
  have member : row ∈ table.behind partition filter position := by
    rw [split]
    exact List.mem_append_right _ List.mem_cons_self
  have selected : row ∈ table.behind partition filter none := by
    rw [mem_behind] at member ⊢
    exact ⟨member.1, member.2.1, member.2.2.1, rfl⟩
  have passed := (Row.isPassed_iff (readsAs.of_behind member) filter).mp (passes row selected)
  let here : Cursor := ⟨filter.order, row.sortColumn filter.order, row.itemIds⟩
  have whole : table.behind partition filter (some here) = back :=
    readsAs.distinct.behind_row split rfl
  rw [readsAs.distinct.behind_eq_filter] at whole ⊢
  rw [← whole]
  apply List.monotone_filter_right
  intro other after
  change filter.precedes ((read row).place filter.order) (other.place filter.order) = true at after
  change filter.precedes (row.place filter.order) (other.place filter.order) = true
  by_cases same : row.place filter.order = (read row).place filter.order
  · rw [same]
    exact after
  · rcases filter.precedes_total same with before | behind
    · exact Filter.precedes_trans before after
    · rw [behind] at passed
      cases passed

/-! ## Visits of rows -/

/-- Of the rows that are visited these are kept.  A visit that has enough stands at a row behind
which it keeps none. -/
structure Keeps (filter : PinnedFilter) (read : Row → Record) (rows kept : List Row)
    (halt : Halt) : Prop where
  sublist : kept.Sublist rows
  accepts : ∀ row ∈ kept, filter.accepts (read row) = true
  enough : ∀ cursor, halt = .enough cursor → ∃ front row back, rows = front ++ row :: back ∧
    cursor = Cursor.ofRecord filter.order (read row) ∧ kept.Sublist (front ++ [row])

/-- A visit that found nothing keeps nothing, wherever else than at a row it ends. -/
theorem Keeps.none (filter : PinnedFilter) (read : Row → Record) (rows : List Row) {halt : Halt}
    (stopped : halt.position? = Option.none) : Keeps filter read rows [] halt where
  sublist := List.nil_sublist rows
  accepts _ member := absurd member List.not_mem_nil
  enough cursor same := by
    rw [same] at stopped
    cases stopped

theorem exists_keeps (filter : PinnedFilter) (read : Row → Record) (room : Option Nat)
    (rows : List Row) : ∃ kept halt, visit filter room (rows.map read) = (kept.map read, halt) ∧
      Keeps filter read rows kept halt := by
  induction rows generalizing room with
  | nil => exact ⟨[], .sliceEnded, rfl, .none filter read [] rfl⟩
  | cons row rows ih =>
      rw [List.map_cons, visit]
      by_cases exhausted : filter.isExhaustedBy (read row) = true
      · rw [if_pos exhausted]
        exact ⟨[], .windowLeft, rfl, .none filter read _ rfl⟩
      rw [if_neg exhausted]
      by_cases accepted : filter.accepts (read row) = true
      · rw [if_pos accepted]
        by_cases last : room = some 1
        · rw [if_pos last]
          refine ⟨[row], _, rfl, List.singleton_sublist.mpr List.mem_cons_self, ?_, ?_⟩
          · intro other member
            rw [List.mem_singleton.mp member]
            exact accepted
          · intro cursor same
            cases same
            exact ⟨[], row, rows, rfl, rfl, List.Sublist.refl _⟩
        · rw [if_neg last]
          rcases ih (room.map (· - 1)) with ⟨kept, halt, visited, keeps⟩
          rw [visited]
          refine ⟨row :: kept, halt, rfl, keeps.sublist.cons_cons row, ?_, ?_⟩
          · intro other member
            rcases List.mem_cons.mp member with rfl | later
            · exact accepted
            · exact keeps.accepts other later
          · intro cursor same
            rcases keeps.enough cursor same with ⟨front, stop, back, rfl, here, before⟩
            exact ⟨row :: front, stop, back, rfl, here, before.cons_cons row⟩
      · rw [if_neg accepted]
        rcases ih room with ⟨kept, halt, visited, keeps⟩
        refine ⟨kept, halt, visited, keeps.sublist.cons row, keeps.accepts, ?_⟩
        intro cursor same
        rcases keeps.enough cursor same with ⟨front, stop, back, rfl, here, before⟩
        exact ⟨row :: front, stop, back, rfl, here, before.cons row⟩

/-! ## Round trips -/

/-- The round trips of a scan: what each of them fetches, and what the scan answers in the end.
There may be any number of them. -/
inductive Trips (table : Table) (partition : String) (filter : PinnedFilter) (sliceSize : Nat) :
    Option Nat → Option Cursor → List (List Row) → List Record × Option Cursor → Prop
  | last {room : Option Nat} {position : Option Cursor} {rows : List Row} {records : List Record}
      {found : List Record} {halt : Halt}
      (fetched : table.slice partition filter.toFilter position sliceSize = rows)
      (reads : rows.mapM Row.record = .ok records)
      (visited : visit filter room records = (found, halt))
      (ended : halt = .sliceEnded → rows.length < sliceSize) :
      Trips table partition filter sliceSize room position [rows] (found, halt.position?)
  | next {room : Option Nat} {position stop : Option Cursor} {rows : List Row}
      {records : List Record} {found others : List Record} {slices : List (List Row)}
      (fetched : table.slice partition filter.toFilter position sliceSize = rows)
      (reads : rows.mapM Row.record = .ok records)
      (visited : visit filter room records = (found, .sliceEnded))
      (full : ¬ rows.length < sliceSize)
      (later : Trips table partition filter sliceSize (room.map (· - found.length))
        ((records.getLast?.map (Cursor.ofRecord filter.order)).or position) slices (others, stop)) :
      Trips table partition filter sliceSize room position (rows :: slices) (found ++ others, stop)

/-- A scan with fuel for all its round trips answers what they end with. -/
theorem Trips.scan_eq {sliceSize : Nat} {room : Option Nat} {position : Option Cursor}
    {slices : List (List Row)} {answer : List Record × Option Cursor}
    (trips : table.Trips partition filter sliceSize room position slices answer) {fuel : Nat}
    (fuelled : slices.length ≤ fuel) :
    table.scan partition filter sliceSize fuel room position = .ok answer := by
  induction trips generalizing fuel with
  | @last room position rows records found halt fetched reads visited ended =>
      cases fuel with
      | zero => exact absurd fuelled (Nat.not_succ_le_zero _)
      | succ fuel =>
          rw [scan]
          simp only [fetched, reads, visited]
          cases halt with
          | windowLeft => rfl
          | enough cursor => rfl
          | sliceEnded => exact if_pos (ended rfl)
  | next fetched reads visited full later ih =>
      cases fuel with
      | zero => exact absurd fuelled (Nat.not_succ_le_zero _)
      | succ fuel =>
          rw [scan]
          simp only [fetched, reads, visited, if_neg full, ih (Nat.le_of_succ_le_succ fuelled)]

/-- The round trips of a scan fetch rows in their order and leave them behind. -/
structure Advances (table : Table) (partition : String) (filter : Filter) (sliceSize : Nat)
    (position : Option Cursor) (slices : List (List Row)) (kept : List Row)
    (stop : Option Cursor) : Prop where
  fetched : slices.flatten.Sublist (table.behind partition filter position)
  found : kept.Sublist slices.flatten
  length : slices.length * sliceSize ≤ (table.behind partition filter position).length + sliceSize
  order : ∀ cursor, stop = some cursor → cursor.order = filter.order
  rest : ∀ cursor, stop = some cursor →
    (kept ++ table.behind partition filter (some cursor)).Sublist
      (table.behind partition filter position)

namespace Advances

variable {position : Option Cursor} {sliceSize : Nat} {rows back kept : List Row}

/-- The last round trip keeps rows up to where the scan stops. -/
theorem last {halt : Halt} (passes : table.Passes partition filter.toFilter)
    (readsAs : table.ReadsAs partition read)
    (split : table.behind partition filter.toFilter position = rows ++ back)
    (keeps : Keeps filter read rows kept halt) :
    Advances table partition filter.toFilter sliceSize position [rows] kept halt.position? := by
  have whole : [rows].flatten = rows := List.append_nil rows
  have stopped : ∀ cursor, halt.position? = some cursor → halt = .enough cursor := by
    intro cursor stop
    cases halt with
    | enough position => exact congrArg Halt.enough (Option.some.inj stop)
    | windowLeft => cases stop
    | sliceEnded => cases stop
  refine ⟨?_, ?_, ?_, ?_, ?_⟩
  · rw [whole, split]
    exact List.sublist_append_left rows back
  · rw [whole]
    exact keeps.sublist
  · rw [List.length_singleton, Nat.one_mul]
    exact Nat.le_add_left _ _
  · intro cursor stop
    rcases keeps.enough cursor (stopped cursor stop) with ⟨_, _, _, _, rfl, _⟩
    rfl
  · intro cursor stop
    rcases keeps.enough cursor (stopped cursor stop) with ⟨front, row, others, rfl, rfl, before⟩
    have split : table.behind partition filter.toFilter position =
        front ++ row :: (others ++ back) := by
      rw [split, List.append_assoc, List.cons_append]
    have after := passes.behind_sublist readsAs split
    rw [split, List.append_cons]
    exact before.append after

/-- A full round trip comes before those that follow it. -/
theorem next {reached stop : Option Cursor} {slices : List (List Row)} {others : List Row}
    {filter : Filter} (split : table.behind partition filter position = rows ++ back)
    (full : ¬ rows.length < sliceSize) (listed : kept.Sublist rows)
    (rest : (table.behind partition filter reached).Sublist back)
    (later : Advances table partition filter sliceSize reached slices others stop) :
    Advances table partition filter sliceSize position (rows :: slices) (kept ++ others)
      stop where
  fetched := by
    rw [List.flatten_cons, split]
    exact (later.fetched.trans rest).append_left rows
  found := by
    rw [List.flatten_cons]
    exact listed.append later.found
  length := by
    have fewer := rest.length_le
    have trips := later.length
    rw [split, List.length_append, List.length_cons, Nat.succ_mul]
    omega
  order := later.order
  rest cursor stop := by
    rw [split, List.append_assoc]
    exact listed.append ((later.rest cursor stop).trans rest)

end Advances

/-- A scan of rows that are passed ends after round trips that advance. -/
theorem Passes.exists_trips (passes : table.Passes partition filter.toFilter)
    (readsAs : table.ReadsAs partition read) {sliceSize : Nat} (positive : 0 < sliceSize)
    (room : Option Nat) (position : Option Cursor) :
    ∃ slices kept stop,
      table.Trips partition filter sliceSize room position slices (kept.map read, stop) ∧
      (∀ row ∈ kept, filter.accepts (read row) = true) ∧
      Advances table partition filter.toFilter sliceSize position slices kept stop := by
  -- on how many rows are behind the position
  induction left : (table.behind partition filter.toFilter position).length using
    Nat.strong_induction_on generalizing room position with
  | _ number ih =>
    subst left
    rcases slice_split table partition filter.toFilter position sliceSize with ⟨back, split, _⟩
    generalize fetched : table.slice partition filter.toFilter position sliceSize = rows at split
    have reads : rows.mapM Row.record = .ok (rows.map read) := by
      apply mapM_eq_ok_map
      intro row member
      apply readsAs.of_behind
      rw [split]
      exact List.mem_append_left _ member
    rcases exists_keeps filter read room rows with ⟨kept, halt, visited, keeps⟩
    by_cases ended : halt = .sliceEnded → rows.length < sliceSize
    · exact ⟨[rows], kept, halt.position?, .last fetched reads visited ended, keeps.accepts,
        .last passes readsAs split keeps⟩
    · rw [Classical.not_imp] at ended
      rcases ended with ⟨rfl, full⟩
      rcases List.eq_nil_or_concat rows with rfl | ⟨front, row, rfl⟩
      · exact absurd positive full
      rw [List.concat_eq_append] at fetched split reads visited keeps full
      let reached := Cursor.ofRecord filter.order (read row)
      have rest : (table.behind partition filter.toFilter (some reached)).Sublist back := by
        rw [List.append_assoc] at split
        exact passes.behind_sublist readsAs split
      have fewer : (table.behind partition filter.toFilter (some reached)).length <
          (table.behind partition filter.toFilter position).length := by
        have less := rest.length_le
        rw [split, List.length_append, List.length_append, List.length_singleton]
        omega
      rcases ih _ fewer (room.map (· - kept.length)) (some reached) rfl with
        ⟨slices, others, stop, later, accepts, advances⟩
      refine ⟨_ :: slices, kept ++ others, stop, ?_, ?_, .next split full keeps.sublist rest advances⟩
      · rw [List.map_append]
        refine .next fetched reads visited full ?_
        rw [List.map_append, List.map_singleton, List.getLast?_concat, List.length_map]
        exact later
      · intro other member
        rcases List.mem_append.mp member with early | late
        · exact keeps.accepts other early
        · exact accepts other late

/-! ## Scans that never end -/

/-- Without a window and without a bound, a visit only ends with its slice. -/
theorem visit_sliceEnded (everything : filter.cutoff = none) (records : List Record) :
    (visit filter none records).2 = .sliceEnded := by
  have inside (record : Record) : filter.isOutside record = false := by
    rw [PinnedFilter.isOutside, everything]
  induction records with
  | nil => rfl
  | cons record records ih =>
      rw [visit, PinnedFilter.isExhaustedBy, inside, Bool.and_false, if_neg Bool.false_ne_true]
      by_cases accepted : filter.accepts record = true
      · rw [if_pos accepted, if_neg (Option.some_ne_none 1).symm]
        exact ih
      · rw [if_neg accepted]
        exact ih

/-- A row behind its own position is fetched once more by a scan from there, which never ends if
its round trips end with the row. -/
theorem ReadsAs.not_trips (readsAs : table.ReadsAs partition read)
    (everything : filter.cutoff = none) {row : Row} {front back : List Row}
    (split : table.behind partition filter.toFilter
      (some (Cursor.ofRecord filter.order (read row))) = front ++ row :: back)
    {slices : List (List Row)} {answer : List Record × Option Cursor} :
    ¬ table.Trips partition filter (front.length + 1) none
      (some (Cursor.ofRecord filter.order (read row))) slices answer := by
  have slice : table.slice partition filter.toFilter
      (some (Cursor.ofRecord filter.order (read row))) (front.length + 1) = front ++ [row] := by
    rw [slice_eq, split, List.append_cons]
    exact List.take_left' (List.length_append ..)
  have shown : (front ++ [row]).mapM Row.record = .ok ((front ++ [row]).map read) := by
    apply mapM_eq_ok_map
    intro other member
    apply readsAs.of_behind
    rw [split, List.append_cons]
    exact List.mem_append_left _ member
  generalize noRoom : (none : Option Nat) = room
  generalize here : some (Cursor.ofRecord filter.order (read row)) = position
  intro trips
  induction trips with
  | @last room position rows records found halt fetched reads visited ended =>
      subst noRoom here
      cases slice.symm.trans fetched
      have whole := visit_sliceEnded everything records
      rw [visited] at whole
      have short := ended whole
      rw [List.length_append, List.length_singleton] at short
      exact Nat.lt_irrefl _ short
  | next fetched reads visited full later ih =>
      subst noRoom here
      cases slice.symm.trans fetched
      cases shown.symm.trans reads
      refine ih rfl ?_
      rw [List.map_append, List.map_singleton, List.getLast?_concat]
      rfl

/-- For every row that is not passed there is a scan that never ends. -/
theorem ReadsAs.exists_endless (readsAs : table.ReadsAs partition read) {filter : Filter} {row : Row}
    (selected : row ∈ table.behind partition filter none) (stuck : ¬ row.IsPassed filter) :
    ∃ sliceSize position, 0 < sliceSize ∧
      ∀ pinned : PinnedFilter, pinned.toFilter = filter → pinned.cutoff = none →
        ∀ slices answer, ¬ table.Trips partition pinned sliceSize none position slices answer := by
  rw [Row.isPassed_iff (readsAs.of_behind selected), Bool.not_eq_false] at stuck
  let position := Cursor.ofRecord filter.order (read row)
  have after : row ∈ table.behind partition filter (some position) := by
    rw [mem_behind] at selected ⊢
    exact ⟨selected.1, selected.2.1, selected.2.2.1, stuck⟩
  rcases List.append_of_mem after with ⟨front, back, split⟩
  refine ⟨front.length + 1, some position, Nat.succ_pos _, ?_⟩
  rintro pinned rfl everything slices answer
  exact readsAs.not_trips everything split

end Table
end PayloadLedger
