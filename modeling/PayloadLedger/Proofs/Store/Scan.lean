import PayloadLedger.Proofs.Steps
import PayloadLedger.Proofs.Store.Slice
import PayloadLedger.Proofs.Time.Order
import PayloadLedger.Store.Scan

namespace PayloadLedger

/-!
Scans.

A scan fetches slice after slice, but it finds what one visit of all rows behind its starting
position would find, and ends where that visit ends.  The visit in turn finds the first wanted
records, because it only stops early where no wanted record follows.
-/

/-- The place of a record in an order. -/
def Record.place (record : Record) (order : SortIndex) : String × String :=
  ((Cursor.ofRecord order record).sortValue, record.items)

namespace Table

variable {filter : PinnedFilter}

/-- A scan has fuel for all that is behind its position. -/
theorem length_behind_lt_scanFuel {table : Table} {partition : String} {filter : Filter}
    {position : Option Cursor} (room : Option Nat) :
    (table.behind partition filter position).length < table.scanFuel room := by
  calc (table.behind partition filter position).length
      ≤ table.length := length_behind_le
    _ < table.length + 1 := Nat.lt_succ_self _
    _ ≤ table.scanFuel room := Nat.le_mul_of_pos_right _ (Nat.succ_pos _)

/-! ## Visits -/

/-- Where a visit stood when it had enough. -/
def Halt.position? : Halt → Option Cursor
  | .enough position => some position
  | .windowLeft | .sliceEnded => none

/-- A visit of two lists goes on with the second where the first ended. -/
theorem visit_append (filter : PinnedFilter) (room : Option Nat) (front back : List Record) :
    visit filter room (front ++ back) =
      match visit filter room front with
      | (found, .sliceEnded) =>
          ((found ++ (visit filter (room.map (· - found.length)) back).1),
            (visit filter (room.map (· - found.length)) back).2)
      | stopped => stopped := by
  induction front generalizing room with
  | nil =>
      have same : room.map (· - 0) = room := by cases room <;> rfl
      simp only [List.nil_append, visit, List.length_nil, same]
  | cons record front ih =>
      rw [List.cons_append, visit, visit]
      by_cases exhausted : filter.isExhaustedBy record = true
      · rw [if_pos exhausted, if_pos exhausted]
      rw [if_neg exhausted, if_neg exhausted]
      by_cases accepted : filter.accepts record = true
      · rw [if_pos accepted, if_pos accepted]
        by_cases last : room = some 1
        · rw [if_pos last, if_pos last]
        · rw [if_neg last, if_neg last, ih]
          rcases visit filter (room.map (· - 1)) front with ⟨found, halt⟩
          cases halt with
          | sliceEnded =>
              have less : room.map (· - (record :: found).length) =
                  (room.map (· - 1)).map (· - found.length) := by
                cases room with
                | none => rfl
                | some room =>
                    rw [Option.map_some, Option.map_some, Option.map_some, List.length_cons,
                      Nat.sub_sub, Nat.add_comm]
              simp only [less, List.cons_append]
          | windowLeft => rfl
          | enough position => rfl
      · rw [if_neg accepted, if_neg accepted, ih]

/-- A record behind which nothing is inside the window is not accepted itself. -/
theorem accepts_of_isOutside {record : Record} (outside : filter.isOutside record = true) :
    filter.accepts record = false := by
  rw [PinnedFilter.accepts, outside]
  rfl

theorem isOutside_of_isExhaustedBy {record : Record}
    (exhausted : filter.isExhaustedBy record = true) : filter.isOutside record = true := by
  rw [PinnedFilter.isExhaustedBy, Bool.and_eq_true] at exhausted
  exact exhausted.2

/-- Where the window is left, nothing is accepted any more. -/
theorem filter_eq_nil_of_isExhaustedBy {record : Record} {records : List Record}
    (exhausted : filter.isExhaustedBy record = true)
    (outside : ∀ other ∈ records, filter.isExhaustedBy record = true →
      filter.isOutside other = true) :
    (record :: records).filter filter.accepts = [] := by
  rw [List.filter_eq_nil_iff]
  intro other member
  rw [Bool.not_eq_true]
  rcases List.mem_cons.mp member with rfl | later
  · exact accepts_of_isOutside (isOutside_of_isExhaustedBy exhausted)
  · exact accepts_of_isOutside (outside other later exhausted)

/-- The visit found the first accepted records, and says so when the room is full. -/
structure Finds (filter : PinnedFilter) (room : Nat) (records : List Record)
    (visited : List Record × Halt) : Prop where
  found : visited.1 = (records.filter filter.accepts).take room
  position : visited.2.position? =
    if room ≤ (records.filter filter.accepts).length then
      ((records.filter filter.accepts).take room).getLast?.map (Cursor.ofRecord filter.order)
    else none

namespace Finds

variable {room : Nat} {record : Record} {records : List Record}
  {visited : List Record × Halt}

theorem of_none (positive : 0 < room) (none : records.filter filter.accepts = []) {halt : Halt}
    (stopped : halt.position? = Option.none) : Finds filter room records ([], halt) where
  found := by rw [none, List.take_nil]
  position := by rw [none, List.length_nil, if_neg (Nat.not_le.mpr positive), stopped]

/-- The last record that there is room for ends the visit. -/
theorem of_last (accepted : filter.accepts record = true) :
    Finds filter 1 (record :: records)
      ([record], .enough (Cursor.ofRecord filter.order record)) where
  found := by
    rw [List.filter_cons_of_pos accepted]
    rfl
  position := by
    rw [List.filter_cons_of_pos accepted, List.length_cons, if_pos (Nat.le_add_left 1 _)]
    rfl

theorem cons (positive : 0 < room) (accepted : filter.accepts record = true)
    (rest : Finds filter room records visited) :
    Finds filter (room + 1) (record :: records) (record :: visited.1, visited.2) where
  found := by rw [List.filter_cons_of_pos accepted, List.take_succ_cons, ← rest.found]
  position := by
    rw [List.filter_cons_of_pos accepted, List.take_succ_cons, List.length_cons, rest.position]
    by_cases enough : room ≤ (records.filter filter.accepts).length
    · rw [if_pos enough, if_pos (Nat.succ_le_succ enough)]
      have some : (records.filter filter.accepts).take room ≠ [] := by
        apply List.ne_nil_of_length_pos
        rw [List.length_take_of_le enough]
        exact positive
      rw [List.getLast?_cons, List.getLast?_eq_some_getLast some]
      rfl
    · rw [if_neg enough, if_neg fun full => enough (Nat.le_of_succ_le_succ full)]

theorem skip (accepted : ¬ filter.accepts record = true)
    (rest : Finds filter room records visited) :
    Finds filter room (record :: records) visited where
  found := by
    rw [List.filter_cons_of_neg accepted]
    exact rest.found
  position := by
    rw [List.filter_cons_of_neg accepted]
    exact rest.position

end Finds

theorem visit_finds {room : Nat} {records : List Record} (positive : 0 < room)
    (leaves : records.Pairwise fun one other =>
      filter.isExhaustedBy one = true → filter.isOutside other = true) :
    Finds filter room records (visit filter (some room) records) := by
  induction records generalizing room with
  | nil => exact .of_none positive rfl rfl
  | cons record records ih =>
      rcases List.pairwise_cons.mp leaves with ⟨outside, leaves⟩
      rw [visit]
      by_cases exhausted : filter.isExhaustedBy record = true
      · rw [if_pos exhausted]
        exact .of_none positive (filter_eq_nil_of_isExhaustedBy exhausted outside) rfl
      rw [if_neg exhausted]
      by_cases accepted : filter.accepts record = true
      · rw [if_pos accepted]
        by_cases last : room = 1
        · subst last
          rw [if_pos rfl]
          exact .of_last accepted
        · obtain ⟨less, rfl⟩ : ∃ less, room = less + 2 := ⟨room - 2, by omega⟩
          rw [if_neg fun same => last (Option.some.inj same)]
          exact .cons (Nat.succ_pos less) accepted (ih (Nat.succ_pos less) leaves)
      · rw [if_neg accepted]
        exact .skip accepted (ih positive leaves)

/-- Without a bound, a visit finds all accepted records. -/
theorem visit_none (filter : PinnedFilter) {records : List Record}
    (leaves : records.Pairwise fun one other =>
      filter.isExhaustedBy one = true → filter.isOutside other = true) :
    (visit filter none records).1 = records.filter filter.accepts := by
  induction records with
  | nil => rfl
  | cons record records ih =>
      rcases List.pairwise_cons.mp leaves with ⟨outside, leaves⟩
      rw [visit]
      by_cases exhausted : filter.isExhaustedBy record = true
      · rw [if_pos exhausted, filter_eq_nil_of_isExhaustedBy exhausted outside]
      rw [if_neg exhausted]
      by_cases accepted : filter.accepts record = true
      · rw [if_pos accepted, if_neg nofun, List.filter_cons_of_pos accepted, ← ih leaves]
        rfl
      · rw [if_neg accepted, List.filter_cons_of_neg accepted, ih leaves]

/-! ## Tables that read -/

/-- Without a window there is nothing outside it. -/
theorem pairwise_leaves_of_cutoff (everything : filter.cutoff = none) (records : List Record) :
    records.Pairwise fun one other =>
      filter.isExhaustedBy one = true → filter.isOutside other = true := by
  refine List.pairwise_of_forall fun one other exhausted => ?_
  have outside := isOutside_of_isExhaustedBy exhausted
  rw [PinnedFilter.isOutside, everything] at outside
  cases outside

/-- Where later times were written as greater texts, nothing behind a record outside the window is
inside it. -/
theorem pairwise_leaves {table : Table} {read : Row → Record} {partition : String}
    {filter : PinnedFilter} {position : Option Cursor}
    (updated : filter.order = .updated →
      ∀ one ∈ table.behind partition filter.toFilter position,
      ∀ other ∈ table.behind partition filter.toFilter position,
        (read one).updated < (read other).updated → one.updated < other.updated) :
    ((table.behind partition filter.toFilter position).map read).Pairwise fun one other =>
      filter.isExhaustedBy one = true → filter.isOutside other = true := by
  rw [List.pairwise_map]
  refine List.Pairwise.imp_of_mem ?_ table.pairwise_behind
  intro one other member otherMember ordered exhausted
  rw [PinnedFilter.isExhaustedBy, Bool.and_eq_true, Bool.and_eq_true, decide_eq_true_eq,
    Bool.not_eq_true'] at exhausted
  rcases exhausted with ⟨⟨order, descending⟩, outside⟩
  have notLater : ¬ (read one).updated < (read other).updated := by
    intro later
    rw [Row.isOrdered, descending, if_neg Bool.false_ne_true, order, Bool.not_eq_true',
      ← Bool.not_eq_true, Row.placeBefore_iff] at ordered
    exact ordered (.inl (updated order one member other otherMember later))
  rw [PinnedFilter.isOutside] at outside ⊢
  cases cutoff : filter.cutoff with
  | none =>
      rw [cutoff] at outside
      cases outside
  | some cutoff =>
      rw [cutoff] at outside
      exact decide_eq_true (Time.Instant.lt_of_le_of_lt notLater (of_decide_eq_true outside))

/-- Where a slice is full, there are rows for a slice. -/
theorem IsDistinct.not_few_of_full {table : Table} {partition : String} {filter : Filter}
    {position : Option Cursor} {front back : List Row} {sliceSize : Nat}
    (distinct : table.IsDistinct)
    (split : table.behind partition filter position = front ++ back)
    (full : ¬ front.length < sliceSize) :
    ¬ (table.behind partition filter none).length < sliceSize := by
  intro few
  apply full
  calc front.length
      ≤ (table.behind partition filter position).length := by
        rw [split]
        exact (List.sublist_append_left front back).length_le
    _ ≤ (table.behind partition filter none).length := by
        rw [distinct.behind_eq_filter]
        exact List.length_filter_le _ _
    _ < sliceSize := few

/-- A scan with enough fuel answers as one visit of all that is behind its position, if it is over
with one slice or goes on at the places of the rows. -/
theorem IsDistinct.scan_eq_visit {table : Table} {read : Row → Record} {partition : String}
    (distinct : table.IsDistinct) {sliceSize : Nat} (positive : 0 < sliceSize)
    (reads : ∀ row ∈ table.behind partition filter.toFilter none, row.record = .ok (read row))
    (places : (table.behind partition filter.toFilter none).length < sliceSize ∨
      ∀ row ∈ table.behind partition filter.toFilter none,
        (read row).place filter.order = row.place filter.order)
    {fuel : Nat} {position : Option Cursor}
    (fuelled : (table.behind partition filter.toFilter position).length < fuel)
    (room : Option Nat) :
    table.scan partition filter sliceSize fuel room position =
      let visited :=
        visit filter room ((table.behind partition filter.toFilter position).map read)
      .ok (visited.1, visited.2.position?) := by
  induction fuel generalizing room position with
  | zero => exact absurd fuelled (Nat.not_lt_zero _)
  | succ fuel ih =>
      have members : ∀ row ∈ table.behind partition filter.toFilter position,
          row ∈ table.behind partition filter.toFilter none := by
        intro row member
        rw [distinct.behind_eq_filter] at member
        exact (List.mem_filter.mp member).1
      rcases slice_split table partition filter.toFilter position sliceSize with
        ⟨back, split, short⟩
      rw [scan]
      generalize table.slice partition filter.toFilter position sliceSize = front at split short ⊢
      have shown : front.mapM Row.record = .ok (front.map read) := by
        apply mapM_eq_ok_map
        intro row member
        apply reads row (members row _)
        rw [split]
        exact List.mem_append_left _ member
      rw [split, List.map_append, visit_append]
      simp only [shown]
      rcases visit filter room (front.map read) with ⟨found, halt⟩
      cases halt with
      | windowLeft => rfl
      | enough => rfl
      | sliceEnded =>
          by_cases last : front.length < sliceSize
          · rw [short last]
            simp only [if_pos last, List.map_nil, visit, List.append_nil, Halt.position?]
          · -- a full slice has a last row, and the scan goes on behind that row
            rcases List.eq_nil_or_concat front with rfl | ⟨init, row, rfl⟩
            · exact absurd positive last
            · rw [List.concat_eq_append] at split last ⊢
              have member : row ∈ table.behind partition filter.toFilter none := by
                apply members
                rw [split]
                simp
              have place : (read row).place filter.order = row.place filter.order :=
                places.resolve_left (distinct.not_few_of_full split last) row member
              have behind : table.behind partition filter.toFilter
                  (some (Cursor.ofRecord filter.order (read row))) = back := by
                rw [List.append_assoc] at split
                exact distinct.behind_row split place
              have less : (table.behind partition filter.toFilter
                  (some (Cursor.ofRecord filter.order (read row)))).length < fuel := by
                rw [behind]
                rw [split, List.length_append, List.length_append] at fuelled
                simp only [List.length_singleton] at fuelled
                omega
              simp only [if_neg last, List.map_append, List.map_cons, List.map_nil,
                List.getLast?_concat, Option.map_some, Option.some_or, ih less, behind]

/-- Every row reads as a record that stands at the place of the row, in the state that its packed
column is in the range of, and times that are later were written as texts that are greater. -/
structure IsOrderly (table : Table) (read : Row → Record) : Prop where
  distinct : table.IsDistinct
  reads : ∀ row ∈ table, row.record = .ok (read row)
  place : ∀ row ∈ table, ∀ order, (read row).place order = row.place order
  state : ∀ row ∈ table, ∀ state, row.isInState state = decide ((read row).state = state)
  updated : ∀ one ∈ table, ∀ other ∈ table,
    (read one).updated < (read other).updated → one.updated < other.updated

namespace IsOrderly

variable {table : Table} {read : Row → Record} {partition : String}

theorem leaves (orderly : table.IsOrderly read) (partition : String) (filter : PinnedFilter)
    (position : Option Cursor) :
    ((table.behind partition filter.toFilter position).map read).Pairwise fun one other =>
      filter.isExhaustedBy one = true → filter.isOutside other = true :=
  pairwise_leaves fun _ one member other otherMember =>
    orderly.updated one (mem_behind.mp member).1 other (mem_behind.mp otherMember).1

/-- A scan with enough fuel answers as one visit of all that is behind its position. -/
theorem scan_eq_visit (orderly : table.IsOrderly read) {sliceSize : Nat} (positive : 0 < sliceSize)
    {fuel : Nat} {position : Option Cursor}
    (fuelled : (table.behind partition filter.toFilter position).length < fuel)
    (room : Option Nat) :
    table.scan partition filter sliceSize fuel room position =
      let visited :=
        visit filter room ((table.behind partition filter.toFilter position).map read)
      .ok (visited.1, visited.2.position?) := by
  refine orderly.distinct.scan_eq_visit positive ?_ (.inr ?_) fuelled room
  · intro row member
    exact orderly.reads row (mem_behind.mp member).1
  · intro row member
    exact orderly.place row (mem_behind.mp member).1 filter.order

end IsOrderly
end Table
end PayloadLedger
