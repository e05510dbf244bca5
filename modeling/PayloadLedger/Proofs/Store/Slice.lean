import PayloadLedger.Proofs.Store.Place
import PayloadLedger.Proofs.Store.Table

namespace PayloadLedger

/-!
Slices of a partition.

The rows behind a position are a sorted list, and a slice is its front.  After a slice the rows
behind its last row are the rest of that list.
-/

namespace Table

variable {table : Table} {partition : String} {filter : Filter} {position : Option Cursor}

/-- All rows that a slice may take its rows from, in order. -/
def behind (table : Table) (partition : String) (filter : Filter) (position : Option Cursor) :
    List Row :=
  List.mergeSort (List.filter (fun row =>
    row.partition = partition &&
      (match filter.state with
        | some state => row.isInState state
        | none => true) &&
      filter.isPast (fun row => row.place filter.order) position row) table)
    (Row.isOrdered filter)

theorem slice_eq (table : Table) (partition : String) (filter : Filter)
    (position : Option Cursor) (count : Nat) :
    table.slice partition filter position count =
      (table.behind partition filter position).take count := rfl

/-- A slice is the front of what is behind the position, and all of it unless the slice is
full. -/
theorem slice_split (table : Table) (partition : String) (filter : Filter)
    (position : Option Cursor) (count : Nat) :
    ∃ back, table.behind partition filter position =
        table.slice partition filter position count ++ back ∧
      ((table.slice partition filter position count).length < count → back = []) := by
  refine ⟨(table.behind partition filter position).drop count, ?_, ?_⟩
  · rw [slice_eq, List.take_append_drop]
  · intro short
    rw [slice_eq, List.length_take] at short
    exact List.drop_eq_nil_of_le (by omega)

theorem mem_behind {row : Row} :
    row ∈ table.behind partition filter position ↔
      row ∈ table ∧ row.partition = partition ∧
        (∀ state, filter.state = some state → row.isInState state = true) ∧
        filter.isPast (fun row => row.place filter.order) position row = true := by
  rw [behind, (List.mergeSort_perm _ _).mem_iff, List.mem_filter, Bool.and_eq_true,
    Bool.and_eq_true, decide_eq_true_eq, and_assoc]
  cases filter.state with
  | none => simp
  | some state => simp

theorem length_behind_le : (table.behind partition filter position).length ≤ table.length := by
  rw [behind, List.length_mergeSort]
  exact List.length_filter_le _ _

/-- In a partition of a table with distinct keys, different rows have different places. -/
theorem IsDistinct.eq_of_place (distinct : table.IsDistinct) {one other : Row}
    (member : one ∈ table) (otherMember : other ∈ table) (same : one.partition = other.partition)
    {order : SortIndex} (place : one.place order = other.place order) : one = other := by
  have items : one.itemIds = other.itemIds := congrArg Prod.snd place
  have key : one.key = other.key := by
    unfold Row.key
    rw [same, items]
  have found := distinct.find?_key member
  rw [key, distinct.find?_key otherMember] at found
  exact (Option.some.inj found).symm

theorem pairwise_behind :
    (table.behind partition filter position).Pairwise
      fun one other => Row.isOrdered filter one other = true := by
  apply List.pairwise_mergeSort
  · intro one other third first second
    rw [Filter.isOrdered_eq, Bool.not_eq_true'] at *
    exact Filter.not_precedes_trans first second
  · intro one other
    rw [Filter.isOrdered_eq, Filter.isOrdered_eq]
    exact filter.not_precedes_total _ _

/-- Rows that are ordered both ways are the same row. -/
theorem IsDistinct.eq_of_isOrdered (distinct : table.IsDistinct) {one other : Row}
    (member : one ∈ table) (otherMember : other ∈ table) (same : one.partition = other.partition)
    (forth : Row.isOrdered filter one other = true)
    (back : Row.isOrdered filter other one = true) : one = other := by
  rw [Filter.isOrdered_eq, Bool.not_eq_true'] at forth back
  by_cases place : one.place filter.order = other.place filter.order
  · exact distinct.eq_of_place member otherMember same place
  · rcases filter.precedes_total place with less | greater
    · rw [less] at back
      cases back
    · rw [greater] at forth
      cases forth

theorem IsDistinct.nodup (distinct : table.IsDistinct) : List.Nodup table :=
  List.Pairwise.of_map Row.key (fun _ _ differ same => differ (congrArg Row.key same)) distinct

theorem IsDistinct.nodup_behind (distinct : table.IsDistinct) :
    (table.behind partition filter position).Nodup := by
  rw [behind, (List.mergeSort_perm _ _).nodup_iff]
  exact List.Pairwise.sublist List.filter_sublist distinct.nodup

theorem IsDistinct.sorts_behind (distinct : table.IsDistinct) :
    filter.Sorts (fun row => row.place filter.order) (table.behind partition filter position) := by
  refine List.Pairwise.imp_of_mem ?_ (List.Pairwise.and pairwise_behind distinct.nodup_behind)
  intro one other member otherMember both
  rw [mem_behind] at member otherMember
  have same : one.partition = other.partition := member.2.1.trans otherMember.2.1.symm
  have different : one.place filter.order ≠ other.place filter.order := fun place =>
    both.2 (distinct.eq_of_place member.1 otherMember.1 same place)
  rcases filter.precedes_total different with less | greater
  · exact less
  · have ordered := both.1
    rw [Filter.isOrdered_eq, greater] at ordered
    cases ordered

/-- What is behind a position is what comes after it in the whole list. -/
theorem IsDistinct.behind_eq_filter (distinct : table.IsDistinct) (position : Option Cursor) :
    table.behind partition filter position =
      (table.behind partition filter none).filter
        (filter.isPast (fun row => row.place filter.order) position) := by
  have same : (table.behind partition filter position).Perm
      ((table.behind partition filter none).filter
        (filter.isPast (fun row => row.place filter.order) position)) := by
    rw [behind, behind]
    refine (List.mergeSort_perm _ _).trans ?_
    refine List.Perm.trans ?_ ((List.mergeSort_perm _ _).filter _).symm
    rw [List.filter_filter]
    apply List.Perm.of_eq
    apply List.filter_congr
    intro row _
    rw [Filter.isPast, Bool.and_true, Bool.and_comm]
  refine List.Perm.eq_of_pairwise ?_ pairwise_behind
    (pairwise_behind.sublist List.filter_sublist) same
  intro one other member otherMember forth back
  rw [List.mem_filter] at otherMember
  have first := mem_behind.mp member
  have second := mem_behind.mp otherMember.1
  exact distinct.eq_of_isOrdered first.1 second.1 (first.2.1.trans second.2.1.symm) forth back

/-- After a row of what is behind a position comes the rest of it. -/
theorem IsDistinct.behind_row (distinct : table.IsDistinct) {front back : List Row} {row : Row}
    {cursor : Cursor}
    (split : table.behind partition filter position = front ++ row :: back)
    (here : (cursor.sortValue, cursor.itemIds) = row.place filter.order) :
    table.behind partition filter (some cursor) = back := by
  rw [distinct.behind_eq_filter] at split ⊢
  exact distinct.sorts_behind.filter_isPast split here

end Table
end PayloadLedger
