import PayloadLedger.Proofs.Store.Batches

namespace PayloadLedger

/-!
What is read of a store depends on the rows it holds, and not on their order.

Two tables with distinct keys that find the same row under every key hold the same rows.  A slice
sorts what it takes by an order that tells any two rows of a partition apart, so both tables give
the same slices, and with them the same scans, pages, counts and summaries.
-/

/-! ## Tables -/

namespace Table

variable {one other : Table}

theorem perm_of_find? (distinct : one.IsDistinct) (otherDistinct : other.IsDistinct)
    (same : ∀ key, one.find? key = other.find? key) : List.Perm one other := by
  rw [List.perm_ext_iff_of_nodup distinct.nodup otherDistinct.nodup]
  intro row
  constructor
  · intro member
    exact (mem_of_find? (same row.key ▸ distinct.find?_key member)).1
  · intro member
    exact (mem_of_find? (same row.key ▸ otherDistinct.find?_key member)).1

theorem IsDistinct.behind_perm (distinct : one.IsDistinct) (perm : List.Perm one other)
    (partition : String) (filter : Filter) (position : Option Cursor) :
    one.behind partition filter position = other.behind partition filter position := by
  have sorted : List.Perm (one.behind partition filter position)
      (other.behind partition filter position) := by
    rw [behind, behind]
    exact (List.mergeSort_perm _ _).trans ((perm.filter _).trans (List.mergeSort_perm _ _).symm)
  refine List.Perm.eq_of_pairwise ?_ pairwise_behind pairwise_behind sorted
  intro first second member otherMember forth back
  have here := mem_behind.mp member
  have there := mem_behind.mp otherMember
  exact distinct.eq_of_isOrdered here.1 (perm.mem_iff.mpr there.1)
    (here.2.1.trans there.2.1.symm) forth back

theorem IsDistinct.scan_perm (distinct : one.IsDistinct) (perm : List.Perm one other)
    (partition : String) (filter : PinnedFilter) (sliceSize fuel : Nat) (room : Option Nat)
    (position : Option Cursor) :
    one.scan partition filter sliceSize fuel room position =
      other.scan partition filter sliceSize fuel room position := by
  induction fuel generalizing room position with
  | zero => rfl
  | succ fuel ih =>
      have slices : one.slice partition filter.toFilter position sliceSize =
          other.slice partition filter.toFilter position sliceSize := by
        rw [slice_eq, slice_eq, distinct.behind_perm perm]
      simp only [scan, slices, ih]

end Table

/-! ## Stores -/

namespace Store

/-- What a store holds under a key, nothing at all if its table is lost. -/
def rowOf? (store : Store) (key : Key) : Option (Option Row) :=
  store.table.map fun table => table.find? key

/-- No two rows of the store have the same key. -/
def IsDistinct (store : Store) : Prop :=
  ∀ table, store.table = some table → table.IsDistinct

/-- Both stores read with the same sizes and hold the same rows. -/
structure HoldsAlike (one other : Store) : Prop where
  sliceSize : one.sliceSize = other.sliceSize
  limitCap : one.limitCap = other.limitCap
  distinct : one.IsDistinct
  otherDistinct : other.IsDistinct
  rows : ∀ key, one.rowOf? key = other.rowOf? key

/-- No reader can tell the stores apart. -/
structure ReadsAlike (one other : Store) : Prop where
  get : ∀ key, (one.get key).result = (other.get key).result
  getMany : ∀ keys, (one.getMany keys).result = (other.getMany keys).result
  query : ∀ partition filter limit token now,
    (one.query partition filter limit token now).result =
      (other.query partition filter limit token now).result
  count : ∀ partition filter limit now,
    (one.count partition filter limit now).result = (other.count partition filter limit now).result
  summary : ∀ partition since limit now,
    (one.summary partition since limit now).result =
      (other.summary partition since limit now).result

theorem get_of_rowOf? {one other : Store} {key : Key} (same : one.rowOf? key = other.rowOf? key) :
    (one.get key).result = (other.get key).result := by
  unfold rowOf? at same
  cases present : one.table with
  | none =>
      rw [present, Option.map_none, eq_comm, Option.map_eq_none_iff] at same
      simp only [get, present, same]
      rfl
  | some table =>
      rw [present, Option.map_some, eq_comm, Option.map_eq_some_iff] at same
      rcases same with ⟨later, kept, found⟩
      simp only [get, present, kept, found]
      rfl

namespace HoldsAlike

variable {one other : Store} (alike : HoldsAlike one other)

include alike

/-- Either both tables are lost, or both are present and hold the same rows. -/
theorem tables :
    (one.table = none ∧ other.table = none) ∨
      ∃ table later, one.table = some table ∧ other.table = some later ∧ table.IsDistinct ∧
        List.Perm table later ∧ ∀ key, table.find? key = later.find? key := by
  cases present : one.table with
  | none =>
      have lost := alike.rows ⟨"", ""⟩
      rw [rowOf?, rowOf?, present, Option.map_none, eq_comm, Option.map_eq_none_iff] at lost
      exact .inl ⟨rfl, lost⟩
  | some table =>
      cases kept : other.table with
      | none =>
          have lost := alike.rows ⟨"", ""⟩
          rw [rowOf?, rowOf?, present, kept] at lost
          cases lost
      | some later =>
          have found : ∀ key, table.find? key = later.find? key := by
            intro key
            have same := alike.rows key
            rw [rowOf?, rowOf?, present, kept] at same
            exact Option.some.inj same
          have distinct := alike.distinct table present
          have perm := Table.perm_of_find? distinct (alike.otherDistinct later kept) found
          exact .inr ⟨table, later, rfl, rfl, distinct, perm, found⟩

theorem getMany (keys : List Key) : (one.getMany keys).result = (other.getMany keys).result := by
  have fetched : one.fetch = other.fetch := by
    funext batch
    rcases alike.tables with ⟨present, kept⟩ | ⟨table, later, present, kept, distinct, perm, _⟩
    · simp only [fetch, present, kept]
    · simp only [fetch, present, kept, distinct.rowsOf_perm perm]
  simp only [Store.getMany, answer, fetched]

theorem scan (partition : String) (filter : PinnedFilter) (room : Option Nat)
    (position : Option Cursor) :
    one.scan partition filter room position = other.scan partition filter room position := by
  rcases alike.tables with ⟨present, kept⟩ | ⟨table, later, present, kept, distinct, perm, _⟩
  · simp only [Store.scan, present, kept]
  · simp only [Store.scan, present, kept, Table.scanFuel, perm.length_eq, alike.sliceSize,
      distinct.scan_perm perm]

theorem query (partition : String) (filter : Filter) (limit : Nat) (token : Option String)
    (now : Time.Instant) :
    (one.query partition filter limit token now).result =
      (other.query partition filter limit token now).result := by
  unfold Store.query
  simp only [alike.scan, alike.limitCap]
  split <;> rfl

theorem count (partition : String) (filter : Filter) (limit : Option Nat) (now : Time.Instant) :
    (one.count partition filter limit now).result =
      (other.count partition filter limit now).result := by
  unfold Store.count
  simp only [alike.scan]
  split <;> rfl

theorem countStates (partition : String) (since : Option String) (limit : Option Nat)
    (now : Time.Instant) (states : List State) :
    (one.countStates partition since limit now states).1 =
      (other.countStates partition since limit now states).1 := by
  induction states with
  | nil => rfl
  | cons state states ih =>
      have counted := alike.count partition { state := some state, since } limit now
      simp only [Store.countStates, counted]
      split
      · rfl
      · simp only [ih]

/-- Stores that hold the same rows read alike. -/
theorem readsAlike : ReadsAlike one other where
  get key := get_of_rowOf? (alike.rows key)
  getMany := alike.getMany
  query := alike.query
  count := alike.count
  summary partition since limit now := by
    unfold summary
    cases Key.ofPartition partition "" with
    | error error => rfl
    | ok key => simp only [alike.countStates partition since limit now State.all]

end HoldsAlike
end Store
end PayloadLedger
