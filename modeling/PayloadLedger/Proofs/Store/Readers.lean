import PayloadLedger.Proofs.Store.Readable
import PayloadLedger.Proofs.Store.Slice

namespace PayloadLedger

/-!
Readers of the packed column.

The record of a row, the guard of a claim and the range of a state read one column, each in its own
way.  On a row whose record can be read they agree as long as an underscore stands in the column:
a claim is held back by the states in flight, and a filter selects the rows whose records are in
its state.  A name that stands alone is read by the record only, so that such a row never holds a
claim back and is selected in no state.
-/

namespace Row

variable {row : Row} {record : Record}

/-- Something is packed behind the name of the state, if only an underscore. -/
def isPacked (row : Row) : Bool :=
  decide ('_' ∈ row.stateUpdated.toList)

/-- What a readable row begins with. -/
theorem fronts_of_record (reads : row.record = .ok record) :
    (row.isPacked = true ∧ record.state.Fronts row.stateUpdated) ∨
      (row.isPacked = false ∧ row.stateUpdated = record.state.name) := by
  rcases (isReadable_of_record reads).shown with ⟨same, shown⟩
  cases reads.symm.trans shown.reads
  rcases State.ofPacked?_eq_some_iff.mp shown.state with alone | front
  · right
    refine ⟨?_, alone⟩
    rw [isPacked, alone]
    exact decide_eq_false record.state.underscore_notMem_name
  · exact .inl ⟨decide_eq_true front.underscore_mem, front⟩

theorem isPacked_eq_false_iff (reads : row.record = .ok record) :
    row.isPacked = false ↔ row.stateUpdated = record.state.name := by
  rcases fronts_of_record reads with ⟨packed, front⟩ | ⟨alone, same⟩
  · rw [packed]
    refine ⟨nofun, ?_⟩
    intro same
    rw [same] at front
    exact absurd front.underscore_mem record.state.underscore_notMem_name
  · exact ⟨fun _ => same, fun _ => alone⟩

/-- The guard of a claim sees the state of the record where it is packed. -/
theorem isClaimable_of_record (reads : row.record = .ok record) :
    row.isClaimable = !(record.state.isInFlight && row.isPacked) := by
  rcases fronts_of_record reads with ⟨packed, front⟩ | ⟨alone, same⟩
  · rw [packed, Bool.and_true]
    exact isClaimable_of_fronts front
  · rw [alone, Bool.and_false]
    apply eq_true_of_ne_false
    intro guarded
    rcases isClaimable_eq_false_iff.mp guarded with ⟨state, _, front⟩
    rw [same] at front
    exact record.state.underscore_notMem_name front.underscore_mem

/-- The range of a state holds the records in that state where it is packed. -/
theorem isInState_of_record (reads : row.record = .ok record) (state : State) :
    row.isInState state = (decide (record.state = state) && row.isPacked) := by
  rcases fronts_of_record reads with ⟨packed, front⟩ | ⟨alone, same⟩
  · rw [packed, Bool.and_true]
    exact isInState_of_fronts front state
  · rw [alone, Bool.and_false]
    apply eq_false_of_ne_true
    intro selected
    have front := isInState_iff.mp selected
    rw [same] at front
    exact record.state.underscore_notMem_name front.underscore_mem

/-- The record of the row is in the state, and the state is packed. -/
def readsIn (row : Row) (state : State) : Bool :=
  match row.record with
  | .ok record => decide (record.state = state) && row.isPacked
  | .error _ => false

theorem readsIn_eq_isInState (reads : row.record = .ok record) (state : State) :
    row.readsIn state = row.isInState state := by
  rw [isInState_of_record reads]
  simp only [readsIn, reads]

end Row

/-! ## Claims -/

namespace Store

variable {store : Store} {table : Table} {row : Row} {record : Record}

/-- The claim is refused with who holds the payload, and nothing is written. -/
structure Refuses (store : Store) (row : Row) (record : Record) (execution : String)
    (moment : Time.Instant) : Prop where
  result : (store.claim row.key execution moment).result =
    .error (.alreadyClaimed row.key.payloadId (some record.state) record.latestExecution)
  after : (store.claim row.key execution moment).after = store

/-- The claim writes its row in place of the one that is there, and is answered with what the new
row reads as. -/
def Accepts (store : Store) (table : Table) (row : Row) (execution : String)
    (moment : Time.Instant) : Prop :=
  ∃ later : Row, later.key = row.key ∧ later.stateUpdated = Row.pack .claimed moment ∧
    (store.claim row.key execution moment).result = later.record ∧
    (store.claim row.key execution moment).after = { store with table := some (table.put later) }

theorem refuses_of_guarded (present : store.table = some table)
    (found : table.find? row.key = some row) (reads : row.record = .ok record)
    (guarded : row.isClaimable = false) (execution : String) (moment : Time.Instant) :
    store.Refuses row record execution moment := by
  have refused : table.claim row.key execution moment = .refused := by
    simp only [Table.claim, found, guarded, Bool.false_eq_true, if_false]
  have holder : (store.get row.key).result = .ok (some record) := by
    simp only [get, answer, present, found, reads]
    rfl
  constructor
  · simp only [claim, present, refused, holder]
    rfl
  · simp only [claim, present, refused]

theorem accepts_of_free (present : store.table = some table)
    (found : table.find? row.key = some row) (reads : row.record = .ok record)
    (free : row.isClaimable = true) (execution : String) (moment : Time.Instant) :
    store.Accepts table row execution moment := by
  rcases Row.exists_extend? (Row.isReadable_of_record reads).executions execution with
    ⟨column, extended, _⟩
  let later : Row := { Table.moved row .claimed moment with executions := column, lastError := none }
  have written : table.claim row.key execution moment = .written later (table.put later) := by
    simp only [Table.claim, Table.writeExecution, found, free, if_true, extended, Option.map_some]
    rfl
  refine ⟨later, rfl, rfl, ?_, ?_⟩ <;> simp only [claim, present, written] <;> rfl

end Store

/-! ## Filters -/

/-- The filter with another state to look for. -/
def Filter.inState (filter : Filter) (state : Option State) : Filter :=
  { filter with state }

def PinnedFilter.inState (filter : PinnedFilter) (state : Option State) : PinnedFilter :=
  { filter with state }

theorem Filter.pin_inState (filter : Filter) (state : Option State) (now : Time.Instant) :
    (filter.inState state).pin now =
      (filter.pin now).map fun pinned => pinned.inState state := by
  rcases filter with ⟨_, since, errorStart, order, ascending⟩
  cases since with
  | none => rfl
  | some since =>
      simp only [pin, inState]
      cases Time.Span.ofText? since with
      | error error => rfl
      | ok span =>
          simp only
          cases now.minus? span.seconds <;> rfl

namespace Table

/-- The table in which the rows that do not read as being in the state lie in another partition,
one that no key has. -/
def apart (table : Table) (state : State) : Table :=
  table.map fun row => if row.readsIn state then row else { row with partition := "" }

variable {table : Table} {partition : String} {filter : Filter} {state : State}

theorem length_apart (table : Table) (state : State) :
    (table.apart state).length = table.length :=
  List.length_map _

/-- Where nothing is wanted of the partition without a name, the rows that lie apart are passed over. -/
theorem filter_apart (state : State) {wanted : Row → Bool}
    (named : ∀ row, row.partition = "" → wanted row = false) :
    (table.apart state).filter wanted = table.filter fun row => row.readsIn state && wanted row := by
  induction table with
  | nil => rfl
  | cons row table ih =>
      rw [apart] at ih ⊢
      rw [List.map_cons, List.filter_cons, List.filter_cons, ih]
      cases row.readsIn state with
      | true => simp only [if_true, Bool.true_and]
      | false =>
          have aside : wanted { row with partition := "" } = false := named _ rfl
          simp only [Bool.false_eq_true, if_false, Bool.false_and, aside]

/-- Behind a position, the rows of one state are those that read as being in it. -/
theorem behind_inState (named : partition ≠ "")
    (readable : ∀ row ∈ table, row.partition = partition → ∃ record, row.record = .ok record)
    (position : Option Cursor) :
    table.behind partition (filter.inState (some state)) position =
      (table.apart state).behind partition (filter.inState none) position := by
  let isBehind (row : Row) : Bool := filter.isPast (fun row => row.place filter.order) position row
  have elsewhere : ∀ row : Row, row.partition = "" →
      (row.partition = partition && true && isBehind row) = false := by
    intro row empty
    rw [empty, decide_eq_false (Ne.symm named), Bool.false_and, Bool.false_and]
  have selected : (table.apart state).filter (fun row =>
        row.partition = partition && true && isBehind row) =
      table.filter fun row => row.partition = partition && row.isInState state && isBehind row := by
    rw [filter_apart state elsewhere]
    apply List.filter_congr
    intro row member
    by_cases own : row.partition = partition
    · rcases readable row member own with ⟨record, reads⟩
      simp only [own, decide_true, Bool.true_and, Row.readsIn_eq_isInState reads]
    · simp only [own, decide_false, Bool.false_and, Bool.and_false]
  exact congrArg (List.mergeSort · (Row.isOrdered filter)) selected.symm

theorem visit_inState (filter : PinnedFilter) (state : Option State) (room : Option Nat)
    (records : List Record) :
    visit (filter.inState state) room records = visit filter room records := by
  induction records generalizing room with
  | nil => rfl
  | cons record records ih =>
      have exhausted : (filter.inState state).isExhaustedBy record = filter.isExhaustedBy record :=
        rfl
      have accepted : (filter.inState state).accepts record = filter.accepts record := rfl
      have order : (filter.inState state).order = filter.order := rfl
      simp only [visit, exhausted, accepted, order, ih]

/-- A scan of one state scans the rows that read as being in it. -/
theorem scan_inState (named : partition ≠ "")
    (readable : ∀ row ∈ table, row.partition = partition → ∃ record, row.record = .ok record)
    (filter : PinnedFilter) (sliceSize fuel : Nat) (room : Option Nat) (position : Option Cursor) :
    table.scan partition (filter.inState (some state)) sliceSize fuel room position =
      (table.apart state).scan partition (filter.inState none) sliceSize fuel room position := by
  induction fuel generalizing room position with
  | zero => rfl
  | succ fuel ih =>
      have slices : table.slice partition (filter.inState (some state)).toFilter position sliceSize =
          (table.apart state).slice partition (filter.inState none).toFilter position sliceSize := by
        rw [slice_eq, slice_eq]
        exact congrArg (List.take sliceSize) (behind_inState named readable position)
      have order (state : Option State) : (filter.inState state).order = filter.order := rfl
      simp only [scan, slices, visit_inState, order, ih]

end Table

namespace Store

variable {store : Store} {table : Table} {row : Row} {record : Record}

/-- The store with the table in which other rows than those of a state lie apart. -/
def apart (store : Store) (state : State) : Store :=
  { store with table := store.table.map fun table => table.apart state }

section

variable {partition : String}

theorem ne_of_ofPartition {key : Key} (accepted : Key.ofPartition partition "" = .ok key) :
    partition ≠ "" := by
  rintro rfl
  cases accepted

theorem scan_inState (present : store.table = some table) (named : partition ≠ "")
    (readable : ∀ row ∈ table, row.partition = partition → ∃ record, row.record = .ok record)
    (state : State) (filter : PinnedFilter) (room : Option Nat) (position : Option Cursor) :
    store.scan partition (filter.inState (some state)) room position =
      (store.apart state).scan partition (filter.inState none) room position := by
  have apart : (store.apart state).table = some (table.apart state) := by
    rw [Store.apart, present]
    rfl
  have fuel : table.scanFuel room = (table.apart state).scanFuel room := by
    rw [Table.scanFuel, Table.scanFuel, Table.length_apart]
  simp only [scan, present, apart, fuel]
  exact Table.scan_inState named readable filter _ _ room position

/-- A query for a state finds what a query for all states finds where other rows lie apart. -/
theorem query_inState (present : store.table = some table)
    (readable : ∀ row ∈ table, row.partition = partition → ∃ record, row.record = .ok record)
    (state : State) (filter : Filter) (now : Time.Instant) (limit : Nat) (token : Option String) :
    (store.query partition (filter.inState (some state)) limit token now).result =
      ((store.apart state).query partition (filter.inState none) limit token now).result := by
  have start (state : Option State) : startOf (filter.inState state) token = startOf filter token :=
    rfl
  unfold query
  rw [Filter.pin_inState, Filter.pin_inState, start, start]
  cases named : Key.ofPartition partition "" with
  | error error => rfl
  | ok key =>
      cases filter.pin now with
      | error error => rfl
      | ok pinned =>
          cases startOf filter token with
          | error error => rfl
          | ok position =>
              have same := scan_inState present (ne_of_ofPartition named) readable state pinned
                (some (max 1 (min limit store.limitCap))) position
              exact congrArg (Except.map _) same

theorem count_inState (present : store.table = some table)
    (readable : ∀ row ∈ table, row.partition = partition → ∃ record, row.record = .ok record)
    (state : State) (filter : Filter) (now : Time.Instant) (limit : Option Nat) :
    (store.count partition (filter.inState (some state)) limit now).result =
      ((store.apart state).count partition (filter.inState none) limit now).result := by
  unfold count
  rw [Filter.pin_inState, Filter.pin_inState]
  cases named : Key.ofPartition partition "" with
  | error error => rfl
  | ok key =>
      cases filter.pin now with
      | error error => rfl
      | ok pinned =>
          have same := scan_inState present (ne_of_ofPartition named) readable state pinned
            (limit.map (· + 1)) none
          exact congrArg (Except.map _) same

end

end Store
end PayloadLedger
