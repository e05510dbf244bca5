import PayloadLedger.Proofs.Steps
import PayloadLedger.Proofs.Store.Run

namespace PayloadLedger

/-!
Readable rows.

A row is readable when each of its columns is.  Every transition of a table of readable rows writes
a readable row, so that no transition fails after it has written.
-/

namespace Row

variable {row : Row} {key : Key} {state : State} {moment : Time.Instant}

/-- Each column of the row reads. -/
structure IsReadable (row : Row) : Prop where
  partition : Key.ofPartition row.partition row.itemIds = .ok row.key
  packed : ∃ state, State.ofPacked? row.stateUpdated = some state
  created : ∃ moment, readTime row.key row.created = .ok moment
  updated : ∃ moment, readTime row.key row.updated = .ok moment
  executions : ∃ items, readList row.executions = .ok items
  outputs : ∀ column, row.outputs = some column → ∃ items, readList column = .ok items

/-- What the record of a row shows of the row. -/
structure IsShownBy (row : Row) (record : Record) : Prop where
  reads : row.record = .ok record
  state : State.ofPacked? row.stateUpdated = some record.state
  stateUpdated : record.stateUpdated = row.stateUpdated
  payloadId : record.payloadId = row.key.payloadId
  collections : record.collections = row.key.collections
  workflow : record.workflow = row.key.workflow
  items : record.items = row.key.itemIds

theorem IsReadable.shown (readable : row.IsReadable) : ∃ record, row.IsShownBy record := by
  rcases readable.packed with ⟨state, packed⟩
  rcases readable.created with ⟨created, createdReads⟩
  rcases readable.updated with ⟨updated, updatedReads⟩
  rcases readable.executions with ⟨executions, executionsRead⟩
  cases outputs : row.outputs with
  | none =>
      refine ⟨⟨row.key.payloadId, row.key.collections, row.key.workflow, row.key.itemIds, state,
        row.stateUpdated, created, updated, executions, none, row.lastError⟩, ?_, packed,
        rfl, rfl, rfl, rfl, rfl⟩
      simp only [record, readable.partition, packed, createdReads, updatedReads, executionsRead,
        outputs, Except.mapError, bind, Except.bind, pure, Except.pure]
  | some column =>
      rcases readable.outputs column outputs with ⟨items, outputsRead⟩
      refine ⟨⟨row.key.payloadId, row.key.collections, row.key.workflow, row.key.itemIds, state,
        row.stateUpdated, created, updated, executions, some items, row.lastError⟩, ?_, packed,
        rfl, rfl, rfl, rfl, rfl⟩
      simp only [record, readable.partition, packed, createdReads, updatedReads, executionsRead,
        outputs, outputsRead, Except.mapError, bind, Except.bind, pure, Except.pure,
        Functor.map, Except.map]

theorem isReadable_of_record {record : Record} (reads : row.record = .ok record) :
    row.IsReadable := by
  rw [Row.record] at reads
  rcases exists_of_bind_eq_ok reads with ⟨key, partition, reads⟩
  have named : Key.ofPartition row.partition row.itemIds = .ok row.key := by
    rw [Key.ofPartition] at partition ⊢
    cases split : Key.splitPartition row.partition with
    | error error =>
        rw [split] at partition
        cases partition
    | ok halves => rfl
  rw [named] at partition
  cases partition
  cases packed : State.ofPacked? row.stateUpdated with
  | none =>
      simp only [packed] at reads
      cases reads
  | some state =>
      simp only [packed] at reads
      rcases exists_of_bind_eq_ok reads with ⟨_, _, reads⟩
      rcases exists_of_bind_eq_ok reads with ⟨created, createdReads, reads⟩
      rcases exists_of_bind_eq_ok reads with ⟨updated, updatedReads, reads⟩
      rcases exists_of_bind_eq_ok reads with ⟨executions, executionsRead, reads⟩
      refine ⟨named, ⟨state, packed⟩, ⟨created, createdReads⟩, ⟨updated, updatedReads⟩,
        ⟨executions, executionsRead⟩, ?_⟩
      intro column present
      simp only [present] at reads
      rcases exists_of_bind_eq_ok reads with ⟨outputs, outputsRead, _⟩
      cases found : readList column with
      | error error =>
          rw [found] at outputsRead
          cases outputsRead
      | ok items => exact ⟨items, rfl⟩

/-! ## Written rows -/

/-- The row was written by a transition of the payload to the state. -/
structure IsWritten (row : Row) (key : Key) (state : State) (moment : Time.Instant) : Prop where
  key : row.key = key
  packed : row.stateUpdated = pack state moment
  readable : row.IsReadable

theorem fresh_isWritten (decoded : key.IsDecoded) (storable : moment.IsStorable) (state : State) :
    (Table.fresh key state moment).IsWritten key state moment := by
  have time := Account.readTime_stored key storable
  have column : (Table.fresh key state moment).executions = writeList [] := rfl
  refine ⟨rfl, rfl, decoded.ofPartition, ⟨state, ofPacked?_pack state moment⟩, ⟨_, time⟩,
    ⟨_, time⟩, ⟨[], ?_⟩, nofun⟩
  rw [column, Account.readList_writeList]

theorem IsReadable.moved (readable : row.IsReadable) (storable : moment.IsStorable)
    (state : State) : (Table.moved row state moment).IsWritten row.key state moment := by
  refine ⟨rfl, rfl, readable.partition, ⟨state, ofPacked?_pack state moment⟩, readable.created,
    ⟨_, Account.readTime_stored row.key storable⟩, readable.executions, readable.outputs⟩

/-- Other lists that read, and any error, may be written beside. -/
theorem IsWritten.withColumns (written : row.IsWritten key state moment) {executions : String}
    {outputs : Option String} (read : ∃ items, readList executions = .ok items)
    (outputsRead : ∀ column, outputs = some column → ∃ items, readList column = .ok items)
    (lastError : Option String) :
    { row with executions, outputs, lastError }.IsWritten key state moment := by
  rcases written with ⟨rfl, packed, readable⟩
  exact ⟨rfl, packed, readable.partition, readable.packed, readable.created, readable.updated,
    read, outputsRead⟩

theorem IsWritten.record_state (written : row.IsWritten key state moment) {record : Record}
    (shown : row.IsShownBy record) : record.state = state := by
  have read := shown.state
  rw [written.packed, ofPacked?_pack] at read
  exact (Option.some.inj read).symm

/-- A column that reads is extended to one that reads. -/
theorem exists_extend? {column : String} (read : ∃ items, readList column = .ok items)
    (execution : String) :
    ∃ extended, extend? column execution = some extended ∧
      ∃ items, readList extended = .ok items := by
  rcases read with ⟨items, read⟩
  rw [extend?, read]
  simp only
  split
  · exact ⟨column, rfl, items, read⟩
  · exact ⟨_, rfl, _, Account.readList_writeList _⟩

end Row

namespace Table

/-- Every row reads, and there is at most one for each key. -/
structure IsReadable (table : Table) : Prop where
  distinct : table.IsDistinct
  reads : ∀ row ∈ table, ∃ record, row.record = .ok record

section

variable {table : Table} {key : Key} {state : State} {moment : Time.Instant}

theorem IsReadable.find? (readable : table.IsReadable) {row : Row}
    (found : table.find? key = some row) : row.IsReadable ∧ row.key = key := by
  rcases mem_of_find? found with ⟨member, same⟩
  rcases readable.reads row member with ⟨record, reads⟩
  exact ⟨Row.isReadable_of_record reads, same⟩

theorem IsReadable.writeExecution (readable : table.IsReadable) (decoded : key.IsDecoded)
    (storable : moment.IsStorable) (state : State) (execution : String) :
    ∃ row, table.writeExecution key state execution moment = some (row, table.put row) ∧
      row.IsWritten key state moment := by
  rw [Table.writeExecution]
  cases found : table.find? key with
  | none =>
      have fresh := Row.fresh_isWritten decoded storable state
      exact ⟨_, rfl, fresh.withColumns ⟨_, Account.readList_writeList [execution]⟩
        fresh.readable.outputs none⟩
  | some row =>
      rcases readable.find? found with ⟨reads, rfl⟩
      rcases Row.exists_extend? reads.executions execution with ⟨column, extended, read⟩
      refine ⟨{ moved row state moment with executions := column, lastError := none }, ?_, ?_⟩
      · simp only [extended, Option.map_some]
      · exact (reads.moved storable state).withColumns read reads.outputs none

theorem IsReadable.complete (readable : table.IsReadable) (decoded : key.IsDecoded)
    (storable : moment.IsStorable) (outputs : Option (List String)) :
    ∃ row, table.complete key outputs moment = (row, table.put row) ∧
      row.IsWritten key .completed moment := by
  have column : ∀ column, outputs.map Row.writeList = some column →
      ∃ items, Row.readList column = .ok items := by
    intro column present
    rw [Option.map_eq_some_iff] at present
    rcases present with ⟨items, _, rfl⟩
    exact ⟨items, Account.readList_writeList items⟩
  rw [Table.complete]
  cases found : table.find? key with
  | none =>
      have fresh := Row.fresh_isWritten decoded storable .completed
      exact ⟨_, rfl, fresh.withColumns fresh.readable.executions column none⟩
  | some row =>
      rcases readable.find? found with ⟨reads, rfl⟩
      refine ⟨_, rfl, (reads.moved storable .completed).withColumns reads.executions ?_ none⟩
      cases outputs with
      | none => exact reads.outputs
      | some outputs => exact column

theorem IsReadable.finish (readable : table.IsReadable) (decoded : key.IsDecoded)
    (storable : moment.IsStorable) (state : State) (error : Option String) :
    ∃ row, table.finish key state error moment = (row, table.put row) ∧
      row.IsWritten key state moment := by
  rw [Table.finish]
  cases found : table.find? key with
  | none =>
      have fresh := Row.fresh_isWritten decoded storable state
      exact ⟨_, rfl, fresh.withColumns fresh.readable.executions fresh.readable.outputs error⟩
  | some row =>
      rcases readable.find? found with ⟨reads, rfl⟩
      exact ⟨_, rfl, (reads.moved storable state).withColumns reads.executions reads.outputs error⟩

/-- The guarded statement writes unless a row holds it back, and is never left without a list to
add to. -/
theorem IsReadable.claim (readable : table.IsReadable) (decoded : key.IsDecoded)
    (storable : moment.IsStorable) (execution : String) :
    (∃ row, table.find? key = some row ∧ row.isClaimable = false ∧
      table.claim key execution moment = .refused) ∨
    ∃ row, table.claim key execution moment = .written row (table.put row) ∧
      row.IsWritten key .claimed moment := by
  rw [Table.claim]
  rcases readable.writeExecution decoded storable .claimed execution with ⟨row, writes, written⟩
  rw [writes]
  cases table.find? key with
  | none => exact .inr ⟨row, rfl, written⟩
  | some holder =>
      by_cases free : holder.isClaimable = true
      · refine .inr ⟨row, ?_, written⟩
        simp only [if_pos free]
      · refine .inl ⟨holder, rfl, eq_false_of_ne_true free, ?_⟩
        simp only [if_neg free]

/-- A table stays readable when a readable row is put into it. -/
theorem IsReadable.put (readable : table.IsReadable) {row : Row} (reads : row.IsReadable) :
    (table.put row).IsReadable where
  distinct := readable.distinct.put row
  reads other member := by
    have found := (readable.distinct.put row).find?_key member
    rw [find?_put] at found
    by_cases same : other.key = row.key
    · rw [if_pos same] at found
      cases found
      rcases reads.shown with ⟨record, shown⟩
      exact ⟨record, shown.reads⟩
    · rw [if_neg same] at found
      exact readable.reads other (mem_of_find? found).1

theorem IsReadable.erase (readable : table.IsReadable) (key : Key) : (table.erase key).IsReadable where
  distinct := readable.distinct.erase key
  reads row member := readable.reads row (List.mem_filter.mp member).1

/-- Outputs are replaced in the row that is there, which is written back so that it reads. -/
theorem IsReadable.setOutputs (readable : table.IsReadable) (storable : moment.IsStorable)
    {outputs : List String} {row : Row} {later : Table}
    (writes : table.setOutputs key outputs moment = some (row, later)) :
    (∃ record, row.record = .ok record) ∧ later.IsReadable := by
  rw [Table.setOutputs, Option.map_eq_some_iff] at writes
  rcases writes with ⟨before, found, written⟩
  cases written
  have reads := (readable.find? found).1
  have same : Row.IsReadable
      { before with outputs := some (Row.writeList outputs), updated := moment.stored } := by
    refine ⟨reads.partition, reads.packed, reads.created,
      ⟨_, Account.readTime_stored before.key storable⟩, reads.executions, ?_⟩
    intro column present
    cases present
    exact ⟨outputs, Account.readList_writeList outputs⟩
  rcases same.shown with ⟨record, shown⟩
  exact ⟨⟨record, shown.reads⟩, readable.put same⟩

/-- The rows of accounts read. -/
theorem Holds.isReadable {accounts : Accounts} (holds : table.Holds accounts) :
    table.IsReadable where
  distinct := holds.distinct
  reads row member := by
    rcases holds.row_of_mem member with ⟨account, kept, same⟩
    rw [same]
    exact ⟨_, Account.record_row (holds.decoded _ _ kept) (holds.storable _ _ kept)⟩

end

end Table

/-! ## Transitions -/

namespace Store

/-- All that a transition of a readable table can come to: the row that holds the payload keeps a
claim from writing, or the row that was written is shown. -/
inductive Settled (store : Store) (table : Table) (key : Key) (state : State)
    (moment : Time.Instant) : Reply Store Record → Prop
  | held {row : Row} {record : Record} (claims : state = .claimed)
      (found : table.find? key = some row) (held : row.isClaimable = false)
      (reads : row.record = .ok record) :
      Settled store table key state moment
        ⟨.error (.alreadyClaimed key.payloadId (some record.state) record.latestExecution), store,
          [.operation .claim, .claimConflict, .operation .get]⟩
  | written {row : Row} {record : Record} (written : row.IsWritten key state moment)
      (shown : row.IsShownBy record) (operation : Operation) :
      Settled store table key state moment
        ⟨.ok record, { store with table := some (table.put row) },
          [.operation operation, .transition state]⟩

variable {store : Store} {table : Table} {key : Key} {state : State} {moment : Time.Instant}

theorem wrote_settled {row : Row} (written : row.IsWritten key state moment)
    (operation : Operation) :
    Settled store table key state moment
      (store.wrote operation state row (table.put row)) := by
  rcases written.readable.shown with ⟨record, shown⟩
  rw [wrote, shown.reads]
  exact .written written shown _

theorem transition_settled (present : store.table = some table) (operation : Operation)
    {statement : Table → Option (Row × Table)}
    (writes : ∃ row, statement table = some (row, table.put row) ∧
      row.IsWritten key state moment) :
    Settled store table key state moment (store.transition operation state statement) := by
  rcases writes with ⟨row, writes, written⟩
  rw [transition, present, Option.bind_some, writes]
  exact wrote_settled written operation

theorem claim_settled (present : store.table = some table) (readable : table.IsReadable)
    (decoded : key.IsDecoded) (storable : moment.IsStorable) (execution : String) :
    Settled store table key .claimed moment (store.claim key execution moment) := by
  rw [claim, present]
  rcases readable.claim decoded storable execution with
    ⟨row, found, held, refused⟩ | ⟨row, writes, written⟩
  · rcases readable.reads row (Table.mem_of_find? found).1 with ⟨record, reads⟩
    have holder : store.get key = ⟨.ok (some record), store, [.operation .get]⟩ := by
      simp only [get, answer, present, found, reads]
      rfl
    simp only [refused, holder]
    exact .held rfl found held reads
  · simp only [writes]
    exact wrote_settled written .claim

theorem finish_settled (present : store.table = some table) (readable : table.IsReadable)
    (decoded : key.IsDecoded) (storable : moment.IsStorable) (operation : Operation)
    (state : State) (error : Option String) :
    Settled store table key state moment
      (store.transition operation state fun table => some (table.finish key state error moment)) := by
  apply transition_settled present
  rcases readable.finish decoded storable state error with ⟨row, writes, written⟩
  exact ⟨row, congrArg some writes, written⟩

end Store
end PayloadLedger
