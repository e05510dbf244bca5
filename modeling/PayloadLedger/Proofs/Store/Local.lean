import PayloadLedger.Proofs.Store.Alike
import PayloadLedger.Proofs.Store.Run

namespace PayloadLedger

/-!
Requests that look at one row.

All payloads share one table, but every statement about a payload looks at the row of its key alone,
and at most puts another row in its place or takes it away.  A request is therefore answered from that
row, and leaves the rows of all other keys as they are.
-/

/-! ## Edits of a table -/

/-- What a request does to a table. -/
inductive Edit
  | keep
  | put (row : Row)
  | erase (key : Key)

namespace Edit

def apply : Edit → Table → Table
  | keep, table => table
  | put row, table => table.put row
  | erase key, table => table.erase key

/-- No row is touched but that of the key. -/
def IsAbout (edit : Edit) (key : Key) : Prop :=
  match edit with
  | keep => True
  | put row => row.key = key
  | erase erased => erased = key

variable {edit : Edit} {key : Key}

theorem find?_apply_of_ne (about : edit.IsAbout key) {other : Key} (different : other ≠ key)
    (table : Table) : (edit.apply table).find? other = table.find? other := by
  cases edit with
  | keep => rfl
  | put row =>
      have elsewhere : other ≠ row.key := fun same => different (same.trans about)
      rw [apply, Table.find?_put, if_neg elsewhere]
  | erase erased =>
      have elsewhere : other ≠ erased := fun same => different (same.trans about)
      rw [apply, Table.find?_erase, if_neg elsewhere]

theorem find?_apply_congr {one other : Table} (same : one.find? key = other.find? key)
    (edit : Edit) : (edit.apply one).find? key = (edit.apply other).find? key := by
  cases edit with
  | keep => exact same
  | put row => rw [apply, apply, Table.find?_put, Table.find?_put, same]
  | erase erased => rw [apply, apply, Table.find?_erase, Table.find?_erase, same]

theorem isDistinct_apply {table : Table} (distinct : table.IsDistinct) (edit : Edit) :
    (edit.apply table).IsDistinct := by
  cases edit with
  | keep => exact distinct
  | put row => exact distinct.put row
  | erase erased => exact distinct.erase erased

end Edit

/-! ## Statements about one key -/

namespace Table

/-- The statement puts the same row of the key, or writes nothing, wherever the key has this row. -/
def IsPointed (statement : Table → Option (Row × Table)) (key : Key) (found : Option Row) : Prop :=
  ∃ written : Option Row, (∀ row, written = some row → row.key = key) ∧
    ∀ table : Table, table.find? key = found →
      statement table = written.map fun row => (row, table.put row)

section

variable {key : Key} {found : Option Row} (own : ∀ row, found = some row → row.key = key)
  (moment : Time.Instant)

include own

theorem writeExecution_isPointed (state : State) (execution : String) :
    IsPointed (fun table => table.writeExecution key state execution moment) key found := by
  cases found with
  | none =>
      refine ⟨some { fresh key state moment with executions := Row.writeList [execution] }, ?_, ?_⟩
      · rintro row ⟨⟩
        rfl
      · intro table here
        simp only [writeExecution, here, Option.map_some]
  | some row =>
      refine ⟨(Row.extend? row.executions execution).map fun executions =>
        { moved row state moment with executions, lastError := none }, ?_, ?_⟩
      · intro written added
        rcases Option.map_eq_some_iff.mp added with ⟨executions, _, rfl⟩
        exact own row rfl
      · intro table here
        simp only [writeExecution, here, Option.map_map]
        rfl

theorem complete_isPointed (outputs : Option (List String)) :
    IsPointed (fun table => some (table.complete key outputs moment)) key found := by
  cases found with
  | none =>
      refine ⟨some { fresh key .completed moment with outputs := outputs.map Row.writeList }, ?_, ?_⟩
      · rintro row ⟨⟩
        rfl
      · intro table here
        simp only [complete, here, Option.map_some]
  | some row =>
      refine ⟨some { moved row .completed moment with
        outputs := (outputs.map Row.writeList).or row.outputs, lastError := none }, ?_, ?_⟩
      · rintro written ⟨⟩
        exact own row rfl
      · intro table here
        simp only [complete, here, Option.map_some]

theorem finish_isPointed (state : State) (error : Option String) :
    IsPointed (fun table => some (table.finish key state error moment)) key found := by
  cases found with
  | none =>
      refine ⟨some { fresh key state moment with lastError := error }, ?_, ?_⟩
      · rintro row ⟨⟩
        rfl
      · intro table here
        simp only [finish, here, Option.map_some]
  | some row =>
      refine ⟨some { moved row state moment with lastError := error }, ?_, ?_⟩
      · rintro written ⟨⟩
        exact own row rfl
      · intro table here
        simp only [finish, here, Option.map_some]

theorem setOutputs_isPointed (outputs : List String) :
    IsPointed (fun table => table.setOutputs key outputs moment) key found := by
  refine ⟨found.map fun row =>
    { row with outputs := some (Row.writeList outputs), updated := moment.stored }, ?_, ?_⟩
  · intro written added
    rcases Option.map_eq_some_iff.mp added with ⟨row, here, rfl⟩
    simpa only [Row.key] using own row here
  · intro table here
    simp only [setOutputs, here, Option.map_map]
    rfl

end

theorem claim_eq_ite (table : Table) (key : Key) (execution : String) (moment : Time.Instant) :
    table.claim key execution moment =
      if (table.find? key).all Row.isClaimable then
        match table.writeExecution key .claimed execution moment with
        | some (row, table) => .written row table
        | none => .failed
      else .refused := by
  rw [claim]
  cases table.find? key <;> rfl

/-- The guarded statement fails, is refused or writes as it does on every table that has the same
row under the key. -/
theorem claim_cases (table : Table) (key : Key) (execution : String) (moment : Time.Instant) :
    (∃ outcome, (outcome = .failed ∨ outcome = .refused) ∧
      ∀ other : Table, other.find? key = table.find? key →
        other.claim key execution moment = outcome) ∨
    ∃ row, row.key = key ∧ ∀ other : Table, other.find? key = table.find? key →
      other.claim key execution moment = .written row (other.put row) := by
  have own : ∀ row, table.find? key = some row → row.key = key := fun _ here =>
    (mem_of_find? here).2
  rcases writeExecution_isPointed own moment .claimed execution with ⟨written, about, alike⟩
  have writes : ∀ other : Table, other.find? key = table.find? key →
      other.writeExecution key .claimed execution moment =
        written.map fun row => (row, other.put row) := alike
  cases free : (table.find? key).all Row.isClaimable with
  | false =>
      refine .inl ⟨.refused, .inr rfl, ?_⟩
      intro other here
      rw [claim_eq_ite, here, free]
      rfl
  | true =>
      cases written with
      | none =>
          refine .inl ⟨.failed, .inl rfl, ?_⟩
          intro other here
          rw [claim_eq_ite, here, free, writes other here]
          rfl
      | some row =>
          refine .inr ⟨row, about row rfl, ?_⟩
          intro other here
          rw [claim_eq_ite, here, free, writes other here]
          rfl

end Table

/-! ## Local requests -/

namespace Store

def edited (store : Store) (edit : Edit) : Store :=
  { store with table := store.table.map edit.apply }

theorem edited_keep (store : Store) : store.edited .keep = store := by
  rcases store with ⟨table, sliceSize, limitCap⟩
  cases table <;> rfl

theorem rowOf?_edited_of_ne {edit : Edit} {key other : Key} (about : edit.IsAbout key)
    (different : other ≠ key) (store : Store) :
    (store.edited edit).rowOf? other = store.rowOf? other := by
  simp only [rowOf?, edited, Option.map_map, Function.comp_def,
    Edit.find?_apply_of_ne about different]

theorem rowOf?_edited_congr {one other : Store} {key : Key}
    (same : one.rowOf? key = other.rowOf? key) (edit : Edit) :
    (one.edited edit).rowOf? key = (other.edited edit).rowOf? key := by
  unfold rowOf? edited at *
  cases present : one.table with
  | none =>
      rw [present, Option.map_none, eq_comm, Option.map_eq_none_iff] at same
      rw [same]
  | some table =>
      rw [present, Option.map_some, eq_comm, Option.map_eq_some_iff] at same
      rcases same with ⟨later, kept, found⟩
      rw [kept]
      exact congrArg some (Edit.find?_apply_congr found.symm edit)

/-- The request is answered alike by all stores that hold the same under the key, and does the same
to that key in each of them. -/
def IsLocal (request : Store → Reply Store α) (key : Key) : Prop :=
  ∀ store : Store, ∃ edit : Edit, edit.IsAbout key ∧
    ∀ other : Store, other.rowOf? key = store.rowOf? key →
      (request other).result = (request store).result ∧
        (request other).after = other.edited edit

theorem IsLocal.map {request : Store → Reply Store α} {key : Key} (isLocal : IsLocal request key)
    (change : α → β) : IsLocal (fun store => (request store).map change) key := by
  intro store
  rcases isLocal store with ⟨edit, about, alike⟩
  refine ⟨edit, about, ?_⟩
  intro other same
  rcases alike other same with ⟨result, after⟩
  exact ⟨congrArg (Except.map change) result, after⟩

/-- The table alone decides what a request does, and of the table the row of the key: it is enough
to look at stores that have their tables, if a store that has lost its table refuses. -/
theorem isLocal_of_table {request : Store → Reply Store α} {key : Key} (operation : Operation)
    (lost : ∀ store : Store, store.table = none →
      request store = store.answer operation (.error .database))
    (present : ∀ table : Table, ∃ edit : Edit, edit.IsAbout key ∧
      ∀ (store : Store) (other : Table), store.table = some other →
        other.find? key = table.find? key →
        (request store).result = (request { table := some table }).result ∧
          (request store).after = { store with table := some (edit.apply other) }) :
    IsLocal request key := by
  intro store
  cases here : store.table with
  | none =>
      refine ⟨.keep, trivial, ?_⟩
      intro other same
      rw [rowOf?, rowOf?, here, Option.map_none, Option.map_eq_none_iff] at same
      rw [edited_keep, lost other same, lost store here]
      exact ⟨rfl, rfl⟩
  | some table =>
      rcases present table with ⟨edit, about, alike⟩
      refine ⟨edit, about, ?_⟩
      intro other same
      rw [rowOf?, rowOf?, here, Option.map_some, Option.map_eq_some_iff] at same
      rcases same with ⟨later, kept, found⟩
      rcases alike other later kept found with ⟨result, after⟩
      rw [result, after, (alike store table here rfl).1, edited, kept]
      exact ⟨rfl, rfl⟩

theorem keep_table {store : Store} {table : Table} (present : store.table = some table) :
    store = { store with table := some (Edit.keep.apply table) } := by
  rw [Edit.apply, ← present]

theorem transition_isLocal {statement : Table → Option (Row × Table)} {key : Key}
    (pointed : ∀ found, (∀ row, found = some row → row.key = key) →
      Table.IsPointed statement key found)
    (operation : Operation) (state : State) :
    IsLocal (fun store => store.transition operation state statement) key := by
  apply isLocal_of_table operation
  · intro store lost
    rw [transition, lost, Option.bind_none]
  · intro table
    rcases pointed (table.find? key) fun _ here => (Table.mem_of_find? here).2 with
      ⟨written, about, writes⟩
    cases written with
    | none =>
        refine ⟨.keep, trivial, ?_⟩
        intro store other present here
        simp only [transition, present, Option.bind_some, writes other here, writes table rfl]
        exact ⟨rfl, keep_table present⟩
    | some row =>
        refine ⟨.put row, about row rfl, ?_⟩
        intro store other present here
        simp only [transition, present, Option.bind_some, writes other here, writes table rfl]
        exact ⟨rfl, rfl⟩

theorem get_isLocal (key : Key) : IsLocal (fun store => store.get key) key := by
  apply isLocal_of_table .get
  · intro store lost
    rw [get, lost]
  · intro table
    refine ⟨.keep, trivial, ?_⟩
    intro store other present here
    simp only [get, present, here]
    exact ⟨rfl, keep_table present⟩

theorem claim_isLocal (key : Key) (execution : String) (moment : Time.Instant) :
    IsLocal (fun store => store.claim key execution moment) key := by
  apply isLocal_of_table .claim
  · intro store lost
    simp only [claim, lost]
  · intro table
    rcases table.claim_cases key execution moment with
      ⟨outcome, rfl | rfl, alike⟩ | ⟨row, about, alike⟩
    · refine ⟨.keep, trivial, ?_⟩
      intro store other present here
      simp only [claim, present, alike other here, alike table rfl]
      exact ⟨rfl, keep_table present⟩
    · refine ⟨.keep, trivial, ?_⟩
      intro store other present here
      simp only [claim, get, present, alike other here, alike table rfl, here]
      exact ⟨rfl, keep_table present⟩
    · refine ⟨.put row, about, ?_⟩
      intro store other present here
      simp only [claim, present, alike other here, alike table rfl]
      exact ⟨rfl, rfl⟩

theorem setOutputs_isLocal (key : Key) (outputs : List String) (moment : Time.Instant) :
    IsLocal (fun store => store.setOutputs key outputs moment) key := by
  apply isLocal_of_table .setOutputs
  · intro store lost
    simp only [setOutputs, lost]
  · intro table
    have own : ∀ row, table.find? key = some row → row.key = key := fun _ here =>
      (Table.mem_of_find? here).2
    rcases Table.setOutputs_isPointed own moment outputs with ⟨written, about, alike⟩
    have writes : ∀ other : Table, other.find? key = table.find? key →
        other.setOutputs key outputs moment = written.map fun row => (row, other.put row) := alike
    cases written with
    | none =>
        refine ⟨.keep, trivial, ?_⟩
        intro store other present here
        simp only [setOutputs, present, writes other here, writes table rfl, Option.map_none]
        exact ⟨rfl, keep_table present⟩
    | some row =>
        refine ⟨.put row, about row rfl, ?_⟩
        intro store other present here
        simp only [setOutputs, present, writes other here, writes table rfl, Option.map_some]
        exact ⟨rfl, rfl⟩

theorem delete_isLocal (key : Key) : IsLocal (fun store => store.delete key) key := by
  apply isLocal_of_table .delete
  · intro store lost
    simp only [delete, lost]
  · intro table
    refine ⟨.erase key, rfl, ?_⟩
    intro store other present here
    simp only [delete, present]
    exact ⟨rfl, rfl⟩

theorem perform_isLocal (step : Step) : IsLocal (fun store => store.perform step) step.key := by
  rcases step with ⟨key, moment, change⟩
  cases change with
  | claim execution => exact (claim_isLocal key execution moment).map some
  | start execution =>
      refine IsLocal.map (transition_isLocal ?_ .start .processing) some
      exact fun _ own => Table.writeExecution_isPointed own moment .processing execution
  | complete outputs =>
      refine IsLocal.map (transition_isLocal ?_ .complete .completed) some
      exact fun _ own => Table.complete_isPointed own moment outputs
  | fail message =>
      refine IsLocal.map (transition_isLocal ?_ .fail .failed) some
      exact fun _ own => Table.finish_isPointed own moment .failed message
  | invalidate message =>
      refine IsLocal.map (transition_isLocal ?_ .invalidate .invalid) some
      exact fun _ own => Table.finish_isPointed own moment .invalid message
  | abort =>
      refine IsLocal.map (transition_isLocal ?_ .abort .aborted) some
      exact fun _ own => Table.finish_isPointed own moment .aborted none
  | setOutputs outputs => exact setOutputs_isLocal key outputs moment
  | delete => exact (delete_isLocal key).map fun _ => none

end Store
end PayloadLedger
