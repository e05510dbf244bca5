import PayloadLedger.Proofs.Store.Claiming
import PayloadLedger.Proofs.Store.Readable

namespace PayloadLedger

/-!
What operations on the store report.

A step on a store that can be read is refused because the payload is held, or moves the payload to
the state that it asks for, or leaves its state alone.  What it reports tells which of these it was.
A store without its table carries out no step at all.  A reading reports that it took place and how
it failed, and nothing else.
-/

/-- The sample tells of the call itself and not of what it did. -/
def Sample.isTechnical : Sample → Bool
  | operation _ | storeError _ _ => true
  | transition _ | claimConflict | logWrite _ | notification _ _ => false

namespace Reply

/-- The reply leaves the place as it is, and what it reports is technical. -/
structure IsReading (reply : Reply Place α) (place : Place) : Prop where
  after : reply.after = place
  technical : ∀ sample ∈ reply.samples, sample.isTechnical = true

theorem IsReading.map {reply : Reply Place α} {place : Place} (reads : reply.IsReading place)
    (change : α → β) : (reply.map change).IsReading place :=
  ⟨reads.after, reads.technical⟩

theorem technical_errorSamples (operation : Operation) (result : Except StoreError α) :
    ∀ sample ∈ errorSamples operation result, sample.isTechnical = true := by
  intro sample member
  cases result with
  | ok value => cases member
  | error error =>
      simp only [errorSamples] at member
      split at member
      · cases member
      · rw [List.mem_singleton.mp member]
        rfl

end Reply

namespace Store

/-! ## Steps -/

/-- The table, unless it is lost, can be read. -/
def IsReadable (store : Store) : Prop :=
  ∀ table, store.table = some table → table.IsReadable

/-- All that a step can come to on a store that can be read. -/
inductive Reports (store : Store) (step : Step) : Reply Store (Option Record) → Prop
  | refused {error : StoreError} (claims : step.change.isClaim = true)
      (conflict : error.isAlreadyClaimed = true) :
      Reports store step ⟨.error error, store, [.operation .claim, .claimConflict, .operation .get]⟩
  | moved {record : Record} {after : Store} (target : step.change.target = some record.state)
      (readable : after.IsReadable) (operation : Operation) :
      Reports store step
        ⟨.ok (some record), after, [.operation operation, .transition record.state]⟩
  | stayed {record : Option Record} {after : Store} (target : step.change.target = none)
      (readable : after.IsReadable) (operation : Operation) :
      Reports store step ⟨.ok record, after, [.operation operation]⟩
  | lost (operation : Operation) :
      Reports store step
        ⟨.error .database, store, [.operation operation, .storeError operation "database"]⟩

variable {store : Store} {table : Table} {step : Step}

theorem isReadable_of_table (present : store.table = some table) (readable : table.IsReadable) :
    store.IsReadable := by
  intro other same
  cases present.symm.trans same
  exact readable

theorem Reports.readable {reply : Reply Store (Option Record)} (reports : Reports store step reply)
    (readable : store.IsReadable) : reply.after.IsReadable := by
  cases reports with
  | refused claims conflict => exact readable
  | moved target later operation => exact later
  | stayed target later operation => exact later
  | lost operation => exact readable

theorem perform_lost (lost : store.table = none) (step : Step) :
    Reports store step (store.perform step) := by
  rcases step with ⟨key, moment, change⟩
  cases change with
  | claim execution =>
      simp only [perform, claim, lost]
      exact .lost .claim
  | setOutputs outputs =>
      simp only [perform, setOutputs, lost]
      exact .lost .setOutputs
  | delete =>
      simp only [perform, delete, lost]
      exact .lost .delete
  | _ =>
      simp only [perform, start, complete, fail, invalidate, abort, transition, lost,
        Option.bind_none]
      exact .lost _

theorem Reports.of_settled {state : State} (target : step.change.target = some state)
    (readable : table.IsReadable) {reply : Reply Store Record}
    (settled : store.Settled table step.key state step.moment reply) :
    Reports store step (reply.map some) := by
  cases settled with
  | held claims found held reads =>
      refine .refused ?_ rfl
      rw [claims] at target
      cases change : step.change with
      | claim execution => rfl
      | _ => rw [change] at target; cases target
  | written written shown operation =>
      have state := written.record_state shown
      rw [← state] at target ⊢
      exact .moved target (isReadable_of_table rfl (readable.put written.readable)) operation

/-- What one step reports. -/
theorem perform_reports (readable : store.IsReadable) (proper : step.IsProper) :
    Reports store step (store.perform step) := by
  cases present : store.table with
  | none => exact perform_lost present step
  | some table =>
      have reads := readable table present
      rcases step with ⟨key, moment, change⟩
      rcases proper with ⟨decoded, storable⟩
      have finished := finish_settled present reads decoded storable
      cases change with
      | claim execution =>
          exact .of_settled rfl reads (claim_settled present reads decoded storable execution)
      | start execution =>
          have writes := reads.writeExecution decoded storable .processing execution
          exact .of_settled rfl reads (transition_settled present .start writes)
      | complete outputs =>
          rcases reads.complete decoded storable outputs with ⟨row, writes, written⟩
          exact .of_settled rfl reads
            (transition_settled present .complete ⟨row, congrArg some writes, written⟩)
      | fail message => exact .of_settled rfl reads (finished .fail .failed message)
      | invalidate message => exact .of_settled rfl reads (finished .invalidate .invalid message)
      | abort => exact .of_settled rfl reads (finished .abort .aborted none)
      | setOutputs outputs =>
          simp only [perform, setOutputs, present]
          cases writes : table.setOutputs key outputs moment with
          | none => exact .stayed rfl readable .setOutputs
          | some written =>
              rcases reads.setOutputs storable writes with ⟨⟨record, shown⟩, later⟩
              simp only [shown]
              exact .stayed rfl (isReadable_of_table rfl later) .setOutputs
      | delete =>
          simp only [perform, delete, present]
          exact .stayed rfl (isReadable_of_table rfl (reads.erase key)) .delete

/-! ## Readings -/

variable (store)

theorem answer_isReading (operation : Operation) (result : Except StoreError α) :
    (store.answer operation result).IsReading store :=
  ⟨rfl, List.forall_mem_cons.mpr ⟨rfl, Reply.technical_errorSamples operation result⟩⟩

theorem refuse_isReading (operation : Operation) (error : StoreError) :
    (store.refuse (α := α) operation error).IsReading store :=
  ⟨rfl, List.forall_mem_cons.mpr ⟨rfl, nofun⟩⟩

theorem query_isReading (partition : String) (filter : Filter) (limit : Nat)
    (token : Option String) (now : Time.Instant) :
    (store.query partition filter limit token now).IsReading store := by
  unfold query
  extract_lets prepared
  clear_value prepared
  cases prepared with
  | error error => exact store.refuse_isReading .query error
  | ok read => exact store.answer_isReading .query _

theorem count_isReading (partition : String) (filter : Filter) (limit : Option Nat)
    (now : Time.Instant) : (store.count partition filter limit now).IsReading store := by
  unfold count
  extract_lets prepared
  clear_value prepared
  cases prepared with
  | error error => exact store.refuse_isReading .count error
  | ok pinned => exact store.answer_isReading .count _

theorem getItems_isReading (partition : String) (filter : Filter) (limit : Nat)
    (now : Time.Instant) : (store.getItems partition filter limit now).IsReading store := by
  have technical (fuel wanted : Nat) (token : Option String) :
      ∀ sample ∈ (store.collect partition filter now fuel wanted token).2,
        sample.isTechnical = true := by
    fun_induction store.collect partition filter now fuel wanted token with
    | case1 => exact nofun
    | case2 => exact nofun
    | case3 => exact (store.query_isReading partition filter _ _ now).technical
    | case4 => exact (store.query_isReading partition filter _ _ now).technical
    | case5 fuel wanted token _ reply page _ next _ others samples rest ih =>
        rw [rest] at ih
        exact List.forall_mem_append.mpr
          ⟨(store.query_isReading partition filter wanted token now).technical, ih⟩
  exact ⟨rfl, technical limit limit none⟩

theorem summary_isReading (partition : String) (since : Option String) (limit : Option Nat)
    (now : Time.Instant) : (store.summary partition since limit now).IsReading store := by
  have technical (states : List State) :
      ∀ sample ∈ (store.countStates partition since limit now states).2,
        sample.isTechnical = true := by
    fun_induction store.countStates partition since limit now states with
    | case1 => exact nofun
    | case2 => exact (store.count_isReading partition _ limit now).technical
    | case3 state states reply count _ others samples rest ih =>
        rw [rest] at ih
        exact List.forall_mem_append.mpr
          ⟨(store.count_isReading partition _ limit now).technical, ih⟩
  unfold summary
  split
  · exact ⟨rfl, nofun⟩
  · exact ⟨rfl, technical State.all⟩

end Store
end PayloadLedger
