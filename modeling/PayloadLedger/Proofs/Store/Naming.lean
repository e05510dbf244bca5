import PayloadLedger.Proofs.Key.Grammar
import PayloadLedger.Proofs.Store.Paging
import PayloadLedger.Proofs.Store.Readable

namespace PayloadLedger

/-!
The identifiers that rows show.

The record of a row shows the identifier of the row's key and has that key, whatever the key is.
Rows that the ledger wrote for decoded keys are given back by the identifiers that they show, so
that no two of them show the same one.
-/

namespace Row

variable {row : Row} {record : Record}

theorem payloadId_of_record (reads : row.record = .ok record) :
    record.payloadId = row.key.payloadId := by
  rcases (isReadable_of_record reads).shown with ⟨_, shown⟩
  cases reads.symm.trans shown.reads
  exact shown.payloadId

/-- The collections and the workflow of a record make up the partition that they come from. -/
theorem key_of_record (reads : row.record = .ok record) : record.key = row.key := by
  have readable := isReadable_of_record reads
  rcases readable.shown with ⟨_, shown⟩
  cases reads.symm.trans shown.reads
  have divided : row.key.IsDivided := .of_ofPartition readable.partition
  rw [Record.key, shown.collections, shown.workflow, shown.items, ← divided.joined]

end Row

namespace Key

/-! ## Acceptance of identifiers -/

/-- An identifier is decoded exactly if it is spelled like one.  There is one way at most to spell
it, and the key has the parts that are spelled: it gives them back, passes the check of its
partition, and is the key of the record of every row that is stored under it.  Everything else is
malformed. -/
theorem decodes_spelled (payloadId : String) :
    (∀ key, decode payloadId = .ok key ↔
      ∃ collections workflow itemIds, IsSpelled payloadId collections workflow itemIds ∧
        key = ⟨collections ++ "_" ++ workflow, itemIds.getD ""⟩) ∧
    (∀ collections workflow itemIds, IsSpelled payloadId collections workflow itemIds →
      let key : Key := ⟨collections ++ "_" ++ workflow, itemIds.getD ""⟩
      (∀ otherCollections otherWorkflow otherItemIds,
        IsSpelled payloadId otherCollections otherWorkflow otherItemIds →
        otherCollections = collections ∧ otherWorkflow = workflow ∧ otherItemIds = itemIds) ∧
      key.collections = collections ∧ key.workflow = workflow ∧
      ofPartition key.partition key.itemIds = .ok key ∧
      ∀ (row : Row) (record : Record), row.key = key → row.record = .ok record →
        record.key = key) ∧
    ((¬ ∃ collections workflow itemIds, IsSpelled payloadId collections workflow itemIds) →
      ∃ error, decode payloadId = .error error ∧ error.kind = .malformedIdentifier) := by
  refine ⟨fun key => decode_eq_ok_iff, ?_, ?_⟩
  · intro collections workflow itemIds spelled key
    have decoded : key.IsDecoded := ⟨payloadId, spelled.decode⟩
    refine ⟨fun _ _ _ again => spelled.unique again, spelled.parts.collections_eq _,
      spelled.parts.workflow_eq _, decoded.ofPartition, ?_⟩
    intro row record same reads
    rw [Row.key_of_record reads, same]
  · intro unspelled
    cases named : decode payloadId with
    | error error => exact ⟨error, rfl, kind_of_decode named⟩
    | ok key =>
        rcases decode_eq_ok_iff.mp named with ⟨collections, workflow, itemIds, spelled, _⟩
        exact absurd ⟨collections, workflow, itemIds, spelled⟩ unspelled

/-- Collections with an underscore, and items that look like the end of another identifier.  An
underscore in the workflow would make the partition ambiguous. -/
theorem decodes_spelled_marked_items :
    let key : Key := ⟨"a_b_w", "x/workflow-y/"⟩
    IsSpelled "a_b/workflow-w/x/workflow-y/" "a_b" "w" (some "x/workflow-y/") ∧
      decode "a_b/workflow-w/x/workflow-y/" = .ok key ∧ key.collections = "a_b" ∧
      key.workflow = "w" ∧ ofPartition key.partition key.itemIds = .ok key ∧
      ∃ error, decode "a/workflow-b_w/x" = .error error ∧ error.kind = .malformedIdentifier := by
  intro key
  have spelled : IsSpelled "a_b/workflow-w/x/workflow-y/" "a_b" "w" (some "x/workflow-y/") :=
    ⟨by decide, by decide, by decide, by decide, by decide, by decide⟩
  have accepts := decodes_spelled "a_b/workflow-w/x/workflow-y/"
  rcases accepts.2.1 _ _ _ spelled with ⟨_, collections, workflow, passed, _⟩
  have refuses := (decodes_spelled "a/workflow-b_w/x").2.2
  refine ⟨spelled, (accepts.1 key).mpr ⟨_, _, _, spelled, rfl⟩, collections, workflow, passed,
    refuses ?_⟩
  intro found
  rcases found with ⟨_, _, _, other⟩
  have named := ((decodes_spelled "a/workflow-b_w/x").1 _).mpr ⟨_, _, _, other, rfl⟩
  have failed : (decode "a/workflow-b_w/x").isOk = false := by decide
  rw [named] at failed
  cases failed

/-! ## Keys that their identifiers give back -/

/-- A key whose partition is accepted has an identifier, which gives the key back exactly if its
collections hold no mark and its workflow no slash.  Otherwise the identifier is malformed, or it
names another key, which is accepted too and has the same identifier.  The rows that the ledger
wrote for decoded keys are all given back, and no two of them show the same identifier. -/
theorem given_back_iff (key : Key) :
    (∀ payloadId, payloadId? key.partition key.itemIds = .ok payloadId ↔
      ofPartition key.partition key.itemIds = .ok key ∧ payloadId = key.payloadId) ∧
    (ofPartition key.partition key.itemIds = .ok key →
      (decode key.payloadId = .ok key ↔
        ¬ "/workflow-".toList <:+: key.collections.toList ∧ '/' ∉ key.workflow.toList) ∧
      (decode key.payloadId ≠ .ok key →
        (∃ error, decode key.payloadId = .error error ∧ error.kind = .malformedIdentifier) ∨
        ∃ other, other ≠ key ∧ decode key.payloadId = .ok other ∧
          ofPartition other.partition other.itemIds = .ok other ∧
          other.payloadId = key.payloadId)) ∧
    ∀ (sliceSize limitCap : Nat) (steps : List Step), (∀ step ∈ steps, step.IsProper) →
      ∀ table, ((Store.empty sliceSize limitCap).run steps).table = some table →
        ∀ row ∈ table, ∃ record, row.record = .ok record ∧
          decode record.payloadId = .ok row.key ∧
          ∀ other ∈ table, ∀ otherRecord, other.record = .ok otherRecord →
            otherRecord.payloadId = record.payloadId → other = row := by
  refine ⟨key.payloadId?_eq_ok_iff, ?_, ?_⟩
  · intro accepted
    have divided := IsDivided.of_ofPartition accepted
    refine ⟨?_, ?_⟩
    · have given : decode key.payloadId = .ok key ↔ key.IsDecoded :=
        ⟨fun named => ⟨_, named⟩, IsDecoded.decode_payloadId⟩
      exact given.trans (divided.isDecoded_iff.trans divided.parts_iff)
    intro lost
    cases named : decode key.payloadId with
    | error error => exact .inl ⟨error, rfl, kind_of_decode named⟩
    | ok other =>
        refine .inr ⟨other, ?_, rfl, IsDecoded.ofPartition ⟨_, named⟩,
          payloadId_of_decode_payloadId named⟩
        rintro rfl
        exact lost named
  · intro sliceSize limitCap steps proper table present row member
    rcases (Store.empty_holds sliceSize limitCap).run proper with ⟨held, same, kept⟩
    cases present.symm.trans same
    have decoded : ∀ row ∈ table, row.key.IsDecoded := by
      intro row member
      rcases kept.row_of_mem member with ⟨account, found, _⟩
      exact kept.decoded row.key account found
    have reads := kept.isOrderly.reads row member
    refine ⟨_, reads, ?_, ?_⟩
    · rw [Row.payloadId_of_record reads]
      exact (decoded row member).decode_payloadId
    · intro other otherMember otherRecord otherReads shared
      rw [Row.payloadId_of_record reads, Row.payloadId_of_record otherReads] at shared
      have same := (decoded other otherMember).eq_of_payloadId (decoded row member) shared
      have found := kept.distinct.find?_key otherMember
      rw [same, kept.distinct.find?_key member] at found
      exact (Option.some.inj found).symm

/-- A slash in the workflow moves on into the item ids, and two accepted keys share an
identifier. -/
theorem given_back_iff_shared :
    let key : Key := ⟨"c_a/b", "i"⟩
    let other : Key := ⟨"c_a", "b/i"⟩
    ofPartition key.partition key.itemIds = .ok key ∧
      ofPartition other.partition other.itemIds = .ok other ∧
      decode key.payloadId ≠ .ok key ∧ decode other.payloadId = .ok other ∧
      decode key.payloadId = .ok other ∧ other.payloadId = key.payloadId := by
  intro key other
  have accepted : ofPartition "c_a/b" "i" = .ok ⟨"c_a/b", "i"⟩ := rfl
  have otherAccepted : ofPartition "c_a" "b/i" = .ok ⟨"c_a", "b/i"⟩ := rfl
  rcases (given_back_iff key).2.1 accepted with ⟨given, instead⟩
  have lost : decode key.payloadId ≠ .ok key := fun named =>
    absurd (given.mp named).2 (by decide)
  have kept : decode other.payloadId = .ok other :=
    ((given_back_iff other).2.1 otherAccepted).1.mpr ⟨by decide, by decide⟩
  rcases instead lost with ⟨error, failed, _⟩ | ⟨found, _, named, _, shared⟩
  · have succeeds : (decode key.payloadId).isOk = true := by decide
    rw [failed] at succeeds
    cases succeeds
  · have same : key.payloadId = other.payloadId := by decide
    rw [same, kept] at named
    cases named
    exact ⟨accepted, otherAccepted, lost, kept, same ▸ kept, shared⟩

end Key
end PayloadLedger
