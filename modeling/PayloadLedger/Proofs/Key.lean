import PayloadLedger.Key
import PayloadLedger.Proofs.Text.Split

namespace PayloadLedger
namespace Key

/-!
Keys and their parts.

A key is made of collections, a workflow and item ids.  A workflow without underscores is found
again behind the last underscore of the partition, so that a key gives its parts back and every
check of a stored partition lets it pass.  An identifier that can be decoded has such parts, and
its key is made of them.
-/

/-- Some payload identifier names the key. -/
def IsDecoded (key : Key) : Prop :=
  ∃ payloadId, decode payloadId = .ok key

theorem checkWorkflow_eq_ok_iff {workflow : String} :
    checkWorkflow workflow = .ok () ↔
      workflow.toList ≠ [] ∧ '/' ∉ workflow.toList ∧ '_' ∉ workflow.toList := by
  rw [← not_or, checkWorkflow]
  split
  · next empty => simp only [reduceCtorEq, empty, ne_eq, not_true_eq_false, false_and]
  · next filled =>
      split
      · next divided => simp only [reduceCtorEq, divided, not_true_eq_false, and_false]
      · next whole => simp only [ne_eq, filled, whole, not_false_eq_true, and_self]

/-- Two halves are found again if there is something in both and no underscore in the second. -/
theorem splitPartition_append {collections workflow : String} (filled : collections.toList ≠ [])
    (named : workflow.toList ≠ []) (whole : '_' ∉ workflow.toList) :
    splitPartition (collections ++ "_" ++ workflow) = .ok (collections, workflow) := by
  have text : (collections ++ "_" ++ workflow).toList =
      collections.toList ++ '_' :: workflow.toList := by simp
  rw [splitPartition, text, Text.splitLast_append_cons whole]
  cases first : collections.toList with
  | nil => exact absurd first filled
  | cons head tail =>
      cases second : workflow.toList with
      | nil => exact absurd second named
      | cons other others => simp only [← first, ← second, String.ofList_toList]

/-- Collections and a workflow that a key can be made of. -/
structure AreParts (collections workflow : String) : Prop where
  filled : collections.toList ≠ []
  unmarked : ¬ marker <:+: collections.toList
  checked : checkWorkflow workflow = .ok ()

def ofParts (collections workflow itemIds : String) : Key :=
  ⟨collections ++ "_" ++ workflow, itemIds⟩

/-- The identifier that stops behind its workflow, without even a slash. -/
def bareIdentifier (collections workflow : String) : String :=
  collections ++ String.ofList marker ++ workflow

namespace AreParts

variable {collections workflow : String}

theorem splitLast (parts : AreParts collections workflow) (itemIds : String) :
    Text.splitLast '_' (ofParts collections workflow itemIds).partition.toList =
      some (collections.toList, workflow.toList) := by
  have text : (ofParts collections workflow itemIds).partition.toList =
      collections.toList ++ '_' :: workflow.toList := by simp [ofParts]
  rw [text]
  exact Text.splitLast_append_cons (checkWorkflow_eq_ok_iff.mp parts.checked).2.2 _

theorem collections_eq (parts : AreParts collections workflow) (itemIds : String) :
    (ofParts collections workflow itemIds).collections = collections := by
  simp only [Key.collections, parts.splitLast, String.ofList_toList]

theorem workflow_eq (parts : AreParts collections workflow) (itemIds : String) :
    (ofParts collections workflow itemIds).workflow = workflow := by
  simp only [Key.workflow, parts.splitLast, String.ofList_toList]

theorem splitPartition_eq (parts : AreParts collections workflow) (itemIds : String) :
    splitPartition (ofParts collections workflow itemIds).partition =
      .ok (collections, workflow) := by
  rcases checkWorkflow_eq_ok_iff.mp parts.checked with ⟨named, _, whole⟩
  exact splitPartition_append parts.filled named whole

end AreParts

/-- An identifier that is decoded goes on with item ids behind its workflow, or stops there. -/
theorem decode_cases {payloadId : String} {key : Key} (named : decode payloadId = .ok key) :
    ∃ collections workflow, AreParts collections workflow ∧
      ((∃ itemIds, key = ofParts collections workflow itemIds ∧
          payloadId = identifier collections workflow itemIds) ∨
        (key = ofParts collections workflow "" ∧
          payloadId = bareIdentifier collections workflow)) := by
  unfold decode at named
  split at named
  · cases named
  · next collections rest cut =>
      have unmarked := Text.unmarked_of_splitFirst (by decide) cut
      have text := Text.eq_of_splitFirst cut
      dsimp only at named
      split at named
      · cases named
      · next filled =>
          split at named
          · cases named
          · next checked =>
              have parts : AreParts (String.ofList collections) (String.ofList
                  ((Text.splitFirst ['/'] rest).getD (rest, [])).1) := by
                refine ⟨?_, ?_, checked⟩
                · rw [String.toList_ofList]
                  exact filled
                · rw [String.toList_ofList]
                  exact unmarked
              refine ⟨_, _, parts, ?_⟩
              cases named
              cases sides : Text.splitFirst ['/'] rest with
              | none =>
                  right
                  constructor
                  · simp [ofParts, ← String.toList_inj]
                  · simp [bareIdentifier, ← String.toList_inj, text]
              | some both =>
                  left
                  have whole := Text.eq_of_splitFirst sides
                  refine ⟨String.ofList both.2, ?_, ?_⟩
                  · simp [ofParts, ← String.toList_inj]
                  · simp [identifier, ← String.toList_inj, text, whole]

/-- A key that an identifier names passes the check of its partition. -/
theorem IsDecoded.ofPartition {key : Key} (decoded : key.IsDecoded) :
    Key.ofPartition key.partition key.itemIds = .ok key := by
  rcases decoded with ⟨payloadId, named⟩
  rcases decode_cases named with ⟨collections, workflow, parts, ⟨itemIds, rfl, _⟩ | ⟨rfl, _⟩⟩ <;>
    rw [Key.ofPartition, parts.splitPartition_eq] <;> rfl

end Key
end PayloadLedger
