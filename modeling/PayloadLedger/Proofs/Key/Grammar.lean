import PayloadLedger.Proofs.Key.RoundTrip
import PayloadLedger.Proofs.Steps

namespace PayloadLedger
namespace Key

/-!
How identifiers are spelled, and which keys their identifiers give back.

An identifier is spelled in one way at most: its collections end at the first mark, and its
workflow at the first slash behind that.  A text that is not spelled like this is malformed.

A partition is checked for less than an identifier is.  It only has to have something on both sides
of its last underscore, so that its collections may hold a mark and its workflow a slash.  Such a
key has an identifier all the same, which either is malformed or names another key.
-/

/-! ## Spelling -/

/-- The identifier is collections, a mark and a workflow, and then nothing or a slash and item ids.
The collections hold no mark, and the workflow neither of the characters that separate parts. -/
structure IsSpelled (payloadId collections workflow : String) (itemIds : Option String) :
    Prop where
  text : payloadId = collections ++ "/workflow-" ++ workflow ++
    match itemIds with
    | none => ""
    | some itemIds => "/" ++ itemIds
  filled : collections ≠ ""
  unmarked : ¬ "/workflow-".toList <:+: collections.toList
  named : workflow ≠ ""
  undivided : '/' ∉ workflow.toList
  whole : '_' ∉ workflow.toList

section

variable {payloadId collections workflow : String} {itemIds : Option String}

theorem isSpelled_iff : IsSpelled payloadId collections workflow itemIds ↔
    AreParts collections workflow ∧ payloadId = match itemIds with
      | none => bareIdentifier collections workflow
      | some itemIds => identifier collections workflow itemIds := by
  have mark : String.ofList marker = "/workflow-" := rfl
  have same : (collections ++ "/workflow-" ++ workflow ++ match itemIds with
      | none => ""
      | some itemIds => "/" ++ itemIds) = match itemIds with
      | none => bareIdentifier collections workflow
      | some itemIds => identifier collections workflow itemIds := by
    cases itemIds with
    | none => simp only [bareIdentifier, mark, String.append_empty]
    | some itemIds => simp only [identifier, mark, String.append_assoc]
  constructor
  · rintro ⟨text, filled, unmarked, named, undivided, whole⟩
    refine ⟨⟨?_, unmarked, checkWorkflow_eq_ok_iff.mpr ⟨?_, undivided, whole⟩⟩, text.trans same⟩
    · exact mt String.toList_eq_nil_iff.mp filled
    · exact mt String.toList_eq_nil_iff.mp named
  · rintro ⟨⟨filled, unmarked, checked⟩, text⟩
    rcases checkWorkflow_eq_ok_iff.mp checked with ⟨named, undivided, whole⟩
    refine ⟨text.trans same.symm, ?_, unmarked, ?_, undivided, whole⟩
    · exact mt String.toList_eq_nil_iff.mpr filled
    · exact mt String.toList_eq_nil_iff.mpr named

theorem IsSpelled.parts (spelled : IsSpelled payloadId collections workflow itemIds) :
    AreParts collections workflow :=
  (isSpelled_iff.mp spelled).1

theorem IsSpelled.decode (spelled : IsSpelled payloadId collections workflow itemIds) :
    Key.decode payloadId = .ok (ofParts collections workflow (itemIds.getD "")) := by
  rcases isSpelled_iff.mp spelled with ⟨parts, rfl⟩
  cases itemIds with
  | none => exact parts.decode_bareIdentifier
  | some itemIds => exact parts.decode_identifier itemIds

theorem decode_eq_ok_iff {key : Key} : decode payloadId = .ok key ↔
    ∃ collections workflow itemIds, IsSpelled payloadId collections workflow itemIds ∧
      key = ofParts collections workflow (itemIds.getD "") := by
  constructor
  · intro named
    rcases decode_cases named with
      ⟨collections, workflow, parts, ⟨itemIds, rfl, text⟩ | ⟨rfl, text⟩⟩
    · exact ⟨collections, workflow, some itemIds, isSpelled_iff.mpr ⟨parts, text⟩, rfl⟩
    · exact ⟨collections, workflow, none, isSpelled_iff.mpr ⟨parts, text⟩, rfl⟩
  · rintro ⟨collections, workflow, itemIds, spelled, rfl⟩
    exact spelled.decode

/-- The key gives collections and workflow back, and what is left tells whether there is a slash. -/
theorem IsSpelled.unique {otherCollections otherWorkflow : String} {otherItemIds : Option String}
    (spelled : IsSpelled payloadId collections workflow itemIds)
    (again : IsSpelled payloadId otherCollections otherWorkflow otherItemIds) :
    otherCollections = collections ∧ otherWorkflow = workflow ∧ otherItemIds = itemIds := by
  have same := Except.ok.inj (again.decode.symm.trans spelled.decode)
  have collectionsEq := congrArg Key.collections same
  have workflowEq := congrArg Key.workflow same
  rw [spelled.parts.collections_eq, again.parts.collections_eq] at collectionsEq
  rw [spelled.parts.workflow_eq, again.parts.workflow_eq] at workflowEq
  subst collectionsEq workflowEq
  refine ⟨rfl, rfl, ?_⟩
  have text := spelled.text.symm.trans again.text
  rw [String.append_right_inj] at text
  cases itemIds with
  | none =>
      cases otherItemIds with
      | none => rfl
      | some others => exact absurd text.symm (by simp)
  | some own =>
      cases otherItemIds with
      | none => exact absurd text (by simp)
      | some others =>
          dsimp only at text
          rw [String.append_right_inj] at text
          rw [text]

/-- Whatever cannot be decoded is malformed. -/
theorem kind_of_decode {error : InputError} (failed : decode payloadId = .error error) :
    error.kind = .malformedIdentifier := by
  unfold decode at failed
  split at failed
  · cases failed
    rfl
  · dsimp only at failed
    split at failed
    · cases failed
      rfl
    · split at failed
      · cases failed
        rfl
      · cases failed

end

/-! ## Keys of accepted partitions -/

/-- The partition of the key is divided by its last underscore. -/
structure IsDivided (key : Key) : Prop where
  joined : key.partition = key.collections ++ "_" ++ key.workflow
  filled : key.collections.toList ≠ []
  named : key.workflow.toList ≠ []
  whole : '_' ∉ key.workflow.toList

section

variable {key other : Key}

/-- The halves of a partition are the collections and the workflow of its keys. -/
theorem splitPartition_eq_ok {halves : String × String}
    (found : splitPartition key.partition = .ok halves) :
    key.IsDivided ∧ halves = (key.collections, key.workflow) := by
  rw [splitPartition] at found
  split at found
  · next first before second after cut =>
      cases found
      have collections : key.collections = String.ofList (first :: before) := by
        simp only [Key.collections, cut]
      have workflow : key.workflow = String.ofList (second :: after) := by
        simp only [Key.workflow, cut]
      refine ⟨⟨?_, ?_, ?_, ?_⟩, ?_⟩
      · rw [collections, workflow, ← String.toList_inj, Text.eq_of_splitLast cut]
        simp
      · rw [collections, String.toList_ofList]
        exact List.cons_ne_nil first before
      · rw [workflow, String.toList_ofList]
        exact List.cons_ne_nil second after
      · rw [workflow, String.toList_ofList]
        exact Text.notMem_of_splitLast cut
      · rw [collections, workflow]
  · cases found

theorem IsDivided.of_ofPartition (accepted : ofPartition key.partition key.itemIds = .ok other) :
    key.IsDivided := by
  rw [ofPartition] at accepted
  rcases exists_of_bind_eq_ok accepted with ⟨halves, found, _⟩
  exact (splitPartition_eq_ok found).1

/-- An identifier is put together for the keys whose partition is accepted, and for no other. -/
theorem payloadId?_eq_ok_iff (key : Key) (payloadId : String) :
    payloadId? key.partition key.itemIds = .ok payloadId ↔
      ofPartition key.partition key.itemIds = .ok key ∧ payloadId = key.payloadId := by
  rw [payloadId?, ofPartition]
  cases found : splitPartition key.partition with
  | error error =>
      constructor
      · intro failed
        cases failed
      · rintro ⟨failed, _⟩
        cases failed
  | ok halves =>
      cases (splitPartition_eq_ok found).2
      constructor
      · intro same
        exact ⟨rfl, (Except.ok.inj same).symm⟩
      · rintro ⟨_, rfl⟩
        rfl

theorem IsDivided.parts_iff (divided : key.IsDivided) : AreParts key.collections key.workflow ↔
    ¬ marker <:+: key.collections.toList ∧ '/' ∉ key.workflow.toList := by
  constructor
  · exact fun parts => ⟨parts.unmarked, (checkWorkflow_eq_ok_iff.mp parts.checked).2.1⟩
  · rintro ⟨unmarked, undivided⟩
    exact ⟨divided.filled, unmarked,
      checkWorkflow_eq_ok_iff.mpr ⟨divided.named, undivided, divided.whole⟩⟩

theorem AreParts.isDecoded {collections workflow : String} (parts : AreParts collections workflow)
    (itemIds : String) : (ofParts collections workflow itemIds).IsDecoded :=
  ⟨_, parts.decode_identifier itemIds⟩

theorem IsDecoded.decode_payloadId (decoded : key.IsDecoded) :
    decode key.payloadId = .ok key := by
  rcases decoded with ⟨payloadId, named⟩
  rcases decode_eq_ok_iff.mp named with ⟨collections, workflow, itemIds, spelled, rfl⟩
  rw [spelled.parts.payloadId_eq]
  exact spelled.parts.decode_identifier _

/-- Decoded keys are told apart by their identifiers. -/
theorem IsDecoded.eq_of_payloadId (decoded : key.IsDecoded) (otherDecoded : other.IsDecoded)
    (same : key.payloadId = other.payloadId) : key = other := by
  have named := decoded.decode_payloadId
  rw [same, otherDecoded.decode_payloadId] at named
  exact (Except.ok.inj named).symm

/-- Some identifier names a divided key if its halves are parts of an identifier. -/
theorem IsDivided.isDecoded_iff (divided : key.IsDivided) :
    key.IsDecoded ↔ AreParts key.collections key.workflow := by
  constructor
  · rintro ⟨payloadId, named⟩
    rcases decode_eq_ok_iff.mp named with ⟨collections, workflow, itemIds, spelled, rfl⟩
    rw [spelled.parts.collections_eq, spelled.parts.workflow_eq]
    exact spelled.parts
  · intro parts
    have decoded := parts.isDecoded key.itemIds
    rwa [ofParts, ← divided.joined] at decoded

/-- An identifier that is put together has a slash behind its workflow.  What is bare has none: its
last slash is that of its only mark. -/
theorem identifier_ne_bareIdentifier {collections workflow : String}
    (parts : AreParts collections workflow) (otherCollections otherWorkflow itemIds : String) :
    identifier otherCollections otherWorkflow itemIds ≠ bareIdentifier collections workflow := by
  intro same
  have absent : '/' ∉ "workflow-".toList ++ workflow.toList := by
    rw [List.mem_append, not_or]
    exact ⟨by decide, (checkWorkflow_eq_ok_iff.mp parts.checked).2.1⟩
  have texts : (otherCollections.toList ++ marker ++ otherWorkflow.toList) ++ '/' :: itemIds.toList =
      collections.toList ++ '/' :: ("workflow-".toList ++ workflow.toList) := by
    have lists := congrArg String.toList same
    simp only [identifier, bareIdentifier, String.toList_append, String.toList_ofList] at lists
    rw [List.append_assoc _ "/".toList, List.append_assoc collections.toList] at lists
    exact lists
  have front := Text.isPrefix_of_append_eq absent texts
  have marked : marker <:+: otherCollections.toList ++ marker ++ otherWorkflow.toList :=
    ⟨otherCollections.toList, otherWorkflow.toList, rfl⟩
  exact parts.unmarked (marked.trans front.isInfix)

/-- Whichever key the identifier of a key names, the identifier is its own. -/
theorem payloadId_of_decode_payloadId (named : decode key.payloadId = .ok other) :
    other.payloadId = key.payloadId := by
  refine payloadId_of_decode named ?_
  rintro ⟨collections, workflow, parts, bare⟩
  exact identifier_ne_bareIdentifier parts _ _ _ bare

end

end Key
end PayloadLedger
