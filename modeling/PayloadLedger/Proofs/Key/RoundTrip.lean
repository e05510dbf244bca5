import PayloadLedger.Proofs.Key

namespace PayloadLedger
namespace Key

/-!
Round trips between identifiers and keys.

Three cuts have to meet the places where the parts were joined.  The mark begins with its only
slash, so that it cannot straddle the end of the collections, and neither a slash nor an
underscore can stand inside the workflow.  A key that was encoded is therefore decoded again from
its identifier, whatever its collections and item ids hold.  The way back loses one thing: an
identifier that stops behind its workflow has the key of the identifier with a slash behind it.
-/

/-- What can be encoded, and the key it is given. -/
theorem encode_eq_ok_iff {collections workflow : String} {itemIds : List String} {key : Key} :
    encode collections workflow itemIds = .ok key ↔ AreParts collections workflow ∧
      key = ofParts collections workflow
        (String.ofList (Text.join ['/'] (itemIds.map String.toList))) := by
  unfold encode
  by_cases empty : collections.toList = []
  · simp only [if_pos empty]
    refine ⟨nofun, ?_⟩
    rintro ⟨parts, _⟩
    exact absurd empty parts.filled
  · by_cases marked : Text.contains marker collections.toList = true
    · simp only [if_neg empty, if_pos marked]
      refine ⟨nofun, ?_⟩
      rintro ⟨parts, _⟩
      exact absurd (Text.contains_iff.mp marked) parts.unmarked
    · simp only [if_neg empty, if_neg marked]
      cases checked : checkWorkflow workflow with
      | error fault =>
          refine ⟨nofun, ?_⟩
          rintro ⟨parts, _⟩
          cases checked.symm.trans parts.checked
      | ok =>
          constructor
          · intro accepted
            exact ⟨⟨empty, mt Text.contains_iff.mpr marked, checked⟩, (Except.ok.inj accepted).symm⟩
          · rintro ⟨_, rfl⟩
            rfl

namespace AreParts

variable {collections workflow : String}

theorem payloadId_eq (parts : AreParts collections workflow) (itemIds : String) :
    (ofParts collections workflow itemIds).payloadId =
      identifier collections workflow itemIds := by
  rw [payloadId, parts.collections_eq, parts.workflow_eq]
  rfl

/-- The check of the partition is no obstacle to the identifier. -/
theorem payloadId?_eq (parts : AreParts collections workflow) (itemIds : String) :
    let key := ofParts collections workflow itemIds
    payloadId? key.partition key.itemIds = .ok key.payloadId := by
  intro key
  rw [payloadId?, parts.splitPartition_eq, parts.payloadId_eq]
  rfl

theorem splitFirst_marker (parts : AreParts collections workflow) (rest : List Char) :
    Text.splitFirst marker (collections.toList ++ marker ++ rest) =
      some (collections.toList, rest) := by
  have once : '/' ∉ "workflow-".toList := by decide
  have cut := Text.splitFirst_append once parts.unmarked rest
  rw [List.append_assoc]
  exact cut

theorem decode_identifier (parts : AreParts collections workflow) (itemIds : String) :
    decode (identifier collections workflow itemIds) =
      .ok (ofParts collections workflow itemIds) := by
  have text : (identifier collections workflow itemIds).toList =
      collections.toList ++ marker ++ (workflow.toList ++ '/' :: itemIds.toList) := by
    simp [identifier]
  have undivided := (checkWorkflow_eq_ok_iff.mp parts.checked).2.1
  simp only [decode, text, parts.splitFirst_marker, Text.splitFirst_singleton undivided,
    Option.getD_some, if_neg parts.filled, String.ofList_toList, parts.checked]
  simp [ofParts, ← String.toList_inj]

theorem decode_bareIdentifier (parts : AreParts collections workflow) :
    decode (bareIdentifier collections workflow) = .ok (ofParts collections workflow "") := by
  have text : (bareIdentifier collections workflow).toList =
      collections.toList ++ marker ++ workflow.toList := by
    simp [bareIdentifier]
  have undivided : ¬ ['/'] <:+: workflow.toList := fun divided =>
    (checkWorkflow_eq_ok_iff.mp parts.checked).2.1 (divided.subset List.mem_cons_self)
  simp only [decode, text, parts.splitFirst_marker, Text.splitFirst_eq_none undivided,
    Option.getD_none, if_neg parts.filled, String.ofList_toList, parts.checked]
  simp [ofParts, ← String.toList_inj]

end AreParts

/-! ## From parts to an identifier and back -/

/-- The key of any parts that are accepted gives them back, and its identifier names it. -/
theorem encode_round_trip {collections workflow : String} {itemIds : List String} {key : Key}
    (accepted : encode collections workflow itemIds = .ok key) :
    payloadId? key.partition key.itemIds = .ok key.payloadId ∧
      decode key.payloadId = .ok key ∧
      key.collections = collections ∧ key.workflow = workflow := by
  rcases encode_eq_ok_iff.mp accepted with ⟨parts, rfl⟩
  refine ⟨parts.payloadId?_eq _, ?_, parts.collections_eq _, parts.workflow_eq _⟩
  rw [parts.payloadId_eq]
  exact parts.decode_identifier _

/-- Collections that end like a mark begins, and items that look like another identifier. -/
theorem encode_round_trip_slashes :
    let key : Key := ⟨"a_b//workflow_w-1", "x_y//workflow-z/"⟩
    encode "a_b//workflow" "w-1" ["x_y", "/workflow-z", ""] = .ok key ∧
      payloadId? key.partition key.itemIds = .ok key.payloadId ∧
      decode key.payloadId = .ok key ∧
      key.collections = "a_b//workflow" ∧ key.workflow = "w-1" := by
  intro key
  have accepted : encode "a_b//workflow" "w-1" ["x_y", "/workflow-z", ""] = .ok key := rfl
  exact ⟨accepted, encode_round_trip accepted⟩

/-! ## From an identifier to a key and back -/

/-- The identifier stops behind its workflow. -/
def IsBare (payloadId : String) : Prop :=
  ∃ collections workflow, AreParts collections workflow ∧
    payloadId = bareIdentifier collections workflow

theorem identifier_empty (collections workflow : String) :
    identifier collections workflow "" = bareIdentifier collections workflow ++ "/" := by
  simp [identifier, bareIdentifier]

theorem append_slash_ne (text : String) : text ++ "/" ≠ text := by
  intro same
  have length := congrArg String.length same
  rw [String.length_append] at length
  exact Nat.succ_ne_self _ length

/-- A bare identifier and the same with a slash behind it name one key, which keeps the slash. -/
theorem IsBare.decode {payloadId : String} (bare : IsBare payloadId) :
    ∃ key, Key.decode payloadId = .ok key ∧ key.payloadId = payloadId ++ "/" ∧
      Key.decode (payloadId ++ "/") = .ok key := by
  rcases bare with ⟨collections, workflow, parts, rfl⟩
  refine ⟨_, parts.decode_bareIdentifier, ?_, ?_⟩
  · rw [parts.payloadId_eq, identifier_empty]
  · rw [← identifier_empty]
    exact parts.decode_identifier ""

theorem payloadId_of_decode {payloadId : String} {key : Key} (named : decode payloadId = .ok key)
    (whole : ¬ IsBare payloadId) : key.payloadId = payloadId := by
  rcases decode_cases named with ⟨collections, workflow, parts, ⟨itemIds, rfl, rfl⟩ | ⟨_, stops⟩⟩
  · exact parts.payloadId_eq itemIds
  · exact absurd ⟨collections, workflow, parts, stops⟩ whole

/-- The key of an identifier gives it back, unless the identifier is bare: then a slash is added,
and the identifier with the slash has the same key.  No other two identifiers share a key. -/
theorem decode_lossless_unless_bare {payloadId : String} {key : Key}
    (named : decode payloadId = .ok key) :
    payloadId? key.partition key.itemIds = .ok key.payloadId ∧
      (¬ IsBare payloadId → key.payloadId = payloadId) ∧
      (IsBare payloadId → key.payloadId = payloadId ++ "/" ∧
        decode (payloadId ++ "/") = .ok key) ∧
      ∀ other, decode other = .ok key → other ≠ payloadId →
        (IsBare payloadId ∧ other = payloadId ++ "/") ∨
          (IsBare other ∧ payloadId = other ++ "/") := by
  have slash : ∀ {text : String}, decode text = .ok key → IsBare text →
      key.payloadId = text ++ "/" ∧ decode (text ++ "/") = .ok key := by
    intro text named bare
    rcases bare.decode with ⟨found, again, back, longer⟩
    cases named.symm.trans again
    exact ⟨back, longer⟩
  refine ⟨?_, payloadId_of_decode named, slash named, ?_⟩
  · rcases decode_cases named with ⟨collections, workflow, parts, ⟨itemIds, rfl, _⟩ | ⟨rfl, _⟩⟩ <;>
      exact parts.payloadId?_eq _
  · intro other otherNamed different
    by_cases bare : IsBare payloadId
    · by_cases otherBare : IsBare other
      · have same := (slash otherNamed otherBare).1.symm.trans (slash named bare).1
        rw [← String.toList_inj, String.toList_append, String.toList_append,
          List.append_cancel_right_eq, String.toList_inj] at same
        exact absurd same different
      · exact .inl ⟨bare, (payloadId_of_decode otherNamed otherBare).symm.trans (slash named bare).1⟩
    · have back := payloadId_of_decode named bare
      by_cases otherBare : IsBare other
      · exact .inr ⟨otherBare, back.symm.trans (slash otherNamed otherBare).1⟩
      · exact absurd ((payloadId_of_decode otherNamed otherBare).symm.trans back) different

/-- Two identifiers of one key, of which the shorter is not given back. -/
theorem decode_lossless_unless_bare_shared :
    let key : Key := ⟨"c_w", ""⟩
    decode "c/workflow-w" = .ok key ∧ decode "c/workflow-w/" = .ok key ∧
      key.payloadId ≠ "c/workflow-w" ∧ key.payloadId = "c/workflow-w" ++ "/" := by
  intro key
  have named : decode "c/workflow-w" = .ok key := rfl
  have parts : AreParts "c" "w" := ⟨by decide, by decide, rfl⟩
  have bare : IsBare "c/workflow-w" := ⟨"c", "w", parts, by decide⟩
  rcases (decode_lossless_unless_bare named).2.2.1 bare with ⟨back, longer⟩
  refine ⟨named, longer, ?_, back⟩
  rw [back]
  exact append_slash_ne _

end Key
end PayloadLedger
