import PayloadLedger.InputError
import PayloadLedger.Text.Split

namespace PayloadLedger

/-!
Payload identifiers and the keys of the ledger.

An identifier reads `<collections>/workflow-<workflow>/<item>[/<item>...]`.  The ledger
stores a payload under two texts: the partition `<collections>_<workflow>` and the item
ids joined by slashes.  The name of a workflow holds neither a slash nor an underscore,
so the first slash after the mark and the last underscore of the partition both stand at
its edge, and nothing is lost in either direction.
-/

/-- The address of one payload in the ledger. -/
structure Key where
  partition : String
  itemIds : String
  deriving DecidableEq, Repr, Inhabited

namespace Key

/-- What stands between the collections and the workflow of an identifier. -/
def marker : List Char := "/workflow-".toList

/-- The two halves of a partition around its last underscore, where neither is empty. -/
def splitPartition (partition : String) : Except InputError (String × String) :=
  match Text.splitLast '_' partition.toList with
  | some (collections@(_ :: _), workflow@(_ :: _)) =>
      .ok (String.ofList collections, String.ofList workflow)
  | _ => .error (.undividedPartition partition)

/-- A key of a partition that has two halves. -/
def ofPartition (partition itemIds : String) : Except InputError Key := do
  let _ ← splitPartition partition
  return ⟨partition, itemIds⟩

/-- The part of the partition before its last underscore, or all of it. -/
def collections (key : Key) : String :=
  match Text.splitLast '_' key.partition.toList with
  | some (collections, _) => String.ofList collections
  | none => key.partition

/-- The part of the partition after its last underscore, or nothing. -/
def workflow (key : Key) : String :=
  match Text.splitLast '_' key.partition.toList with
  | some (_, workflow) => String.ofList workflow
  | none => ""

def identifier (collections workflow itemIds : String) : String :=
  collections ++ String.ofList marker ++ workflow ++ "/" ++ itemIds

def payloadId (key : Key) : String :=
  identifier key.collections key.workflow key.itemIds

/-- The identifier of a partition and its item ids, if the partition has two halves. -/
def payloadId? (partition itemIds : String) : Except InputError String := do
  let (collections, workflow) ← splitPartition partition
  return identifier collections workflow itemIds

/-- A workflow's name is not empty and holds no separator. -/
def checkWorkflow (workflow : String) : Except WorkflowFault Unit :=
  if workflow.toList = [] then .error .empty
  else if '/' ∈ workflow.toList ∨ '_' ∈ workflow.toList then .error (.divided workflow)
  else .ok ()

/-- The key of a payload given by its collections, workflow and item ids. -/
def encode (collections workflow : String) (itemIds : List String) : Except InputError Key := do
  if collections.toList = [] then throw .emptyCollections
  if Text.contains marker collections.toList then throw (.markedCollections collections)
  (checkWorkflow workflow).mapError .workflow
  return ⟨collections ++ "_" ++ workflow,
    String.ofList (Text.join ['/'] (itemIds.map String.toList))⟩

/-- The key that a payload identifier names.  The collections end at the first mark and
the workflow at the first slash after it; an identifier may stop after the workflow. -/
def decode (payloadId : String) : Except InputError Key :=
  match Text.splitFirst marker payloadId.toList with
  | none => .error (.unmarkedIdentifier payloadId)
  | some (collections, rest) =>
      let (workflow, itemIds) := (Text.splitFirst ['/'] rest).getD (rest, [])
      if collections = [] then .error (.identifierWithoutCollections payloadId)
      else match checkWorkflow (String.ofList workflow) with
        | .error fault => .error (.identifierWorkflow payloadId fault)
        | .ok () => .ok ⟨String.ofList (collections ++ '_' :: workflow), String.ofList itemIds⟩

/-- Keys are ordered by partition, then by item ids. -/
def before (first second : Key) : Bool :=
  first.partition < second.partition ||
    (first.partition == second.partition && first.itemIds < second.itemIds)

end Key

end PayloadLedger
