import PayloadLedger.Key

namespace PayloadLedger
namespace Notice

/-!
The pattern of identifiers in notices.

Subscribers filter by the collections and the workflow of a payload.  They are taken from
the identifier by a pattern of its own: the collections reach up to the last mark behind
which a workflow, a slash and at least one more character follow, and neither they nor the
item ids run over a line.
-/

/-- The parts of an identifier that fits the pattern. -/
structure Groups where
  collections : String
  workflow : String
  itemIds : String
  deriving DecidableEq, Repr

/-- The workflow and item ids of a text that starts with the mark. -/
def tailGroups? (text : List Char) : Option (List Char × List Char) := do
  let rest ← Text.dropPrefix? Key.marker text
  let workflow := rest.takeWhile (· ≠ '/')
  match workflow, rest.dropWhile (· ≠ '/') with
  | _ :: _, _ :: items@(_ :: _) => if '\n' ∈ items then none else some (workflow, items)
  | _, _ => none

/-- The parts of a text; `started` says that characters of the collections stand before
it. -/
def splitGroups? (started : Bool) : List Char → Option (List Char × List Char × List Char)
  | [] => none
  | head :: tail =>
      let longer :=
        if head = '\n' then none
        else (splitGroups? true tail).map fun parts => (head :: parts.1, parts.2)
      match longer with
      | some parts => some parts
      | none =>
          if started then (tailGroups? (head :: tail)).map fun parts => ([], parts) else none

def groups? (payloadId : String) : Option Groups :=
  (splitGroups? false payloadId.toList).map fun parts =>
    ⟨String.ofList parts.1, String.ofList parts.2.1, String.ofList parts.2.2⟩

end Notice
end PayloadLedger
