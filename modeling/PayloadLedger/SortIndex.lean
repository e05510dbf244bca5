namespace PayloadLedger

/-!
The orders in which the records of a partition can be read.
-/

/-- What records are sorted by: their item ids, the packed state and time of their last
transition, or the time of their last change. -/
inductive SortIndex
  | itemIds
  | stateUpdated
  | updated
  deriving DecidableEq, Repr, Inhabited

namespace SortIndex

def all : List SortIndex := [itemIds, stateUpdated, updated]

/-- The word that callers and cursors use for an order. -/
def name : SortIndex → String
  | itemIds => "default"
  | stateUpdated => "state_updated"
  | updated => "updated"

theorem name_injective {first second : SortIndex} (same : first.name = second.name) :
    first = second := by
  revert same
  cases first <;> cases second <;> decide

def ofName? (text : String) : Option SortIndex :=
  all.find? fun index => index.name == text

end SortIndex

end PayloadLedger
