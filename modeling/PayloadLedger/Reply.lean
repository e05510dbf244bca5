import PayloadLedger.Metrics
import PayloadLedger.StoreError

namespace PayloadLedger

/-!
Answers of operations.

An operation on a table answers with its result, the place it worked on as it is
afterwards, and the samples that it reports.
-/

/-- The answer of an operation on a `Place`. -/
structure Reply (Place α : Type) where
  result : Except StoreError α
  after : Place
  samples : List Sample

namespace Reply

def map (change : α → β) (reply : Reply Place α) : Reply Place β :=
  { reply with result := reply.result.map change }

/-- What is reported of a result.  A refused claim is no error, a window beyond the calendar
never reaches the table, and a scan that does not end never reports. -/
def errorSamples (operation : Operation) (result : Except StoreError α) : List Sample :=
  match result with
  | .ok _ => []
  | .error error =>
      if error.isAlreadyClaimed || error = .beforeCalendar || error = .endlessScan then []
      else [.storeError operation error.label]

end Reply

end PayloadLedger
