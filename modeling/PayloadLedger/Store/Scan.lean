import PayloadLedger.Store.Table

namespace PayloadLedger
namespace Table

/-!
Reading a partition in order.

The rows that may be wanted are fetched slice by slice, each slice starting after the last
row of the one before.  A whole slice is read into records before any of them is looked
at.  The scan ends when enough records are found, when the records leave the window for
good, or with the first slice that is not full.
-/

/-- Why the records of a slice are not looked at any further. -/
inductive Halt
  /-- No later record can be inside the window. -/
  | windowLeft
  /-- Enough records are found; the last of them stands here. -/
  | enough (position : Cursor)
  /-- The slice ended. -/
  | sliceEnded
  deriving DecidableEq, Repr

/-- The wanted records of a slice, at most `room` of them if a bound is set. -/
def visit (filter : PinnedFilter) : Option Nat → List Record → List Record × Halt
  | _, [] => ([], .sliceEnded)
  | room, record :: rest =>
      if filter.isExhaustedBy record then ([], .windowLeft)
      else if filter.accepts record then
        if room = some 1 then ([record], .enough (Cursor.ofRecord filter.order record))
        else
          let (found, halt) := visit filter (room.map (· - 1)) rest
          (record :: found, halt)
      else visit filter room rest

/-- The records of a partition from a position on, at most `room` of them if a bound is
set, and the position of the last one if the scan ended for having enough. -/
def scan (table : Table) (partition : String) (filter : PinnedFilter) (sliceSize : Nat) :
    Nat → Option Nat → Option Cursor → Except StoreError (List Record × Option Cursor)
  | 0, _, _ => .error .endlessScan
  | fuel + 1, room, position =>
      let rows := table.slice partition filter.toFilter position sliceSize
      match rows.mapM Row.record with
      | .error error => .error error
      | .ok records =>
          match visit filter room records with
          | (found, .windowLeft) => .ok (found, none)
          | (found, .enough position) => .ok (found, some position)
          | (found, .sliceEnded) =>
              if rows.length < sliceSize then .ok (found, none)
              else
                let reached := (records.getLast?.map (Cursor.ofRecord filter.order)).or position
                match scan table partition filter sliceSize fuel
                    (room.map (· - found.length)) reached with
                | .error error => .error error
                | .ok (others, stop) => .ok (found ++ others, stop)

/-- Slices that are enough for a scan that ends: it is never twice at one position with the same room,
and its positions are those of the rows and the one where it starts. -/
def scanFuel (table : Table) (room : Option Nat) : Nat :=
  (table.length + 1) * (room.getD 0 + 2)

end Table
end PayloadLedger
