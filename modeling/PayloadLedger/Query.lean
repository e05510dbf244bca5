import PayloadLedger.Record
import PayloadLedger.StoreError
import PayloadLedger.Time.Span

namespace PayloadLedger

/-!
What is asked of a partition, and how answers are cut into pages.

A filter selects records and sets their order.  Its window is given relative to the
present and pinned to an instant before anything is read.  Long answers come in pages; a
cursor is the position of the last record of a page, and its token is what callers hand
back to get the next one.
-/

/-- Which records are wanted, and in which order. -/
structure Filter where
  /-- Only records in this state. -/
  state : Option State := none
  /-- Only records changed within this span, such as `1h`. -/
  since : Option String := none
  /-- Only records whose error starts with this text. -/
  errorStart : Option String := none
  order : SortIndex := .updated
  ascending : Bool := false
  deriving DecidableEq, Repr

/-- A filter whose window is pinned. -/
structure PinnedFilter extends Filter where
  /-- Records changed before this instant are outside the window. -/
  cutoff : Option Time.Instant
  deriving DecidableEq, Repr

namespace Filter

/-- Pin the window of a filter at the present instant. -/
def pin (filter : Filter) (now : Time.Instant) : Except StoreError PinnedFilter :=
  match filter.since with
  | none => .ok { filter with cutoff := none }
  | some since =>
      match Time.Span.ofText? since with
      | .error error => .error (.input error)
      | .ok span =>
          match now.minus? span.seconds with
          | none => .error .beforeCalendar
          | some cutoff => .ok { filter with cutoff := some cutoff }

end Filter

namespace PinnedFilter

/-- The record was changed before the window. -/
def isOutside (filter : PinnedFilter) (record : Record) : Bool :=
  match filter.cutoff with
  | some cutoff => record.updated < cutoff
  | none => false

/-- The record is wanted, as far as the order of the rows does not decide it already. -/
def accepts (filter : PinnedFilter) (record : Record) : Bool :=
  !filter.isOutside record &&
    match filter.errorStart with
    | none => true
    | some start =>
        match record.lastError with
        | some error => start.toList.isPrefixOf error.toList
        | none => false

/-- No later record can be inside the window, because records come newest first and this
one is outside. -/
def isExhaustedBy (filter : PinnedFilter) (record : Record) : Bool :=
  filter.order = .updated && !filter.ascending && filter.isOutside record

end PinnedFilter

/-- The position of a record in the order of a filter. -/
structure Cursor where
  order : SortIndex
  sortValue : String
  itemIds : String
  deriving DecidableEq, Repr

namespace Cursor

def toJson (cursor : Cursor) : Json :=
  .object [("i", .string cursor.order.name), ("v", .string cursor.sortValue),
    ("k", .string cursor.itemIds)]

/-- The token that callers hand back. -/
def encode (cursor : Cursor) : String :=
  String.ofList (Text.Base64.encode (Text.utf8 cursor.toJson.render))

/-- A cursor of which only some parts have been read. -/
structure Draft where
  order : Option SortIndex := none
  sortValue : Option String := none
  itemIds : Option String := none

open Json in
def fields : List (FieldReader Draft) :=
  [{ name := "i", absence := .refused, present := fun draft => draft.order.isSome
     read := fun draft source => do
      let (value, rest) ←
        variant (SortIndex.all.map SortIndex.name) SortIndex.ofName? source
      return ({ draft with order := some value }, rest) },
    { name := "v", absence := .refused, present := fun draft => draft.sortValue.isSome
      read := fun draft source => do
        let (value, rest) ← text source
        return ({ draft with sortValue := some value }, rest) },
    { name := "k", absence := .refused, present := fun draft => draft.itemIds.isSome
      read := fun draft source => do
        let (value, rest) ← text source
        return ({ draft with itemIds := some value }, rest) }]

/-- The cursor inside a token. -/
def decode (token : String) : Except StoreError Cursor := do
  let bytes ← (Text.Base64.decode (Text.utf8 token)).mapError .cursorSymbols
  let draft ← (Json.document (Json.record "Cursor" fields {}) (Json.Source.ofBytes bytes)).mapError
    .cursorDocument
  match draft.order, draft.sortValue, draft.itemIds with
  | some order, some sortValue, some itemIds => return ⟨order, sortValue, itemIds⟩
  | _, _, _ => throw (.cursorDocument ⟨.missingField "i", none⟩)

/-- The position of a record.  Times are positions in the form in which they are stored. -/
def ofRecord (order : SortIndex) (record : Record) : Cursor where
  order := order
  sortValue :=
    match order with
    | .itemIds => record.items
    | .stateUpdated => record.stateUpdated
    | .updated => record.updated.stored
  itemIds := record.items

end Cursor

/-- Some of the records that were asked for. -/
structure Page where
  items : List Record
  /-- The token for what follows, if something may. -/
  next : Option String
  deriving DecidableEq, Repr

namespace Page

def toJson (page : Page) : Json :=
  .object <| ("items", .array (page.items.map Record.toJson)) ::
    match page.next with
    | some next => [("nextkey", .string next)]
    | none => []

end Page

/-- How many records there are, counted up to a limit. -/
inductive Count
  | exact (count : Nat)
  /-- There are more than the limit. -/
  | moreThan (limit : Nat)
  deriving DecidableEq, Repr

namespace Count

def text : Count → String
  | exact count => toString count
  | moreThan limit => toString limit ++ "+"

/-- An exact count as a number, another as its text. -/
def toJson (count : Count) : Json :=
  match count with
  | exact value => .int value
  | moreThan _ => .string count.text

def isExact : Count → Bool
  | exact _ => true
  | moreThan _ => false

end Count

/-- The counts of a partition, state by state. -/
structure Summary where
  collections : String
  workflow : String
  counts : List (State × Count)
  deriving DecidableEq, Repr

namespace Summary

def toJson (summary : Summary) : Json :=
  .object [("collections", .string summary.collections), ("workflow", .string summary.workflow),
    ("counts", .object (summary.counts.map fun entry => (entry.1.name, entry.2.toJson)))]

end Summary

end PayloadLedger
