namespace PayloadLedger

/-!
JSON values.

Whole numbers are exact; the documents of this library hold those between `-2 ^ 63` and
`2 ^ 64 - 1`, and every other number is a double, kept as its bits.  The fields of an
object are kept sorted by name, each name once.
-/

inductive Json
  | null
  | bool (value : Bool)
  | int (value : Int)
  | float (bits : UInt64)
  | string (value : String)
  | array (items : List Json)
  | object (fields : List (String × Json))
  deriving Inhabited, BEq

namespace Json

/-- Put a field in its place by name, over any field of that name. -/
def insertField (name : String) (value : Json) :
    List (String × Json) → List (String × Json)
  | [] => [(name, value)]
  | (other, kept) :: rest =>
      if name = other then (name, value) :: rest
      else if name < other then (name, value) :: (other, kept) :: rest
      else (other, kept) :: insertField name value rest

/-- An object of the given fields, where the last field of a name counts. -/
def ofFields (fields : List (String × Json)) : Json :=
  .object (fields.foldl (fun sorted field => insertField field.1 field.2 sorted) [])

/-- The value of a field, if there is an object with that field. -/
def field? (name : String) : Json → Option Json
  | object fields => fields.lookup name
  | _ => none

def string? : Json → Option String
  | string value => some value
  | _ => none

def array? : Json → Option (List Json)
  | array items => some items
  | _ => none

/-- An array of strings. -/
def ofStrings (items : List String) : Json :=
  .array (items.map .string)

def ofString? : Option String → Json
  | some value => .string value
  | none => .null

end Json

end PayloadLedger
