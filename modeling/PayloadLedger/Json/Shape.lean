import PayloadLedger.Json.Printer
import PayloadLedger.Json.Skip
import PayloadLedger.Text.Debug
import PayloadLedger.Time.Timestamp

namespace PayloadLedger
namespace Json

/-!
Reading values of a known shape.

A document may have to hold a string, a name from a list, a record with certain fields and
so on.  A value of another kind is refused with a description of both kinds, after as much
of it is read as its description needs.  A record is an object with its fields by name, or
an array with its fields in order; fields that it does not have are passed over.
-/

/-! ## Descriptions of values -/

/-- How a message describes a value that has the wrong kind. -/
def describe : Json → String
  | .null => "null"
  | .bool value => "boolean " ++ Cause.ticked (if value then "true" else "false")
  | .int value => "integer " ++ Cause.ticked (String.ofList (Text.signed value))
  | .float bits => "floating point " ++ Cause.ticked (String.ofList (Decimal.text bits))
  | .string value => "string " ++ Text.debug value
  | .array _ => "sequence"
  | .object _ => "map"

/-- The fault of a value of the wrong kind. -/
def mismatch (needed : String) (source : Source) : Fault :=
  let refuse (result : Except Fault (Json × Source)) : Fault :=
    match result with
    | .error fault => fault
    | .ok (value, rest) => .before (.invalidType (describe value) needed) rest
  match source with
  | some '[' :: _ => .before (.invalidType "sequence" needed) source
  | some '\x7b' :: _ => .before (.invalidType "map" needed) source
  | [] => .within .expectedValue source
  | _ => refuse (value 1 1 source)

/-! ## Simple shapes -/

/-- Read a string and let `accept` make something of it. -/
def textAs (needed : String) (accept : String → Except Cause α) : Reader α := fun source =>
  let source := source.skipSpace
  match source with
  | [] => .error (.within .endOfValue source)
  | some '"' :: rest =>
      match stringRest rest with
      | .error fault => .error fault
      | .ok (text, rest) =>
          match accept text with
          | .error cause => .error (.before cause rest)
          | .ok value => .ok (value, rest)
  | _ => .error (mismatch needed source)

def text : Reader String :=
  textAs "a string" .ok

def instant : Reader Time.Instant :=
  textAs "an RFC 3339 formatted date and time string" fun text =>
    (Time.Timestamp.ofLoose? text).mapError .timestamp

/-- Read null as nothing and any other value as `reader` does. -/
def optional (reader : Reader α) : Reader (Option α) := fun source =>
  let source := source.skipSpace
  match source with
  | some 'n' :: rest => word none ['u', 'l', 'l'] rest
  | _ =>
      match reader source with
      | .error fault => .error fault
      | .ok (value, rest) => .ok (some value, rest)

def nothing : Reader Unit := fun source =>
  let source := source.skipSpace
  match source with
  | [] => .error (.within .endOfValue source)
  | some 'n' :: rest => word () ['u', 'l', 'l'] rest
  | _ => .error (mismatch "unit" source)

/-- Read a name from a list, by itself or as the only field of an object whose value is
null. -/
def variant (known : List String) (ofName? : String → Option α) : Reader α := fun source =>
  let name : Reader α := textAs "variant identifier" fun text =>
    match ofName? text with
    | some value => .ok value
    | none => .error (.unknownVariant text known)
  let source := source.skipSpace
  match source with
  | [] => .error (.within .endOfValue source)
  | some '"' :: _ => name source
  | some '\x7b' :: rest => do
      let (value, rest) ← name rest
      let ((), rest) ← colon rest
      let ((), rest) ← nothing rest
      let rest := Source.skipSpace rest
      match rest with
      | [] => .error (.before .endOfObject rest)
      | some '\x7d' :: rest => .ok (value, rest)
      | _ => .error (.before .expectedValue rest)
  | _ => .error (.within .expectedValue source)

/-- Read a document that holds one name from a list. -/
def variantOf? (known : List String) (ofName? : String → Option α) (document : String) :
    Except ReadError α :=
  Json.document (variant known ofName?) (Source.ofString document)

/-! ## Lists and dictionaries -/

/-- Read items until the end of an array. -/
def listItems (reader : Reader α) (first : Bool) : Nat → Reader (List α)
  | 0, source => .error (.within .endOfList source)
  | fuel + 1, source =>
      match nextItem first source with
      | .error fault => .error fault
      | .ok (none, rest) => .ok ([], rest)
      | .ok (some rest, _) =>
          match reader rest with
          | .error fault => .error fault
          | .ok (item, rest) =>
              match listItems reader false fuel rest with
              | .error fault => .error fault
              | .ok (others, rest) => .ok (item :: others, rest)

def list (reader : Reader α) : Reader (List α) := fun source =>
  let source := source.skipSpace
  match source with
  | [] => .error (.within .endOfValue source)
  | some '[' :: rest => listItems reader true (rest.length + 1) rest
  | _ => .error (mismatch "a sequence" source)

/-- Read entries until the end of an object. -/
def dictionaryEntries (reader : Reader α) (first : Bool) : Nat → Reader (List (String × α))
  | 0, source => .error (.within .endOfObject source)
  | fuel + 1, source =>
      match nextKey first source with
      | .error fault => .error fault
      | .ok (none, rest) => .ok ([], rest)
      | .ok (some rest, _) => do
          let (name, rest) ← stringRest rest
          let ((), rest) ← colon rest
          let (item, rest) ← reader rest
          let (others, rest) ← dictionaryEntries reader false fuel rest
          return ((name, item) :: others, rest)

/-- Read an object whose values have one shape, entry by entry. -/
def dictionary (reader : Reader α) : Reader (List (String × α)) := fun source =>
  let source := source.skipSpace
  match source with
  | [] => .error (.within .endOfValue source)
  | some '\x7b' :: rest => dictionaryEntries reader true (rest.length + 1) rest
  | _ => .error (mismatch "a map" source)

def anyObject : Reader (List (String × Json)) := fun source =>
  let source := source.skipSpace
  match source with
  | [] => .error (.within .endOfValue source)
  | some '\x7b' :: rest => fields (depthLimit - 1) true [] (fuelFor rest) rest
  | _ => .error (mismatch "a map" source)

/-! ## Records -/

/-- What is done about a field that is not there. -/
inductive Absence
  /-- The field is needed. -/
  | refused
  /-- The field may be left out of an object, but not of an array. -/
  | optional
  /-- The field may be left out. -/
  | allowed
  deriving DecidableEq

/-- A field of a record that is collected in an `α`. -/
structure FieldReader (α : Type) where
  name : String
  absence : Absence
  /-- The field has been read into the collection. -/
  present : α → Bool
  /-- Read the field's value into the collection. -/
  read : α → Reader α

/-- The rest behind the end of an object, if it ends here. -/
def afterObjectEnd (source : Source) : Source :=
  let source := source.skipSpace
  match source with
  | some '\x7d' :: rest => rest
  | _ => source

/-- The faults of an array that should end here. -/
def listEnd : Reader Unit := fun source =>
  let source := source.skipSpace
  match source with
  | [] => .error (.within .endOfList source)
  | some ']' :: rest => .ok ((), rest)
  | some ',' :: rest =>
      let rest := Source.skipSpace rest
      match rest with
      | some ']' :: _ => .error (.within .trailingComma rest)
      | _ => .error (.within .trailingCharacters rest)
  | _ => .error (.within .trailingCharacters source)

/-- The name of a kind of record with the number of its fields. -/
def withCount (needed : String) (count : Nat) : String :=
  needed ++ " with " ++ toString count ++ (if count = 1 then " element" else " elements")

/-- Read the fields of a record in order from an array; `index` fields are read. -/
def recordItems (needed : String) (count : Nat) : Nat → List (FieldReader α) → α → Reader α
  | _, [], collected, source => do
      let ((), rest) ← listEnd source
      return (collected, rest)
  | index, field :: others, collected, source =>
      match nextItem (index = 0) source with
      | .error fault => .error fault
      | .ok (some rest, _) =>
          match field.read collected rest with
          | .error fault => .error fault
          | .ok (collected, rest) =>
              recordItems needed count (index + 1) others collected rest
      | .ok (none, rest) =>
          match (field :: others).findIdx? (·.absence ≠ .allowed) with
          | none => .ok (collected, rest)
          | some skipped =>
              .error (.before (.invalidLength (index + skipped) (withCount needed count)) rest)

/-- Read the fields of a record by name from an object. -/
def recordFields (known : List (FieldReader α)) (first : Bool) : Nat → α → Reader α
  | 0, _, source => .error (.within .endOfObject source)
  | fuel + 1, collected, source =>
      match nextKey first source with
      | .error fault => .error fault
      | .ok (none, rest) =>
          match known.find? fun field =>
              field.absence = .refused && !field.present collected with
          | some field => .error (.before (.missingField field.name) rest)
          | none => .ok (collected, rest)
      | .ok (some rest, _) =>
          match stringRest rest with
          | .error fault => .error fault
          | .ok (name, rest) =>
              match known.find? (·.name = name) with
              | none => do
                  let ((), rest) ← colon rest
                  let ((), rest) ← skipAny rest
                  recordFields known false fuel collected rest
              | some field =>
                  if field.present collected then
                    .error (.before (.duplicateField name) (afterObjectEnd rest))
                  else do
                    let ((), rest) ← colon rest
                    let (collected, rest) ← field.read collected rest
                    recordFields known false fuel collected rest

/-- Read a record.  Its fields are collected one by one, starting from `empty`. -/
def record (name : String) (known : List (FieldReader α)) (empty : α) : Reader α := fun source =>
  let needed := "struct " ++ name
  let source := source.skipSpace
  match source with
  | [] => .error (.within .endOfValue source)
  | some '[' :: rest => recordItems needed known.length 0 known empty rest
  | some '\x7b' :: rest => recordFields known true (rest.length + 1) empty rest
  | _ => .error (mismatch needed source)

end Json
end PayloadLedger
