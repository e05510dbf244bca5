import PayloadLedger.Json.Shape

namespace PayloadLedger
namespace Engine

/-!
The error of a failed execution, as the engine reports it: a type and a cause, each of
which may be missing.
-/

/-- The type and the cause of a failure. -/
structure ExecutionError where
  error : Option String
  cause : Option String
  deriving DecidableEq, Repr, Inhabited

namespace ExecutionError

/-- What stands for a missing part. -/
def unknown : String := "unknown"

def errorType (failure : ExecutionError) : String :=
  failure.error.getD unknown

/-- What the cause says: the message inside a JSON object, or the cause as it is. -/
def detail (failure : ExecutionError) : String :=
  match failure.cause with
  | none => unknown
  | some cause =>
      match Json.ofText? cause with
      | .ok (.object fields) =>
          ((fields.lookup "errorMessage").bind Json.string?).getD unknown
      | _ => cause

def message (failure : ExecutionError) : String :=
  failure.errorType ++ ": " ++ failure.detail

def toJson (failure : ExecutionError) : Json :=
  .object [("Error", Json.ofString? failure.error), ("Cause", Json.ofString? failure.cause)]

open Json in
/-- Read a failure from a JSON document. -/
def ofJsonText? (text : String) : Except ReadError ExecutionError := do
  let halves ← document (record "ExecutionError" fields (none, none)) (Source.ofString text)
  return ⟨halves.1.getD none, halves.2.getD none⟩
where
  fields : List (FieldReader (Option (Option String) × Option (Option String))) :=
    [{ name := "Error", absence := .allowed, present := fun halves => halves.1.isSome
       read := fun halves source => do
        let (value, rest) ← optional Json.text source
        return ((some value, halves.2), rest) },
      { name := "Cause", absence := .allowed, present := fun halves => halves.2.isSome
        read := fun halves source => do
          let (value, rest) ← optional Json.text source
          return ((halves.1, some value), rest) }]

end ExecutionError

end Engine
end PayloadLedger
