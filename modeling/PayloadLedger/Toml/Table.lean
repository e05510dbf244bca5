import PayloadLedger.Settings.Setting

namespace PayloadLedger
namespace Toml

/-!
Tables of a settings file while it is read.

A table comes to be by its own header, on the way to the table of another header, or by a
dotted name.  No table is written twice: its own header may follow only if it has come to be
on the way to another, and dotted names add only to tables that dotted names have made.
-/

/-- How a table came to be. -/
inductive Origin
  /-- By its own header, or as an element of a list of tables. -/
  | header
  /-- On the way to the table of another header. -/
  | passed
  /-- By a dotted name. -/
  | dotted
  deriving DecidableEq, Repr

/-- What a name stands for. -/
inductive Node
  | value (value : Setting)
  | table (origin : Origin) (fields : List (String × Node))
  /-- A list of tables, each with a header of its own. -/
  | tables (elements : List (List (String × Node)))
  deriving Inhabited

/-- The names of a table and what they stand for. -/
abbrev Fields := List (String × Node)

namespace Fields

def put (name : String) (node : Node) : Fields → Fields
  | [] => [(name, node)]
  | (other, kept) :: rest =>
      if other = name then (name, node) :: rest else (other, kept) :: put name node rest

def erase (name : String) (fields : Fields) : Fields :=
  fields.filter fun field => field.1 ≠ name

/-- Change the table at the end of a path, making tables on the way.  A list of tables
stands for its last element.  `change` is told how the table came to be. -/
def descend (dotted : Bool) (change : Origin → Fields → Option Fields) :
    List String → Origin → Fields → Option Fields
  | [], origin, fields => change origin fields
  | name :: path, _, fields =>
      let made : Origin := if dotted then .dotted else .passed
      match fields.lookup name with
      | none => do
          let inner ← descend dotted change path made []
          return put name (.table made inner) fields
      | some (.value _) => none
      | some (.table origin inner) =>
          if dotted && origin = .header then none
          else do
            let inner ← descend dotted change path origin inner
            return put name (.table origin inner) fields
      | some (.tables elements) =>
          match elements.getLast? with
          | none => none
          | some element => do
              let element ← descend dotted change path .header element
              return put name (.tables (elements.dropLast ++ [element])) fields

def addValue (path : List String) (name : String) (value : Setting) (fields : Fields) :
    Option Fields :=
  descend true (fun origin fields =>
    if path ≠ [] ∧ origin ≠ .dotted then none
    else match fields.lookup name with
      | some _ => none
      | none => some (put name (.value value) fields)) path .header fields

/-- Take the table of a header out of the fields, as far as it is there already. -/
def openTable (path : List String) (name : String) (fields : Fields) :
    Option (Fields × Fields) := do
  let found ← find? path fields
  let opened ← match found.lookup name with
    | none => some []
    | some (.table .passed inner) => some inner
    | some _ => none
  let rest ← descend false (fun _ fields => some (erase name fields)) path .header fields
  return (rest, opened)
where
  find? : List String → Fields → Option Fields
    | [], fields => some fields
    | name :: path, fields =>
        match fields.lookup name with
        | none => find? path []
        | some (.value _) => none
        | some (.table _ inner) => find? path inner
        | some (.tables elements) => elements.getLast?.bind (find? path)

/-- Check that a list of tables may be extended, and make it if it is not there. -/
def openElement (path : List String) (name : String) (fields : Fields) : Option Fields :=
  descend false (fun _ fields =>
    match fields.lookup name with
    | none => some (put name (.tables []) fields)
    | some (.tables _) => some fields
    | some _ => none) path .header fields

/-- Put the table of a header in its place. -/
def closeTable (path : List String) (name : String) (fields closed : Fields) : Option Fields :=
  descend false (fun _ fields =>
    match fields.lookup name with
    | none => some (put name (.table .header closed) fields)
    | some _ => none) path .header fields

/-- Put an element at the end of a list of tables. -/
def closeElement (path : List String) (name : String) (fields closed : Fields) :
    Option Fields :=
  descend false (fun _ fields =>
    match fields.lookup name with
    | none => some (put name (.tables [closed]) fields)
    | some (.tables elements) => some (put name (.tables (elements ++ [closed])) fields)
    | some _ => none) path .header fields

mutual

def settingOf : Node → Setting
  | .value value => value
  | .table _ fields => .table (entriesOf fields)
  | .tables elements => .list (elementsOf elements)

/-- The entries that fields stand for. -/
def entriesOf : List (String × Node) → List (String × Setting)
  | [] => []
  | (name, node) :: rest => (name, settingOf node) :: entriesOf rest

/-- The tables that a list of tables stands for. -/
def elementsOf : List (List (String × Node)) → List Setting
  | [] => []
  | element :: rest => .table (entriesOf element) :: elementsOf rest

end

end Fields

end Toml
end PayloadLedger
