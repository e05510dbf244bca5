import PayloadLedger.Settings.Setting

namespace PayloadLedger
namespace Setting

/-!
Places of settings.

The name of a setting may be a path such as `state_db.url` or `invalid_error_types[0]`,
which leads into tables and lists.  What stands in the way of a path and is no table or
list gives way to one.  A table that is put where a table is already is merged into it, and
other values replace what is there.  Tables have their names in small letters.
-/

/-- One step into a setting. -/
inductive Step
  | name (name : String)
  /-- A place in a list, counted from its end if it is negative. -/
  | place (index : Int)
  deriving DecidableEq, Repr

/-! ## Reading paths -/

/-- The character may stand in a name of a path. -/
def isNameChar (c : Char) : Bool :=
  c.isAlphanum || c = ' ' || c = '_' || c = '-'

def nameStep? (text : List Char) : Option (Step × List Char) :=
  match text.takeWhile isNameChar with
  | [] => none
  | name => some (.name (String.ofList name), text.dropWhile isNameChar)

/-- Text without the spaces and tabs at its front. -/
def dropBlanks (text : List Char) : List Char :=
  text.dropWhile fun c => c = ' ' || c = '\t'

/-- A place in brackets, of which the opening one has been read. -/
def placeStep? (text : List Char) : Option (Step × List Char) :=
  let text := dropBlanks text
  let (negative, text) := match text with
    | '-' :: text => (true, text)
    | text => (false, text)
  let digits := text.takeWhile Char.isDigit
  match digits, dropBlanks (text.dropWhile Char.isDigit) with
  | _ :: _, ']' :: rest =>
      let size : Int := Nat.ofDigitChars 10 digits 0
      some (.place (if negative then -size else size), rest)
  | _, _ => none

/-- The steps that follow the first one. -/
def laterSteps? : Nat → List Char → Option (List Step)
  | _, [] => some []
  | 0, _ => none
  | fuel + 1, '.' :: rest => do
      let (step, rest) ← nameStep? rest
      return step :: (← laterSteps? fuel rest)
  | fuel + 1, '[' :: rest => do
      let (step, rest) ← placeStep? rest
      return step :: (← laterSteps? fuel rest)
  | _ + 1, _ => none

/-- The steps of a path.  A text that is no path is a single name. -/
def steps (path : String) : List Step :=
  let read := do
    let (step, rest) ← nameStep? path.toList
    return step :: (← laterSteps? rest.length rest)
  read.getD [.name path]

/-! ## Putting settings in place -/

def smallName (name : String) : String :=
  String.ofList (small name)

/-- The entries of a table, and none of anything else. -/
def entries : Setting → List (String × Setting)
  | table entries => entries
  | _ => []

/-- The items of a list, and none of anything else. -/
def items : Setting → List Setting
  | list items => items
  | _ => []

/-- Put an entry in the place of the one with its name, or at the end. -/
def putEntry (name : String) (value : Setting) :
    List (String × Setting) → List (String × Setting)
  | [] => [(name, value)]
  | (other, kept) :: rest =>
      if other = name then (name, value) :: rest else (other, kept) :: putEntry name value rest

/-- Put an item at an index, with nothing in the places before it that were not there. -/
def putItem (index : Nat) (value : Setting) (items : List Setting) : List Setting :=
  (items ++ List.replicate (index + 1 - items.length) nothing).set index value

/-- The index of a place in a list of some length. -/
def indexIn (length : Nat) (place : Int) : Nat :=
  if 0 ≤ place then place.toNat else length - place.natAbs

mutual

/-- Put a value under a name, merging tables. -/
def putNamed (name : String) : Setting → Setting → Setting
  | table incoming, target =>
      let present := (target.entries.lookup (smallName name)).getD (table [])
      table (putEntry (smallName name) (putAll incoming present) target.entries)
  | value, target => table (putEntry (smallName name) value target.entries)

/-- Put every entry of a table into another. -/
def putAll : List (String × Setting) → Setting → Setting
  | [], target => target
  | (name, value) :: rest, target => putAll rest (putNamed name value target)

end

/-- Put a value at the end of a path. -/
def putAt (value : Setting) : List Step → Setting → Setting
  | [], _ => value
  | [.name name], target => putNamed name value target
  | .name name :: step :: later, target =>
      let present := (target.entries.lookup name).getD nothing
      table (putEntry name (putAt value (step :: later) present) target.entries)
  | [.place place], target =>
      list (putItem (indexIn target.items.length place) value target.items)
  | .place place :: step :: later, target =>
      let index := indexIn target.items.length place
      let present := (target.items[index]?).getD nothing
      list (putItem index (putAt value (step :: later) present) target.items)

/-- Put named values in place, one after another. -/
def putPaths (values : List (String × Setting)) (target : Setting) : Setting :=
  values.foldl (fun target entry => putAt entry.2 (steps entry.1) target) target

end Setting
end PayloadLedger
