import PayloadLedger.Settings.Path
import PayloadLedger.Text.Split

namespace PayloadLedger
namespace Setting

/-!
Settings from the environment.

A variable whose name starts with `FLOWSTATE__`, in capital or small letters, sets the
setting that the rest of the name leads to, where two underscores separate the steps.  Its
value is taken as a yes or no, a whole number or another number if it reads as one.
-/

/-- What the names of variables for settings start with, in small letters. -/
def variableMark : List Char := "flowstate__".toList

/-- The text with a point for every two underscores. -/
def pointed : List Char → List Char
  | '_' :: '_' :: rest => '.' :: pointed rest
  | c :: rest => c :: pointed rest
  | [] => []

/-- The path that a variable sets, if it is one for settings. -/
def variablePath? (name : String) : Option String :=
  (Text.dropPrefix? variableMark (small name)).map fun rest => String.ofList (pointed rest)

def ofVariable (value : String) : Setting :=
  if small value = "true".toList then flag true
  else if small value = "false".toList then flag false
  else match Decimal.wholeWithin? (-0x8000000000000000) 0x7FFFFFFFFFFFFFFF value.toList with
    | some size => whole size
    | none =>
        match Decimal.double? value.toList with
        | some bits => real bits
        | none => text value

/-- The settings among the variables of an environment, with their paths. -/
def ofEnvironment (environment : List (String × String)) : List (String × Setting) :=
  environment.filterMap fun entry =>
    (variablePath? entry.1).map fun path => (path, ofVariable entry.2)

end Setting
end PayloadLedger
