import PayloadLedger.CommandLine.Form

namespace PayloadLedger
namespace CommandLine

/-!
Help for commands.

Help tells what a command is about, how it is written, and what its operands and parameters
mean.  Meanings stand in a column beside the names, or all of them below the names where the
names are so long that one of the meanings would not fit beside them on a line.
-/

/-- The name under which commands are run. -/
def programName : String := "flowstate-service"

def lineWidth : Nat := 100

/-- The parameter that asks for help. -/
def helpParameter : Parameter :=
  { name := "help", letter := some 'h', help := "Print help", rank := 999 }

/-- One thing that help explains. -/
structure Entry where
  /-- The name without its short form. -/
  title : String
  /-- What stands before the name. -/
  lead : String := ""
  meaning : String

namespace Entry

/-- The meanings do not fit beside names of this width. -/
def overflows (widest : Nat) (entry : Entry) : Bool :=
  let taken := widest + 12
  taken ≤ lineWidth && 40 * lineWidth < 100 * taken && lineWidth - taken < entry.meaning.length

/-- The line of an entry whose meaning stands in a column. -/
def beside (widest : Nat) (entry : Entry) : String :=
  "  " ++ entry.lead ++ entry.title ++
    String.ofList (List.replicate (widest + 2 - entry.title.length) ' ') ++ entry.meaning

/-- The lines of an entry whose meaning stands below. -/
def below (entry : Entry) : String :=
  "  " ++ entry.lead ++ entry.title ++ "\n          " ++ entry.meaning

/-- A block of help under a heading. -/
def block (heading : String) (entries : List Entry) : String :=
  let widest := (entries.map fun entry => entry.title.length).foldl max 2
  let line := if entries.any (overflows widest) then below else beside widest
  heading ++ ":\n" ++ String.join (entries.map fun entry => line entry ++ "\n")

/-- Blocks with empty lines between them; a block without entries is left out. -/
def blocks (parts : List (String × List Entry)) : String :=
  let shown := parts.filter fun part => !part.2.isEmpty
  String.intercalate "\n" (shown.map fun part => block part.1 part.2)

end Entry

namespace Parameter

/-- A meaning with the value that counts where none is given. -/
def meaning (parameter : Parameter) : String :=
  match parameter.standard with
  | none => parameter.help
  | some value =>
      (if parameter.help.isEmpty then "" else parameter.help ++ " ") ++ "[default: " ++ value ++ "]"

def entry (parameter : Parameter) : Entry where
  title := "--" ++ parameter.name ++
    match parameter.placeholder with
    | some placeholder => " <" ++ placeholder ++ ">"
    | none => ""
  lead := match parameter.letter with
    | some letter => "-" ++ letter.toString ++ ", "
    | none => "    "
  meaning := parameter.meaning

/-- The text that orders parameters of the same rank. -/
def order (parameter : Parameter) : String :=
  match parameter.letter with
  | some letter => letter.toString ++ "0"
  | none => parameter.name

def before (one other : Parameter) : Bool :=
  one.rank < other.rank || (one.rank = other.rank && !(other.order < one.order))

/-- The entries of parameters as they are listed. -/
def entries (parameters : List Parameter) : List Entry :=
  ((parameters ++ [helpParameter]).mergeSort before).map entry

end Parameter

namespace Operand

def title (operand : Operand) : String :=
  "<" ++ operand.placeholder ++ ">" ++ (if operand.repeats then "..." else "")

def entry (operand : Operand) : Entry where
  title := operand.title
  meaning := operand.help

end Operand

namespace Form

def help (form : Form) : String :=
  let usage := String.intercalate " " <|
    [programName, form.name, "[OPTIONS]"] ++ form.operands.map Operand.title
  form.about ++ "\n\nUsage: " ++ usage ++ "\n\n" ++
    Entry.blocks [("Arguments", form.operands.map Operand.entry),
      ("Options", Parameter.entries form.parameters)]

/-- Help for all commands; `shared` takes what every command takes. -/
def overview (shared : Form) (forms : List Form) : String :=
  let ownHelp : Entry :=
    { title := "help", meaning := "Print this message or the help of the given subcommand(s)" }
  shared.about ++ "\n\nUsage: " ++ programName ++ " [OPTIONS] <COMMAND>\n\n" ++
    Entry.blocks
      [("Commands", forms.map (fun form => { title := form.name, meaning := form.about }) ++
          [ownHelp]),
        ("Options", Parameter.entries shared.parameters)]

end Form

end CommandLine
end PayloadLedger
