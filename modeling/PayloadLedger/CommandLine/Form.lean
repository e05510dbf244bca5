namespace PayloadLedger
namespace CommandLine

/-!
The form of a command's words.

Behind its name a command takes parameters, which are marked by hyphens and may stand
anywhere, and operands, which are told apart by their order.  A word is read as soon as it
is met: the first one that does not fit ends the reading, and so does a request for help.
-/

/-- A parameter, given as `--name value` or `--name=value`, or as `--name` alone. -/
structure Parameter where
  name : String
  /-- The letter of the short form `-x value`. -/
  letter : Option Char := none
  /-- What stands for the value in help, if there is a value. -/
  placeholder : Option String := none
  help : String := ""
  /-- The value where none is given. -/
  standard : Option String := none
  /-- The parameter may be given more than once. -/
  repeats : Bool := false
  accepts : String → Bool := fun _ => true
  /-- Parameters are listed in help by rank. -/
  rank : Nat

/-- An operand; all of them are needed. -/
structure Operand where
  placeholder : String
  help : String := ""
  /-- The operand is the last one and takes all further words. -/
  repeats : Bool := false
  accepts : String → Bool := fun _ => true

/-- What a command takes. -/
structure Form where
  name : String
  about : String
  parameters : List Parameter := []
  operands : List Operand := []

/-- The values that were given, in order, with the names of their parameters or the
placeholders of their operands. -/
abbrev Given := List (String × String)

/-- Why reading ended without a command to carry out. -/
inductive Stop
  | misuse
  | help
  deriving DecidableEq, Repr

namespace Given

def value? (given : Given) (name : String) : Option String :=
  given.lookup name

def values (given : Given) (name : String) : List String :=
  given.filterMap fun entry => if entry.1 = name then some entry.2 else none

def has (given : Given) (name : String) : Bool :=
  (given.value? name).isSome

/-- Add a value, if it is accepted and may be added to what was given. -/
def add (given : Given) (name : String) (repeats : Bool) (accepts : String → Bool)
    (value : String) : Except Stop Given :=
  if (given.has name && !repeats) || !accepts value then .error .misuse
  else .ok (given ++ [(name, value)])

end Given

inductive Word
  /-- All further words are operands. -/
  | mark
  | long (name : String) (value : Option String)
  | short (letter : Char) (more : List Char)
  | plain

namespace Word

/-- The kind of a word. -/
def ofText (text : String) : Word :=
  match text.toList with
  | ['-', '-'] => mark
  | '-' :: '-' :: rest =>
      long (String.ofList (rest.takeWhile (· ≠ '=')))
        (match rest.dropWhile (· ≠ '=') with
          | _ :: value => some (String.ofList value)
          | [] => none)
  | '-' :: letter :: more => short letter more
  | _ => plain

/-- The value that is attached to a short parameter. -/
def attached? (more : List Char) : Option String :=
  match more with
  | [] => none
  | '=' :: value => some (String.ofList value)
  | value => some (String.ofList value)

/-- The word may be the value of the parameter before it. -/
def isValue (text : String) : Bool :=
  match ofText text with
  | plain => true
  | mark | long _ _ | short _ _ => false

end Word

namespace Form

/-- Add an operand in the place that is next. -/
def addOperand (form : Form) (given : Given) (word : String) : Except Stop Given :=
  match form.operands.find? fun operand => operand.repeats || !given.has operand.placeholder with
  | none => .error .misuse
  | some operand => given.add operand.placeholder true operand.accepts word

/-- Read words up to the end or, where the form has no operands, up to the first plain
word, which is handed back with what follows it. -/
def read (form : Form) (marked : Bool) (given : Given) :
    List String → Except Stop (Given × List String)
  | [] => .ok (given, [])
  | text :: words =>
      let word := if marked then Word.plain else Word.ofText text
      let parameter? : Option (Parameter × Option String) :=
        match word with
        | .long name value =>
            (form.parameters.find? fun parameter => parameter.name = name).map (·, value)
        | .short letter more =>
            (form.parameters.find? fun parameter => parameter.letter = some letter).map
              (·, Word.attached? more)
        | .mark | .plain => none
      match word, parameter? with
      | .mark, _ => form.read true given words
      | .plain, _ =>
          if form.operands.isEmpty && !marked then .ok (given, text :: words)
          else match form.addOperand given text with
            | .error stop => .error stop
            | .ok given => form.read marked given words
      | .long "help" none, _ | .short 'h' _, _ => .error .help
      | _, none => .error .misuse
      | _, some (parameter, value) =>
          let add := given.add parameter.name parameter.repeats parameter.accepts
          match parameter.placeholder, value, words with
          | none, none, words =>
              match add "" with
              | .error stop => .error stop
              | .ok given => form.read false given words
          | none, some _, _ => .error .misuse
          | some _, some value, words =>
              match add value with
              | .error stop => .error stop
              | .ok given => form.read false given words
          | some _, none, value :: words =>
              if Word.isValue value then
                match add value with
                | .error stop => .error stop
                | .ok given => form.read false given words
              else .error .misuse
          | some _, none, [] => .error .misuse

/-- Read all words of a command; every operand has to be there. -/
def readAll (form : Form) (words : List String) : Except Stop Given := do
  let (given, rest) ← form.read false [] words
  if rest.isEmpty && form.operands.all fun operand => given.has operand.placeholder then
    return given
  else throw .misuse

end Form

end CommandLine
end PayloadLedger
