import PayloadLedger.Text.Blank
import PayloadLedger.Text.Pattern
import PayloadLedger.Text.Word

namespace PayloadLedger
namespace Engine

/-!
The last line of a task's log.

A line may start with the type of an error, which is a run of dots and word characters
directly followed by a colon.  The message is what follows, without the white space at its
start and up to the end of that line.
-/

/-- The error that a failed task reports. -/
structure TaskFailure where
  errorType : String
  message : String
  deriving DecidableEq, Repr

namespace TaskFailure

/-- The type of an error whose line does not name one. -/
def unnamedType : String := "UnknownError"

/-- The character may stand in the type of an error. -/
def isTypeChar (c : Char) : Bool :=
  c = '.' || Text.isWord c

/-- The pattern of the type of an error and the colon behind it. -/
def typePattern : Text.Pattern :=
  .both (.group 1 (.both (.one isTypeChar) (.many isTypeChar))) (.one (· = ':'))

/-- The pattern of a message behind white space. -/
def messagePattern : Text.Pattern :=
  .both (.many Text.isBlank) (.group 2 (.many (· ≠ '\n')))

def linePattern : Text.Pattern :=
  .both .start (.both (.optional typePattern) messagePattern)

/-- Split the last line of a log into the type and the message of an error. -/
def ofLine (line : String) : TaskFailure :=
  match linePattern.captures? line with
  | some groups => ⟨(groups.lookup 1).getD unnamedType, (groups.lookup 2).getD ""⟩
  | none => ⟨unnamedType, line⟩

end TaskFailure

end Engine
end PayloadLedger
