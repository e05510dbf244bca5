import PayloadLedger.CommandLine.Run
import Std.Time.DateTime.Timestamp

/-!
The service as a program.  Databases are files, the present is what the machine's clock
says, and settings come from the environment of the process.
-/

namespace PayloadLedger
namespace Machine

/-- Files and standard input of the machine.  What cannot be read, or is no text, is not
there. -/
def host : CommandLine.Host IO where
  readFile path := try some <$> IO.FS.readFile path catch _ => pure none
  writeFile path contents := try IO.FS.writeFile path contents; pure true catch _ => pure false
  readInput := try some <$> (← IO.getStdin).readToEnd catch _ => pure none

/-- The variables of the process, which the system shows as a file. -/
def environment : IO (List (String × String)) := do
  let listing ← host.readFile "/proc/self/environ"
  return (((listing.getD "").toList.splitOn '\x00').filterMap fun entry =>
    (Text.splitFirst ['='] entry).map fun halves =>
      (String.ofList halves.1, String.ofList halves.2))

/-- The present instant. -/
def now : IO Time.Instant := do
  let moment ← Std.Time.Timestamp.now
  return ⟨moment.val.second.val, moment.val.nano.val.toNat⟩

end Machine
end PayloadLedger

/-- Run the service with the words of the command line. -/
def main (words : List String) : IO UInt32 := do
  let report ← PayloadLedger.CommandLine.run PayloadLedger.Machine.host
    (← PayloadLedger.Machine.environment) (← PayloadLedger.Machine.now) words
  IO.print report.output
  match report.error with
  | some error => IO.eprintln error
  | none => pure ()
  return report.exitCode.toUInt32
