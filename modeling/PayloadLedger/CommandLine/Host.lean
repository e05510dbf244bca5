namespace PayloadLedger
namespace CommandLine

/-!
What a run needs from its surroundings.

A run reads files and standard input and writes files.  It goes through a host, so that the
same run can take place on a machine and in a folder that exists in memory only.
-/

/-- Access to files and standard input. -/
structure Host (m : Type → Type) where
  /-- The contents of a file, if it is there and is text. -/
  readFile : String → m (Option String)
  /-- Write a file; the result tells whether that was possible. -/
  writeFile : String → String → m Bool
  /-- All of standard input, if it is text. -/
  readInput : m (Option String)

/-- A folder in memory with its files and what stands on standard input. -/
structure Folder where
  files : List (String × String) := []
  input : String := ""
  deriving DecidableEq, Repr

namespace Folder

/-- The name of a file without a mark for the folder itself. -/
def nameOf (path : String) : String :=
  match path.toList with
  | '.' :: '/' :: name => String.ofList name
  | _ => path

def read (folder : Folder) (path : String) : Option String :=
  folder.files.lookup (nameOf path)

/-- Put a file in the place of the one with its name, or at the end. -/
def putFile (name contents : String) : List (String × String) → List (String × String)
  | [] => [(name, contents)]
  | (other, kept) :: rest =>
      if other = name then (name, contents) :: rest
      else (other, kept) :: putFile name contents rest

/-- Files can be written in the folder, but in no other. -/
def write (folder : Folder) (path contents : String) : Bool × Folder :=
  let name := nameOf path
  if '/' ∈ name.toList then (false, folder)
  else (true, { folder with files := putFile name contents folder.files })

def host : Host (StateM Folder) where
  readFile path := fun folder => (folder.read path, folder)
  writeFile path contents := fun folder => folder.write path contents
  readInput := fun folder => (some folder.input, folder)

end Folder

end CommandLine
end PayloadLedger
