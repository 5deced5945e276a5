/-!
# Files a command can see

What stands at a path: nothing, a directory, or a file with its contents.  A command looks
paths up in a function of that kind, `Files`.

A text with a null character is no path.  Looking it up is an error of its own, which ends
a command without a report.

A `Folder` is a working directory given by its files and directories.  Paths into it, and
the names of what is in it, may have several parts, empty parts and the parts `.` and `..`;
only a directory has parts.  Nothing stands at a path that is too long, wherever it would
lead.
-/

namespace Machine6502

namespace Command

/-- What stands at a path. -/
inductive Entry where
  | missing
  | directory
  | file (contents : List UInt8)
  deriving DecidableEq, Repr

/-- What a command finds at every path. -/
abbrev Files := String → Entry

/-- What ends a command without a report. -/
inductive Breakdown where
  /-- A text with a null character was looked up as a path. -/
  | nullInPath
  deriving DecidableEq, Repr

/-- The wording of a breakdown. -/
def Breakdown.message : Breakdown → String
  | .nullInPath => "embedded null byte"

/-- Looks up what stands at a path. -/
def Files.lookUp (files : Files) (path : String) : Except Breakdown Entry :=
  if '\x00' ∈ path.toList then .error .nullInPath else .ok (files path)

/-- A working directory.  Files and directories may be listed by any path that leads to
them from there.  The directories on the way are part of the folder, and of two files listed
for one place the later one is there. -/
structure Folder where
  files : List (String × List UInt8) := []
  directories : List String := []

namespace Folder

/-- The parts of a path. -/
def parts (path : String) : List String :=
  (path.toList.splitOn '/').map String.ofList

/-- The place that one part of a path leads to from a place inside the folder. -/
def step (inside : List String) : (part : String) → List String
  | "" => inside
  | "." => inside
  | ".." => inside.dropLast
  | part => inside ++ [part]

/-- The place of a name. -/
def place (name : String) : List String := (parts name).foldl step []

/-- The places that the parts of a path pass, from the first to the last. -/
def trail (inside : List String) : List String → List (List String)
  | [] => [inside]
  | part :: rest => inside :: trail (step inside part) rest

/-- What stands at a place inside the folder, given by its proper parts. -/
def entryAt (folder : Folder) (inside : List String) : Entry :=
  match folder.files.reverse.find? fun file => place file.1 = inside with
  | some file => .file file.2
  | none =>
      let listed := folder.files.map (·.1) ++ folder.directories
      if listed.any fun name => inside ∈ trail [] (parts name) then .directory else .missing

/-- Follows the parts of a path from a directory of the folder, or from outside it. -/
def follow (folder : Folder) : (position : Option (List String)) → List String → Entry
  | _, [] => .directory
  | position, "" :: rest => folder.follow position rest
  | position, "." :: rest => folder.follow position rest
  | none, ".." :: rest => folder.follow none rest
  | some [], ".." :: rest => folder.follow none rest
  | some (part :: inside), ".." :: rest => folder.follow (some (part :: inside).dropLast) rest
  | none, _ :: _ => .missing
  | some inside, part :: rest =>
      match folder.entryAt (inside ++ [part]) with
      | .missing => .missing
      | .directory => folder.follow (some (inside ++ [part])) rest
      | .file contents => if rest = [] then .file contents else .missing

/-- The largest number of bytes in a path. -/
def longestPath : Nat := 4095

/-- What stands at a path. -/
def entry (folder : Folder) : Files := fun path =>
  if longestPath < path.utf8ByteSize then .missing
  else
    match path.toList with
    | [] => .missing
    | '/' :: _ => folder.follow none (parts path)
    | _ => folder.follow (some []) (parts path)

end Folder

end Command

end Machine6502
