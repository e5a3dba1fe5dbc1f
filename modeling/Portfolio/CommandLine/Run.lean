/-
Module: Portfolio.CommandLine.Run
Purpose: A whole run of the program on the files of a disk.
Main exports: CommandLine.Outcome, CommandLine.run
-/
import Portfolio.CommandLine.Help
import Portfolio.CommandLine.Perform
import Portfolio.Storage.Disk

namespace Portfolio.CommandLine

open Storage (Disk Directory)

/-- The exit code of a run that ends well. -/
def success : UInt32 := 0

/-- The exit code of a run that fails. -/
def failure : UInt32 := 1

/-- The exit code of a command line that is not understood. -/
def usageFailure : UInt32 := 2

/-- What a run leaves. -/
structure Outcome where
  exitCode : UInt32
  /-- The lines that were printed. -/
  lines : List String := []
  disk : Disk
  deriving Repr, Inhabited

/-- What stands at a path of a disk. -/
def look (disk : Disk) (path : String) : Found :=
  match disk.read path with
  | some bytes => .file bytes
  | none => if disk.contains path then .unreadable else .nothing

/-- Runs a command on a disk. Lines are printed only when all files are written. -/
def runInvocation (i : Invocation) (disk : Disk) : Outcome :=
  match perform (look disk) i with
  | .error _ => ⟨failure, [], disk⟩
  | .ok product =>
      match Storage.writeAll product.files (Directory.mk i.output disk) with
      | (.error _, store) => ⟨failure, [], store.disk⟩
      | (.ok (), store) =>
          ⟨if product.faulty then failure else success, product.lines, store.disk⟩

def run (words : List String) (disk : Disk) : Outcome :=
  match parse words with
  | .error _ => ⟨usageFailure, [], disk⟩
  | .ok (.help topic) => ⟨success, topic.lines, disk⟩
  | .ok .version => ⟨success, [versionLine], disk⟩
  | .ok (.run i) => runInvocation i disk

end Portfolio.CommandLine
