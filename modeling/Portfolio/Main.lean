/-
Module: Portfolio.Main
Purpose: The program: it reads the documents that a command names, and writes and prints
  what the command produces.
Main exports: main
-/
import Portfolio.CommandLine.Run

namespace Portfolio.CommandLine

def lookAt (path : String) : IO Found := do
  try
    let bytes ← IO.FS.readBinFile path
    return .file bytes.data.toList
  catch
    | .noFileOrDirectory .. => return .nothing
    | _ => return .unreadable

/-- Looks at all paths, each with what is found there. -/
def lookAtAll (paths : List String) : IO (List (String × Found)) :=
  paths.mapM fun path => do return (path, ← lookAt path)

/-- Writes a file below a folder. -/
def writeFile (folder : String) (file : File) : IO Unit := do
  let path := folder ++ "/" ++ file.path
  IO.FS.createDirAll (String.intercalate "/" (Storage.segments path).dropLast)
  IO.FS.writeBinFile path ⟨file.bytes.toArray⟩
  if file.executable then
    IO.setAccessRights path ⟨⟨true, true, true⟩, ⟨true, false, true⟩, ⟨true, false, true⟩⟩

/-- Says what went wrong. -/
def complain (code : UInt32) (message : String) : IO UInt32 := do
  IO.eprintln ("Error: " ++ message)
  return code

def runCommand (i : Invocation) : IO UInt32 := do
  let found ← lookAtAll i.inputs
  match perform (fun path => (found.lookup path).getD .nothing) i with
  | .error e => complain failure e.message
  | .ok product =>
      match Storage.checkAll product.files with
      | .error e => complain failure e.message
      | .ok () =>
          product.files.forM (writeFile i.output)
          product.lines.forM IO.println
          if product.faulty then complain failure "the schema has errors" else return success

end Portfolio.CommandLine

open Portfolio.CommandLine in
/-- Runs the program. -/
def main (words : List String) : IO UInt32 := do
  match parse words with
  | .error e => complain usageFailure e.message
  | .ok (.help topic) => topic.lines.forM IO.println; return success
  | .ok .version => IO.println versionLine; return success
  | .ok (.run i) =>
      try runCommand i
      catch e => complain failure (toString e)
