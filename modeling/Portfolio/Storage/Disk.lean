/-
Module: Portfolio.Storage.Disk
Purpose: A store of files in folders, seen from a working folder. Folders are made as
  files need them, and a name is either a file or a folder.
Main exports: Storage.Disk, Storage.Disk.read, Storage.Disk.files, Storage.Directory
-/
import Portfolio.Storage.Basic

namespace Portfolio.Storage

/-- What stands under a name. -/
inductive Node where
  | folder
  | file (bytes : List UInt8) (executable : Bool)
  deriving DecidableEq, Repr, Inhabited

/-- Where something stands: the names that lead to it from the working folder. Places
above the working folder start with `..`, and those counted from the root with an empty
name. -/
abbrev Place := List String

namespace Place

def path (place : Place) : String := String.intercalate "/" place

/-- The folder around a place. -/
def up (place : Place) : Place :=
  if place = [""] then place
  else if place.all (· == "..") then place ++ [".."]
  else place.dropLast

/-- A place at or above the working folder, or the root. -/
def isAbove (place : Place) : Bool := place.all (· == "..") || place == [""]

/-- A place inside the working folder. -/
def isInside (place : Place) : Bool :=
  match place with
  | [] | ".." :: _ | "" :: _ => false
  | _ => true

end Place

/-- Files and folders by path. -/
structure Disk where
  nodes : SortedMap Node := .empty
  deriving DecidableEq, Repr, Inhabited

/-- The greatest number of bytes in a name. -/
def maxNameBytes : Nat := 255

/-- A name that a file or folder can have. -/
def isName (name : String) : Bool :=
  decide (name.utf8ByteSize ≤ maxNameBytes) && !name.toList.contains '\x00'

namespace Disk

/-- What stands at a place. -/
def node? (disk : Disk) (place : Place) : Option Node :=
  if place.isAbove then some .folder else disk.nodes.get? place.path

def set (disk : Disk) (place : Place) (node : Node) : Disk :=
  ⟨disk.nodes.insert place.path node⟩

/-- Goes from a folder along a path. -/
def walk (disk : Disk) (place : Place) : List String → Option Place
  | [] => if disk.node? place = some .folder then some place else none
  | name :: names =>
      if disk.node? place ≠ some .folder then none
      else if name = "" ∨ name = "." then walk disk place names
      else if name = ".." then walk disk place.up names
      else walk disk (place ++ [name]) names

/-- Goes from a folder along a path, and makes the folders that are missing. The folders
made before it fails stay. -/
def makeFolders (disk : Disk) (place : Place) : List String → Option Place × Disk
  | [] => (some place, disk)
  | name :: names =>
      if name = "" ∨ name = "." then makeFolders disk place names
      else if name = ".." then makeFolders disk place.up names
      else
        let inner := place ++ [name]
        match disk.node? inner with
        | some .folder => makeFolders disk inner names
        | some (.file ..) => (none, disk)
        | none =>
            if isName name then makeFolders (disk.set inner .folder) inner names
            else (none, disk)

/-- The place where paths start: the root or the working folder. -/
def start (path : String) : Place := if path.startsWith "/" then [""] else []

/-- A path splits into the names of its folders and a last name, if what it names can be
a file. -/
def splitLast (path : String) : List String × Option String :=
  let names := (segments path).filter fun name => name != "" && name != "."
  let last := (segments path).getLast?.getD ""
  (names.dropLast, if last = "" ∨ last = "." ∨ last = ".." then none else some last)

/-- The bytes of a file. -/
def read (disk : Disk) (path : String) : Option (List UInt8) := do
  let (folders, last) := splitLast path
  let name ← last
  let folder ← disk.walk (start path) folders
  match disk.node? (folder ++ [name]) with
  | some (.file bytes _) => some bytes
  | _ => none

/-- Something stands at the path. -/
def contains (disk : Disk) (path : String) : Bool :=
  (disk.read path).isSome || (disk.walk (start path) (segments path)).isSome

/-- Writes a file at a path. A file that could be run before can be run after. -/
def writeAt (path : String) (file : File) (disk : Disk) : Except StorageError Unit × Disk :=
  let (folders, last) := splitLast path
  let blocked : Except StorageError Unit := .error (.blocked path)
  match disk.makeFolders (start path) folders with
  | (none, disk) => (blocked, disk)
  | (some folder, disk) =>
      match last with
      | none => (blocked, disk)
      | some name =>
          let place := folder ++ [name]
          match disk.node? place with
          | some .folder => (blocked, disk)
          | some (.file _ executable) =>
              (.ok (), disk.set place (.file file.bytes (executable || file.executable)))
          | none =>
              if isName name then (.ok (), disk.set place (.file file.bytes file.executable))
              else (blocked, disk)

/-- The file of an entry that is no folder. -/
def entryFile (entry : String × Node) : Option File :=
  match entry.2 with
  | .folder => none
  | .file bytes executable =>
      let body := match String.fromUTF8? ⟨bytes.toArray⟩ with
        | some s => .text s
        | none => .binary bytes
      some ⟨entry.1, body, executable⟩

/-- The files in the working folder, in byte order of their paths. -/
def files (disk : Disk) : List File :=
  (disk.nodes.entries.filter fun e => Place.isInside (segments e.1)).filterMap entryFile

end Disk

/-- A folder of a disk as a store. -/
structure Directory where
  root : String
  disk : Disk := {}
  deriving Repr, Inhabited

/-- Files are written below the root. -/
instance : Store Directory where
  put file store :=
    let (result, disk) := store.disk.writeAt (store.root ++ "/" ++ file.path) file
    (result, { store with disk := disk })

end Portfolio.Storage
