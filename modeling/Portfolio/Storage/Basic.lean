/-
Module: Portfolio.Storage.Basic
Purpose: Writing files to a store. No path may lead out of the store, and in a batch of
  files no path may stand twice.
Main exports: Storage.Store, Storage.StorageError, Storage.components, Storage.isSafe,
  Storage.write, Storage.writeAll
-/
import Portfolio.File

namespace Portfolio.Storage

/-- Why a file is not written. -/
inductive StorageError where
  | unsafePath (path : String)
  | repeatedPath (path : String)
  /-- The store has no room for a file at the path. -/
  | blocked (path : String)
  deriving DecidableEq, Repr, Inhabited

def StorageError.message : StorageError → String
  | .unsafePath path => "refusing to write outside the output directory: " ++ path
  | .repeatedPath path => "more than one file for " ++ path
  | .blocked path => "cannot write " ++ path

/-- A place for files. Putting a file may fail halfway, so a failure leaves a store,
too. -/
class Store (σ : Type) where
  put : File → σ → Except StorageError Unit × σ

/-- The parts of a path between its slashes. -/
def segments (path : String) : List String :=
  (path.toList.splitOn '/').map String.ofList

/-- One step along a path. -/
inductive Component where
  /-- To the root. -/
  | root
  /-- Nowhere. -/
  | here
  /-- To the folder around. -/
  | up
  | name (s : String)
  deriving DecidableEq, Repr, Inhabited

namespace Component

/-- The step of a part behind a slash. Empty parts and single dots are no steps there. -/
def ofPart? (part : String) : Option Component :=
  if part = "" ∨ part = "." then none
  else if part = ".." then some .up
  else some (.name part)

/-- Steps that lead neither to the root nor up. -/
def isInner : Component → Bool
  | here | name _ => true
  | root | up => false

end Component

/-- The steps of a path. A single dot is a step only at the start. -/
def components (path : String) : List Component :=
  if path.startsWith "/" then .root :: (segments path).filterMap Component.ofPart?
  else
    match segments path with
    | "." :: parts => .here :: parts.filterMap Component.ofPart?
    | parts => parts.filterMap Component.ofPart?

/-- A path that stays inside the store: it is not empty, does not start at the root, and
never goes up. -/
def isSafe (path : String) : Bool :=
  !path.isEmpty && !path.startsWith "/" && (components path).all Component.isInner

/-- The path itself, unless it is not safe. -/
def check (path : String) : Except StorageError Unit :=
  if isSafe path then .ok () else .error (.unsafePath path)

variable {σ : Type} [Store σ]

def write (file : File) (store : σ) : Except StorageError Unit × σ :=
  match check file.path with
  | .ok () => Store.put file store
  | .error e => (.error e, store)

/-- Writes files in order, up to the first that cannot be written. -/
def putAll : List File → σ → Except StorageError Unit × σ
  | [], store => (.ok (), store)
  | f :: fs, store =>
      match Store.put f store with
      | (.ok (), store) => putAll fs store
      | (.error e, store) => (.error e, store)

/-- Whether files may be written together: all paths are safe and none occurs twice. -/
def checkAll (files : List File) : Except StorageError Unit := do
  files.forM fun f => check f.path
  match repeatedPaths files with
  | [] => return ()
  | path :: _ => throw (.repeatedPath path)

/-- Writes files together. Nothing is written if a path is not safe or occurs twice. -/
def writeAll (files : List File) (store : σ) : Except StorageError Unit × σ :=
  match checkAll files with
  | .ok () => putAll files store
  | .error e => (.error e, store)

end Portfolio.Storage
