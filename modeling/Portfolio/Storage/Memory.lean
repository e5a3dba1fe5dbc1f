/-
Module: Portfolio.Storage.Memory
Purpose: A store that keeps files under their paths as given.
Main exports: Storage.Memory
-/
import Portfolio.Storage.Basic

namespace Portfolio.Storage

/-- Files by path. -/
structure Memory where
  files : SortedMap File := .empty
  deriving DecidableEq, Repr, Inhabited

namespace Memory

/-- A file under its path takes the place of the one before it. -/
instance : Store Memory where
  put file store := (.ok (), ⟨store.files.insert file.path file⟩)

def get? (store : Memory) (path : String) : Option File := store.files.get? path

/-- The paths in byte order. -/
def paths (store : Memory) : List String := store.files.keys

def size (store : Memory) : Nat := store.files.size

end Memory

end Portfolio.Storage
