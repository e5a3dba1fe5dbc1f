/-
Module: Portfolio.Toml.Tree
Purpose: Tables as they grow while a document is read. How a table came into being says
  in which ways it may still grow.
Main exports: Toml.Node, Toml.Entries, Toml.addPair, Toml.openTable, Toml.openItem,
  Toml.Node.toToml
-/
import Portfolio.Toml.Basic

namespace Portfolio.Toml

/-- How a table came into being. -/
inductive Origin where
  /-- By a header of its own. -/
  | header
  /-- By the header of a table inside it. -/
  | implied
  /-- By a dotted key. -/
  | dotted
  deriving DecidableEq, Repr, Inhabited

/-- A value of a table that is being read. -/
inductive Node where
  /-- A value written behind a key. It does not grow. -/
  | value (t : Toml)
  | table (origin : Origin) (entries : List (String × Node))
  /-- Tables under headers of the same name. The last of them may grow. -/
  | tables (items : List Node)
  deriving Repr, Inhabited

/-- The entries of a table that is being read. -/
abbrev Entries := List (String × Node)

/-- Changes the table that a path leads to. Tables missing on the way are made: by a
dotted key if `dotted`, or else by a header. A dotted key may not go through a table
with a header, and nothing goes through a value. -/
def editAt (dotted : Bool) (edit : Origin → Entries → Option Entries) :
    List String → Origin → Entries → Option Entries
  | [], origin, entries => edit origin entries
  | key :: path, _, entries =>
      match entries.lookup key with
      | none =>
          let origin : Origin := if dotted then .dotted else .implied
          (editAt dotted edit path origin []).map fun inner =>
            insertSorted key (.table origin inner) entries
      | some (.value _) => none
      | some (.table origin inner) =>
          if dotted ∧ origin = .header then none
          else (editAt dotted edit path origin inner).map fun inner =>
            insertSorted key (.table origin inner) entries
      | some (.tables items) =>
          match items.getLast? with
          | some (.table origin inner) =>
              (editAt dotted edit path origin inner).map fun inner =>
                insertSorted key (.tables (items.dropLast ++ [.table origin inner])) entries
          | _ => none

/-- Sets a key that is still free. Tables made by dotted keys grow by dotted keys only,
and all others by plain keys only. -/
def setFree (plain : Bool) (key : String) (value : Toml) (origin : Origin) (entries : Entries) :
    Option Entries :=
  if (origin == .dotted) == plain then none
  else if (entries.lookup key).isSome then none
  else some (insertSorted key (.value value) entries)

/-- Adds a value under a key that leads through the tables of a path. -/
def addPair (path : List String) (key : String) (value : Toml) (origin : Origin)
    (entries : Entries) : Option Entries :=
  editAt true (setFree path.isEmpty key value) path origin entries

/-- Gives a table its header. A table has one header at most. -/
def giveHeader (key : String) (_ : Origin) (entries : Entries) : Option Entries :=
  match entries.lookup key with
  | none => some (insertSorted key (.table .header []) entries)
  | some (.table .implied inner) => some (insertSorted key (.table .header inner) entries)
  | some _ => none

/-- Adds a table to those of the same name. -/
def addTable (key : String) (_ : Origin) (entries : Entries) : Option Entries :=
  match entries.lookup key with
  | none => some (insertSorted key (.tables [.table .header []]) entries)
  | some (.tables items) =>
      some (insertSorted key (.tables (items ++ [.table .header []])) entries)
  | some _ => none

/-- The header of a table. -/
def openTable (path : List String) (key : String) (entries : Entries) : Option Entries :=
  editAt false (giveHeader key) path .header entries

/-- The header of one of several tables. -/
def openItem (path : List String) (key : String) (entries : Entries) : Option Entries :=
  editAt false (addTable key) path .header entries

/-! ### Reading off -/

mutual

/-- A value without its history. -/
def Node.toToml : Node → Toml
  | .value t => t
  | .table _ entries => .table (entriesToToml entries)
  | .tables items => .array (itemsToToml items)

/-- Entries without their history. -/
def entriesToToml : List (String × Node) → List (String × Toml)
  | [] => []
  | (key, node) :: entries => (key, node.toToml) :: entriesToToml entries

/-- Items without their history. -/
def itemsToToml : List Node → List Toml
  | [] => []
  | node :: items => node.toToml :: itemsToToml items

end

end Portfolio.Toml
