/-
Module: Portfolio.Panel.Note
Purpose: What the panel cannot show of a field.
Main exports: Panel.Note, Panel.notes
-/
import Portfolio.Schema.Basic
import Portfolio.Text.Numeral

namespace Portfolio.Panel

/-- In which way the panel falls short. -/
inductive NoteKind where
  /-- The value is edited as text where a plugin could do better. -/
  | needsPlugin
  /-- A part of the value cannot be edited. -/
  | lossy
  /-- The kind of the field is not known. -/
  | unknownKind
  /-- A structure is nested too deep, and its fields are left out. -/
  | truncated
  deriving DecidableEq, Repr, Inhabited

/-- One thing that the panel cannot show. -/
structure Note where
  /-- The names from the outermost field to the one meant, with dots between them. -/
  path : String
  kind : NoteKind
  message : String
  deriving DecidableEq, Repr, Inhabited

/-- The path of a field inside an outer one. -/
def notePath (outer name : String) : String :=
  if outer.isEmpty then name else outer ++ "." ++ name

mutual

/-- The notes of a field inside `enclosing` structures. -/
def notesAt (outer : String) (enclosing : Nat) : Portfolio.Field → List Note
  | ⟨spec, nested⟩ =>
      let path := notePath outer spec.name
      match spec.kind with
      | .location =>
          [⟨path, .needsPlugin,
            "location is stored as \"lat,lng\" text; a map plugin is needed for a picker"⟩]
      | .datetime =>
          [⟨path, .lossy,
            "datetime is edited with a date-only field; the time part is not editable"⟩]
      | .unknown name =>
          [⟨path, .unknownKind,
            "unknown field type \"" ++ name ++ "\" is edited as plain text"⟩]
      | .structured =>
          if enclosing < maxStructureDepth then notesOfAll path (enclosing + 1) nested
          else
            [⟨path, .truncated,
              "structure nested " ++ Text.decimal (enclosing + 1) ++
                " levels deep; fields below level " ++ Text.decimal maxStructureDepth ++
                " are dropped"⟩]
      | _ => []

def notesOfAll (outer : String) (enclosing : Nat) : List Portfolio.Field → List Note
  | [] => []
  | f :: fs => notesAt outer enclosing f ++ notesOfAll outer enclosing fs

end

/-- Everything about a field that the panel cannot show, in the order of the fields. -/
def notes (f : Portfolio.Field) : List Note := notesAt "" 0 f

end Portfolio.Panel
