/-
Module: Portfolio.Record.Basic
Purpose: The content record of an item: its title, its slug, and its labelled entries.
Main exports: Record.Entry, Record.entries, Record.render, Record.title, Record.slug
-/
import Portfolio.Content.Basic
import Portfolio.Record.Value

namespace Portfolio.Record

/-! ### Title and slug -/

/-- The names of fields that give a title, in the order they are tried. -/
def titleNames : List String := ["title", "name", "heading"]

/-- The text of a field that is there and not blank. -/
def filledText? (item : Item) (name : String) : Option String :=
  ((item.value? name).map scalarText).filter fun s => !Text.allBlank s

/-- The title of an item: its display field, a field with the name of a title, the first
text field, or else its id. Blank texts give no title. -/
def title (item : Item) (entity : Entity) : String :=
  (entity.displayField.bind (filledText? item) <|>
    titleNames.findSome? (filledText? item) <|>
    (entity.fields.find? fun f => f.kind == .text).bind fun f => filledText? item f.name).getD
    item.id

/-- The slug of an item: the one it carries, the one from the slug field, or the one
from its title. All but the last are passed over when empty. -/
def slug (item : Item) (entity : Entity) (title : String) : String :=
  let carried := item.metadata.slug.map Naming.slug
  let source := (entity.slugSource.bind item.value?).map fun v => Naming.slug (scalarText v)
  (carried.toList ++ source.toList).find? (fun s => !s.isEmpty) |>.getD (Naming.slug title)

/-! ### Entries -/

/-- A labelled entry of a record. -/
structure Entry where
  label : String
  body : Body
  deriving DecidableEq, Repr, Inhabited

/-- The key that an entry is read back under. -/
def Entry.key (e : Entry) : String := Naming.key e.label

/-- The title, unless a field of the entity takes its key. -/
def titleEntries (item : Item) (entity : Entity) : List Entry :=
  if entity.fields.any fun f => Naming.key f.name == "title" then []
  else [⟨"Title", .line (title item entity)⟩]

/-- The fields that have a value, in the order of the entity. -/
def fieldEntries (settings : ContentSettings) (item : Item) (entity : Entity) : List Entry :=
  entity.fields.filterMap fun f =>
    (item.value? f.name).map fun v => ⟨Naming.label f.name, bodyOf settings f v⟩

/-- The times and the author, if they are wanted. -/
def metadataEntries (settings : ContentSettings) (item : Item) : List Entry :=
  if settings.includeMetadata then
    let m := item.metadata
    [⟨"Created", .line (momentOfText m.createdAt)⟩,
      ⟨"Updated", .line (momentOfText m.updatedAt)⟩] ++
      (m.author.map fun author => Entry.mk "Author" (.line author)).toList ++
      (m.publishedAt.map fun time => Entry.mk "Published" (.line (momentOfText time))).toList
  else []

/-- Every entry that a record is meant to have. -/
def plannedEntries (settings : ContentSettings) (item : Item) (entity : Entity) : List Entry :=
  titleEntries item entity ++ fieldEntries settings item entity ++ metadataEntries settings item

/-- The entries whose key no entry before them has. `keys` are the keys already taken. -/
def firstByKey (keys : List String) : List Entry → List Entry
  | [] => []
  | e :: es =>
      if keys.contains e.key then firstByKey keys es else e :: firstByKey (e.key :: keys) es

/-- The entries of an item's record. The first entry of a key wins. -/
def entries (settings : ContentSettings) (item : Item) (entity : Entity) : List Entry :=
  firstByKey [] (plannedEntries settings item entity)

/-! ### Text -/

/-- What stands between two entries. -/
def separator : String := "\n\n----\n\n"

def Entry.render (e : Entry) : String :=
  match e.body with
  | .line s => e.label ++ ": " ++ escapeLine s
  | .block s => e.label ++ ":\n\n" ++ escapeBlock s

def render (entries : List Entry) : String :=
  String.intercalate separator (entries.map Entry.render) ++ "\n"

def text (settings : ContentSettings) (item : Item) (entity : Entity) : String :=
  render (entries settings item entity)

end Portfolio.Record
