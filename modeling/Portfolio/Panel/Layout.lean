/-
Module: Portfolio.Panel.Layout
Purpose: How the fields of a form are spread over tabs and columns.
Main exports: Panel.Section, Panel.Column, Panel.Tab, Panel.Layout, Panel.planColumns,
  Panel.planTabs, Panel.Layout.ofFields
-/
import Portfolio.Panel.Field

namespace Portfolio.Panel

/-- Entities with more fields than this get tabs. -/
def tabThreshold : Nat := 6

/-- Lists of more fields than this are split over two columns. -/
def splitThreshold : Nat := 8

/-- A part of a column: the fields of a form, or a list of pages or files. -/
structure Section where
  kind : String
  headline : Option String := none
  parent : Option String := none
  template : Option String := none
  layout : Option String := none
  fields : Option FieldMap := none
  deriving Repr, Inhabited

def Section.ofFields (fields : FieldMap) : Section := { kind := "fields", fields := some fields }

/-- A column: the part of the row it takes, and its sections by key. -/
structure Column where
  width : String
  sections : List (String × Section)
  deriving Repr, Inhabited

/-- A tab of a form. -/
structure Tab where
  label : String
  icon : String
  columns : List Column
  deriving Repr, Inhabited

/-- A form in tabs by id, or in columns. -/
inductive Layout where
  | tabs (tabs : List (String × Tab))
  | columns (columns : List Column)
  deriving Repr, Inhabited

def Layout.tabs? : Layout → Option (List (String × Tab))
  | .tabs ts => some ts
  | .columns _ => none

/-- The columns of a form without tabs. -/
def Layout.columns? : Layout → Option (List Column)
  | .tabs _ => none
  | .columns cs => some cs

/-! ### The column rule -/

/-- The key of a section inside a tab, or outside all tabs. Section keys are unique in
a form, so those of a tab start with its id. -/
def sectionKey (tab : Option String) (name : String) : String :=
  match tab with
  | some id => id ++ "_" ++ name
  | none => name

def fieldColumn (tab : Option String) (width name : String)
    (fields : List Portfolio.Field) : Column :=
  ⟨width, [(sectionKey tab name, .ofFields (fieldMap fields))]⟩

/-- Fields in two columns if there are many, the left one taking the odd field, and
in one column otherwise. -/
def planColumns (fields : List Portfolio.Field) (tab : Option String) : List Column :=
  if splitThreshold < fields.length then
    let half := (fields.length + 1) / 2
    [fieldColumn tab "1/2" "left" (fields.take half),
      fieldColumn tab "1/2" "right" (fields.drop half)]
  else [fieldColumn tab "1/1" "fields" fields]

/-! ### The tab rule -/

/-- A tab of fields, unless there are none. -/
def fieldTab (id label icon : String) (fields : List Portfolio.Field) : List (String × Tab) :=
  if fields.isEmpty then [] else [(id, ⟨label, icon, planColumns fields (some id)⟩)]

/-- The key of the field on the settings tab. -/
def slugKey : String := "slug"

/-- The tab with the slug of the page. -/
def settingsTab : String × Tab :=
  let slug : Control :=
    { kind := "slug", label := "URL slug", help := some "Used in the page address" }
  ("settings", ⟨"Settings", "settings",
    [⟨"1/1", [("settings_fields", .ofFields [(slugKey, ⟨slug, none⟩)])]⟩]⟩)

/-- Media fields on a tab of their own, the others on the content tab, and a tab with
the slug. Field keys are unique over all tabs, so a field with the key of the slug
takes the place of the settings tab. -/
def planTabs (fields : List Portfolio.Field) : List (String × Tab) :=
  let media := fields.filter fun f => f.kind.isMedia
  let content := fields.filter fun f => !f.kind.isMedia
  fieldTab "content" "Content" "text" content ++
    fieldTab "media" "Media" "image" media ++
    (if fields.any fun f => Naming.key f.name == slugKey then [] else [settingsTab])

/-- Tabs for many fields where tabs are wanted, and columns otherwise. -/
def Layout.ofFields (wantsTabs : Bool) (fields : List Portfolio.Field) : Layout :=
  if wantsTabs && decide (tabThreshold < fields.length) then .tabs (planTabs fields)
  else .columns (planColumns fields none)

/-! ### Layouts as values -/

def Section.toValue (s : Section) : Value :=
  .map ([("type", .text s.kind)] ++
    entry? "headline" (s.headline.map .text) ++
    entry? "parent" (s.parent.map .text) ++
    entry? "template" (s.template.map .text) ++
    entry? "layout" (s.layout.map .text) ++
    entry? "fields" (s.fields.map fieldMapValue))

def Column.toValue (c : Column) : Value :=
  .map [("width", .text c.width),
    ("sections", .map (c.sections.map fun s => (s.1, s.2.toValue)))]

def columnsValue (columns : List Column) : Value := .list (columns.map Column.toValue)

def Tab.toValue (t : Tab) : Value :=
  .map [("label", .text t.label), ("icon", .text t.icon), ("columns", columnsValue t.columns)]

/-- A layout as the last entry of its form. -/
def Layout.entry : Layout → String × Value
  | .tabs ts => ("tabs", .map (ts.map fun t => (t.1, t.2.toValue)))
  | .columns cs => ("columns", columnsValue cs)

end Portfolio.Panel
