/-
Module: Portfolio.Panel.Blueprint
Purpose: The blueprints of the panel: one form per entity, the overview of the site, and
  the form for the design tokens.
Main exports: Panel.Blueprint, Panel.Blueprint.ofEntity, Panel.siteBlueprint,
  Panel.designTokens, Panel.blueprintPath
-/
import Portfolio.Config.Basic
import Portfolio.Panel.Layout
import Portfolio.Yaml.Printer

namespace Portfolio.Panel

/-- The form of a page. -/
structure Blueprint where
  title : String
  icon : Option String := none
  /-- Pages are numbered by the panel. -/
  numbered : Bool := false
  /-- Pages can be drafts, listed or unlisted. -/
  hasStatus : Bool := false
  options : PageOptions := {}
  layout : Layout
  deriving Repr, Inhabited

def blueprintFolder : String := "site/blueprints/pages"

def blueprintPath (entity : Entity) : String :=
  blueprintFolder ++ "/" ++ Naming.template entity.id ++ ".yml"

def Blueprint.ofEntity (settings : BlueprintSettings) (entity : Entity) : Blueprint :=
  { title := entity.name
    icon := entity.icon
    numbered := entity.sortable.getD false
    hasStatus := settings.drafts
    options := settings.options
    layout := .ofFields settings.tabs entity.fields }

/-! ### Blueprints as values -/

/-- The three states of a page and what they mean to editors. -/
def statusValue : Value :=
  let state (label text : String) : Value :=
    .map [("label", .text label), ("text", .text text)]
  .map [
    ("draft", state "Draft" "The page is still in draft mode and only visible to editors"),
    ("listed", state "Published" "The page is public and listed"),
    ("unlisted", state "Unlisted" "The page is public but hidden from listings")]

def optionsValue (o : PageOptions) : Value :=
  .map [
    ("changeSlug", .bool o.changeSlug),
    ("changeStatus", .bool o.changeStatus),
    ("delete", .bool o.delete),
    ("duplicate", .bool o.duplicate),
    ("preview", .bool o.preview),
    ("read", .bool o.read),
    ("update", .bool o.update)]

def Blueprint.toValue (b : Blueprint) : Value :=
  .map ([("title", .text b.title)] ++
    entry? "icon" (b.icon.map .text) ++
    (if b.numbered then [("num", .text "default")] else []) ++
    (if b.hasStatus then [("status", statusValue)] else []) ++
    [("options", optionsValue b.options), b.layout.entry])

/-! ### The overview of the site -/

/-- The overview: its title and its columns. -/
structure SiteBlueprint where
  title : String
  columns : List Column
  deriving Repr, Inhabited

def siteBlueprintPath : String := "site/blueprints/site.yml"

/-- The heading over an entity's pages: the plural name, or the name where that is
blank. -/
def headline (entity : Entity) : String :=
  if Text.allBlank entity.pluralName then entity.name else entity.pluralName

/-- The list of an entity's pages. -/
def pagesSection (entity : Entity) : String × Section :=
  let template := Naming.template entity.id
  (template,
    { kind := "pages"
      headline := some (headline entity)
      parent := some
        ("site.find(\"" ++ Naming.collection entity.pluralName entity.id ++ "\")")
      template := some template
      layout := some "list" })

/-- The overview of a site: the pages of every entity, and the files. -/
def siteBlueprint (title : String) (entities : List Entity) : SiteBlueprint :=
  { title := title
    columns := [
      ⟨"2/3", entities.map pagesSection⟩,
      ⟨"1/3", [("files", { kind := "files", headline := some "Files", layout := some "cards" })]⟩] }

def SiteBlueprint.toValue (b : SiteBlueprint) : Value :=
  .map [("title", .text b.title), ("columns", columnsValue b.columns)]

/-! ### The form for the design tokens -/

def tokenList (name : String) (valueKind : FieldKind) : Portfolio.Field :=
  .named name .structured [.named "name" .text [], .named "value" valueKind []]

/-- A setting that takes half a row. -/
def halfField (kind : FieldKind) (name label : String) : Portfolio.Field :=
  { Field.named name kind [] with label := label, width := some .half }

/-- The form for editing design tokens, one tab per category. -/
def designTokens : Blueprint :=
  let tab (id label icon : String) (fields : List Portfolio.Field) : String × Tab :=
    (id, ⟨label, icon, planColumns fields (some id)⟩)
  { title := "Design tokens"
    icon := some "palette"
    options := ⟨false, false, false, false, false, true, true⟩
    layout := .tabs [
      tab "colors" "Colors" "palette" [tokenList "colors" .color],
      tab "typography" "Typography" "title" [
        halfField .text "headingFont" "Heading font",
        halfField .text "bodyFont" "Body font",
        halfField .number "baseFontSize" "Base font size (px)",
        halfField .number "scale" "Type scale"],
      tab "spacing" "Spacing" "grid" [
        halfField .number "baseUnit" "Base unit (px)",
        .named "spacingScale" .tags []],
      tab "effects" "Effects" "wand" [
        tokenList "shadows" .text,
        tokenList "radii" .text,
        tokenList "transitions" .text]] }

end Portfolio.Panel
