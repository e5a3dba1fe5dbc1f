/-
Module: Portfolio.Site.Parts
Purpose: The parts of a site that come from one document each: panel forms and
  templates from the schema, records from the content, stylesheets from the design.
Main exports: Site.SchemaPart.ofSchema, Site.ContentPart.ofItems, Site.ThemePart.ofDesign
-/
import Portfolio.Panel.Blueprint
import Portfolio.Record.Page
import Portfolio.Template.Shared
import Portfolio.Theme.Sheets
import Portfolio.Yaml.Printer

namespace Portfolio.Site

/-! ### Schema -/

/-- The files of a schema, and what they are. -/
structure SchemaPart where
  /-- The panel forms, and the pages that hold the collections. -/
  blueprints : List File := []
  /-- The templates and snippets of the entities, and those of every site. -/
  templates : List File := []
  blueprintCount : Nat := 0
  templateCount : Nat := 0
  snippetCount : Nat := 0
  deriving DecidableEq, Repr, Inhabited

/-- The files of a schema in the order they are written. -/
def SchemaPart.files (part : SchemaPart) : List File := part.blueprints ++ part.templates

/-- The panel form of an entity's pages. -/
def pageForm (settings : BlueprintSettings) (entity : Entity) : File :=
  .ofText (Panel.blueprintPath entity)
    (Yaml.print (Panel.Blueprint.ofEntity settings entity).toValue)

def siteForm (config : Config) (schema : Schema) : File :=
  .ofText Panel.siteBlueprintPath
    (Yaml.print (Panel.siteBlueprint config.site.title schema.entities).toValue)

/-- The panel form of the design tokens. -/
def tokensForm : File :=
  .ofText (Panel.blueprintFolder ++ "/design-tokens.yml") (Yaml.print Panel.designTokens.toValue)

/-- All panel forms: the site's, those of the entities, and that of the design tokens if
it is wanted. -/
def forms (config : Config) (schema : Schema) : List File :=
  siteForm config schema :: schema.entities.map (pageForm config.blueprints) ++
    if config.blueprints.designTokensPanel then [tokensForm] else []

/-- The title of a collection: the plural name, or else the name, on one line. -/
def collectionTitle (entity : Entity) : String :=
  let title := if Text.allBlank entity.pluralName then entity.name else entity.pluralName
  title.map fun c => if c = '\n' then ' ' else c

/-- A record that holds nothing but a title. -/
def titleRecord (path title : String) : File := .ofText path ("Title: " ++ title ++ "\n")

/-- The page that holds an entity's collection. -/
def collectionPage (entity : Entity) : File :=
  titleRecord ("content/" ++ Naming.collection entity.pluralName entity.id ++ "/default.txt")
    (collectionTitle entity)

/-- The pages that hold the collections, and the page of the design tokens if it is
wanted. -/
def collectionPages (config : Config) (schema : Schema) : List File :=
  schema.entities.map collectionPage ++
    if config.blueprints.designTokensPanel then
      [titleRecord "content/design-tokens/design-tokens.txt" "Design Tokens"]
    else []

def SchemaPart.ofSchema (config : Config) (schema : Schema) : SchemaPart :=
  { blueprints := forms config schema ++ collectionPages config schema
    templates :=
      schema.entities.flatMap Template.entityFiles ++
        Template.sharedFiles config.site.language
    blueprintCount := (forms config schema).length
    templateCount := schema.entities.length
    snippetCount := (schema.entities.flatMap Template.entitySnippets).length }

/-! ### Content -/

/-- An item that has no file. -/
structure SkippedItem where
  entityType : String
  itemId : String
  reason : String
  deriving DecidableEq, Repr, Inhabited

/-- The files of items, and what they are. -/
structure ContentPart where
  files : List File := []
  /-- The number of files of each entity that has items. -/
  counts : SortedMap Nat := .empty
  skipped : List SkippedItem := []
  deriving DecidableEq, Repr, Inhabited

/-- The number of items that have a file. -/
def ContentPart.itemCount (part : ContentPart) : Nat := part.counts.values.foldl (· + ·) 0

/-- The items of an entity that the schema lacks. -/
def skippedItems (entityId : String) (items : List Item) : List SkippedItem :=
  items.map fun item => ⟨entityId, item.id, "no entity '" ++ entityId ++ "' in schema"⟩

/-- The items whose entity the schema has, in the order of the entities' ids. -/
def knownItems (schema : Schema) (content : SortedMap (List Item)) :
    List (Entity × String × List Item) :=
  content.entries.filterMap fun (id, items) => (schema.entity? id).map fun e => (e, id, items)

/-- The files of items by entity id. Items of unknown entities are skipped. -/
def ContentPart.ofItems (settings : ContentSettings) (schema : Schema)
    (content : SortedMap (List Item)) : ContentPart :=
  let known := (knownItems schema content).map fun (entity, id, items) =>
    (id, Record.files settings entity items)
  { files := known.flatMap (·.2)
    counts := .ofList (known.map fun (id, files) => (id, files.length))
    skipped := content.entries.flatMap fun (id, items) =>
      if (schema.entity? id).isSome then [] else skippedItems id items }

/-! ### Design -/

/-- The files of a design system, and how many tokens it has. -/
structure ThemePart where
  files : List File := []
  tokenCount : Nat := 0
  deriving DecidableEq, Repr, Inhabited

/-- The files of a design system. -/
def ThemePart.ofDesign (settings : ThemeSettings) (design : Design) : ThemePart :=
  ⟨Theme.files settings design, design.tokens.count⟩

end Portfolio.Site
