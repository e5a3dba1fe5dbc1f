/-
Module: Portfolio.Template.Page
Purpose: The page template of an entity and the snippets of its structures.
Main exports: Template.pageFile, Template.entitySnippets, Template.entityFiles
-/
import Portfolio.File
import Portfolio.Template.Field

namespace Portfolio.Template

def templateFolder : String := "site/templates"

def snippetFolder : String := "site/snippets"

def templatePath (name : String) : String := templateFolder ++ "/" ++ name ++ ".php"

def snippetPath (name : String) : String := snippetFolder ++ "/" ++ name ++ ".php"

/-- A page between the header and the footer of the site. -/
def wrapPage (body : Markup) : List Markup :=
  [php (.snippet "header" none), newline, body, newline, php (.snippet "footer" none), newline]

/-! ### Snippets -/

/-- One row of a structure, in the scope of its fields. -/
def rowMarkup (scope : Scope) (f : Field) : List Markup :=
  [box "div" ("structure-item structure-item--" ++ Naming.key f.name)
      (fragments scope f.nested),
    newline]

/-- A snippet: its name and its parts. -/
structure Snippet where
  name : String
  markup : List Markup
  deriving Repr, Inhabited

mutual

/-- The snippets of a field: that of a structure, and then those of the structures in
it. A structure nested too deep has none. -/
def snippets (scope : Scope) : Field → List Snippet
  | ⟨spec, nested⟩ =>
      if spec.kind = .structured ∧ scope.enclosing < maxStructureDepth then
        let inner := scope.inside spec
        ⟨inner.path, rowMarkup inner ⟨spec, nested⟩⟩ :: snippetsOfAll inner nested
      else []

def snippetsOfAll (scope : Scope) : List Field → List Snippet
  | [] => []
  | f :: fs => snippets scope f ++ snippetsOfAll scope fs

end

/-! ### Pages -/

/-- The scope of an entity's own fields. -/
def pageScope (entity : Entity) : Scope := ⟨"$page", Naming.template entity.id, 0⟩

def pageMarkup (entity : Entity) : List Markup :=
  let scope := pageScope entity
  wrapPage (box "main" ("page page--" ++ scope.path) [
    newline, php (.snippet "page-header" none), newline,
    box "article" "container" (fragments scope entity.fields), newline])

/-- The snippets of an entity's structures, outer ones first. -/
def entitySnippets (entity : Entity) : List Snippet :=
  snippetsOfAll (pageScope entity) entity.fields

def pageFile (entity : Entity) : File :=
  .ofText (templatePath (Naming.template entity.id)) (renderAll (pageMarkup entity))

def Snippet.file (s : Snippet) : File := .ofText (snippetPath s.name) (renderAll s.markup)

/-- The template of an entity, and its snippets. -/
def entityFiles (entity : Entity) : List File :=
  pageFile entity :: (entitySnippets entity).map Snippet.file

end Portfolio.Template
