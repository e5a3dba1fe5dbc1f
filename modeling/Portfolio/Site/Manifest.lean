/-
Module: Portfolio.Site.Manifest
Purpose: All files of a site, built from its documents before any of them is written.
  Only a schema without errors makes a site.
Main exports: Site.Input, Site.Manifest, Site.BuildError, Site.build
-/
import Portfolio.Hash.Sha256
import Portfolio.Scaffold
import Portfolio.Site.Parts
import Portfolio.Validation.Basic

namespace Portfolio.Site

/-- What a site is made from. -/
structure Input where
  schema : Schema := {}
  /-- Items are matched with the schema of the site, not with that of the collection. -/
  content : Option Collection := none
  /-- Without a design system the stylesheets show the default one. -/
  design : Option Design := none
  deriving Repr, Inhabited

/-- The files of a site in the order they are written, and what was seen on the way. -/
structure Manifest where
  files : List File := []
  report : Validation.Report := {}
  entityCount : Nat := 0
  itemCount : Nat := 0
  skipped : List SkippedItem := []
  deriving DecidableEq, Repr, Inhabited

namespace Manifest

/-- The bytes that a digest covers: each path and each body, closed by a zero. -/
def digestBytes (files : List File) : List UInt8 :=
  files.flatMap fun f => utf8Bytes f.path ++ 0 :: (f.bytes ++ [0])

/-- A digest of all paths and bodies in order. -/
def digest (m : Manifest) : String := Hash.sha256Hex (digestBytes m.files)

def skippedText (s : SkippedItem) : String :=
  s.entityType ++ "/" ++ s.itemId ++ ": skipped (" ++ s.reason ++ ")"

/-- The warnings about the schema, and then the skipped items. -/
def warnings (m : Manifest) : List String :=
  m.report.warnings.map Validation.Issue.text ++ m.skipped.map skippedText

end Manifest

/-- Why there is no site. -/
inductive BuildError where
  /-- The schema has errors. -/
  | invalidSchema (messages : List String)
  /-- Two files want the same path. -/
  | collidingPaths (paths : List String)
  deriving DecidableEq, Repr, Inhabited

def BuildError.message : BuildError → String
  | .invalidSchema messages =>
      "schema validation failed:\n  " ++ String.intercalate "\n  " messages
  | .collidingPaths paths => "generated paths collide: " ++ String.intercalate ", " paths

/-- The files of a site: scaffold, panel forms, records, templates, stylesheets. -/
def allFiles (config : Config) (input : Input) (schema : SchemaPart) (content : ContentPart) :
    List File :=
  Scaffold.files config.site ++ schema.blueprints ++ content.files ++ schema.templates ++
    (ThemePart.ofDesign config.theme (input.design.getD {})).files

/-- Builds all files of a site from its documents. -/
def build (config : Config) (input : Input) : Except BuildError Manifest :=
  let report := Validation.report input.schema
  if report.valid then
    let schema := SchemaPart.ofSchema config input.schema
    let content := input.content.elim {} fun c =>
      ContentPart.ofItems config.content input.schema c.content
    let files := allFiles config input schema content
    if (repeatedPaths files).isEmpty then
      .ok {
        files := files
        report := report
        entityCount := input.schema.entities.length
        itemCount := content.itemCount
        skipped := content.skipped }
    else .error (.collidingPaths (repeatedPaths files))
  else .error (.invalidSchema report.errorMessages)

end Portfolio.Site
