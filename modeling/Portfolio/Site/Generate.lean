/-
Module: Portfolio.Site.Generate
Purpose: Builds a site and writes it to a store. A site that cannot be built writes
  nothing.
Main exports: Site.Summary, Site.GenerateError, Site.generate
-/
import Portfolio.Site.Manifest
import Portfolio.Storage.Basic

namespace Portfolio.Site

open Storage (Store StorageError)

/-- What was generated, and what to do next. -/
structure Summary where
  fileCount : Nat := 0
  entityCount : Nat := 0
  itemCount : Nat := 0
  warnings : List String := []
  digest : String := ""
  instructions : List String := []
  deriving DecidableEq, Repr, Inhabited

/-- Why a site is not generated. -/
inductive GenerateError where
  | build (error : BuildError)
  | storage (error : StorageError)
  deriving DecidableEq, Repr, Inhabited

def GenerateError.message : GenerateError → String
  | .build e => e.message
  | .storage e => e.message

/-- The steps from a generated site to a running one. -/
def nextSteps (site : SiteSettings) : List String := [
  "Install Kirby: composer install",
  "Start the development server: " ++ Scaffold.serveCommand site,
  "Open http://localhost:8000/panel and create the first account",
  "Review the generated blueprints in site/blueprints/"]

/-- The summary of a site that was written. -/
def Summary.ofManifest (site : SiteSettings) (m : Manifest) : Summary :=
  { fileCount := m.files.length
    entityCount := m.entityCount
    itemCount := m.itemCount
    warnings := m.warnings
    digest := m.digest
    instructions := nextSteps site }

/-- Builds a site and writes its files. -/
def generate {σ : Type} [Store σ] (config : Config) (input : Input) (store : σ) :
    Except GenerateError Summary × σ :=
  match build config input with
  | .error e => (.error (.build e), store)
  | .ok m =>
      match Storage.writeAll m.files store with
      | (.ok (), store) => (.ok (.ofManifest config.site m), store)
      | (.error e, store) => (.error (.storage e), store)

end Portfolio.Site
