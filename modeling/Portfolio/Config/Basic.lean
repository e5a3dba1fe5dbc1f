/-
Module: Portfolio.Config.Basic
Purpose: The settings of a site, their defaults, and which settings are refused.
Main exports: Config, Config.problem?
-/
import Portfolio.Text.Blank

namespace Portfolio

/-- Settings of the site as a whole. -/
structure SiteSettings where
  title : String := "Portfolio"
  /-- Two-letter language code of the pages. -/
  language : String := "en"
  debug : Bool := false
  /-- The panel may be installed on a public server. -/
  panelInstall : Bool := false
  /-- A script that starts a development server is part of the site. -/
  devServerScript : Bool := true
  deriving DecidableEq, Repr, Inhabited

/-- What editors may do with a page. -/
structure PageOptions where
  changeSlug : Bool := true
  changeStatus : Bool := true
  delete : Bool := true
  duplicate : Bool := true
  preview : Bool := true
  read : Bool := true
  update : Bool := true
  deriving DecidableEq, Repr, Inhabited

/-- Settings of the panel forms. -/
structure BlueprintSettings where
  /-- Entities with many fields get tabs. -/
  tabs : Bool := true
  /-- Pages can be drafts, listed or unlisted. -/
  drafts : Bool := true
  /-- The panel has a page for the design tokens. -/
  designTokensPanel : Bool := true
  options : PageOptions := {}
  deriving DecidableEq, Repr, Inhabited

/-- How booleans are written in content files. -/
inductive BooleanFormat where
  | trueFalse
  | yesNo
  | oneZero
  deriving DecidableEq, Repr, Inhabited

/-- The text of a boolean. -/
def BooleanFormat.text : BooleanFormat → Bool → String
  | .trueFalse, true => "true"
  | .trueFalse, false => "false"
  | .yesNo, true => "yes"
  | .yesNo, false => "no"
  | .oneZero, true => "1"
  | .oneZero, false => "0"

/-- Settings of the content files. -/
structure ContentSettings where
  booleanFormat : BooleanFormat := .trueFalse
  /-- Records end with the times and the author of the item. -/
  includeMetadata : Bool := true
  /-- Rich text that is no HTML is Markdown. -/
  markdownRichtext : Bool := true
  deriving DecidableEq, Repr, Inhabited

/-- Settings of the stylesheets. -/
structure ThemeSettings where
  /-- The base stylesheet starts with a reset. -/
  reset : Bool := true
  deriving DecidableEq, Repr, Inhabited

/-- All settings of a site. -/
structure Config where
  site : SiteSettings := {}
  blueprints : BlueprintSettings := {}
  content : ContentSettings := {}
  theme : ThemeSettings := {}
  deriving DecidableEq, Repr, Inhabited

/-- Settings that are readable but make no site. -/
inductive ConfigProblem where
  | blankTitle
  | badLanguage
  deriving DecidableEq, Repr, Inhabited

def ConfigProblem.message : ConfigProblem → String
  | .blankTitle => "site.title must not be empty"
  | .badLanguage => "site.language must be a two-letter lowercase code"

namespace Config

/-- A language code is two small ASCII letters. -/
def isLanguage (s : String) : Bool :=
  match s.toList with
  | [a, b] => a.isLower && b.isLower
  | _ => false

/-- The first problem with the settings. -/
def problem? (config : Config) : Option ConfigProblem :=
  if Text.allBlank config.site.title then some .blankTitle
  else if !isLanguage config.site.language then some .badLanguage
  else none

end Config

end Portfolio
