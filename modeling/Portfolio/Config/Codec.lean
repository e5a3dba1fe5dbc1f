/-
Module: Portfolio.Config.Codec
Purpose: Settings as TOML tables. Unknown keys are refused, and absent ones keep their
  default.
Main exports: Config.codec, Config.stock, Config.resolve, ConfigError
-/
import Portfolio.Config.Basic
import Portfolio.Document.Shape
import Portfolio.Toml.Basic

namespace Portfolio

open Document (Shape Member Codec Failure fail)

/-! ### Tables -/

def SiteSettings.shape : Shape Toml SiteSettings where
  title := "SiteSettings"
  blank := {}
  closed := true
  members := [
    .defaulted "title" .text (·.title) fun y x => { x with title := y },
    .defaulted "language" .text (·.language) fun y x => { x with language := y },
    .defaulted "debug" .bool (·.debug) fun y x => { x with debug := y },
    .defaulted "panel_install" .bool (·.panelInstall) fun y x => { x with panelInstall := y },
    .defaulted "dev_server_script" .bool (·.devServerScript)
      fun y x => { x with devServerScript := y }]

def PageOptions.shape : Shape Toml PageOptions where
  title := "PageOptions"
  blank := {}
  closed := true
  members := [
    .defaulted "change_slug" .bool (·.changeSlug) fun y x => { x with changeSlug := y },
    .defaulted "change_status" .bool (·.changeStatus) fun y x => { x with changeStatus := y },
    .defaulted "delete" .bool (·.delete) fun y x => { x with delete := y },
    .defaulted "duplicate" .bool (·.duplicate) fun y x => { x with duplicate := y },
    .defaulted "preview" .bool (·.preview) fun y x => { x with preview := y },
    .defaulted "read" .bool (·.read) fun y x => { x with read := y },
    .defaulted "update" .bool (·.update) fun y x => { x with update := y }]

def BlueprintSettings.shape : Shape Toml BlueprintSettings where
  title := "BlueprintConfig"
  blank := {}
  closed := true
  members := [
    .defaulted "tabs" .bool (·.tabs) fun y x => { x with tabs := y },
    .defaulted "drafts" .bool (·.drafts) fun y x => { x with drafts := y },
    .defaulted "design_tokens_panel" .bool (·.designTokensPanel)
      fun y x => { x with designTokensPanel := y },
    .defaulted "options" PageOptions.shape.codec (·.options)
      fun y x => { x with options := y }]

namespace BooleanFormat

def known : List (String × BooleanFormat) :=
  [("true-false", .trueFalse), ("yes-no", .yesNo), ("one-zero", .oneZero)]

def name : BooleanFormat → String
  | .trueFalse => "true-false"
  | .yesNo => "yes-no"
  | .oneZero => "one-zero"

/-- Formats by name. Only a text names one. Some readers of TOML also take a table of one entry,
with the name as its key; here it is refused, as are dates and all other values. -/
def codec : Codec Toml BooleanFormat where
  read
    | .text s =>
        match known.lookup s with
        | some format => .ok format
        | none => fail (.unknownVariant s (known.map (·.1)))
    | _ => fail (.wrongKind .unitVariant "string only")
  write format := .text format.name

end BooleanFormat

def ContentSettings.shape : Shape Toml ContentSettings where
  title := "ContentConfig"
  blank := {}
  closed := true
  members := [
    .defaulted "boolean_format" BooleanFormat.codec (·.booleanFormat)
      fun y x => { x with booleanFormat := y },
    .defaulted "include_metadata" .bool (·.includeMetadata)
      fun y x => { x with includeMetadata := y },
    .defaulted "markdown_richtext" .bool (·.markdownRichtext)
      fun y x => { x with markdownRichtext := y }]

def ThemeSettings.shape : Shape Toml ThemeSettings where
  title := "ThemeConfig"
  blank := {}
  closed := true
  members := [.defaulted "reset" .bool (·.reset) fun y x => { x with reset := y }]

/-- All settings as a table of tables. -/
def Config.shape : Shape Toml Config where
  title := "SiteConfig"
  blank := {}
  closed := true
  members := [
    .defaulted "site" SiteSettings.shape.codec (·.site) fun y x => { x with site := y },
    .defaulted "blueprints" BlueprintSettings.shape.codec (·.blueprints)
      fun y x => { x with blueprints := y },
    .defaulted "content" ContentSettings.shape.codec (·.content)
      fun y x => { x with content := y },
    .defaulted "theme" ThemeSettings.shape.codec (·.theme) fun y x => { x with theme := y }]

def Config.codec : Codec Toml Config := Config.shape.codec

/-! ### Resolution -/

/-- Why there are no settings. -/
inductive ConfigError where
  /-- The file cannot be read as text. -/
  | unreadable
  /-- The text is not TOML. -/
  | malformed
  /-- A value is not what the settings want. -/
  | mismatch (failure : Failure)
  /-- The settings are refused. -/
  | refused (problem : ConfigProblem)
  deriving DecidableEq, Repr, Inhabited

/-- The words for a mismatch, with the keys that lead to it on a line of their own. -/
def ConfigError.mismatchText (failure : Failure) : String :=
  "TOML parse error: " ++ failure.cause.message ++ "\n" ++
    (if failure.path.isEmpty then ""
      else "in `" ++ String.intercalate "." failure.path ++ "`\n")

def ConfigError.refusalText (problem : ConfigProblem) : String :=
  "Config validation error: " ++ problem.message

namespace Config

/-- The default settings as TOML. -/
def stock : Toml := codec.write {}

/-- The settings of a table, unless they are refused. -/
def ofToml (table : Toml) : Except ConfigError Config := do
  let config ← (codec.read table).mapError .mismatch
  match config.problem? with
  | some problem => .error (.refused problem)
  | none => return config

/-- The settings of an overlay over the defaults. -/
def resolve (overlay : Option Toml) : Except ConfigError Config :=
  ofToml (match overlay with
    | some t => stock.layer t
    | none => stock)

end Config

end Portfolio
