/-
Module: Portfolio.Config.Text
Purpose: Settings as the text of a configuration file, and the text of a file that
  explains them all.
Main exports: Config.ofText, Config.ofBytes, Config.stockText
-/
import Portfolio.Config.Codec
import Portfolio.Text.Line
import Portfolio.Toml.Parser

namespace Portfolio.Config

/-- The settings of a file's text. -/
def ofText (text : String) : Except ConfigError Config :=
  match Toml.parse text with
  | some table => resolve (some table)
  | none => .error .malformed

/-- The settings of a file's bytes. -/
def ofBytes (bytes : List UInt8) : Except ConfigError Config :=
  match String.fromUTF8? ⟨bytes.toArray⟩ with
  | some text => ofText text
  | none => .error .unreadable

/-- The lines of a file that sets everything to its default and says what it means. -/
def stockLines : List String := [
  "# folio-gen Configuration",
  "# =======================",
  "# All settings are optional. Remove or comment out any you don't need.",
  "# Values shown below are the defaults. Unknown keys will cause an error.",
  "",
  "# ---------------------------------------------------------------------------",
  "# Site",
  "# ---------------------------------------------------------------------------",
  "[site]",
  "# Site title, written to content/site.txt.",
  "title = \"Portfolio\"",
  "",
  "# Two-letter language code for the <html lang> attribute.",
  "language = \"en\"",
  "",
  "# Kirby debug mode (never enable on a public server).",
  "debug = false",
  "",
  "# Allow the panel installer on a non-local server.",
  "panel_install = false",
  "",
  "# Emit an executable serve.sh that runs the PHP development server.",
  "dev_server_script = true",
  "",
  "# ---------------------------------------------------------------------------",
  "# Blueprints (panel layout)",
  "# ---------------------------------------------------------------------------",
  "[blueprints]",
  "# Split entities with more than 6 fields into content/media/settings tabs.",
  "tabs = true",
  "",
  "# Attach the draft / listed / unlisted status block to every page.",
  "drafts = true",
  "",
  "# Emit site/blueprints/pages/design-tokens.yml for editing tokens in the panel.",
  "design_tokens_panel = true",
  "",
  "# Page options attached to every generated page blueprint.",
  "[blueprints.options]",
  "change_slug = true",
  "change_status = true",
  "delete = true",
  "duplicate = true",
  "preview = true",
  "read = true",
  "update = true",
  "",
  "# ---------------------------------------------------------------------------",
  "# Content files",
  "# ---------------------------------------------------------------------------",
  "[content]",
  "# How boolean values are written: \"true-false\", \"yes-no\" or \"one-zero\".",
  "boolean_format = \"true-false\"",
  "",
  "# Append Created / Updated / Author / Published entries to every record.",
  "include_metadata = true",
  "",
  "# Render markdown found in richtext values to HTML for the writer field.",
  "markdown_richtext = true",
  "",
  "# ---------------------------------------------------------------------------",
  "# Theme",
  "# ---------------------------------------------------------------------------",
  "[theme]",
  "# Prepend a CSS reset block to base.css.",
  "reset = true"]

/-- The text of a file that explains all settings. -/
def stockText : String := Text.unlines stockLines ++ "\n"

end Portfolio.Config
