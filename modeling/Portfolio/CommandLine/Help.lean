/-
Module: Portfolio.CommandLine.Help
Purpose: The text that says how the program and its commands are used.
Main exports: CommandLine.programHelp, CommandLine.commandHelp, CommandLine.Topic.lines,
  CommandLine.versionLine
-/
import Portfolio.CommandLine.Arguments

namespace Portfolio.CommandLine

/-! ### What is explained -/

def programName : String := "folio-gen"

/-- What the version is asked for with. -/
def versionLine : String := programName ++ " 0.6.0"

def programPurpose : String := "Generate a Kirby CMS site from a portfolio content model"

/-- What the program does, reads and writes. -/
def programAbout : List String := [
  programPurpose,
  "",
  "Inputs are the JSON documents produced upstream:",
  "",
  "  schema.json    ContentSchema: entities, fields, relationships",
  "  content.json   StructuredContentCollection: items per entity",
  "  design.json    DesignSystemSchema: tokens, typography, spacing, palette",
  "",
  "Output layout:",
  "",
  "  site/",
  "  ├── site/blueprints/pages/<template>.yml   # Panel forms, one per entity",
  "  ├── site/blueprints/site.yml               # Collections overview",
  "  ├── site/templates/<template>.php          # Page templates",
  "  ├── site/snippets/                         # Header, footer, cards, structures",
  "  ├── content/<collection>/<n>_<slug>/       # One folder per listed item",
  "  ├── assets/css/main.css                    # Imports base, theme, utilities",
  "  └── composer.json, index.php, serve.sh",
  "",
  "The schema is validated first; a schema with errors writes nothing.",
  "",
  "Run 'folio-gen gen-config' to generate a documented folio.toml."]

def commandPurposes : List (String × String) := [
  ("generate", "Validate the schema, then write the complete site"),
  ("validate", "Validate a content schema without writing anything"),
  ("blueprints", "Write blueprints, templates and snippets for a schema"),
  ("content", "Write content files for a content collection"),
  ("theme", "Write stylesheets for a design system"),
  ("gen-config", "Print a stock folio.toml with all options documented"),
  ("help", "Print this message or the help of the given subcommand(s)")]

/-- An option in the help: what it is for, and the value it has where none is given. -/
structure OptionHelp where
  name : String
  about : String := ""
  standard : Option String := none
  deriving DecidableEq, Repr, Inhabited

/-- The options of a command, among those for all commands. -/
def optionHelps (command : String) : List OptionHelp :=
  let config : OptionHelp := ⟨"config", "Generator config file", some "folio.toml"⟩
  let output : OptionHelp := ⟨"output", "Output directory", some "site"⟩
  let logLevel : OptionHelp :=
    ⟨"log-level", "Log filter when RUST_LOG is unset (error, warn, info, debug, trace)",
      some "warn"⟩
  match command with
  | "generate" => [
      config,
      ⟨"schema", "Content schema; defaults to the schema embedded in --content", none⟩,
      ⟨"content", "Structured content collection", none⟩,
      output,
      ⟨"design", "Design system tokens", none⟩,
      logLevel]
  | "validate" | "blueprints" => [config, ⟨"schema", "", none⟩, output, logLevel]
  | "content" => [config, ⟨"content", "", none⟩, output, logLevel]
  | "theme" => [config, ⟨"design", "", none⟩, output, logLevel]
  | _ => [config, output, logLevel]

def neededOption? : String → Option String
  | "validate" | "blueprints" => some "schema"
  | "content" => some "content"
  | "theme" => some "design"
  | _ => none

/-! ### How it is written -/

/-- An option as it is given, with a name for its value. -/
def optionUse (name : String) : String :=
  let value := name.map fun c => if c = '-' then '_' else c.toUpper
  "--" ++ name ++ " <" ++ value ++ ">"

/-- A text with spaces up to a width. -/
def padTo (width : Nat) (s : String) : String :=
  s ++ String.ofList (List.replicate (width - s.length) ' ')

/-- The width of a line of the help. -/
def lineWidth : Nat := 100

/-- The place in a line where the words about an option start. -/
def aboutColumn : Nat := 31

/-- The note about the value that an option has where none is given. -/
def OptionHelp.note (o : OptionHelp) : Option String :=
  o.standard.map fun value => "[default: " ++ value ++ "]"

/-- An option in the short help. The note stands on a line of its own where it does not
fit. -/
def OptionHelp.shortLines (o : OptionHelp) : List String :=
  let start := padTo aboutColumn ("      " ++ optionUse o.name) ++ o.about
  match o.note with
  | none => [start]
  | some note =>
      let whole := start ++ " " ++ note
      if whole.length ≤ lineWidth then [whole] else [start, padTo aboutColumn "" ++ note]

def OptionHelp.longLines (o : OptionHelp) : List String :=
  let note := match o.note with
    | none => []
    | some note => [padTo 10 "", padTo 10 "" ++ note]
  ["      " ++ optionUse o.name, padTo 10 "" ++ o.about] ++ note ++ [""]

def commandLines : List String :=
  commandPurposes.map fun e => "  " ++ padTo 12 e.1 ++ e.2

def programHelp (long : Bool) : List String :=
  let about := if long then programAbout else [programPurpose]
  let options := optionHelps ""
  about ++ ["", "Usage: " ++ programName ++ " [OPTIONS] <COMMAND>", "", "Commands:"] ++
    commandLines ++ ["", "Options:"] ++
    (if long then
      options.flatMap OptionHelp.longLines ++
        ["  -h, --help", padTo 10 "" ++ "Print help (see a summary with '-h')", "",
          "  -V, --version", padTo 10 "" ++ "Print version"]
    else
      options.flatMap OptionHelp.shortLines ++
        [padTo aboutColumn "  -h, --help" ++ "Print help (see more with '--help')",
          padTo aboutColumn "  -V, --version" ++ "Print version"])

def commandHelp (name : String) : List String :=
  let purpose := (commandPurposes.lookup name).getD ""
  let use := match neededOption? name with
    | some option => " [OPTIONS] " ++ optionUse option
    | none => " [OPTIONS]"
  [purpose, "", "Usage: " ++ programName ++ " " ++ name ++ use, "", "Options:"] ++
    (optionHelps name).flatMap OptionHelp.shortLines ++
    [padTo aboutColumn "  -h, --help" ++ "Print help"]

def Topic.lines : Topic → List String
  | .program long => programHelp long
  | .command name => commandHelp name

end Portfolio.CommandLine
