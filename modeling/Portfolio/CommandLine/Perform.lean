/-
Module: Portfolio.CommandLine.Perform
Purpose: What a command produces from the documents it names: files to be written and
  lines to be printed.
Main exports: CommandLine.Found, CommandLine.Failure, CommandLine.Product,
  CommandLine.perform
-/
import Portfolio.CommandLine.Arguments
import Portfolio.Config.Text
import Portfolio.Console
import Portfolio.Json.Parser

namespace Portfolio.CommandLine

/-- What is found at a path. -/
inductive Found where
  | nothing
  /-- Something that cannot be read, such as a folder. -/
  | unreadable
  | file (bytes : List UInt8)
  deriving DecidableEq, Repr, Inhabited

/-- Why a command produces nothing. -/
inductive Failure where
  | config (error : ConfigError)
  /-- A document cannot be read as text. -/
  | unreadable (path : String)
  /-- A text is not JSON. -/
  | notJson (path : String)
  /-- A document is not of the kind that is wanted. -/
  | mismatch (path : String) (cause : Document.Cause)
  /-- A site needs a schema. -/
  | noSchema
  | build (error : Site.BuildError)
  deriving DecidableEq, Repr, Inhabited

def Failure.message : Failure → String
  | .config .unreadable => "the configuration cannot be read"
  | .config .malformed => "the configuration is not TOML"
  | .config (.mismatch f) => ConfigError.mismatchText f
  | .config (.refused p) => ConfigError.refusalText p
  | .unreadable path => "cannot read " ++ path
  | .notJson path => "invalid JSON in " ++ path
  | .mismatch path cause => "invalid JSON in " ++ path ++ ": " ++ cause.message
  | .noSchema => "generate needs --schema or --content"
  | .build e => e.message

/-- What a command produces. -/
structure Product where
  files : List File := []
  lines : List String := []
  /-- The command reports a fault, and still prints its lines. -/
  faulty : Bool := false
  deriving DecidableEq, Repr, Inhabited

/-- The settings at a path. A file that is not there means the default settings. -/
def loadConfig (look : String → Found) (path : String) : Except Failure Config :=
  (match look path with
    | .nothing => Config.resolve none
    | .unreadable => .error .unreadable
    | .file bytes => Config.ofBytes bytes).mapError .config

def load {α : Type} (look : String → Found) (codec : Document.Codec Value α) (path : String) :
    Except Failure α := do
  let .file bytes := look path | throw (.unreadable path)
  let some text := String.fromUTF8? ⟨bytes.toArray⟩ | throw (.unreadable path)
  let .ok value := Json.parse text | throw (.notJson path)
  (codec.read value).mapError fun f => .mismatch path f.cause

/-- The schema at a path, or else that of the content. -/
def loadSchema (look : String → Found) (path : Option String) (content : Option Collection) :
    Except Failure Schema :=
  match path, content with
  | some path, _ => load look Schema.codec path
  | none, some collection => .ok collection.schema
  | none, none => .error .noSchema

/-- Builds a whole site. -/
def generate (look : String → Found) (i : Invocation) (schema content design : Option String) :
    Except Failure Product := do
  let config ← loadConfig look i.config
  let content ← content.mapM (load look Collection.codec)
  let schema ← loadSchema look schema content
  let design ← design.mapM (load look Design.codec)
  let manifest ← (Site.build config ⟨schema, content, design⟩).mapError .build
  return {
    files := manifest.files
    lines := Console.summaryLines (.ofManifest config.site manifest) i.output }

/-- What a command produces, given what is found at each path. -/
def perform (look : String → Found) (i : Invocation) : Except Failure Product :=
  match i.command with
  | .generate schema content design => generate look i schema content design
  | .validate schema => do
      let report := Validation.report (← load look Schema.codec schema)
      return { lines := Console.validationLines report, faulty := !report.valid }
  | .blueprints schema => do
      let config ← loadConfig look i.config
      let part := Site.SchemaPart.ofSchema config (← load look Schema.codec schema)
      return { files := part.files, lines := Console.schemaLines part }
  | .content content => do
      let config ← loadConfig look i.config
      let c ← load look Collection.codec content
      let part := Site.ContentPart.ofItems config.content c.schema c.content
      return { files := part.files, lines := Console.contentLines part }
  | .theme design => do
      let config ← loadConfig look i.config
      let part := Site.ThemePart.ofDesign config.theme (← load look Design.codec design)
      return { files := part.files, lines := Console.themeLines part }
  | .printConfig => .ok { lines := Config.stockLines }

/-- The paths that a command may look at. -/
def Invocation.inputs (i : Invocation) : List String :=
  match i.command with
  | .generate schema content design =>
      i.config :: (schema.toList ++ content.toList ++ design.toList)
  | .validate schema => [schema]
  | .blueprints schema => [i.config, schema]
  | .content content => [i.config, content]
  | .theme design => [i.config, design]
  | .printConfig => []

end Portfolio.CommandLine
