/-
Module: Portfolio.Console
Purpose: The lines that tell a user what was produced. What was produced comes first,
  and what belongs to it is indented below.
Main exports: Console.validationLines, Console.schemaLines, Console.contentLines,
  Console.themeLines, Console.summaryLines
-/
import Portfolio.Site.Generate

namespace Portfolio.Console

/-! ### Parts of lines -/

def indent (level : Nat) (line : String) : String :=
  String.join (List.replicate level "    ") ++ line

/-- A position in a list, with at least three digits. -/
def position (n : Nat) : String := Text.padZeros 3 (Text.decimal n)

/-- A noun for a number of things other than one. -/
def plural (noun : String) : String :=
  match noun.toList.reverse with
  | 'y' :: stem => String.ofList stem.reverse ++ "ies"
  | _ => noun ++ "s"

/-- A number of things. -/
def count (n : Nat) (noun : String) : String :=
  Text.decimal n ++ " " ++ if n = 1 then noun else plural noun

/-- Lines under a title, or nothing if there are none. -/
def titled (title : String) (lines : List String) : List String :=
  if lines.isEmpty then [] else title :: lines

/-- The paths of files under a title. -/
def fileLines (title : String) (files : List File) : List String :=
  titled title (files.map fun f => indent 1 f.path)

/-! ### Reports -/

/-- An issue with its position, and what could be done about it. -/
def issueLines (issue : Validation.Issue) (index : Nat) : List String :=
  indent 1 (position (index + 1) ++ " " ++ issue.text) ::
    (issue.suggestion.map fun s => indent 2 ("Suggestion: " ++ s)).toList

def issuesLines (title : String) (issues : List Validation.Issue) : List String :=
  titled title (issues.zipIdx.flatMap fun (issue, i) => issueLines issue i)

def verdictLine (report : Validation.Report) : String :=
  "Schema is " ++ (if report.valid then "valid" else "invalid") ++ " (" ++
    count report.errors.length "error" ++ ", " ++ count report.warnings.length "warning" ++ ")"

def validationLines (report : Validation.Report) : List String :=
  verdictLine report :: issuesLines "Errors" report.errors ++
    issuesLines "Warnings" report.warnings ++
    titled "Info" (report.info.map fun issue => indent 1 issue.message)

/-! ### Parts of a site -/

def schemaLines (part : Site.SchemaPart) : List String :=
  fileLines "Blueprints" part.blueprints ++ fileLines "Templates" part.templates ++
    ["Generated " ++ count part.blueprintCount "blueprint" ++ ", " ++
      count part.templateCount "template" ++ ", " ++ count part.snippetCount "snippet"]

/-- An entity with its position and the number of its items. -/
def entityLine (entity : String × Nat) (index : Nat) : String :=
  position (index + 1) ++ " " ++ entity.1 ++ " (" ++ count entity.2 "item" ++ ")"

def skippedLine (s : Site.SkippedItem) : String :=
  indent 1 (s.entityType ++ "/" ++ s.itemId ++ ": " ++ s.reason)

/-- What the items produced. -/
def contentLines (part : Site.ContentPart) : List String :=
  "Content" :: part.counts.entries.zipIdx.map (fun (entity, i) => entityLine entity i) ++
    titled "Skipped" (part.skipped.map skippedLine) ++
    ["Serialized " ++ count part.itemCount "item" ++ " across " ++
      count part.counts.size "entity"]

/-- What a design system produced. -/
def themeLines (part : Site.ThemePart) : List String :=
  fileLines "Stylesheets" part.files ++ ["Rendered " ++ count part.tokenCount "token"]

/-! ### Sites -/

def stepLine (step : String) (index : Nat) : String :=
  indent 1 (Text.decimal (index + 1) ++ ". " ++ step)

/-- What was generated into a folder. -/
def summaryLines (summary : Site.Summary) (output : String) : List String :=
  ["Generated " ++ count summary.fileCount "file" ++ " → " ++ output,
    indent 1 (count summary.entityCount "entity" ++ ", " ++ count summary.itemCount "item"),
    indent 1 ("Digest: " ++ summary.digest)] ++
    titled "Warnings" (summary.warnings.map (indent 1)) ++
    titled "Next steps" (summary.instructions.zipIdx.map fun (step, i) => stepLine step i)

end Portfolio.Console
