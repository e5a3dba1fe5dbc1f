/-
Module: Portfolio.Naming
Purpose: The names of generated things. Blueprints, templates, content folders and
  stylesheets all take their names from here, so they agree.
Main exports: Naming.slug, Naming.template, Naming.collection, Naming.label, Naming.key,
  Naming.isKey, Naming.cssIdent
-/
import Portfolio.Text.Blank

namespace Portfolio.Naming

/-- The characters that names keep: ASCII letters and digits. -/
def isKept (c : Char) : Bool := c.isAlphanum

/-- The maximal runs of kept characters, in order. -/
def runs (cs : List Char) : List (List Char) :=
  (cs.splitOnP fun c => !isKept c).filter fun run => !run.isEmpty

/-- The runs of kept characters with one separator between any two of them. -/
def joinRuns (separator : Char) (cs : List Char) : List Char :=
  [separator].intercalate (runs cs)

/-- A text in lower case, its runs joined by dashes. -/
def dashed (cs : List Char) : List Char :=
  (joinRuns '-' cs).map Char.toLower

/-! ### Slugs, templates and collections -/

/-- Upper bound on the length of a slug, in characters. -/
def maxSlugLength : Nat := 100

/-- Cuts a text to a length, and drops the dashes that then stand at its end. -/
def cutSlug (length : Nat) (cs : List Char) : List Char :=
  if cs.length ≤ length then cs else Text.dropEndWhile (· == '-') (cs.take length)

/-- The URL slug of a text, such as `jazz-night` for `Jazz Night!`. It is empty if
the text has no usable character. -/
def slug (s : String) : String :=
  String.ofList (cutSlug maxSlugLength (dashed s.toList))

/-- The template name of an entity id. Ids without a usable character share the name
`page`, so that no path has an empty part. -/
def template (entityId : String) : String :=
  match dashed entityId.toList with
  | [] => "page"
  | name => String.ofList name

/-- The folder of an entity's items below `content`: the slug of the plural name, or
the template name where that is empty. -/
def collection (pluralName entityId : String) : String :=
  let folder := slug pluralName
  if folder.isEmpty then template entityId else folder

/-! ### Field labels and keys -/

/-- A text with its first character in ASCII upper case. -/
def capitalize : List Char → List Char
  | [] => []
  | c :: cs => c.toUpper :: cs

/-- The label of a field in content files, such as `Venue_name` for `venue name`. -/
def label (fieldName : String) : String :=
  String.ofList (capitalize (joinRuns '_' fieldName.toList))

/-- The key of a field in forms, templates and snippet paths, such as `venue_name`
for `Venue Name`. It is empty if the name has no usable character. -/
def key (fieldName : String) : String :=
  String.ofList ((joinRuns '_' fieldName.toList).map Char.toLower)

/-- Keys are called as methods in templates, so they start with a letter. -/
def isKey (s : String) : Bool :=
  match s.toList with
  | [] => false
  | c :: _ => c.isAlpha

/-! ### Stylesheet identifiers -/

/-- A dash before every capital that follows a small letter or a digit. -/
def splitCapitals (afterSmall : Bool) : List Char → List Char
  | [] => []
  | c :: cs =>
      let rest := c :: splitCapitals (c.isLower || c.isDigit) cs
      if c.isUpper && afterSmall then '-' :: rest else rest

/-- The part that a token name takes in a custom property, such as `ease-in-out` for
`easeInOut`. -/
def cssIdent (name : String) : String :=
  String.ofList (dashed (splitCapitals false name.toList))

end Portfolio.Naming
