/-
Module: Portfolio.Record.Value
Purpose: How the value of a field is written in a content record, by the kind of the
  field.
Main exports: Record.Body, Record.bodyOf, Record.scalarText, Record.yamlScalar,
  Record.momentText, Record.timeText
-/
import Portfolio.Calendar
import Portfolio.Config.Basic
import Portfolio.Json.Printer
import Portfolio.Markdown
import Portfolio.Naming
import Portfolio.Schema.Basic
import Portfolio.Text.Line
import Portfolio.Yaml.Printer

namespace Portfolio.Record

/-- What stands behind a label: a text on the same line, or a block below it. -/
inductive Body where
  | line (text : String)
  | block (text : String)
  deriving DecidableEq, Repr, Inhabited

/-! ### Escapes -/

/-- The characters of a line: line ends become a backslash and an `n`, and carriage
returns that end no line are dropped. -/
def escapeLineChars : List Char → List Char
  | '\r' :: '\n' :: cs => '\\' :: 'n' :: escapeLineChars cs
  | '\n' :: cs => '\\' :: 'n' :: escapeLineChars cs
  | '\r' :: cs => escapeLineChars cs
  | c :: cs => c :: escapeLineChars cs
  | [] => []

/-- A text on one line. -/
def escapeLine (s : String) : String := String.ofList (escapeLineChars s.toList)

/-- The line that separates entries. -/
def separatorLine : List Char := ['-', '-', '-', '-']

/-- A line of a block. One that reads as a separator gets a backslash in front. -/
def escapeBlockLine (line : List Char) : List Char :=
  if line = separatorLine then '\\' :: line else line

/-- The characters of a block without line ends at its end, every line escaped. -/
def escapeBlockChars (cs : List Char) : List Char :=
  let trimmed := Text.dropEndWhile (fun c => c == '\n' || c == '\r') cs
  Text.joinLines ((Text.readLines trimmed).map escapeBlockLine)

/-- A text as a block. -/
def escapeBlock (s : String) : String := String.ofList (escapeBlockChars s.toList)

/-! ### Plain texts of values -/

/-- The text of any value: texts as they are, null as nothing, lists and maps as
JSON. -/
def scalarText : Value → String
  | .null => ""
  | .text s => s
  | v => Json.compact v

/-- A text in lower case as far as ASCII goes. -/
def lowerAscii (s : String) : String := String.ofList (s.toList.map Char.toLower)

/-- The words that stand for true. -/
def trueWords : List String := ["true", "yes", "1", "on"]

/-- The words that stand for false. -/
def falseWords : List String := ["false", "no", "0", "off"]

/-- The boolean that a value stands for, if any. -/
def boolOf? : Value → Option Bool
  | .bool b => some b
  | .number n => n.asInt64.map (· != 0)
  | .text s =>
      let word := lowerAscii (Text.trim s)
      if trueWords.contains word then some true
      else if falseWords.contains word then some false
      else none
  | _ => none

/-- The items that are not null. -/
def present (items : List Value) : List Value := items.filter fun v => !v.isNull

/-- The items of a list with commas between them, or any other value alone. -/
def joined (item : Value → String) : Value → String
  | .list items => String.intercalate ", " ((present items).map item)
  | v => item v

/-- The text of a member of a map, or of the value itself where it has none. -/
def memberText (key : String) (v : Value) : String :=
  match (v.get? key).filter fun member => !member.isNull with
  | some member => scalarText member
  | none => scalarText v

/-- The text of the first of two members that is there. Null counts as there. -/
def eitherMember (a b : String) (v : Value) : Option String :=
  ((v.get? a) <|> (v.get? b)).map scalarText

/-- A place on the map as latitude and longitude, from a map or a pair. -/
def locationText (v : Value) : String :=
  let pair := match v with
    | .list [a, b] => some (scalarText a, scalarText b)
    | v => do
        let lat ← eitherMember "lat" "latitude" v
        let lng ← eitherMember "lng" "longitude" v
        return (lat, lng)
  match pair with
  | some (lat, lng) => lat ++ "," ++ lng
  | none => scalarText v

/-! ### Lists and structures -/

/-- The items of a list as a YAML sequence of lines. -/
def listBlock : Value → String
  | .list items => Text.unlines ((present items).map fun v => "- " ++ escapeLine (scalarText v))
  | v => scalarText v

/-- A value as a YAML scalar on one line. Lists, maps and texts of several lines are
written as JSON, which YAML also reads. -/
def yamlScalar : Value → String
  | .list items => Json.compact (.list items)
  | .map entries => Json.compact (.map entries)
  | .text s => if s.toList.contains '\n' then Json.quote s else Text.trimEnd (Yaml.print (.text s))
  | v => Text.trimEnd (Yaml.print v)

/-- The entries of a structure's row that are not null: those of the nested fields in
their order, then the others in theirs. -/
def orderedRow (nested : List Field) (row : List (String × Value)) : List (String × Value) :=
  let declared := nested.filterMap fun f => (row.lookup f.name).map fun v => (f.name, v)
  let others := row.filter fun e => !nested.any fun f => f.name == e.1
  (declared ++ others).filter fun e => !e.2.isNull

/-- The lines of one row of a structure. -/
def rowLines (nested : List Field) : Value → List String
  | .map row =>
      "-" :: (orderedRow nested row).map fun e =>
        "  " ++ Naming.key e.1 ++ ": " ++ yamlScalar e.2
  | .null => []
  | v => ["- " ++ yamlScalar v]

/-- The rows of a structure as a YAML sequence of maps. -/
def structureBlock (nested : List Field) : Value → String
  | .list rows => Text.unlines (rows.flatMap (rowLines nested))
  | v => scalarText v

/-- A value as indented JSON, or a text as it is. -/
def jsonBlock : Value → String
  | .text s => s
  | v => Json.pretty v

/-! ### Rich text -/

/-- A text that starts with a tag. -/
def looksLikeHtml (s : String) : Bool :=
  match Text.trimStartChars s.toList with
  | '<' :: rest => rest.contains '>'
  | _ => false

/-- Rich text as HTML, from Markdown where that is wanted. -/
def richBlock (settings : ContentSettings) (v : Value) : String :=
  let s := scalarText v
  if settings.markdownRichtext && !looksLikeHtml s then Markdown.toHtml s else s

/-! ### Dates and times -/

/-- A text that reads as a moment in the one written form, and any other as it is. -/
def momentOfText (s : String) : String :=
  match Calendar.readMoment? s with
  | some m => m.text
  | none => s

/-- A moment from a text, or from a number of seconds since 1970. -/
def momentText : Value → String
  | .text s => momentOfText s
  | .number n =>
      match n.asInt64.bind Calendar.ofUnixSeconds? with
      | some m => m.text
      | none => n.text .json
  | v => scalarText v

/-- A time of day as hour and minute, and any other text as it is. -/
def timeText (v : Value) : String :=
  let s := scalarText v
  match Calendar.readTime? s with
  | some c => c.text
  | none => s

/-! ### Values by kind -/

/-- What stands behind the label of a field with a value. -/
def bodyOf (settings : ContentSettings) (field : Field) (v : Value) : Body :=
  match field.kind with
  | .text | .textarea | .email | .url | .tel | .color => .line (scalarText v)
  | .number | .range | .select | .radio | .unknown _ => .line (scalarText v)
  | .richtext => .block (richBlock settings v)
  | .markdown | .code => .block (scalarText v)
  | .boolean =>
      .line (match boolOf? v with
        | some b => settings.booleanFormat.text b
        | none => scalarText v)
  | .date | .datetime => .line (momentText v)
  | .time => .line (timeText v)
  | .multiselect | .checkbox | .tags => .line (joined scalarText v)
  | .image | .file | .gallery | .files => .line (joined (memberText "filename") v)
  | .list => .block (listBlock v)
  | .structured => .block (structureBlock field.nested v)
  | .blocks | .json => .block (jsonBlock v)
  | .relation | .relations => .line (joined (memberText "id") v)
  | .location => .line (locationText v)

end Portfolio.Record
