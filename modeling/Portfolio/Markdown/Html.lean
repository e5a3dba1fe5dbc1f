/-
Module: Portfolio.Markdown.Html
Purpose: Writing the blocks of a document as HTML.
Main exports: Markdown.escapeText, Markdown.escapeAttribute, Markdown.escapeUrl,
  Markdown.Document.toHtml
-/
import Portfolio.Markdown.Inline
import Portfolio.Markdown.Parser

namespace Portfolio.Markdown

/-! ### Escaping -/

/-- A character of running text. -/
def escapeTextChar : Char → String
  | '&' => "&amp;"
  | '<' => "&lt;"
  | '>' => "&gt;"
  | c => String.singleton c

def escapeAttributeChar : Char → String
  | '\x22' => "&quot;"
  | '\x27' => "&#39;"
  | c => escapeTextChar c

/-- A text where it is no part of a tag. -/
def escapeText (s : String) : String := String.join (s.toList.map escapeTextChar)

/-- A text between the quotes of an attribute. -/
def escapeAttribute (s : String) : String := String.join (s.toList.map escapeAttributeChar)

/-- The characters that an address may hold as they are. -/
def isUrlChar (c : Char) : Bool :=
  c.isAlphanum || "!#$%()*+,-./:;=?@_~".toList.contains c

/-- A character of an address. -/
def escapeUrlChar (c : Char) : String :=
  if isUrlChar c then String.singleton c
  else
    match c with
    | '&' => "&amp;"
    | '\x27' => "&#x27;"
    | c =>
        String.join ((String.singleton c).toUTF8.toList.map fun b =>
          "%" ++ (String.ofList (Text.hexByte b)).toUpper)

/-- An address between the quotes of an attribute. -/
def escapeUrl (s : String) : String := String.join (s.toList.map escapeUrlChar)

def attributeText (name value : String) : String := " " ++ name ++ "=\"" ++ value ++ "\""

/-- The title of a link, if it has one. -/
def titleText (title : String) : String :=
  if title.isEmpty then "" else attributeText "title" (escapeAttribute title)

/-! ### Running text -/

mutual

/-- The text of an element without its tags, as it stands for an image. -/
def plainText : Inline → String
  | .text s | .code s | .html s => escapeAttribute s
  | .softBreak | .hardBreak => " "
  | .emphasis content | .strong content | .strike content => plainTexts content
  | .link _ content | .image _ content => plainTexts content

/-- The text of elements without their tags. -/
def plainTexts : List Inline → String
  | [] => ""
  | i :: is => plainText i ++ plainTexts is

end

mutual

/-- An element of running text as HTML. -/
def inlineHtml : Inline → String
  | .text s => escapeText s
  | .code s => "<code>" ++ escapeText s ++ "</code>"
  | .html s => s
  | .softBreak => "\n"
  | .hardBreak => "<br />\n"
  | .emphasis content => "<em>" ++ inlinesHtml content ++ "</em>"
  | .strong content => "<strong>" ++ inlinesHtml content ++ "</strong>"
  | .strike content => "<del>" ++ inlinesHtml content ++ "</del>"
  | .link target content =>
      "<a" ++ attributeText "href" (escapeUrl target.destination) ++ titleText target.title ++
        ">" ++ inlinesHtml content ++ "</a>"
  | .image target content =>
      "<img" ++ attributeText "src" (escapeUrl target.destination) ++
        attributeText "alt" (plainTexts content) ++ titleText target.title ++ " />"

/-- Running text as HTML. -/
def inlinesHtml : List Inline → String
  | [] => ""
  | i :: is => inlineHtml i ++ inlinesHtml is

end

/-- A source of running text as HTML. -/
def sourceHtml (references : References) (source : List Char) : String :=
  inlinesHtml (readInlines references source)

/-! ### Tables -/

/-- How the alignment of a cell is written in its tag. -/
def Alignment.html : Alignment → String
  | .none => ""
  | .left => attributeText "style" "text-align: left"
  | .center => attributeText "style" "text-align: center"
  | .right => attributeText "style" "text-align: right"

/-- The cells of a row as HTML, each in a tag of the name. -/
def cellsHtml (references : References) (tag : String) (alignments : List Alignment)
    (cells : List (List Char)) : String :=
  String.join ((alignments.zip cells).map fun (alignment, cell) =>
    "<" ++ tag ++ alignment.html ++ ">" ++ sourceHtml references cell ++ "</" ++ tag ++ ">")

def tableHtml (references : References) (alignments : List Alignment)
    (header : List (List Char)) (rows : List (List (List Char))) : String :=
  "<table><thead><tr>" ++ cellsHtml references "th" alignments header ++
    "</tr></thead><tbody>\n" ++
    String.join (rows.map fun row =>
      "<tr>" ++ cellsHtml references "td" alignments row ++ "</tr>\n") ++
    "</tbody></table>\n"

/-! ### Blocks -/

/-- The opening tag of a list. The number of the first item is written unless it is one. -/
def listOpening : Option Nat → String
  | none => "<ul>\n"
  | some 1 => "<ol>\n"
  | some n => "<ol" ++ attributeText "start" (Text.decimal n) ++ ">\n"

def listClosing (start : Option Nat) : String := if start.isSome then "</ol>\n" else "</ul>\n"

/-- The opening tags of a code block. -/
def codeOpening (language : String) : String :=
  if language.isEmpty then "<pre><code>"
  else "<pre><code" ++ attributeText "class" ("language-" ++ escapeAttribute language) ++ ">"

/-- Adds a text on a line of its own. -/
def addLine (out s : String) : String :=
  if out.isEmpty || out.endsWith "\n" then out ++ s else out ++ "\n" ++ s

mutual

/-- Adds a block to the HTML before it. The paragraphs of a tight list have no tags. -/
def addBlock (references : References) (tight : Bool) (out : String) : Block → String
  | .paragraph source =>
      let text := sourceHtml references source
      if tight then out ++ text else addLine out ("<p>" ++ text ++ "</p>\n")
  | .heading level source =>
      let tag := "h" ++ Text.decimal level
      addLine out ("<" ++ tag ++ ">" ++ sourceHtml references source ++ "</" ++ tag ++ ">\n")
  | .rule => addLine out "<hr />\n"
  | .code language text =>
      addLine out (codeOpening language ++ escapeText (String.ofList text) ++ "</code></pre>\n")
  | .html text => out ++ String.ofList text
  | .quote content =>
      addBlocks references false (addLine out "<blockquote>\n") content ++ "</blockquote>\n"
  | .list start tight items =>
      addItems references tight (addLine out (listOpening start)) items ++ listClosing start
  | .table alignments header rows => out ++ tableHtml references alignments header rows

/-- Adds blocks to the HTML before them. -/
def addBlocks (references : References) (tight : Bool) (out : String) : List Block → String
  | [] => out
  | b :: bs => addBlocks references tight (addBlock references tight out b) bs

/-- Adds the items of a list to the HTML before them. -/
def addItems (references : References) (tight : Bool) (out : String) :
    List (List Block) → String
  | [] => out
  | item :: items =>
      let out := addBlocks references tight (addLine out "<li>") item ++ "</li>\n"
      addItems references tight out items

end

def Document.toHtml (d : Document) : String := addBlocks d.references false "" d.blocks

end Portfolio.Markdown
