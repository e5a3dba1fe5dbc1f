/-
Module: Portfolio.Markdown.Leaf
Purpose: Reading the blocks that hold no other blocks: code, HTML, tables, definitions of
  links, and running text. Each reader takes the lines that belong to its block.
Main exports: Markdown.Entry, Markdown.readIndented, Markdown.readFenced,
  Markdown.readHtml, Markdown.readText
-/
import Portfolio.Markdown.Link
import Portfolio.Markdown.Start

namespace Portfolio.Markdown

/-- The way into a line past the marks of the containers that are open: whether it has the
marks of all of them, and the place behind those that it has. -/
abbrev Entry := Line → Bool × Cursor

/-! ### Code and HTML -/

/-- The columns that set code apart from running text. -/
def codeIndent : Nat := 4

/-- The further lines of indented code, and the lines that follow. Blank lines need no
indentation. -/
def readIndented (enter : Entry) : List Line → List Line × List Line
  | [] => ([], [])
  | line :: lines =>
      let (inside, c) := enter line
      let (missing, c) := c.skipSpaces codeIndent
      if inside && (missing == 0 || c.rest.isEmpty) then
        let (code, rest) := readIndented enter lines
        (⟨c.text, line.ended⟩ :: code, rest)
      else ([], line :: lines)

/-- The lines of code behind a fence, and the lines that follow. A line loses as many
columns as stand before the fence. -/
def readFenced (enter : Entry) (mark : Char) (length indent : Nat) :
    List Line → List Line × List Line
  | [] => ([], [])
  | line :: lines =>
      let (inside, c) := enter line
      if !inside then ([], line :: lines)
      else
        let (_, c) := c.skipSpaces indent
        let (missing, close) := c.skipSpaces (codeIndent - indent)
        let atEnd := close.rest.isEmpty && !line.ended
        if missing != 0 && (atEnd || closesFence mark length close.rest) then ([], lines)
        else
          let (code, rest) := readFenced enter mark length indent lines
          (⟨c.text, line.ended⟩ :: code, rest)

/-- A block of HTML ends between a line of it and the place in the next line. -/
def HtmlEnd.endsBetween (stop : HtmlEnd) (line : List Char) (next : Cursor) : Bool :=
  match stop with
  | .mark text => (skipPast text line).isSome
  | .blankLine => next.isBlank

/-- The lines of HTML behind a line of it, and the lines that follow. -/
def readHtml (enter : Entry) (stop : HtmlEnd) (last : List Char) :
    List Line → List Line × List Line
  | [] => ([], [])
  | line :: lines =>
      let (inside, c) := enter line
      if !inside || stop.endsBetween last c then ([], line :: lines)
      else
        let (html, rest) := readHtml enter stop c.rest lines
        (⟨c.text, line.ended⟩ :: html, rest)

/-- The text of lines with their endings. -/
def joinLines (lines : List Line) : List Char :=
  lines.flatMap fun line => line.close line.chars

/-! ### Where running text ends -/

/-- Nothing but blanks stands in the first of the lines, if there is any. -/
def startsBlank : List Line → Bool
  | [] => true
  | line :: _ => isBlankLine line.chars

/-- A list item that may end running text: one with a bullet or the number one, and with
some text. -/
def Marker.startsList (m : Marker) (behind : List Char) (following : List Line) : Bool :=
  (m.number.isNone || m.number == some 1) && !(isBlankLine behind && startsBlank following)

/-- The start of another block than a table, or the end of the line. Any list item is such
a start where `anyItem` says so. -/
def startsBlock (anyItem : Bool) (cs : List Char) (following : List Line) : Bool :=
  cs.isEmpty || isRule cs || (headingLevel? cs).isSome || (fence? cs).isSome ||
    cs.head? == some '>' || (htmlStart? false cs).isSome ||
    (match marker? cs with
      | some m => anyItem || m.startsList (cs.drop m.width) following
      | none => false)

/-- The alignments of a table whose header a text is: the next line is a delimiter row for
as many columns. -/
def tableBelow? (enter : Entry) (header : List Char) : List Line → Option (List Alignment)
  | [] => none
  | line :: _ =>
      let (inside, c) := enter line
      if inside then (delimiterRow? c.rest).filter (·.length == columnCount header) else none

/-- The start of a block that running text does not go on before. A table has to start with
a pipe. -/
def interrupts (enter : Entry) (inside : Bool) (cs : List Char) (following : List Line) :
    Bool :=
  startsBlock (!inside) cs following ||
    (cs.head? == some '|' && (tableBelow? enter cs following).isSome)

/-- What a line is to the running text above it. -/
inductive Continuation where
  /-- More of the text. -/
  | text (cs : List Char)
  /-- The line that makes the text a heading. -/
  | underline (level : Nat)
  | none
  deriving DecidableEq, Repr, Inhabited

/-- What a line is to the running text above it. Text goes on in a line that lacks marks of
containers, unless another block starts there. -/
def continuation (enter : Entry) (line : Line) (following : List Line) : Continuation :=
  let (inside, c) := enter line
  let (missing, start) := c.skipSpaces codeIndent
  let level := if missing != 0 && inside then underlineLevel? start.rest else none
  match level with
  | some level => .underline level
  | none =>
      if c.isBlank || (missing != 0 && interrupts enter inside start.rest following) then .none
      else .text c.rest

/-- The further lines of running text, the level of the heading that it is, if it is one,
and the lines that follow. -/
def readTextLines (enter : Entry) : List Line → List (List Char) × Option Nat × List Line
  | [] => ([], none, [])
  | line :: lines =>
      match continuation enter line lines with
      | .text cs =>
          let (more, level, rest) := readTextLines enter lines
          (cs :: more, level, rest)
      | .underline level => ([], some level, lines)
      | .none => ([], none, line :: lines)

/-! ### Tables -/

/-- The rows of a table, and the lines that follow. -/
def readRows (enter : Entry) (columns : Nat) : List Line → List (List (List Char)) × List Line
  | [] => ([], [])
  | line :: lines =>
      let (inside, c) := enter line
      let row := c.skipAll.rest
      if !inside || startsBlock true row lines then ([], line :: lines)
      else
        let (rows, rest) := readRows enter columns lines
        (tableCells columns row :: rows, rest)

/-- The alignments of a table that a text starts. The header has a pipe, and does not ask
for a line break at its end. -/
def table? (enter : Entry) (header : List Char) (following : List Line) :
    Option (List Alignment) :=
  let breaks := (header.reverse.takeWhile (· == '\\')).length % 2 == 1
  if breaks || (pipes false 0 [] header).1 == 0 then none else tableBelow? enter header following

/-! ### Running text -/

/-- The block of a text, and the lines that follow: a table, a heading or a paragraph. -/
def readTextBlock (enter : Entry) (first : List Char) (lines : List Line) :
    Block × List Line :=
  match table? enter first lines with
  | some alignments =>
      let (rows, rest) := readRows enter alignments.length (lines.drop 1)
      (.table alignments (tableCells alignments.length first) rows, rest)
  | none =>
      let (more, level, rest) := readTextLines enter lines
      let source := ['\n'].intercalate (first :: more)
      match level with
      | some level => (.heading level source, rest)
      | none => (.paragraph source, rest)

/-- The definition that a text starts with, and the lines behind it. -/
def definition? (enter : Entry) (first : List Char) (lines : List Line) :
    Option (List Char × Target × List Line) :=
  if first.head? != some '[' then none
  else
    let source := ['\n'].intercalate (first :: (readTextLines enter lines).1)
    (readDefinition source).map fun (label, target, rest) =>
      let covered := (source.take (source.length - rest.length)).count '\n'
      (label, target, lines.drop covered)

/-- The text that goes on behind a definition, and the lines that follow. -/
def textBehind? (enter : Entry) : List Line → Option (List Char × List Line)
  | [] => none
  | line :: lines =>
      let (inside, c) := enter line
      let (missing, start) := c.skipSpaces codeIndent
      if c.isBlank || (missing != 0 && interrupts enter inside start.rest lines) then none
      else some (c.skipAll.rest, lines)

/-- Reads a text: the definitions at its start, and the block behind them, if there is
one. The fuel bounds the number of definitions. -/
def readTextFrom (enter : Entry) :
    Nat → References → List Char → List Line → References × Option Block × List Line
  | 0, references, _, lines => (references, none, lines)
  | fuel + 1, references, first, lines =>
      match definition? enter first lines with
      | some (label, target, lines) =>
          let references := references.define label target
          match textBehind? enter lines with
          | some (first, lines) => readTextFrom enter fuel references first lines
          | none => (references, none, lines)
      | none =>
          let (block, lines) := readTextBlock enter first lines
          (references, some block, lines)

/-- Reads a text that starts with a line: adds its definitions, and returns the block
behind them, if there is one, and the lines that follow. -/
def readText (enter : Entry) (references : References) (first : List Char)
    (lines : List Line) : References × Option Block × List Line :=
  readTextFrom enter (lines.length + 1) references first lines

end Portfolio.Markdown
