/-
Module: Portfolio.Markdown.Parser
Purpose: Reading the blocks of a document line by line.
Main exports: Markdown.Document, Markdown.parse
-/
import Portfolio.Markdown.Outline

namespace Portfolio.Markdown

/-- Opens the quotes and list items that start at a place in a line. Returns the place
behind their marks, or none where the line is blank behind an item's marker. The fuel bounds
the number of containers. -/
def openFrames : Nat → Outline → Cursor → Outline × Option Cursor
  | 0, o, c => (o, some c)
  | fuel + 1, o, c =>
      let (indent, start) := c.indent codeIndent
      if codeIndent ≤ indent then (o, some c)
      else
        match if isRule start.rest then none else marker? start.rest with
        | some m =>
            let (_, behind) := (start.advance m.width).skipSpaces 1
            let width := indent + m.width + 1
            if behind.isBlank then ({ o.openItem m width with freshItem := true }, none)
            else
              let (further, content) := behind.indent codeIndent
              if further < codeIndent then openFrames fuel (o.openItem m (width + further)) content
              else openFrames fuel (o.openItem m width) behind
        | none =>
            match skipQuoteMark? start with
            | some c => openFrames fuel o.openQuote c
            | none => (o, some c)

/-- Reads the block of indented code whose first line is given. Blank lines at its end are
none of it. -/
def readCodeBlock (o : Outline) (first : Line) (lines : List Line) : Outline × List Line :=
  let (more, rest) := readIndented o.enter lines
  let code := Text.dropEndWhile (fun line => isBlankLine line.chars) (first :: more)
  let o := { o with afterBlank := decide (code.length ≤ more.length) }
  (o.add (.code "" (joinLines code)), rest)

/-- The language of a code block: the first word behind the fence. -/
def fenceLanguage (info : List Char) : String :=
  let info := Text.dropEndWhile isAnySpace (info.dropWhile isSpace)
  String.ofList ((unescape info).toList.takeWhile (· != ' '))

/-- Reads the block that starts at a place in a line, which is not blank, and returns the
lines behind it. -/
def readLeaf (o : Outline) (c : Cursor) (line : Line) (lines : List Line) :
    Outline × List Line :=
  let o := o.finishList
  let (indent, start) := c.indent codeIndent
  let cs := start.rest
  if codeIndent ≤ indent then readCodeBlock o ⟨start.text, line.ended⟩ lines
  else
    match htmlStart? true cs with
    | some stop =>
        let (html, rest) := readHtml o.enter stop cs lines
        let first := List.replicate indent ' ' ++ cs
        (o.add (.html (joinLines (⟨first, line.ended⟩ :: html))), rest)
    | none =>
        if isRule cs then (o.add .rule, lines)
        else
          match headingLevel? cs, fence? cs with
          | some level, _ => (o.add (.heading level (headingText (cs.drop level))), lines)
          | none, some (mark, length, info) =>
              let (code, rest) := readFenced o.enter mark length indent lines
              (o.add (.code (fenceLanguage info) (joinLines code)), rest)
          | none, none =>
              let (references, block, rest) := readText o.enter o.references cs lines
              let o := { o with references := references }
              (block.elim o o.add, rest)

/-- Reads the lines of a document. The fuel bounds their number. -/
def readLines : Nat → Outline → List Line → Outline
  | 0, o, _ => o
  | _, o, [] => o
  | fuel + 1, o, line :: lines =>
      let (kept, c) := o.enterFrames line
      match openFrames (line.chars.length + 1) (o.keep kept) c with
      | (o, none) => readLines fuel o lines
      | (o, some c) =>
          if c.isBlank then readLines fuel o.blankLine lines
          else
            let (o, lines) := readLeaf o c line lines
            readLines fuel o lines

/-- A document: its blocks, and the targets that its links look up by their labels. -/
structure Document where
  blocks : List Block
  references : References
  deriving Repr, Inhabited

def parse (s : String) : Document :=
  let lines := splitLines s.toList
  let o := readLines lines.length {} lines
  ⟨o.blocks, o.references⟩

end Portfolio.Markdown
