/-
Module: Portfolio.Markdown.Line
Purpose: The lines of a document, and a cursor in a line that counts columns, so that tabs
  can be used up in part.
Main exports: Markdown.Line, Markdown.splitLines, Markdown.Cursor
-/
import Portfolio.Markdown.Tag

namespace Portfolio.Markdown

/-- A line of the source without its ending. -/
structure Line where
  chars : List Char
  /-- The line has an ending. Only the last line may lack it. -/
  ended : Bool := true
  deriving DecidableEq, Repr, Inhabited

/-- The lines of a text, given the characters of the line so far, the last first. A line
feed, a carriage return, or both together end a line. -/
def splitLinesFrom (current : List Char) : List Char → List Line
  | [] => if current.isEmpty then [] else [⟨current.reverse, false⟩]
  | '\r' :: '\n' :: rest => ⟨current.reverse, true⟩ :: splitLinesFrom [] rest
  | c :: rest =>
      if c = '\n' ∨ c = '\r' then ⟨current.reverse, true⟩ :: splitLinesFrom [] rest
      else splitLinesFrom (c :: current) rest

def splitLines (cs : List Char) : List Line := splitLinesFrom [] cs

/-- A text with the line ending of a line behind it. -/
def Line.close (line : Line) (cs : List Char) : List Char :=
  if line.ended then cs ++ ['\n'] else cs

/-- A place in a line: its column, the columns of a tab that are still to be used up, and
the rest of the line. -/
structure Cursor where
  column : Nat := 0
  pending : Nat := 0
  rest : List Char
  deriving DecidableEq, Repr, Inhabited

namespace Cursor

def ofLine (line : Line) : Cursor := { rest := line.chars }

/-- Goes over up to `n` columns of blanks. Returns how many of them are missing. Tabs reach
to the next column that is a multiple of four. -/
def skipColumns : Nat → Nat → List Char → Nat × Cursor
  | 0, column, cs => (0, ⟨column, 0, cs⟩)
  | n + 1, column, ' ' :: cs => skipColumns n (column + 1) cs
  | n + 1, column, '\t' :: cs =>
      let width := 4 - column % 4
      if width ≤ n + 1 then skipColumns (n + 1 - width) (column + width) cs
      else (0, ⟨column + width, width - (n + 1), cs⟩)
  | n + 1, column, cs => (n + 1, ⟨column, 0, cs⟩)

/-- Goes over up to `n` columns of blanks, first those of a tab used up in part. Returns
how many of them are missing. -/
def skipSpaces (n : Nat) (c : Cursor) : Nat × Cursor :=
  if n < c.pending then (0, { c with pending := c.pending - n })
  else skipColumns (n - c.pending) c.column c.rest

/-- Goes over up to `n` columns of blanks. Returns how many there were. -/
def indent (n : Nat) (c : Cursor) : Nat × Cursor :=
  let (missing, c) := c.skipSpaces n
  (n - missing, c)

/-- Goes over all blanks. -/
def skipAll (c : Cursor) : Cursor :=
  { c with pending := 0, rest := c.rest.dropWhile isSpace }

/-- Goes over a number of characters that are no blanks. -/
def advance (n : Nat) (c : Cursor) : Cursor :=
  ⟨c.column + n, 0, c.rest.drop n⟩

/-- Nothing but blanks follows. -/
def isBlank (c : Cursor) : Bool := isBlankLine c.rest

/-- The rest of the line, with what is left of a tab as spaces. -/
def text (c : Cursor) : List Char := List.replicate c.pending ' ' ++ c.rest

end Cursor

end Portfolio.Markdown
