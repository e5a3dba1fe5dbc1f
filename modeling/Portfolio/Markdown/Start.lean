/-
Module: Portfolio.Markdown.Start
Purpose: Recognising what the start of a line stands for: rules, headings, fences, markers
  of lists and quotes, and the rows of tables.
Main exports: Markdown.isRule, Markdown.headingLevel?, Markdown.underlineLevel?,
  Markdown.fence?, Markdown.Marker, Markdown.marker?, Markdown.delimiterRow?,
  Markdown.tableCells
-/
import Portfolio.Markdown.Basic
import Portfolio.Markdown.Line
import Portfolio.Text.Numeral

namespace Portfolio.Markdown

/-! ### Rules and headings -/

/-- A rule: three or more stars, dashes or underscores of one kind, with blanks between
them. -/
def isRule (cs : List Char) : Bool :=
  match cs with
  | c :: _ =>
      (c == '*' || c == '-' || c == '_') &&
        cs.all (fun d => d == c || d == ' ' || d == '\t') && decide (3 ≤ cs.count c)
  | [] => false

/-- The level of a heading that starts with number signs. -/
def headingLevel? (cs : List Char) : Option Nat :=
  let level := (cs.takeWhile (· == '#')).length
  let ends : Bool := match cs.drop level with
    | [] => true
    | c :: _ => isAnySpace c
  if 1 ≤ level ∧ level ≤ 6 ∧ ends then some level else none

/-- The text of a heading behind its number signs, without those that close it. -/
def headingText (cs : List Char) : List Char :=
  let text := Text.dropEndWhile (· == ' ') (cs.dropWhile isSpace)
  let body := Text.dropEndWhile (· == '#') text
  let inner := Text.dropEndWhile (· == ' ') body
  if body.isEmpty then [] else if inner.length < body.length then inner else text

/-- The level of the heading that a line underlines. -/
def underlineLevel? (cs : List Char) : Option Nat :=
  match cs with
  | c :: _ =>
      if (c == '=' || c == '-') && isBlankLine (cs.dropWhile (· == c)) then
        some (if c == '=' then 1 else 2)
      else none
  | [] => none

/-! ### Fences -/

/-- A fence that opens code: its mark, its length, and what follows. Backticks do not
follow a fence of backticks. -/
def fence? (cs : List Char) : Option (Char × Nat × List Char) :=
  match cs with
  | c :: _ =>
      let length := (cs.takeWhile (· == c)).length
      let info := cs.drop length
      if (c == '\x60' || c == '~') && decide (3 ≤ length) && !(c == '\x60' && info.contains '\x60')
      then some (c, length, info)
      else none
  | [] => none

/-- A fence that closes code which a fence of the mark and the length opened. -/
def closesFence (mark : Char) (length : Nat) (cs : List Char) : Bool :=
  decide (length ≤ (cs.takeWhile (· == mark)).length) &&
    (cs.dropWhile (· == mark)).all (· == ' ')

/-! ### Lists and quotes -/

/-- The marker of a list item. -/
structure Marker where
  /-- The bullet, or the mark behind the number. Items of one list share it. -/
  mark : Char
  /-- The number, if it has one. -/
  number : Option Nat
  width : Nat
  deriving DecidableEq, Repr, Inhabited

/-- The greatest number of digits of an item's number. -/
def maxItemDigits : Nat := 9

/-- A blank or the end of the line follows. -/
def endsMarker : List Char → Bool
  | [] | ' ' :: _ | '\t' :: _ => true
  | _ => false

/-- The marker at the start of a text, with a blank or the end of the line behind it. -/
def marker? (cs : List Char) : Option Marker :=
  match cs with
  | c :: rest =>
      if c = '-' ∨ c = '+' ∨ c = '*' then
        if endsMarker rest then some ⟨c, none, 1⟩ else none
      else
        let digits := cs.takeWhile Char.isDigit
        match digits, cs.drop digits.length with
        | _ :: _, mark :: rest =>
            if (mark = '.' ∨ mark = ')') ∧ digits.length ≤ maxItemDigits ∧ endsMarker rest then
              some ⟨mark, some (Text.ofDigits 10 digits), digits.length + 1⟩
            else none
        | _, _ => none
  | [] => none

/-- Goes over the mark of a quote, and one blank behind it. -/
def skipQuoteMark? (c : Cursor) : Option Cursor :=
  match c.rest with
  | '>' :: _ => some ((c.advance 1).skipSpaces 1).2
  | _ => none

/-! ### Tables -/

/-- The pipes of a row that separate cells: how many there are, and what follows the
last. -/
def pipes (escaped : Bool) (count : Nat) (after : List Char) : List Char → Nat × List Char
  | [] => (count, after)
  | '\\' :: rest => pipes (!escaped) count after rest
  | '|' :: rest =>
      if escaped then pipes false count after rest else pipes false (count + 1) rest rest
  | _ :: rest => pipes false count after rest

/-- The number of columns of a header row. -/
def columnCount (cs : List Char) : Nat :=
  let (count, after) := pipes false 0 [] cs
  let inner := match cs.dropWhile isSpace with
    | '|' :: _ => count - 1
    | _ => count
  if isBlankLine after then inner else inner + 1

/-- The alignment of a column from its part of a delimiter row. -/
def alignment? (cell : List Char) : Option Alignment :=
  let marks := cell.filter (· != ' ')
  if !marks.all (fun c => c == '-' || c == ':') || !marks.contains '-' then none
  else
    match marks.head? == some ':', marks.tail.contains ':' with
    | true, true => some .center
    | true, false => some .left
    | false, true => some .right
    | false, false => some .none

/-- The alignments of a delimiter row: dashes with colons, between pipes. -/
def delimiterRow? (cs : List Char) : Option (List Alignment) :=
  let row := cs.dropWhile (· == ' ')
  if 3 < cs.length - row.length ∨ !row.contains '|' then none
  else
    let row := match row with
      | '|' :: rest => rest
      | row => row
    let cells := row.splitOn '|'
    let cells := if (cells.getLast?.getD []).all (· == ' ') then cells.dropLast else cells
    if cells.isEmpty then none else cells.mapM alignment?

/-- The part of a row up to the next pipe that is not escaped, where an escaped pipe stands
for itself, and the rest. -/
def cellChars : List Char → List Char × List Char
  | [] => ([], [])
  | '|' :: rest => ([], '|' :: rest)
  | '\\' :: '|' :: rest =>
      let (cell, rest) := cellChars rest
      ('|' :: cell, rest)
  | c :: rest =>
      let (cell, rest) := cellChars rest
      (c :: cell, rest)

/-- The cells of a row. The fuel bounds their number. -/
def rowCells : Nat → List Char → List (List Char)
  | 0, _ => []
  | fuel + 1, cs =>
      let start := match cs with
        | '|' :: rest => rest
        | _ => cs
      match start.dropWhile isSpace with
      | [] => []
      | cell =>
          let (cell, rest) := cellChars cell
          cell :: rowCells fuel rest

/-- The cells of a row for a number of columns: those past it are dropped, and those
missing are empty. -/
def tableCells (columns : Nat) (cs : List Char) : List (List Char) :=
  let cells := (rowCells (cs.length + 1) (cs.dropWhile isSpace)).take columns
  cells ++ List.replicate (columns - cells.length) []

end Portfolio.Markdown
