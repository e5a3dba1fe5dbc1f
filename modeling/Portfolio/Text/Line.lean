/-
Module: Portfolio.Text.Line
Purpose: Splitting a text into lines and joining lines again.
Main exports: Text.splitLines, Text.readLines, Text.joinLines
-/
import Portfolio.Text.Blank

namespace Portfolio.Text

/-- The pieces of a text between its line feeds: always one more piece than
there are line feeds. -/
def splitLines (cs : List Char) : List (List Char) :=
  cs.splitOn '\n'

/-- A line without one carriage return at its end. -/
def dropReturn (line : List Char) : List Char :=
  if line.getLast? = some '\r' then line.dropLast else line

/-- The lines of a text as a reader sees them. A line feed, or a carriage
return and a line feed, ends a line; what follows the last line feed is a line
of its own unless it is empty, and keeps a carriage return. -/
def readLines (cs : List Char) : List (List Char) :=
  let pieces := splitLines cs
  pieces.dropLast.map dropReturn ++
    (match pieces.getLast? with
      | some (c :: rest) => [c :: rest]
      | _ => [])

/-- Lines with a line feed between any two of them. -/
def joinLines (lines : List (List Char)) : List Char :=
  ['\n'].intercalate lines

/-- Splitting and joining at line feeds loses nothing. -/
theorem joinLines_splitLines (cs : List Char) : joinLines (splitLines cs) = cs :=
  List.intercalate_splitOn '\n'

/-- Lines free of line feeds come back from their joined text. -/
theorem splitLines_joinLines (lines : List (List Char)) (hne : lines ≠ [])
    (h : ∀ line ∈ lines, '\n' ∉ line) : splitLines (joinLines lines) = lines :=
  List.splitOn_intercalate '\n' h hne

/-- Texts joined with a line feed between any two of them. -/
def unlines (lines : List String) : String :=
  String.intercalate "\n" lines

/-- Lines free of line feeds come back from their text. -/
theorem splitLines_unlines {lines : List String} (hne : lines ≠ [])
    (h : ∀ line ∈ lines, '\n' ∉ line.toList) :
    splitLines (unlines lines).toList = lines.map String.toList := by
  rw [unlines, String.toList_intercalate]
  apply splitLines_joinLines
  · simpa using hne
  · exact List.forall_mem_map.2 h

end Portfolio.Text
