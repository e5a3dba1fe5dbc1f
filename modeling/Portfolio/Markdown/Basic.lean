/-
Module: Portfolio.Markdown.Basic
Purpose: The parts of a Markdown document: blocks with raw text inside, and inline
  elements.
Main exports: Markdown.Inline, Markdown.Block, Markdown.Target, Markdown.References
-/
import Portfolio.Markdown.Character
import Portfolio.Markdown.Folding

namespace Portfolio.Markdown

/-- Where a link leads, or where an image is. -/
structure Target where
  destination : String
  title : String := ""
  deriving DecidableEq, Repr, Inhabited

/-- Elements of running text. -/
inductive Inline where
  | text (s : String)
  | code (s : String)
  /-- Markup that is kept as it is. -/
  | html (s : String)
  | softBreak
  | hardBreak
  | emphasis (content : List Inline)
  | strong (content : List Inline)
  | strike (content : List Inline)
  | link (target : Target) (content : List Inline)
  | image (target : Target) (content : List Inline)
  deriving Repr, Inhabited

/-- How the cells of a column are aligned. -/
inductive Alignment where
  | none
  | left
  | center
  | right
  deriving DecidableEq, Repr, Inhabited

/-- Blocks of a document. Running text is still raw, since the definitions of its links
may stand below it. -/
inductive Block where
  | paragraph (source : List Char)
  | heading (level : Nat) (source : List Char)
  | rule
  /-- Code with the language it is in, or an empty one. -/
  | code (language : String) (text : List Char)
  | html (text : List Char)
  | quote (content : List Block)
  /-- A list with the number of its first item, if it has numbers. The paragraphs of a
  tight list are not set apart. -/
  | list (start : Option Nat) (tight : Bool) (items : List (List Block))
  | table (alignments : List Alignment) (header : List (List Char))
      (rows : List (List (List Char)))
  deriving Repr, Inhabited

/-! ### References -/

/-- Runs of blanks as single spaces, with none at either end. -/
def collapseSpaces (cs : List Char) : List Char :=
  [' '].intercalate ((cs.splitOnP isAnySpace).filter fun word => !word.isEmpty)

/-- A label as it is compared with others. -/
def labelKey (label : List Char) : List Char := foldCase (collapseSpaces label)

/-- Targets by the keys of their labels. -/
abbrev References := List (List Char × Target)

/-- Adds a definition. The first definition of a label counts. -/
def References.define (references : References) (label : List Char) (target : Target) :
    References :=
  if (references.lookup (labelKey label)).isSome then references
  else references ++ [(labelKey label, target)]

def References.find? (references : References) (label : List Char) : Option Target :=
  references.lookup (labelKey label)

end Portfolio.Markdown
