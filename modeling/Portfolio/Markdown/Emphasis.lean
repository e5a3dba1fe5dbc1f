/-
Module: Portfolio.Markdown.Emphasis
Purpose: Pairing runs of emphasis marks that open and close.
Main exports: Markdown.Piece, Markdown.Run, Markdown.resolve
-/
import Portfolio.Markdown.Basic

namespace Portfolio.Markdown

/-- A run of equal emphasis marks. -/
structure Run where
  mark : Char
  length : Nat
  opens : Bool
  closes : Bool
  deriving DecidableEq, Repr, Inhabited

/-- A part of running text whose emphasis is not yet paired. -/
inductive Piece where
  | char (c : Char)
  | inline (i : Inline)
  /-- A line break that was asked for by a backslash or by blanks. -/
  | hardBreak (backslash : Bool)
  | run (r : Run)
  /-- The opening bracket of a link or an image that may follow, with the text behind it.
  A bracket that is not active only stands for itself. -/
  | bracket (image active : Bool) (after : List Char)
  deriving Repr, Inhabited

/-- The characters of an opening bracket. -/
def bracketText (image : Bool) : String := if image then "![" else "["

/-- A run that may still be closed: how many of its marks are left, and what stands before
it, the last first. -/
structure Opener where
  run : Run
  left : Nat
  before : List Inline
  deriving Repr, Inhabited

/-- Marks as plain text. -/
def markText (mark : Char) (n : Nat) : Inline := .text (String.ofList (List.replicate n mark))

/-- A run closes an opener of the same mark. Struck text needs runs of one length. Where a
run could both open and close, the lengths may not add up to a multiple of three, unless
both are such multiples. -/
def Run.closesOpener (r : Run) (o : Opener) : Bool :=
  let both := r.opens && r.closes
  o.run.mark == r.mark && (r.mark != '~' || r.length == o.run.length) &&
    ((!both && !(o.run.opens && o.run.closes)) ||
      (r.length + o.run.length) % 3 != 0 || r.length % 3 == 0)

/-- Text inside a number of marks: pairs of marks inside, and a single one around them. -/
def wrap (mark : Char) : Nat → List Inline → List Inline
  | 0, content => content
  | 1, content => [if mark = '~' then .strike content else .emphasis content]
  | n + 2, content => wrap mark n [if mark = '~' then .strike content else .strong content]

/-- What stands behind an opener, once the openers above it are plain text. All lists have
the last element first. -/
def flatten : List Opener → List Inline → List Inline
  | [], current => current
  | o :: openers, current =>
      flatten openers (current ++ markText o.run.mark o.left :: o.before)

/-- Closes openers with the marks of a run, as long as some are left. The fuel is the
number of marks left. -/
def closeOpeners (r : Run) :
    Nat → Nat → List Opener → List Inline → Nat × List Opener × List Inline
  | 0, left, openers, current => (left, openers, current)
  | fuel + 1, left, openers, current =>
      if left = 0 then (left, openers, current)
      else
        match openers.dropWhile fun o => !r.closesOpener o with
        | [] => (left, openers, current)
        | o :: below =>
            let inside := flatten (openers.takeWhile fun o => !r.closesOpener o) current
            let used := min left o.left
            let wrapped := wrap r.mark used inside.reverse
            let left := left - used
            if o.left = used then closeOpeners r fuel left below (wrapped ++ o.before)
            else closeOpeners r fuel left ({ o with left := o.left - used } :: below) wrapped

/-- Pairs the emphasis marks of pieces, given the openers so far and what stands behind
the last of them, the last first. -/
def resolveFrom : List Opener → List Inline → List Piece → List Inline
  | openers, current, [] => (flatten openers current).reverse
  | openers, current, .char c :: ps =>
      resolveFrom openers (.text (String.singleton c) :: current) ps
  | openers, current, .inline i :: ps => resolveFrom openers (i :: current) ps
  | openers, current, .hardBreak backslash :: ps =>
      let last : Inline := if backslash then .text "\\" else .softBreak
      resolveFrom openers ((if ps.isEmpty then last else .hardBreak) :: current) ps
  | openers, current, .bracket image _ _ :: ps =>
      resolveFrom openers (.text (bracketText image) :: current) ps
  | openers, current, .run r :: ps =>
      let (left, openers, current) :=
        if r.closes then closeOpeners r r.length r.length openers current
        else (r.length, openers, current)
      if left = 0 then resolveFrom openers current ps
      else if r.opens then resolveFrom (⟨r, left, current⟩ :: openers) [] ps
      else resolveFrom openers (markText r.mark left :: current) ps

/-- Running text from its pieces. -/
def resolve (pieces : List Piece) : List Inline := resolveFrom [] [] pieces

end Portfolio.Markdown
