/-
Module: Portfolio.Markdown.Outline
Purpose: The part of a document that is read so far, with the quotes and lists in it that
  are still open.
Main exports: Markdown.Outline, Outline.enter, Outline.keep, Outline.add,
  Outline.finishList, Outline.continueList, Outline.blocks
-/
import Portfolio.Markdown.Leaf

namespace Portfolio.Markdown

/-- A list that is still open, with its items so far, the last first. -/
structure OpenList where
  mark : Char
  start : Option Nat
  tight : Bool := true
  items : List (List Block) := []
  deriving Repr, Inhabited

def OpenList.block (l : OpenList) : Block := .list l.start l.tight l.items.reverse

/-- A quote or a list item that is still open, with the blocks in it so far, the last
first. -/
inductive Frame where
  | quote (content : List Block)
  /-- The content of an item is indented by a number of columns. -/
  | item (list : OpenList) (indent : Nat) (content : List Block)
  deriving Repr, Inhabited

/-- What is read so far. -/
structure Outline where
  /-- The open containers, the innermost first. -/
  frames : List Frame := []
  /-- The list inside them whose last item is closed, and that may still get another. -/
  list : Option OpenList := none
  /-- The blocks outside all containers, the last first. -/
  done : List Block := []
  /-- A blank line was the last. -/
  afterBlank : Bool := false
  /-- The last line opened an item and was blank behind its marker. -/
  freshItem : Bool := false
  references : References := []
  deriving Repr, Inhabited

/-! ### The way into a line -/

/-- The place in a line behind the mark of a container, if the line has it: the mark of a
quote, or the indentation of an item, which blank lines need not have. -/
def Frame.enter? (c : Cursor) : Frame → Option Cursor
  | .quote _ => skipQuoteMark? (c.skipSpaces 3).2
  | .item _ indent _ =>
      let (missing, c) := c.skipSpaces indent
      if missing = 0 ∨ c.rest.isEmpty then some c else none

/-- The number of containers, the outermost first, whose marks a line has, and the place
behind them. -/
def enterFrames : List Frame → Cursor → Nat × Cursor
  | [], c => (0, c)
  | frame :: frames, c =>
      match frame.enter? c with
      | some c =>
          let (n, c) := enterFrames frames c
          (n + 1, c)
      | none => (0, c)

/-- The number of open containers whose marks a line has, and the place behind them. -/
def Outline.enterFrames (o : Outline) (line : Line) : Nat × Cursor :=
  Markdown.enterFrames o.frames.reverse (Cursor.ofLine line)

/-- The way into a line past the marks of all open containers. -/
def Outline.enter (o : Outline) : Entry := fun line =>
  let (n, c) := o.enterFrames line
  (n == o.frames.length, c)

/-! ### Closing -/

/-- Adds a block to the innermost container. -/
def Outline.add (o : Outline) (b : Block) : Outline :=
  match o.frames with
  | .quote content :: frames => { o with frames := .quote (b :: content) :: frames }
  | .item l indent content :: frames =>
      { o with frames := .item l indent (b :: content) :: frames }
  | [] => { o with done := b :: o.done }

/-- Closes the list inside the containers, if there is one. -/
def Outline.closeList (o : Outline) : Outline :=
  match o.list with
  | some l =>
      { o.add l.block with list := none, freshItem := o.freshItem && !l.tight }
  | none => o

/-- Closes the innermost container. The list of an item stays open. -/
def Outline.closeFrame (o : Outline) : Outline :=
  let o := o.closeList
  match o.frames with
  | .quote content :: frames => { o with frames := frames }.add (.quote content.reverse)
  | .item l _ content :: frames =>
      { o with frames := frames, list := some { l with items := content.reverse :: l.items } }
  | [] => o

/-- Closes a number of containers, the innermost first. -/
def Outline.closeFrames : Nat → Outline → Outline
  | 0, o => o
  | n + 1, o => o.closeFrame.closeFrames n

/-- Closes all but the outermost `n` containers. -/
def Outline.keep (n : Nat) (o : Outline) : Outline := o.closeFrames (o.frames.length - n)

/-- Closes an item that starts with two blank lines. -/
def Outline.finishEmptyItem (o : Outline) : Outline :=
  let o :=
    match o.list, o.frames with
    | none, .item .. :: _ => if o.freshItem && o.afterBlank then o.closeFrame else o
    | _, _ => o
  { o with freshItem := false }

/-- A list is loose once a blank line stands between the blocks of an item. -/
def Frame.loosen : Frame → Frame
  | .item l indent content => .item { l with tight := false } indent content
  | frame => frame

/-- Gets ready for a block that is no list item: the list inside the containers ends. -/
def Outline.finishList (o : Outline) : Outline :=
  let o := o.finishEmptyItem.closeList
  if o.afterBlank then
    let frames := match o.frames with
      | frame :: frames => frame.loosen :: frames
      | [] => []
    { o with frames := frames, afterBlank := false }
  else o

/-! ### Opening -/

/-- Gets ready for a list item: goes on with the list of the same mark, or starts another.
A blank line between items makes a list loose. -/
def Outline.continueList (m : Marker) (o : Outline) : Outline :=
  let o := o.finishEmptyItem
  let another := { o.finishList with list := some { mark := m.mark, start := m.number } }
  match o.list with
  | some l =>
      if l.mark != m.mark then another
      else if o.afterBlank then
        { o with list := some { l with tight := false }, afterBlank := false }
      else o
  | none => another

/-- Opens an item of the list, with its content indented by a number of columns. -/
def Outline.openItem (m : Marker) (indent : Nat) (o : Outline) : Outline :=
  let o := o.continueList m
  let l := o.list.getD { mark := m.mark, start := m.number }
  { o with frames := .item l indent [] :: o.frames, list := none }

/-- Opens a quote. -/
def Outline.openQuote (o : Outline) : Outline :=
  let o := o.finishList
  { o with frames := .quote [] :: o.frames }

/-- Notes a blank line. Nothing indented belongs to an item any more that has started with
two of them. -/
def Outline.blankLine (o : Outline) : Outline :=
  match o.list, o.frames with
  | none, .quote _ :: _ => o
  | none, .item l indent content :: frames =>
      let indent := if o.freshItem then 0 else indent
      { o with frames := .item l indent content :: frames, afterBlank := true }
  | _, _ => { o with afterBlank := true }

/-- All blocks, with everything closed. -/
def Outline.blocks (o : Outline) : List Block := (o.keep 0).closeList.done.reverse

end Portfolio.Markdown
