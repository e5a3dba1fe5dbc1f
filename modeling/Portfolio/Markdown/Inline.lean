/-
Module: Portfolio.Markdown.Inline
Purpose: Reading running text: code, emphasis, links, images, addresses, HTML, character
  references and line breaks.
Main exports: Markdown.readInlines
-/
import Portfolio.Markdown.Emphasis
import Portfolio.Markdown.Link
import Portfolio.Markdown.Tag

namespace Portfolio.Markdown

/-! ### Code -/

/-- The length of the run of a character at the start of a text. -/
def runLength (c : Char) (cs : List Char) : Nat := (cs.takeWhile (· == c)).length

/-- The code before a run of exactly `n` backticks, and the rest after it. The fuel bounds
the number of runs. -/
def readCodeSpan (n : Nat) : Nat → List Char → Option (List Char × List Char)
  | 0, _ => none
  | fuel + 1, cs =>
      let before := cs.takeWhile (· != '\x60')
      let rest := cs.drop before.length
      let length := runLength '\x60' rest
      if length = 0 then none
      else if length = n then some (before, rest.drop n)
      else
        (readCodeSpan n fuel (rest.drop length)).map fun (code, rest) =>
          (before ++ List.replicate length '\x60' ++ code, rest)

/-- Code with its line endings as spaces. It loses one space at either end, if it has one
at both and is not all spaces. -/
def codeText (cs : List Char) : String :=
  let cs := cs.map fun c => if c = '\n' then ' ' else c
  let cs :=
    if cs.head? = some ' ' ∧ cs.getLast? = some ' ' ∧ !cs.all (· == ' ') then
      (cs.drop 1).dropLast
    else cs
  String.ofList cs

/-! ### Emphasis marks -/

/-- A run of marks may open before a character that is no blank: beside punctuation only
behind a blank or other punctuation. Underscores, and single tildes, do not open inside
words. -/
def canOpen (mark : Char) (length : Nat) (prev : Char) (next : Option Char) : Bool :=
  match next with
  | none => false
  | some next =>
      if Text.isBlank next then false
      else
        (mark == '*' && !isPunctuation next) || (mark == '~' && decide (1 < length)) ||
          (mark == '~' && prev == '~' && !isPunctuation next) ||
          Text.isBlank prev || isPunctuation prev

/-- A run of marks may close behind a character that is no blank, by the same rule seen
from the other side. -/
def canClose (mark : Char) (length : Nat) (prev : Char) (next : Option Char) : Bool :=
  if Text.isBlank prev then false
  else
    match next with
    | none => true
    | some next =>
        ((mark == '*' || (mark == '~' && decide (1 < length))) && !isPunctuation prev) ||
          (mark == '~' && prev == '~') ||
          Text.isBlank next || isPunctuation next

/-- The pieces of a run of marks. A run that neither opens nor closes is plain text, and so
are more than two tildes. -/
def runPieces (mark : Char) (length : Nat) (prev : Char) (next : Option Char) : List Piece :=
  let r : Run := ⟨mark, length, canOpen mark length prev next, canClose mark length prev next⟩
  if (r.opens || r.closes) && (mark != '~' || decide (length ≤ 2)) then [.run r]
  else List.replicate length (.char mark)

/-! ### Links -/

/-- The pieces behind the last bracket, and from that bracket on, the last piece first. -/
def splitBracket (pieces : List Piece) : List Piece × List Piece :=
  pieces.span fun
    | .bracket .. => false
    | _ => true

/-- Pieces in which no link can start. Links do not contain links. -/
def closeBrackets (pieces : List Piece) : List Piece :=
  pieces.map fun
    | .bracket false _ after => .bracket false false after
    | p => p

/-- What follows the closing bracket of a link: its target, or a label to look it up by.
The link's own text is the label if none follows. -/
def readTarget (references : References) (inside : List Char) (rest : List Char) :
    Option (Target × List Char) :=
  let own (rest : List Char) : Option (Target × List Char) :=
    match readLabel (inside ++ [']']) with
    | some (label, []) => (references.find? label).map fun target => (target, rest)
    | _ => none
  let byLabel : Option (Target × List Char) :=
    match rest with
    | '[' :: ']' :: after => own after
    | '[' :: after =>
        match readLabel after with
        | some (label, after) => (references.find? label).map fun target => (target, after)
        | none => own rest
    | _ => own rest
  match rest with
  | '(' :: after => readInlineTarget after <|> byLabel
  | _ => byLabel

/-- The pieces after a closing bracket, and the rest of the text. -/
def closeBracket (references : References) (pieces : List Piece) (rest : List Char) :
    List Piece × List Char :=
  match splitBracket pieces with
  | (inside, .bracket image active after :: before) =>
      let plain := .char ']' :: (inside ++ .inline (.text (bracketText image)) :: before)
      if !active then (plain, rest)
      else
        let source := after.take (after.length - rest.length - 1)
        match readTarget references source rest with
        | none => (plain, rest)
        | some (target, rest) =>
            let content := resolve inside.reverse
            if image then (.inline (.image target content) :: before, rest)
            else (.inline (.link target content) :: closeBrackets before, rest)
  | _ => (.char ']' :: pieces, rest)

/-! ### Lines -/

/-- A blank of the source. -/
def isSpacePiece : Piece → Bool
  | .char c => isSpace c
  | _ => false

/-- The pieces after the end of a line. Two blanks before it ask for a line break. -/
def endLine (pieces : List Piece) : List Piece :=
  let spaces := pieces.takeWhile isSpacePiece
  (if 2 ≤ spaces.length then .hardBreak false else .inline .softBreak) ::
    pieces.drop spaces.length

/-! ### Running text -/

/-- Reads running text behind a character, given the pieces before, the last first. The
fuel bounds the number of characters. -/
def readPieces (references : References) : Nat → Char → List Char → List Piece → List Piece
  | 0, _, _, pieces => pieces
  | _, _, [], pieces => pieces.dropWhile isSpacePiece
  | fuel + 1, prev, c :: cs, pieces =>
      let next := readPieces references fuel
      match c, cs with
      | '\\', '\n' :: rest => next '\n' (rest.dropWhile isSpace) (.hardBreak true :: pieces)
      | '\\', d :: rest =>
          if isAsciiPunctuation d then next d rest (.char d :: pieces)
          else next c cs (.char c :: pieces)
      | '\n', _ => next '\n' (cs.dropWhile isSpace) (endLine pieces)
      | '\x60', _ =>
          let length := runLength '\x60' (c :: cs)
          let rest := cs.drop (length - 1)
          match readCodeSpan length rest.length rest with
          | some (code, rest) => next c rest (.inline (.code (codeText code)) :: pieces)
          | none => next c rest (List.replicate length (.char c) ++ pieces)
      | '<', _ =>
          match readAutolink cs with
          | some (link, rest) => next '>' rest (.inline link :: pieces)
          | none =>
              match skipInlineHtml cs with
              | some rest =>
                  let tag := c :: cs.take (cs.length - rest.length)
                  next '>' rest (.inline (.html (String.ofList tag)) :: pieces)
              | none => next c cs (.char c :: pieces)
      | '!', '[' :: rest => next '[' rest (.bracket true true rest :: pieces)
      | '[', _ => next c cs (.bracket false true cs :: pieces)
      | ']', _ =>
          let (pieces, rest) := closeBracket references pieces cs
          next (if rest.length < cs.length ∧ cs.head? = some '(' then ')' else ']') rest pieces
      | '&', _ =>
          match readEntity cs with
          | some (chars, rest) =>
              next ';' rest (.inline (.text (String.ofList chars)) :: pieces)
          | none => next c cs (.char c :: pieces)
      | '\x00', _ => next c cs (.inline (.text "\ufffd") :: pieces)
      | _, _ =>
          if c = '*' ∨ c = '_' ∨ c = '~' then
            let length := runLength c (c :: cs)
            let rest := cs.drop (length - 1)
            next c rest (runPieces c length prev rest.head? ++ pieces)
          else next c cs (.char c :: pieces)

/-- The running text of a source. -/
def readInlines (references : References) (source : List Char) : List Inline :=
  resolve (readPieces references (source.length + 1) '\n' source []).reverse

end Portfolio.Markdown
