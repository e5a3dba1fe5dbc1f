/-
Module: Portfolio.Markdown.Link
Purpose: Reading the parts of links: labels, destinations and titles, their definitions,
  and addresses between angle brackets.
Main exports: Markdown.readLabel, Markdown.readInlineTarget, Markdown.readDefinition,
  Markdown.readAutolink, Markdown.unescape
-/
import Portfolio.Markdown.Basic
import Portfolio.Markdown.Entity

namespace Portfolio.Markdown

/-- A text without its escapes: backslashes before punctuation, and character
references. The fuel bounds the number of characters. -/
def unescapeFrom : Nat → List Char → List Char
  | 0, cs => cs
  | _, [] => []
  | fuel + 1, '\\' :: c :: rest =>
      if isAsciiPunctuation c then c :: unescapeFrom fuel rest
      else '\\' :: unescapeFrom fuel (c :: rest)
  | fuel + 1, '&' :: rest =>
      match readEntity rest with
      | some (chars, rest) => chars ++ unescapeFrom fuel rest
      | none => '&' :: unescapeFrom fuel rest
  | fuel + 1, c :: rest => c :: unescapeFrom fuel rest

/-- A text without its escapes. -/
def unescape (cs : List Char) : String := String.ofList (unescapeFrom cs.length cs)

/-! ### Labels -/

/-- The greatest length of a label. -/
def maxLabelLength : Nat := 999

/-- The characters of a label up to its closing bracket, and the rest. An opening bracket
has to be escaped. -/
def labelChars : List Char → Option (List Char × List Char)
  | [] => none
  | ']' :: rest => some ([], rest)
  | '[' :: _ => none
  | '\\' :: c :: rest => (labelChars rest).map fun (cs, rest) => ('\\' :: c :: cs, rest)
  | c :: rest => (labelChars rest).map fun (cs, rest) => (c :: cs, rest)

/-- A label after its opening bracket, and the rest. It is not blank. -/
def readLabel (cs : List Char) : Option (List Char × List Char) :=
  (labelChars cs).filter fun (label, _) =>
    label.any (fun c => !isAnySpace c) && decide (label.length ≤ maxLabelLength)

/-! ### Destinations -/

/-- A destination between angle brackets, after the first. -/
def pointedChars : List Char → Option (List Char × List Char)
  | [] | '\n' :: _ | '<' :: _ => none
  | '>' :: rest => some ([], rest)
  | '\\' :: c :: rest =>
      if isAsciiPunctuation c then
        (pointedChars rest).map fun (cs, rest) => ('\\' :: c :: cs, rest)
      else (pointedChars (c :: rest)).map fun (cs, rest) => ('\\' :: cs, rest)
  | c :: rest => (pointedChars rest).map fun (cs, rest) => (c :: cs, rest)

/-- How deep parentheses may be nested in a destination. -/
def maxParentheses : Nat := 33

/-- The characters of a plain destination with a number of open parentheses, and the
rest. Every parenthesis has its partner. -/
def plainChars (depth : Nat) : List Char → Option (List Char × List Char)
  | [] => if depth = 0 then some ([], []) else none
  | '\\' :: c :: rest =>
      if isAsciiPunctuation c then
        (plainChars depth rest).map fun (cs, rest) => ('\\' :: c :: cs, rest)
      else (plainChars depth (c :: rest)).map fun (cs, rest) => ('\\' :: cs, rest)
  | c :: rest =>
      let push (depth : Nat) := (plainChars depth rest).map fun (cs, rest) => (c :: cs, rest)
      if c.toNat ≤ 0x20 then (if depth = 0 then some ([], c :: rest) else none)
      else if c = '(' then (if depth < maxParentheses then push (depth + 1) else none)
      else if c = ')' then (if depth = 0 then some ([], c :: rest) else push (depth - 1))
      else push depth

def readDestination (cs : List Char) : Option (List Char × List Char) :=
  match cs with
  | '<' :: rest => pointedChars rest
  | _ => plainChars 0 cs

/-! ### Titles -/

/-- The characters of a title up to its closing mark, and the rest. -/
def titleChars (close : Char) : List Char → Option (List Char × List Char)
  | [] => none
  | '\\' :: c :: rest =>
      if isAsciiPunctuation c then
        (titleChars close rest).map fun (cs, rest) => ('\\' :: c :: cs, rest)
      else (titleChars close (c :: rest)).map fun (cs, rest) => ('\\' :: cs, rest)
  | c :: rest =>
      if c = close then some ([], rest)
      else if c = '(' ∧ close = ')' then none
      else (titleChars close rest).map fun (cs, rest) => (c :: cs, rest)

/-- A title between quotes or parentheses, and the rest. -/
def readTitle (cs : List Char) : Option (List Char × List Char) :=
  match cs with
  | '\x22' :: rest => titleChars '\x22' rest
  | '\x27' :: rest => titleChars '\x27' rest
  | '(' :: rest => titleChars ')' rest
  | _ => none

/-- The rest after blanks with one line ending among them at most. -/
def skipGap (cs : List Char) : List Char :=
  match cs.dropWhile isSpace with
  | '\n' :: rest => rest.dropWhile isSpace
  | rest => rest

/-- A title whose lines lose the blanks at their start. -/
def trimLineStarts (cs : List Char) : List Char :=
  match cs.splitOn '\n' with
  | [] => []
  | line :: lines => ['\n'].intercalate (line :: lines.map (·.dropWhile isSpace))

/-- The target of a link in parentheses, after the first, and the rest. -/
def readInlineTarget (cs : List Char) : Option (Target × List Char) := do
  let (destination, rest) ← readDestination (skipGap cs)
  let rest := skipGap rest
  let (title, rest) := match readTitle rest with
    | some (title, rest) => (title, skipGap rest)
    | none => ([], rest)
  match rest with
  | ')' :: rest => return (⟨unescape destination, unescape (trimLineStarts title)⟩, rest)
  | _ => none

/-! ### Definitions -/

/-- The rest of a line that is blank up to its end. The line ending stays. -/
def atLineEnd? (cs : List Char) : Option (List Char) :=
  match cs.dropWhile isSpace with
  | [] => some []
  | '\n' :: rest => some ('\n' :: rest)
  | _ => none

/-- The title of a definition behind its destination, up to the end of a line. -/
def readDefinitionTitle (cs : List Char) : Option (List Char × List Char) := do
  if (skipGap cs).length = cs.length then none
  let (title, rest) ← readTitle (skipGap cs)
  return (title, ← atLineEnd? rest)

/-- The definition of a label at the start of a text, and the rest from the end of its
last line on. A title that is not well formed is none if it is on a line of its own. -/
def readDefinition (cs : List Char) : Option (List Char × Target × List Char) := do
  let '[' :: rest := cs | none
  let (label, rest) ← readLabel rest
  let ':' :: rest := rest | none
  let start := skipGap rest
  let (destination, rest) ← readDestination start
  if rest.length = start.length then none
  match readDefinitionTitle rest with
  | some (title, rest) => return (label, ⟨unescape destination, unescape title⟩, rest)
  | none => return (label, ⟨unescape destination, ""⟩, ← atLineEnd? rest)

/-! ### Addresses -/

/-- The characters of a scheme behind its first letter. -/
def isSchemeChar (c : Char) : Bool := c.isAlphanum || c == '.' || c == '-' || c == '+'

/-- An address with a scheme up to a closing angle bracket, and the rest. -/
def readUri (cs : List Char) : Option (List Char × List Char) :=
  let scheme := cs.takeWhile isSchemeChar
  let rest := cs.drop scheme.length
  let body := (rest.drop 1).takeWhile fun c => decide (0x20 < c.toNat) && c != '<' && c != '>'
  match scheme, rest, rest.drop (1 + body.length) with
  | first :: _, ':' :: _, '>' :: after =>
      if first.isAlpha && decide (2 ≤ scheme.length ∧ scheme.length ≤ 32) then
        some (scheme ++ ':' :: body, after)
      else none
  | _, _, _ => none

/-- The characters of a mailbox before the at sign. -/
def isMailboxChar (c : Char) : Bool :=
  c.isAlphanum || ".!#$%&'*+/=?^_\x60\x7b|\x7d~-".toList.contains c

/-- A part of a domain: letters and digits, and dashes inside. -/
def isDomainLabel (cs : List Char) : Bool :=
  !cs.isEmpty && decide (cs.length ≤ 63) && cs.all (fun c => c.isAlphanum || c == '-') &&
    cs.head? != some '-' && cs.getLast? != some '-'

/-- A mail address up to a closing angle bracket, and the rest. -/
def readMail (cs : List Char) : Option (List Char × List Char) :=
  let mailbox := cs.takeWhile isMailboxChar
  let rest := cs.drop mailbox.length
  let domain := (rest.drop 1).takeWhile fun c => c.isAlphanum || c == '-' || c == '.'
  match mailbox, rest, rest.drop (1 + domain.length) with
  | _ :: _, '@' :: _, '>' :: after =>
      if (domain.splitOn '.').all isDomainLabel then some (mailbox ++ '@' :: domain, after)
      else none
  | _, _, _ => none

/-- An address after its opening angle bracket, as a link, and the rest. -/
def readAutolink (cs : List Char) : Option (Inline × List Char) :=
  let link (scheme : String) (address rest : List Char) : Inline × List Char :=
    (.link ⟨scheme ++ String.ofList address, ""⟩ [.text (String.ofList address)], rest)
  match readUri cs, readMail cs with
  | some (address, rest), _ => some (link "" address rest)
  | none, some (address, rest) => some (link "mailto:" address rest)
  | none, none => none

end Portfolio.Markdown
