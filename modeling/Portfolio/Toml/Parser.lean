/-
Module: Portfolio.Toml.Parser
Purpose: Reading TOML documents.
Main exports: Toml.parse
-/
import Portfolio.Toml.Scalar
import Portfolio.Toml.Tree

namespace Portfolio.Toml

/-- Arrays and inline tables may enclose each other up to this many levels, and a dotted
key has up to this many parts. -/
def maxNesting : Nat := 79

/-! ### Blanks and comments -/

/-- The rest after the blanks of a line. -/
def skipSpace (cs : List Char) : List Char := cs.dropWhile isSpace

/-- The rest after a comment, if there is one. -/
def skipComment (cs : List Char) : List Char :=
  match cs with
  | '#' :: rest => rest.dropWhile fun c => !isControl c
  | _ => cs

/-- The rest after the end of a line, with blanks and a comment before it. -/
def skipLineEnd (cs : List Char) : Option (List Char) :=
  match skipComment (skipSpace cs) with
  | [] => some []
  | rest => skipNewline rest

/-- The rest after blanks, comments and line endings. -/
def skipGap (inComment : Bool) : List Char → List Char
  | '\r' :: '\n' :: rest => skipGap false rest
  | '\n' :: rest => skipGap false rest
  | '#' :: rest => skipGap true rest
  | c :: rest =>
      if inComment && !isControl c then skipGap true rest
      else if !inComment && isSpace c then skipGap false rest
      else c :: rest
  | [] => []

/-! ### Keys -/

/-- The characters of a key without quotes. -/
def isBareChar (c : Char) : Bool := c.isAlphanum || c == '-' || c == '_'

/-- One part of a key. -/
def readKey (cs : List Char) : Option (String × List Char) :=
  match cs with
  | '\x22' :: rest => readBasic rest
  | '\x27' :: rest => readLiteral rest
  | _ =>
      let bare := cs.takeWhile isBareChar
      if bare.isEmpty then none else some (String.ofList bare, cs.dropWhile isBareChar)

/-- The parts of a dotted key, up to a number of them. -/
def readPath : Nat → List Char → Option (List String × List Char)
  | 0, _ => none
  | fuel + 1, cs => do
      let (key, rest) ← readKey (skipSpace cs)
      match skipSpace rest with
      | '.' :: rest =>
          let (path, rest) ← readPath fuel rest
          return (key :: path, rest)
      | rest => return ([key], rest)

/-- A dotted key as the path to a table and the key in it. -/
def readDotted (cs : List Char) : Option ((List String × String) × List Char) := do
  let (path, rest) ← readPath maxNesting cs
  return ((path.dropLast, ← path.getLast?), rest)

/-! ### Values -/

/-- The items of an array after its bracket or a comma, each read by `item`. The fuel
bounds their number. -/
def readItems (item : List Char → Option (Toml × List Char)) :
    Nat → List Char → Option (List Toml × List Char)
  | 0, _ => none
  | fuel + 1, cs =>
      match skipGap false cs with
      | ']' :: rest => some ([], rest)
      | cs => do
          let (t, rest) ← item cs
          match skipGap false rest with
          | ',' :: rest =>
              let (ts, rest) ← readItems item fuel rest
              return (t :: ts, rest)
          | ']' :: rest => return ([t], rest)
          | _ => none

/-- A key and its value, read by `item`. -/
def readPair (item : List Char → Option (Toml × List Char)) (cs : List Char) :
    Option ((List String × String × Toml) × List Char) := do
  let ((path, key), rest) ← readDotted cs
  match rest with
  | '=' :: rest =>
      let (t, rest) ← item (skipSpace rest)
      return ((path, key, t), rest)
  | _ => none

/-- The pairs of an inline table after its brace or a comma, added to the entries before
them. The fuel bounds their number. -/
def readPairs (item : List Char → Option (Toml × List Char)) :
    Nat → Entries → List Char → Option (Entries × List Char)
  | 0, _, _ => none
  | fuel + 1, entries, cs => do
      let ((path, key, t), rest) ← readPair item cs
      let entries ← addPair path key t .header entries
      match skipSpace rest with
      | ',' :: rest => readPairs item fuel entries rest
      | '\x7d' :: rest => return (entries, rest)
      | _ => none

/-- A value, inside which `levels` arrays and inline tables may enclose each other. -/
def readValue : Nat → List Char → Option (Toml × List Char)
  | levels, cs =>
      match cs with
      | '\x22' :: '\x22' :: '\x22' :: rest => (readLongBasic rest).map fun (s, r) => (.text s, r)
      | '\x22' :: rest => (readBasic rest).map fun (s, r) => (.text s, r)
      | '\x27' :: '\x27' :: '\x27' :: rest =>
          (readLongLiteral rest).map fun (s, r) => (.text s, r)
      | '\x27' :: rest => (readLiteral rest).map fun (s, r) => (.text s, r)
      | '[' :: rest =>
          match levels with
          | 0 => none
          | levels + 1 => (readItems (readValue levels) cs.length rest).map fun (ts, r) =>
              (.array ts, r)
      | '\x7b' :: rest =>
          match levels with
          | 0 => none
          | levels + 1 =>
              match skipSpace rest with
              | '\x7d' :: rest => some (.table [], rest)
              | rest => (readPairs (readValue levels) cs.length [] rest).map fun (es, r) =>
                  (.table (entriesToToml es), r)
      | _ => readToken cs

/-! ### Documents -/

/-- A document that was read up to some line: its entries, and the path of the table
that plain keys go to. -/
structure Progress where
  entries : Entries := []
  current : List String := []
  deriving Repr, Inhabited

/-- One line that says something, after its blanks. Blank lines and comments are skipped
by the caller. -/
def readLine (p : Progress) (cs : List Char) : Option (Progress × List Char) :=
  match cs with
  | '[' :: '[' :: rest => do
      let ((path, key), rest) ← readDotted rest
      match rest with
      | ']' :: ']' :: rest =>
          return (⟨← openItem path key p.entries, path ++ [key]⟩, ← skipLineEnd rest)
      | _ => none
  | '[' :: rest => do
      let ((path, key), rest) ← readDotted rest
      match rest with
      | ']' :: rest =>
          return (⟨← openTable path key p.entries, path ++ [key]⟩, ← skipLineEnd rest)
      | _ => none
  | _ => do
      let ((path, key, t), rest) ← readPair (readValue maxNesting) cs
      let entries ← editAt false (addPair path key t) p.current .header p.entries
      return ({ p with entries := entries }, ← skipLineEnd rest)

/-- All lines of a text. The fuel bounds their number. -/
def readLines : Nat → Progress → List Char → Option Progress
  | 0, _, _ => none
  | fuel + 1, p, cs =>
      match skipGap false cs with
      | [] => some p
      | cs => do
          let (p, rest) ← readLine p cs
          readLines fuel p rest

/-- The table that a text holds. A byte order mark in front does not count. -/
def parse (s : String) : Option Toml := do
  let cs := match s.toList with
    | '\ufeff' :: rest => rest
    | cs => cs
  let p ← readLines (cs.length + 1) {} cs
  return .table (entriesToToml p.entries)

end Portfolio.Toml
