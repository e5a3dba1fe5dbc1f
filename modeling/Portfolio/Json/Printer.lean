/-
Module: Portfolio.Json.Printer
Purpose: Values as JSON text, on one line or indented by two spaces a level.
Main exports: Json.quote, Json.compact, Json.pretty
-/
import Portfolio.Value
import Portfolio.Text.Numeral

namespace Portfolio.Json

/-- A character inside a JSON string. Quotes, backslashes and controls below the
space are escaped, with the five short escapes where JSON has them; everything
else stands for itself. -/
def escapeChar (c : Char) : List Char :=
  match c with
  | '\x22' => ['\\', '\x22']
  | '\\' => ['\\', '\\']
  | '\x08' => ['\\', 'b']
  | '\x0c' => ['\\', 'f']
  | '\n' => ['\\', 'n']
  | '\r' => ['\\', 'r']
  | '\t' => ['\\', 't']
  | c => if c.toNat < 0x20 then ['\\', 'u', '0', '0'] ++ Text.hexByte c.toUInt8 else [c]

def quote (s : String) : String :=
  "\"" ++ String.ofList (s.toList.flatMap escapeChar) ++ "\""

/-! ### One line -/

mutual

/-- A value as JSON without any space. -/
def compact : Value → String
  | .null => "null"
  | .bool b => if b then "true" else "false"
  | .number (.double x) => if x.isFinite then NumberStyle.json.text x else "null"
  | .number n => n.text .json
  | .text s => quote s
  | .list items => "[" ++ String.intercalate "," (compactItems items) ++ "]"
  | .map entries => "\x7b" ++ String.intercalate "," (compactEntries entries) ++ "\x7d"

/-- The items of a list, each on its own. -/
def compactItems : List Value → List String
  | [] => []
  | v :: vs => compact v :: compactItems vs

/-- The entries of a map, each on its own. -/
def compactEntries : List (String × Value) → List String
  | [] => []
  | (k, v) :: es => (quote k ++ ":" ++ compact v) :: compactEntries es

end

/-! ### Indented -/

/-- The line break before a part at a nesting level. -/
def lineAt (level : Nat) : String :=
  "\n" ++ String.ofList (List.replicate (2 * level) ' ')

mutual

/-- A value as JSON with every part on a line of its own, inside `level` enclosing
lists and maps. Empty lists and maps stay closed. -/
def prettyAt (level : Nat) : Value → String
  | .list [] => "[]"
  | .map [] => "\x7b\x7d"
  | .list (v :: vs) =>
      "[" ++ String.intercalate "," (prettyItems (level + 1) (v :: vs)) ++ lineAt level ++ "]"
  | .map (e :: es) =>
      "\x7b" ++ String.intercalate "," (prettyEntries (level + 1) (e :: es)) ++
        lineAt level ++ "\x7d"
  | .null => "null"
  | .bool b => if b then "true" else "false"
  | .number (.double x) => if x.isFinite then NumberStyle.json.text x else "null"
  | .number n => n.text .json
  | .text s => quote s

/-- The items of a list, each after its line break. -/
def prettyItems (level : Nat) : List Value → List String
  | [] => []
  | v :: vs => (lineAt level ++ prettyAt level v) :: prettyItems level vs

/-- The entries of a map, each after its line break. -/
def prettyEntries (level : Nat) : List (String × Value) → List String
  | [] => []
  | (k, v) :: es =>
      (lineAt level ++ quote k ++ ": " ++ prettyAt level v) :: prettyEntries level es

end

/-- A value as indented JSON. -/
def pretty (v : Value) : String := prettyAt 0 v

end Portfolio.Json
