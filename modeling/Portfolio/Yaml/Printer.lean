/-
Module: Portfolio.Yaml.Printer
Purpose: Values as YAML documents in block style, maps in the order of their entries.
Main exports: Yaml.print
-/
import Portfolio.Value
import Portfolio.Yaml.Scalar

namespace Portfolio.Yaml

/-- Keys up to this many bytes stand before their colon. -/
def maxSimpleKeyBytes : Nat := 128

/-- A key that fits before its colon. Other keys stand behind a question mark. -/
def isSimpleKey (key : String) : Bool :=
  !isMultiline key.toList && decide (key.utf8ByteSize ≤ maxSimpleKeyBytes)

/-- Text that ends a line by itself, as a literal block may. -/
def endsLine (cs : List Char) : Bool :=
  (cs.getLast?.map isBreak).getD false

/-- The text with the line after it started and indented. -/
def newLine (indent : Nat) (cs : List Char) : List Char :=
  cs ++ (if endsLine cs then [] else ['\n']) ++ List.replicate indent ' '

/-- Parts at one indentation, a line break before each part but the first. -/
def stack (indent : Nat) : List (List Char) → List Char
  | [] => []
  | [part] => part
  | part :: parts => newLine indent part ++ stack indent parts

/-- A value without parts of its own: a scalar, or an empty list or map. -/
def leaf (hang : Nat) : Value → List Char
  | .null => ['n', 'u', 'l', 'l']
  | .bool true => ['t', 'r', 'u', 'e']
  | .bool false => ['f', 'a', 'l', 's', 'e']
  | .number n => (n.text .yaml).toList
  | .text s => scalar hang s
  | .list _ => ['[', ']']
  | .map _ => ['\x7b', '\x7d']

mutual

/-- A value that starts in the middle of a line, at the column `indent` where its
further parts stand as well. -/
def block (indent : Nat) : Value → List Char
  | .list (v :: vs) => stack indent (itemBlocks indent (v :: vs))
  | .map (e :: es) => stack indent (entryBlocks indent (e :: es))
  | .list [] => leaf indent (.list [])
  | .map [] => leaf indent (.map [])
  | .null => leaf indent .null
  | .bool b => leaf indent (.bool b)
  | .number n => leaf indent (.number n)
  | .text s => leaf indent (.text s)

/-- A value behind the colon of a key at column `indent`. Lists stand at the column
of the key, maps two further. -/
def underKey (indent : Nat) : Value → List Char
  | .list (v :: vs) => newLine indent [] ++ stack indent (itemBlocks indent (v :: vs))
  | .map (e :: es) =>
      newLine (indent + 2) [] ++ stack (indent + 2) (entryBlocks (indent + 2) (e :: es))
  | .list [] => ' ' :: leaf indent (.list [])
  | .map [] => ' ' :: leaf indent (.map [])
  | .null => ' ' :: leaf indent .null
  | .bool b => ' ' :: leaf indent (.bool b)
  | .number n => ' ' :: leaf indent (.number n)
  | .text s => ' ' :: leaf (indent + 2) (.text s)

/-- The items of a list, each behind its dash. -/
def itemBlocks (indent : Nat) : List Value → List (List Char)
  | [] => []
  | v :: vs => ('-' :: ' ' :: block (indent + 2) v) :: itemBlocks indent vs

/-- The entries of a map, each with its key. -/
def entryBlocks (indent : Nat) : List (String × Value) → List (List Char)
  | [] => []
  | (k, v) :: es =>
      (if isSimpleKey k then scalar (indent + 2) k ++ ':' :: underKey indent v
        else newLine indent ('?' :: ' ' :: scalar (indent + 2) k) ++
          ':' :: ' ' :: block (indent + 2) v) ::
        entryBlocks indent es

end

/-- A value as a document. A scalar at the top is indented as inside a map. -/
def print : Value → String
  | .text s => String.ofList (newLine 0 (scalar 2 s))
  | v => String.ofList (newLine 0 (block 0 v))

end Portfolio.Yaml
