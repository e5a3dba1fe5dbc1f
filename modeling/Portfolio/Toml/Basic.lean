/-
Module: Portfolio.Toml.Basic
Purpose: TOML trees, and laying one over another.
Main exports: Toml, Toml.layer, Toml.ofValue?, Toml.toValue
-/
import Portfolio.Document.Codec

namespace Portfolio

/-- A TOML value. The entries of a table stand in byte order of their keys. Dates and
times are kept as text. -/
inductive Toml where
  | text (s : String)
  | integer (n : Int)
  | float (x : Double)
  | boolean (b : Bool)
  | moment (s : String)
  | array (items : List Toml)
  | table (entries : List (String × Toml))
  deriving Repr, Inhabited

namespace Toml

/-! ### Layering -/

mutual

/-- Lays a value over another. Tables merge key by key, and any other value takes the
place of what is under it. -/
def layer (base : Toml) : Toml → Toml
  | .table entries =>
      match base with
      | .table under => .table (layerEntries under entries)
      | _ => .table entries
  | .text s => .text s
  | .integer n => .integer n
  | .float x => .float x
  | .boolean b => .boolean b
  | .moment s => .moment s
  | .array items => .array items

/-- Lays entries over those of a table. -/
def layerEntries (under : List (String × Toml)) :
    List (String × Toml) → List (String × Toml)
  | [] => under
  | (key, v) :: entries =>
      let merged := match under.lookup key with
        | some base => layer base v
        | none => v
      layerEntries (insertSorted key merged under) entries

end

/-! ### Other values -/

mutual

/-- A value as TOML. There is no null in TOML, and integers have 64 bits with a sign. -/
def ofValue? : Value → Option Toml
  | .null => none
  | .bool b => some (.boolean b)
  | .number (.int n) => if Int64.inRange n then some (.integer n) else none
  | .number (.double x) => some (.float x)
  | .text s => some (.text s)
  | .list items => (ofItems? items).map .array
  | .map entries => (ofEntries? entries).map fun es => .table (sortEntries es)

/-- The items of a list as TOML. -/
def ofItems? : List Value → Option (List Toml)
  | [] => some []
  | v :: vs => do
      let t ← ofValue? v
      let ts ← ofItems? vs
      return t :: ts

def ofEntries? : List (String × Value) → Option (List (String × Toml))
  | [] => some []
  | (k, v) :: es => do
      let t ← ofValue? v
      let ts ← ofEntries? es
      return (k, t) :: ts

end

mutual

def toValue : Toml → Value
  | .text s => .text s
  | .integer n => .number (.int n)
  | .float x => .number (.double x)
  | .boolean b => .bool b
  | .moment s => .text s
  | .array items => .list (toValues items)
  | .table entries => .map (toEntries entries)

/-- The items of an array as plain values. -/
def toValues : List Toml → List Value
  | [] => []
  | t :: ts => toValue t :: toValues ts

/-- The entries of a table as plain values. -/
def toEntries : List (String × Toml) → List (String × Value)
  | [] => []
  | (k, t) :: es => (k, toValue t) :: toEntries es

end

instance : Document.Tree Toml where
  view
    | .text s => .leaf (.text s)
    | .integer n => .leaf (.integer n)
    | .float x => .leaf (.double x)
    | .boolean b => .leaf (.bool b)
    | .moment s => .leaf (.text s)
    | .array items => .list items
    | .table entries => .map entries
  ofText := .text
  ofBool := .boolean
  ofEntries entries := .table (sortEntries entries)

end Toml

end Portfolio
