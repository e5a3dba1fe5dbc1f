/-
Module: Portfolio.Document.Codec
Purpose: Reading trees of data into domain values and writing them back, one codec
  for each kind of value.
Main exports: Document.Tree, Document.Codec, Document.Codec.Stable
-/
import Portfolio.Document.Failure
import Portfolio.Value

namespace Portfolio.Document

/-- The outermost layer of a tree. -/
inductive View (τ : Type) where
  | leaf (found : Found)
  | list (items : List τ)
  | map (entries : List (String × τ))

/-- Trees of data: what their outermost layer is, and how texts, booleans and maps
become trees. -/
class Tree (τ : Type) where
  view : τ → View τ
  ofText : String → τ
  ofBool : Bool → τ
  ofEntries : List (String × τ) → τ

/-- What a message says of a layer. -/
def View.found {τ : Type} : View τ → Found
  | .leaf found => found
  | .list _ => .sequence
  | .map _ => .map

/-- Fails because a tree is of another kind than the wanted one. -/
def failKind {τ α : Type} [Tree τ] (tree : τ) (wanted : String) : Except Failure α :=
  fail (.wrongKind (Tree.view tree).found wanted)

instance : Tree Value where
  view
    | .null => .leaf .null
    | .bool b => .leaf (.bool b)
    | .number (.int n) => .leaf (.integer n)
    | .number (.double x) => .leaf (.double x)
    | .text s => .leaf (.text s)
    | .list items => .list items
    | .map entries => .map entries
  ofText := .text
  ofBool := .bool
  ofEntries := .map

/-- Reads a tree as a value of a type, and writes such a value as a tree. -/
structure Codec (τ α : Type) where
  read : τ → Except Failure α
  write : α → τ

namespace Codec

/-- What was read is written as a tree that reads as the same value again. -/
def Stable {τ α : Type} (c : Codec τ α) : Prop :=
  ∀ tree x, c.read tree = .ok x → c.read (c.write x) = .ok x

variable {τ α : Type}

/-! ### Texts, booleans and names -/

def text [Tree τ] : Codec τ String where
  read tree := match Tree.view tree with
    | .leaf (.text s) => .ok s
    | _ => failKind tree "a string"
  write := Tree.ofText

def bool [Tree τ] : Codec τ Bool where
  read tree := match Tree.view tree with
    | .leaf (.bool b) => .ok b
    | _ => failKind tree "a boolean"
  write := Tree.ofBool

/-! ### Numbers -/

/-- Whole numbers of a bounded range, with the range's name in messages. -/
def readWhole (bound : Nat) (wanted : String) (v : Value) : Except Failure Nat :=
  match v with
  | .number (.int n) =>
      if 0 ≤ n ∧ n < bound then .ok n.toNat else fail (.outOfRange (.integer n) wanted)
  | _ => failKind v wanted

/-- Whole numbers of 32 bits. -/
def uint32 : Codec Value UInt32 where
  read v := (readWhole (Nat.pow 2 32) "u32" v).map UInt32.ofNat
  write n := .ofNat n.toNat

/-- Whole numbers of 64 bits. -/
def uint64 : Codec Value UInt64 where
  read v := (readWhole (Nat.pow 2 64) "u64" v).map UInt64.ofNat
  write n := .ofNat n.toNat

/-- Whole numbers that count things. -/
def count : Codec Value Nat where
  read := readWhole (Nat.pow 2 64) "usize"
  write n := .ofNat n

/-- Binary64 numbers. Integers are rounded to the nearest one. -/
def double : Codec Value Double where
  read
    | .number n => .ok n.toDouble
    | v => failKind v "f64"
  write x := .number (.double x)

/-! ### Lists, maps and values -/

/-- Values of any kind, in normal form. -/
def value : Codec Value Value where
  read v := .ok v.sorted
  write := id

/-- Lists. The first item that fails decides. -/
def list (item : Codec Value α) : Codec Value (List α) where
  read
    | .list items => items.mapM item.read
    | v => failKind v "a sequence"
  write xs := .list (xs.map item.write)

/-- Reads the values of entries, in the order they stand. -/
def readEntries (item : Value → Except Failure α) :
    List (String × Value) → Except Failure (List (String × α))
  | [] => .ok []
  | (k, v) :: es => do
      let x ← item v
      let xs ← readEntries item es
      return (k, x) :: xs

/-- Maps by key. Every value is read, and of a repeated key the last counts. -/
def map (item : Codec Value α) : Codec Value (SortedMap α) where
  read
    | .map entries => (readEntries item.read entries).map SortedMap.ofList
    | v => failKind v "a map"
  write m := .map (m.entries.map fun e => (e.1, item.write e.2))

/-! ### Choices -/

/-- A choice by name, also written as a map of the name to null. Names that are not
listed go to `other`, or fail. -/
def readChoice (names : List (String × α)) (other : Option α) (v : Value) :
    Except Failure α := do
  let named (name : String) : Except Failure α :=
    match names.lookup name, other with
    | some x, _ => .ok x
    | none, some x => .ok x
    | none, none => fail (.unknownVariant name (names.map (·.1)))
  match v with
  | .text name => named name
  | .map [(name, content)] =>
      let x ← named name
      if content.isNull then .ok x else failKind content "unit"
  | .map _ => fail (.outOfRange .map "map with a single key")
  | v => failKind v "string or map"

/-- A choice by name. -/
def choice (names : List (String × α)) (other : Option α) (write : α → String) :
    Codec Value α where
  read := readChoice names other
  write x := .text (write x)

end Codec

end Portfolio.Document
