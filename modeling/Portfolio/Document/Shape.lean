/-
Module: Portfolio.Document.Shape
Purpose: Documents with named members: one description of the members gives both the
  reader, with its order of errors, and the writer.
Main exports: Document.Member, Document.Shape, Document.Shape.codec
-/
import Portfolio.Document.Codec

namespace Portfolio.Document

/-- A member of a document: its names, how it is read into the document, and how it
is written, if at all. -/
structure Member (τ α : Type) where
  name : String
  aliases : List String
  /-- A document without this member is refused. -/
  required : Bool
  read : τ → α → Except Failure α
  write : α → Option τ

namespace Member

variable {τ α β : Type}

/-- A member that has to be there. -/
def needed (name : String) (codec : Codec τ β) (get : α → β) (set : β → α → α) :
    Member τ α where
  name := name
  aliases := []
  required := true
  read tree x := (codec.read tree).map fun y => set y x
  write x := some (codec.write (get x))

/-- A member that keeps its default when absent, and is always written. -/
def defaulted (name : String) (codec : Codec τ β) (get : α → β) (set : β → α → α) :
    Member τ α :=
  { needed name codec get set with required := false }

/-- A list that counts as empty when absent, and is left out when empty. -/
def listed (name : String) (codec : Codec τ (List β)) (get : α → List β)
    (set : List β → α → α) : Member τ α :=
  { needed name codec get set with
    required := false
    write := fun x => if (get x).isEmpty then none else some (codec.write (get x)) }

/-- A member that may be absent or null, and is left out when absent. -/
def optional (name : String) (codec : Codec Value β) (get : α → Option β)
    (set : Option β → α → α) : Member Value α where
  name := name
  aliases := []
  required := false
  read tree x :=
    if tree.isNull then .ok (set none x)
    else (codec.read tree).map fun y => set (some y) x
  write x := (get x).map codec.write

/-- A member that is also read under another name. -/
def alsoNamed (other : String) (m : Member τ α) : Member τ α :=
  { m with aliases := other :: m.aliases }

/-- A key names the member. -/
def answersTo (m : Member τ α) (key : String) : Bool :=
  key == m.name || m.aliases.contains key

end Member

/-- A kind of document: its members in order, and the document with none of them. -/
structure Shape (τ α : Type) where
  /-- The kind's name in messages. -/
  title : String
  blank : α
  members : List (Member τ α)
  /-- Members of other names are refused. -/
  closed : Bool := false

namespace Shape

variable {τ α : Type}

/-- One entry of a map: the document so far and the names of the members read. -/
def readEntry (shape : Shape τ α) (state : α × List String) (entry : String × τ) :
    Except Failure (α × List String) :=
  match shape.members.find? (·.answersTo entry.1) with
  | none =>
      if shape.closed then fail (.unknownMember entry.1 (shape.members.map (·.name)))
      else .ok state
  | some m =>
      if m.name ∈ state.2 then fail (.duplicate m.name)
      else
        match m.read entry.2 state.1 with
        | .ok x => .ok (x, m.name :: state.2)
        | .error f => .error (f.under entry.1)

/-- A document from a map: the entries in their order, then the first member that is
needed and absent. -/
def readEntries (shape : Shape τ α) (entries : List (String × τ)) : Except Failure α := do
  let (x, seen) ← entries.foldlM shape.readEntry (shape.blank, [])
  match shape.members.find? fun m => m.required && !seen.contains m.name with
  | some m => fail (.missing m.name)
  | none => return x

/-- How many members a document given as a list can have. -/
def lengthText (shape : Shape τ α) : String :=
  let n := shape.members.length
  "struct " ++ shape.title ++ " with " ++ Text.decimal n ++
    (if n = 1 then " element" else " elements")

/-- Members by position. Absent ones keep their default, unless they are needed. -/
def readPositions (shape : Shape τ α) (position : Nat) :
    List (Member τ α) → List τ → α → Except Failure (α × List τ)
  | [], rest, x => .ok (x, rest)
  | m :: ms, [], x =>
      if m.required then fail (.wrongLength position shape.lengthText)
      else readPositions shape (position + 1) ms [] x
  | m :: ms, v :: vs, x => do
      let x ← m.read v x
      readPositions shape (position + 1) ms vs x

def readItems (shape : Shape τ α) (items : List τ) : Except Failure α := do
  let (x, rest) ← readPositions shape 0 shape.members items shape.blank
  if rest.isEmpty then return x
  else fail (.wrongLength items.length "fewer elements in array")

/-- A document from a tree: a map of its members, or a list of them. -/
def read [Tree τ] (shape : Shape τ α) (tree : τ) : Except Failure α :=
  match Tree.view tree with
  | .map entries => shape.readEntries entries
  | .list items => shape.readItems items
  | .leaf found => fail (.wrongKind found ("struct " ++ shape.title))

/-- The entries of a document: its written members in order. -/
def entries (shape : Shape τ α) (x : α) : List (String × τ) :=
  shape.members.filterMap fun m => (m.write x).map fun tree => (m.name, tree)

/-- Reads and writes documents of a shape. -/
def codec [Tree τ] (shape : Shape τ α) : Codec τ α where
  read := shape.read
  write x := Tree.ofEntries (shape.entries x)

end Shape

end Portfolio.Document
