/-
Module: Portfolio.Template.Markup
Purpose: HTML with PHP islands as a tree: elements are closed by construction, free text
  is escaped, and the islands are known before anything is printed.
Main exports: Template.Control, Template.Island, Template.Markup, Template.Markup.render,
  Template.Markup.islands
-/

namespace Portfolio.Template

/-- A PHP statement of a template. -/
inductive Control where
  /-- What follows is shown if the test holds. -/
  | condition (test : String)
  | endCondition
  /-- What follows is shown for every member of a list. -/
  | loop (head : String)
  | endLoop
  /-- A snippet is shown, with a variable passed to it or none. -/
  | snippet (name : String) (passed : Option (String × String))
  | call (code : String)
  deriving DecidableEq, Repr, Inhabited

/-- The text of a statement. -/
def Control.code : Control → String
  | .condition test => "if (" ++ test ++ "):"
  | .endCondition => "endif"
  | .loop head => "foreach (" ++ head ++ "):"
  | .endLoop => "endforeach"
  | .snippet name none => "snippet('" ++ name ++ "')"
  | .snippet name (some (key, value)) =>
      "snippet('" ++ name ++ "', ['" ++ key ++ "' => " ++ value ++ "])"
  | .call code => code

/-- A PHP island: a statement, or an expression whose value is shown. -/
inductive Island where
  | control (c : Control)
  | echo (expression : String)
  deriving DecidableEq, Repr, Inhabited

def Island.render : Island → String
  | .control c => "<?php " ++ c.code ++ " ?>"
  | .echo expression => "<?= " ++ expression ++ " ?>"

/-- The value of an attribute. -/
inductive AttributeValue where
  | text (s : String)
  | echo (expression : String)
  /-- The attribute's name stands alone. -/
  | absent
  deriving DecidableEq, Repr, Inhabited

/-- An attribute of an element. -/
structure Attribute where
  name : String
  value : AttributeValue
  deriving DecidableEq, Repr, Inhabited

/-- A part of a template. -/
inductive Markup where
  /-- Free text, which is escaped. -/
  | text (s : String)
  /-- A fixed piece of HTML, such as a tag that another file closes. -/
  | fixed (html : String)
  | island (i : Island)
  | element (tag : String) (attributes : List Attribute) (children : List Markup)
  /-- An element without content, such as an image. -/
  | void (tag : String) (attributes : List Attribute)
  deriving Repr, Inhabited

/-! ### Text -/

/-- A character of free text. -/
def escapeChar (c : Char) : List Char :=
  match c with
  | '&' => "&amp;".toList
  | '<' => "&lt;".toList
  | '>' => "&gt;".toList
  | '\x22' => "&quot;".toList
  | c => [c]

/-- Free text in which nothing reads as a tag, an island or the end of an attribute. -/
def escape (s : String) : String := String.ofList (s.toList.flatMap escapeChar)

/-- An attribute behind its space. -/
def Attribute.render (a : Attribute) : String :=
  match a.value with
  | .text s => " " ++ a.name ++ "=\"" ++ escape s ++ "\""
  | .echo expression => " " ++ a.name ++ "=\"" ++ (Island.echo expression).render ++ "\""
  | .absent => " " ++ a.name

def openTag (tag : String) (attributes : List Attribute) : String :=
  "<" ++ tag ++ String.join (attributes.map Attribute.render) ++ ">"

mutual

/-- A part as text. -/
def Markup.render : Markup → String
  | .text s => escape s
  | .fixed html => html
  | .island i => i.render
  | .element tag attributes children =>
      openTag tag attributes ++ renderAll children ++ "</" ++ tag ++ ">"
  | .void tag attributes => openTag tag attributes

/-- Parts as text, one behind the other. -/
def renderAll : List Markup → String
  | [] => ""
  | m :: ms => m.render ++ renderAll ms

end

/-! ### Islands -/

def attributeIslands (attributes : List Attribute) : List Island :=
  attributes.filterMap fun a =>
    match a.value with
    | .echo expression => some (.echo expression)
    | _ => none

mutual

/-- The islands of a part, in the order of its text. -/
def Markup.islands : Markup → List Island
  | .text _ | .fixed _ => []
  | .island i => [i]
  | .element _ attributes children => attributeIslands attributes ++ islandsOfAll children
  | .void _ attributes => attributeIslands attributes

/-- The islands of parts, in the order of their text. -/
def islandsOfAll : List Markup → List Island
  | [] => []
  | m :: ms => m.islands ++ islandsOfAll ms

end

/-! ### Short forms -/

/-- A line break. -/
def newline : Markup := .fixed "\n"

/-- A statement as a part. -/
def php (c : Control) : Markup := .island (.control c)

def echo (expression : String) : Markup := .island (.echo expression)

def cssClass (names : String) : Attribute := ⟨"class", .text names⟩

/-- An attribute whose value an expression gives. -/
def echoed (name expression : String) : Attribute := ⟨name, .echo expression⟩

/-- A `foreach` around parts. -/
def forEach (head : String) (body : List Markup) : List Markup :=
  php (.loop head) :: body ++ [php .endLoop]

/-- An `if` around parts. -/
def ifTrue (test : String) (body : List Markup) : List Markup :=
  php (.condition test) :: body ++ [php .endCondition]

end Portfolio.Template
