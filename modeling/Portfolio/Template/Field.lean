/-
Module: Portfolio.Template.Field
Purpose: How a template shows one field: a fragment that appears only where the field has
  a value, in the form that suits its kind.
Main exports: Template.Scope, Template.fragment
-/
import Portfolio.Naming
import Portfolio.Schema.Basic
import Portfolio.Template.Markup

namespace Portfolio.Template

/-- Where a fragment stands: the variable that holds the fields, the path of the snippets
of its structures, and how many structures enclose it. -/
structure Scope where
  subject : String
  path : String
  enclosing : Nat
  deriving DecidableEq, Repr, Inhabited

/-- The expression that reads a field. -/
def Scope.accessor (scope : Scope) (f : FieldSpec) : String :=
  scope.subject ++ "->" ++ Naming.key f.name ++ "()"

/-- Inside a structure of a scope. -/
def Scope.inside (scope : Scope) (f : FieldSpec) : Scope :=
  ⟨"$item", scope.path ++ "/" ++ Naming.key f.name, scope.enclosing + 1⟩

/-- What is inside the guard of a fragment. -/
structure Display where
  /-- The test that the field has a value. -/
  guard : String
  showLabel : Bool
  content : List Markup
  deriving Repr, Inhabited

/-- An element with one class. -/
def box (tag classes : String) (children : List Markup) : Markup :=
  .element tag [cssClass classes] children

/-- A link around an expression. -/
def link (target : String) (extra : List Attribute) (shown : String) : Markup :=
  .element "a" ([cssClass "field__value", echoed "href" target] ++ extra) [echo shown]

/-- A list with one item for each member of a list of values. -/
def itemList (classes head : String) (item : List Markup) : Markup :=
  box "ul" classes (forEach head [.element "li" [] item])

/-- The `download` attribute of a link. -/
def download : Attribute := ⟨"download", .absent⟩

def display (scope : Scope) (f : FieldSpec) : Display :=
  let value := scope.accessor f
  let notEmpty := value ++ "->isNotEmpty()"
  let escaped := value ++ "->esc()"
  let labelled (content : List Markup) : Display := ⟨notEmpty, true, content⟩
  let inAttribute := value ++ "->esc('attr')"
  let entries (head : String) : List Markup :=
    [itemList head (value ++ "->split() as $entry") [echo "esc($entry)"]]
  match f.kind with
  | .text | .textarea | .number | .range | .select | .radio | .location | .unknown _ =>
      labelled [box "p" "field__value" [echo escaped]]
  | .richtext => labelled [box "div" "field__value prose" [echo value]]
  | .markdown => labelled [box "div" "field__value prose" [echo (value ++ "->kirbytext()")]]
  | .code | .json =>
      labelled [box "pre" "field__value" [.element "code" [] [echo escaped]]]
  | .boolean =>
      ⟨value ++ "->toBool()", false,
        [box "p" "field__flag" [.text (Field.displayLabel f)]]⟩
  | .date | .datetime =>
      let shown := if f.kind = .date then "d F Y" else "d F Y, H:i"
      labelled [.element "time"
        [cssClass "field__value", echoed "datetime" (value ++ "->toDate('c')")]
        [echo (value ++ "->toDate('" ++ shown ++ "')")]]
  | .time => labelled [box "p" "field__value" [echo (value ++ "->toDate('H:i')")]]
  | .url => labelled [link inAttribute [] escaped]
  | .email => labelled [link ("'mailto:' . " ++ inAttribute) [] escaped]
  | .tel => labelled [link ("'tel:' . " ++ inAttribute) [] escaped]
  | .color =>
      labelled [
        .element "span" [cssClass "swatch",
          echoed "style" ("'background-color: ' . " ++ value ++ "->esc('css')")] [],
        box "code" "field__value" [echo escaped]]
  | .multiselect | .checkbox | .tags => labelled (entries "field__value tags")
  | .image =>
      ⟨"$file = " ++ value ++ "->toFile()", false,
        [box "figure" "field__value"
          (.void "img" [echoed "src" "$file->url()", echoed "alt" "$file->alt()->esc('attr')"] ::
            ifTrue "$file->caption()->isNotEmpty()"
              [.element "figcaption" [] [echo "$file->caption()->esc()"]])]⟩
  | .file =>
      ⟨"$file = " ++ value ++ "->toFile()", true,
        [link "$file->url()" [download] "$file->filename()"]⟩
  | .gallery =>
      ⟨notEmpty, false,
        [box "div" "gallery" (forEach (value ++ "->toFiles() as $file")
          [.element "figure" [] [.void "img" [echoed "src" "$file->url()",
            echoed "alt" "$file->alt()->esc('attr')", ⟨"loading", .text "lazy"⟩]]])]⟩
  | .files =>
      labelled [itemList "field__value files" (value ++ "->toFiles() as $file")
        [.element "a" [echoed "href" "$file->url()", download] [echo "$file->filename()"]]]
  | .list =>
      labelled [itemList "field__value" (value ++ "->yaml() as $entry") [echo "esc($entry)"]]
  | .structured =>
      if scope.enclosing < maxStructureDepth then
        labelled [box "div" "structure" (forEach (value ++ "->toStructure() as $row")
          [php (.snippet (scope.inside f).path (some ("item", "$row")))])]
      else labelled [box "pre" "field__value" [echo escaped]]
  | .blocks => ⟨notEmpty, false, [box "div" "blocks" [echo (value ++ "->toBlocks()")]]⟩
  | .relation | .relations =>
      labelled [box "div" "cards" (forEach (value ++ "->toPages() as $related")
        [php (.snippet "card" (some ("card", "$related")))])]

/-- The label above a value. -/
def labelMarkup (f : FieldSpec) : Markup :=
  box "span" "field__label" [.text (Field.displayLabel f)]

/-- A field in a scope, shown only where it has a value. -/
def fragment (scope : Scope) (f : FieldSpec) : List Markup :=
  let d := display scope f
  ifTrue d.guard
    [newline,
      box "div" ("field field--" ++ Naming.key f.name)
        ((if d.showLabel then [labelMarkup f] else []) ++ d.content),
      newline]

/-- The fragments of a field list, each on lines of its own. -/
def fragments (scope : Scope) (fields : List Field) : List Markup :=
  (fields.flatMap fun f => newline :: fragment scope f.toFieldSpec) ++ [newline]

end Portfolio.Template
