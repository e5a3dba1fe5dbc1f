/-
Module: Portfolio.Theme.Tokens
Purpose: The custom properties that a design system declares, in their fixed order of
  sections.
Main exports: Theme.groupDeclarations, Theme.sections, Theme.paletteDeclarations,
  Theme.themeCss
-/
import Portfolio.Design.Basic
import Portfolio.Naming
import Portfolio.Theme.Css

namespace Portfolio.Theme

/-! ### Token groups -/

/-- The name of a token inside a group or a nested map. -/
def tokenName (outer key : String) : String := outer ++ "-" ++ Naming.cssIdent key

mutual

/-- The declarations of a token: one for each value that is neither null nor a map, the
keys on the way to it joined by dashes. -/
def tokenDeclarations (name : String) : Value → List Declaration
  | .null => []
  | .map entries => entryDeclarations name entries
  | .bool b => [customProperty name (valueText (.bool b))]
  | .number n => [customProperty name (valueText (.number n))]
  | .text s => [customProperty name s]
  | .list items => [customProperty name (valueText (.list items))]

/-- The declarations of the entries of a map, in their order. -/
def entryDeclarations (name : String) : List (String × Value) → List Declaration
  | [] => []
  | (key, v) :: es => tokenDeclarations (tokenName name key) v ++ entryDeclarations name es

end

def groupDeclarations (group : String) (tokens : TokenGroup) : List Declaration :=
  entryDeclarations group tokens.entries

/-! ### Typography and spacing -/

/-- The parts of a text style that are set, with the ends of their names. -/
def styleParts (style : TextStyle) : List (String × String) :=
  ([("size", style.fontSize), ("weight", style.fontWeight),
      ("line-height", style.lineHeight)].filter fun part => !part.2.isNull).map
    (fun part => (part.1, valueText part.2)) ++
    (style.letterSpacing.map fun spacing => ("letter-spacing", spacing)).toList

def styleDeclarations (key : String) (style : TextStyle) : List Declaration :=
  (styleParts style).map fun part =>
    customProperty ("text-" ++ Naming.cssIdent key ++ "-" ++ part.1) part.2

/-- The declarations of the typography, with the tokens of the font group. -/
def typographyDeclarations (t : Typography) (fonts : TokenGroup) : List Declaration :=
  [customProperty "font-heading" t.headingFont,
    customProperty "font-body" t.bodyFont,
    customProperty "font-size-base" (numberText t.baseFontSize ++ "px"),
    customProperty "type-scale" (numberText t.scale)] ++
    groupDeclarations "font" fonts ++
    t.styles.entries.flatMap fun e => styleDeclarations e.1 e.2

/-- The name of a step of the spacing scale. -/
def stepName (i : Nat) : String := "space-" ++ Text.decimal i

/-- The declarations of the steps of the spacing scale. -/
def stepDeclarations (s : Spacing) : List Declaration :=
  s.scale.zipIdx.map fun (step, i) => customProperty (stepName i) (pixels (s.baseUnit.mul step))

/-- The declarations of the spacing, with the tokens of the spacing group. -/
def spacingDeclarations (s : Spacing) (tokens : TokenGroup) : List Declaration :=
  customProperty "spacing-unit" (numberText s.baseUnit ++ "px") ::
    stepDeclarations s ++ groupDeclarations "spacing" tokens

/-! ### Sections -/

/-- A titled run of declarations. -/
structure Section where
  title : String
  declarations : List Declaration
  deriving DecidableEq, Repr, Inhabited

/-- All sections of a design system in their order, the empty ones too. -/
def sections (design : Design) : List Section :=
  let t := design.tokens
  [⟨"Colors", groupDeclarations "color" t.colors⟩,
    ⟨"Typography", typographyDeclarations design.typography t.fonts⟩,
    ⟨"Spacing", spacingDeclarations design.spacing t.spacing⟩,
    ⟨"Shadows", groupDeclarations "shadow" t.shadows⟩,
    ⟨"Borders", groupDeclarations "border" t.borders⟩,
    ⟨"Radii", groupDeclarations "radius" t.radii⟩,
    ⟨"Z-index", groupDeclarations "z" t.zIndex⟩,
    ⟨"Transitions", groupDeclarations "transition" t.transitions⟩,
    ⟨"Breakpoints", groupDeclarations "breakpoint" design.breakpoints⟩]

/-- The sections that are written: those with a declaration. -/
def filledSections (design : Design) : List Section :=
  (sections design).filter fun s => !s.declarations.isEmpty

/-- The declarations of the palette: the ramps by role and shade, then the semantic
colors. -/
def paletteDeclarations (p : Palette) : List Declaration :=
  (p.ramps.flatMap fun ramp => ramp.2.entries.map fun shade =>
    customProperty ("color-" ++ ramp.1 ++ "-" ++ Naming.cssIdent shade.1) shade.2) ++
    p.semantic.entries.map fun color =>
      customProperty ("color-" ++ Naming.cssIdent color.1) color.2

/-! ### The stylesheet of the tokens -/

def declarationLine (d : Declaration) : String := "  " ++ d.render ++ "\n"

/-- A section behind its comment. -/
def Section.render (s : Section) : String :=
  "  " ++ comment s.title ++ String.join (s.declarations.map declarationLine)

def rootRule (lines : String) : String := ":root \x7b\n" ++ lines ++ "\x7d\n"

/-- The stylesheet of the custom properties. The palette has a rule of its own, if there
is one. -/
def themeCss (design : Design) : String :=
  comment "Design tokens" ++
    rootRule (String.join ((filledSections design).map Section.render)) ++
    (if design.colors.isExtended then
      "\n" ++ comment "Palette" ++
        rootRule (String.join ((paletteDeclarations design.colors).map declarationLine))
    else "")

end Portfolio.Theme
