/-
Module: Portfolio.Design.Basic
Purpose: Design systems: token groups, typography, spacing and palette, and their
  documents. Every part may be absent.
Main exports: Design, TokenGroup, TextStyle, Design.codec
-/
import Portfolio.Document.Shape

namespace Portfolio

open Document (Shape Member Codec)

/-- The tokens of one category by name: plain values, or maps nested to any depth. -/
abbrev TokenGroup := SortedMap Value

/-- The token groups of a design system. -/
structure DesignTokens where
  colors : TokenGroup := .empty
  fonts : TokenGroup := .empty
  spacing : TokenGroup := .empty
  shadows : TokenGroup := .empty
  borders : TokenGroup := .empty
  radii : TokenGroup := .empty
  zIndex : TokenGroup := .empty
  transitions : TokenGroup := .empty
  deriving DecidableEq, Repr, Inhabited

/-- The number of tokens, counting a nested map as one. -/
def DesignTokens.count (t : DesignTokens) : Nat :=
  ([t.colors, t.fonts, t.spacing, t.shadows, t.borders, t.radii, t.zIndex,
    t.transitions].flatMap (·.entries)).length

/-- The look of one kind of text. Null parts are not set. -/
structure TextStyle where
  fontSize : Value := .null
  fontWeight : Value := .null
  lineHeight : Value := .null
  letterSpacing : Option String := none
  deriving DecidableEq, Repr, Inhabited

/-- Fonts and sizes. The root font size is in pixels, and the scale is the ratio of one
heading level to the next. -/
structure Typography where
  baseFontSize : Double := Double.ofInt 16
  scale : Double := Double.ofDecimal false 125 (-2)
  headingFont : String := "system-ui, sans-serif"
  bodyFont : String := "system-ui, sans-serif"
  styles : SortedMap TextStyle := .empty
  deriving DecidableEq, Repr, Inhabited

/-- Distances: a unit in pixels, and its multiples. -/
structure Spacing where
  baseUnit : Double := Double.ofInt 4
  scale : List Double := [0, 1, 2, 3, 4, 6, 8, 12, 16].map Double.ofInt
  deriving DecidableEq, Repr, Inhabited

/-- The shades of one palette role by name. -/
abbrev ShadeRamp := SortedMap String

/-- The palette. -/
structure Palette where
  primary : ShadeRamp := .empty
  secondary : ShadeRamp := .empty
  accent : ShadeRamp := .empty
  neutral : ShadeRamp := .empty
  semantic : SortedMap String := .empty
  deriving DecidableEq, Repr, Inhabited

namespace Palette

/-- The ramps with their roles, in the order they are written. -/
def ramps (p : Palette) : List (String × ShadeRamp) :=
  [("primary", p.primary), ("secondary", p.secondary), ("accent", p.accent),
    ("neutral", p.neutral)]

/-- Some ramp or semantic color is there. -/
def isExtended (p : Palette) : Bool :=
  p.ramps.any (fun ramp => !ramp.2.isEmpty) || !p.semantic.isEmpty

end Palette

/-- A design system. -/
structure Design where
  tokens : DesignTokens := {}
  typography : Typography := {}
  spacing : Spacing := {}
  colors : Palette := {}
  breakpoints : TokenGroup := .empty
  deriving DecidableEq, Repr, Inhabited

/-! ### Documents -/

/-- Token groups as documents. -/
def DesignTokens.shape : Shape Value DesignTokens where
  title := "DesignTokens"
  blank := {}
  members := [
    .defaulted "colors" (.map .value) (·.colors) fun y x => { x with colors := y },
    .defaulted "fonts" (.map .value) (·.fonts) fun y x => { x with fonts := y },
    .defaulted "spacing" (.map .value) (·.spacing) fun y x => { x with spacing := y },
    .defaulted "shadows" (.map .value) (·.shadows) fun y x => { x with shadows := y },
    .defaulted "borders" (.map .value) (·.borders) fun y x => { x with borders := y },
    .defaulted "radii" (.map .value) (·.radii) fun y x => { x with radii := y },
    .defaulted "zIndex" (.map .value) (·.zIndex) fun y x => { x with zIndex := y },
    .defaulted "transitions" (.map .value) (·.transitions)
      fun y x => { x with transitions := y }]

/-- Text styles as documents. -/
def TextStyle.shape : Shape Value TextStyle where
  title := "TextStyle"
  blank := {}
  members := [
    .defaulted "fontSize" .value (·.fontSize) fun y x => { x with fontSize := y },
    .defaulted "fontWeight" .value (·.fontWeight) fun y x => { x with fontWeight := y },
    .defaulted "lineHeight" .value (·.lineHeight) fun y x => { x with lineHeight := y },
    .optional "letterSpacing" .text (·.letterSpacing) fun y x => { x with letterSpacing := y }]

def Typography.shape : Shape Value Typography where
  title := "TypographyConfig"
  blank := {}
  members := [
    .defaulted "baseFontSize" .double (·.baseFontSize) fun y x => { x with baseFontSize := y },
    .defaulted "scale" .double (·.scale) fun y x => { x with scale := y },
    .defaulted "headingFont" .text (·.headingFont) fun y x => { x with headingFont := y },
    .defaulted "bodyFont" .text (·.bodyFont) fun y x => { x with bodyFont := y },
    .defaulted "styles" (.map TextStyle.shape.codec) (·.styles)
      fun y x => { x with styles := y }]

def Spacing.shape : Shape Value Spacing where
  title := "SpacingConfig"
  blank := {}
  members := [
    .defaulted "baseUnit" .double (·.baseUnit) fun y x => { x with baseUnit := y },
    .defaulted "scale" (.list .double) (·.scale) fun y x => { x with scale := y }]

/-- Palettes as documents. -/
def Palette.shape : Shape Value Palette where
  title := "ColorPalette"
  blank := {}
  members := [
    .defaulted "primary" (.map .text) (·.primary) fun y x => { x with primary := y },
    .defaulted "secondary" (.map .text) (·.secondary) fun y x => { x with secondary := y },
    .defaulted "accent" (.map .text) (·.accent) fun y x => { x with accent := y },
    .defaulted "neutral" (.map .text) (·.neutral) fun y x => { x with neutral := y },
    .defaulted "semantic" (.map .text) (·.semantic) fun y x => { x with semantic := y }]

/-- Design systems as documents. -/
def Design.shape : Shape Value Design where
  title := "DesignSystemSchema"
  blank := {}
  members := [
    .defaulted "tokens" DesignTokens.shape.codec (·.tokens) fun y x => { x with tokens := y },
    .defaulted "typography" Typography.shape.codec (·.typography)
      fun y x => { x with typography := y },
    .defaulted "spacing" Spacing.shape.codec (·.spacing) fun y x => { x with spacing := y },
    .defaulted "colors" Palette.shape.codec (·.colors) fun y x => { x with colors := y },
    .defaulted "breakpoints" (.map .value) (·.breakpoints)
      fun y x => { x with breakpoints := y }]

/-- Design systems as documents. -/
def Design.codec : Codec Value Design := Design.shape.codec

end Portfolio
