/-
Module: Portfolio.Theme.Sheets
Purpose: The stylesheets of a site: the tokens, the base rules, the utility classes, and
  the sheet that imports them.
Main exports: Theme.baseCss, Theme.utilitiesCss, Theme.files
-/
import Portfolio.Config.Basic
import Portfolio.File
import Portfolio.Theme.Tokens

namespace Portfolio.Theme

def declare (property value : String) : Declaration := ⟨property, value⟩

/-! ### Base rules -/

/-- Rules that take away what browsers set by themselves. -/
def resetRules : List Rule := [
  ⟨"*, *::before, *::after", [declare "box-sizing" "border-box"]⟩,
  ⟨"*", [declare "margin" "0"]⟩,
  ⟨"img, picture, video, svg", [declare "display" "block", declare "max-width" "100%"]⟩,
  ⟨"input, button, textarea, select", [declare "font" "inherit"]⟩]

def bodyLineHeight (t : Typography) : String :=
  (((t.styles.get? "body").map (·.lineHeight)).filter fun v => !v.isNull).elim "1.6" valueText

def bodyRule (t : Typography) : Rule :=
  ⟨"body", [
    declare "font-family" "var(--font-body)",
    declare "font-size" "var(--font-size-base)",
    declare "line-height" (bodyLineHeight t),
    declare "color" "var(--color-text, #111)",
    declare "background" "var(--color-background, #fff)"]⟩

def headingRule (selector : String) (style : TextStyle) : Rule :=
  let parts :=
    [("font-size", style.fontSize), ("font-weight", style.fontWeight),
      ("line-height", style.lineHeight)].filter fun part => !part.2.isNull
  ⟨selector,
    declare "font-family" "var(--font-heading)" ::
      parts.map (fun part => declare part.1 (valueText part.2)) ++
      (style.letterSpacing.map (declare "letter-spacing")).toList⟩

/-- The heading levels. -/
def headings : List String := ["h1", "h2", "h3", "h4", "h5", "h6"]

/-- The rules of the heading levels that have a style. -/
def headingRules (t : Typography) : List Rule :=
  headings.filterMap fun h => (t.styles.get? h).map (headingRule h)

/-- The rules of links and of the page width. -/
def linkRules : List Rule := [
  ⟨"a", [
    declare "color" "var(--color-primary, currentColor)",
    declare "text-decoration-thickness" "1px",
    declare "text-underline-offset" "0.15em"]⟩,
  ⟨"a:hover", [declare "text-decoration" "none"]⟩,
  ⟨".container", [
    declare "width" "100%",
    declare "max-width" "var(--container-width, 72rem)",
    declare "margin-inline" "auto",
    declare "padding-inline" "var(--space-4, 1rem)"]⟩]

def baseCss (settings : ThemeSettings) (design : Design) : String :=
  let rules := bodyRule design.typography :: headingRules design.typography ++ linkRules
  (if settings.reset then comment "Reset" ++ renderRules resetRules ++ "\n" else "") ++
    renderRules rules

/-! ### Utility classes -/

/-- The spacing utilities: the start of their class names, and the properties they
set. -/
def spacingUtilities : List (String × List String) := [
  ("m", ["margin"]),
  ("mt", ["margin-top"]),
  ("mb", ["margin-bottom"]),
  ("mx", ["margin-left", "margin-right"]),
  ("p", ["padding"]),
  ("pt", ["padding-top"]),
  ("pb", ["padding-bottom"]),
  ("px", ["padding-left", "padding-right"])]

/-- The class of a spacing utility for a step. -/
def spacingRule (i : Nat) (utility : String × List String) : Rule :=
  ⟨"." ++ utility.1 ++ "-" ++ Text.decimal i,
    utility.2.map fun property => declare property ("var(--" ++ stepName i ++ ")")⟩

/-- The classes of all spacing utilities for all steps. -/
def spacingRules (steps : Nat) : List Rule :=
  (List.range steps).flatMap fun i => spacingUtilities.map (spacingRule i)

/-- A class that sets one property. -/
def oneLiner (name property value : String) : Rule := ⟨"." ++ name, [declare property value]⟩

/-- The fixed classes in their groups. -/
def layoutGroups : List (String × List Rule) := [
  ("Text", [
    oneLiner "text-left" "text-align" "left",
    oneLiner "text-center" "text-align" "center",
    oneLiner "text-right" "text-align" "right"]),
  ("Display", [
    oneLiner "block" "display" "block",
    oneLiner "inline-block" "display" "inline-block",
    oneLiner "hidden" "display" "none",
    oneLiner "grid" "display" "grid",
    oneLiner "flex" "display" "flex",
    oneLiner "inline-flex" "display" "inline-flex"]),
  ("Flex", [
    oneLiner "flex-col" "flex-direction" "column",
    oneLiner "flex-wrap" "flex-wrap" "wrap",
    oneLiner "items-center" "align-items" "center",
    oneLiner "justify-center" "justify-content" "center",
    oneLiner "justify-between" "justify-content" "space-between"])]

/-- A group of classes behind its comment. -/
def groupText (group : String × List Rule) : String :=
  comment group.1 ++ String.join (group.2.map Rule.renderLine)

/-- The stylesheet of the utility classes. -/
def utilitiesCss (design : Design) : String :=
  groupText ("Spacing", spacingRules design.spacing.scale.length) ++ "\n" ++
    String.intercalate "\n" (layoutGroups.map groupText)

/-! ### Files -/

def sheetFolder : String := "assets/css"

/-- An import of another sheet. -/
def importLine (sheet : String) : String := "@import url(\"" ++ sheet ++ "\");\n"

/-- The sheet that pages link to. -/
def mainCss : String := String.join (["base.css", "theme.css", "utilities.css"].map importLine)

/-- The stylesheets of a design system. -/
def files (settings : ThemeSettings) (design : Design) : List File :=
  let sheet (name text : String) : File := .ofText (sheetFolder ++ "/" ++ name) text
  [sheet "theme.css" (themeCss design),
    sheet "base.css" (baseCss settings design),
    sheet "utilities.css" (utilitiesCss design),
    sheet "main.css" mainCss]

end Portfolio.Theme
