/-
Module: Portfolio.Theme.Css
Purpose: Stylesheets as rules and declarations, and the text of values in them.
Main exports: Theme.Declaration, Theme.Rule, Theme.valueText, Theme.numberText
-/
import Portfolio.Value

namespace Portfolio.Theme

/-- A property and its value. -/
structure Declaration where
  property : String
  value : String
  deriving DecidableEq, Repr, Inhabited

def Declaration.render (d : Declaration) : String := d.property ++ ": " ++ d.value ++ ";"

def customProperty (name value : String) : Declaration := ⟨"--" ++ name, value⟩

/-- A selector with its declarations. -/
structure Rule where
  selector : String
  declarations : List Declaration
  deriving DecidableEq, Repr, Inhabited

/-- A rule with each declaration on a line of its own. -/
def Rule.render (r : Rule) : String :=
  r.selector ++ " \x7b\n" ++
    String.join (r.declarations.map fun d => "  " ++ d.render ++ "\n") ++ "\x7d\n"

/-- A rule on one line. -/
def Rule.renderLine (r : Rule) : String :=
  r.selector ++ " \x7b " ++ String.intercalate " " (r.declarations.map Declaration.render) ++
    " \x7d\n"

/-- A comment line. -/
def comment (s : String) : String := "/* " ++ s ++ " */\n"

/-- Rules with a blank line between any two of them. -/
def renderRules (rules : List Rule) : String := String.intercalate "\n" (rules.map Rule.render)

/-! ### Values -/

mutual

/-- The text of a token's value. Lists are font stacks, with commas between their
members; null and maps have no text. -/
def valueText : Value → String
  | .text s => s
  | .number n => n.text .json
  | .bool true => "true"
  | .bool false => "false"
  | .list items => String.intercalate ", " (valueTexts items)
  | .null | .map _ => ""

/-- The texts of several values. -/
def valueTexts : List Value → List String
  | [] => []
  | v :: vs => valueText v :: valueTexts vs

end

/-- The range of signed 64-bit integers, in which whole numbers are written. -/
def wholeRange : Int × Int := (-(Nat.pow 2 63), Nat.pow 2 63 - 1)

/-- The text of a number: without a point where it is whole, and never with an
exponent. Whole numbers outside 64 bits are written as the nearest one inside. -/
def numberText (x : Double) : String :=
  if x.isWhole then Text.signedDecimal (x.clampToInt wholeRange.1 wholeRange.2)
  else NumberStyle.positional.text x

/-- A length in pixels. Zero has no unit. -/
def pixels (x : Double) : String := if x.isZero then "0" else numberText x ++ "px"

end Portfolio.Theme
