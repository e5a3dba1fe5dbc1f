/-
Module: Portfolio.Proofs.Number.Text
Purpose: The characters of number texts: digits, signs, a point and an exponent, on one line and
  with no minus sign behind a digit.
Main exports: newline_not_mem_number, MinusApart, minusApart_number
-/
import Mathlib.Data.List.Chain
import Portfolio.Number.Basic
import Portfolio.Proofs.Naming.Spelling
import Portfolio.Proofs.Text.Numeral

namespace Portfolio

section

variable {c : Char} (hdigit : c.isDigit = false)
include hdigit

theorem not_mem_signedDecimal (hminus : c ≠ '-') (n : Int) :
    c ∉ (Text.signedDecimal n).toList := by
  have hdigits : c ∉ (Text.decimal n.natAbs).toList := Text.not_mem_decimal hdigit _
  rw [Text.signedDecimal]
  split
  · simp [hdigits, hminus]
  · exact hdigits

theorem not_mem_digits (tie : Tie) (x : Double) : c ∉ (Shortest.ofDouble tie x).digits := by
  intro h
  exact absurd (Naming.dropEndWhile_subset _ _ h) (Text.not_mem_decimal hdigit _)

theorem not_mem_plainText (hpoint : c ≠ '.') (pointZero : Bool) {d : Decimal}
    (hd : c ∉ d.digits) : c ∉ NumberStyle.plainText pointZero d := by
  have hzero : c ≠ '0' := by
    rintro rfl
    exact absurd hdigit (by decide)
  have htake (n : Nat) : c ∉ d.digits.take n := fun h => hd (List.mem_of_mem_take h)
  have hdrop (n : Nat) : c ∉ d.digits.drop n := fun h => hd (List.mem_of_mem_drop h)
  simp only [NumberStyle.plainText]
  split
  · simp [hd, hzero, hpoint]
  · split
    · cases pointZero <;> simp [hd, hzero, hpoint]
    · simp [htake, hdrop, hpoint]

omit hdigit in
/-- What stands before the exponent. -/
theorem not_mem_mantissa (hpoint : c ≠ '.') {d : Decimal} (hd : c ∉ d.digits) :
    c ∉ d.digits.take 1 ++ (match d.digits.drop 1 with
      | [] => []
      | rest => '.' :: rest) := by
  have htake : c ∉ d.digits.take 1 := fun h => hd (List.mem_of_mem_take h)
  have hdrop : c ∉ d.digits.drop 1 := fun h => hd (List.mem_of_mem_drop h)
  rw [List.mem_append, not_or]
  refine ⟨htake, ?_⟩
  split
  · exact List.not_mem_nil
  · simpa only [List.mem_cons, not_or] using ⟨hpoint, hdrop⟩

end

/-! ### Lines -/

theorem newline_not_mem_exponentText {plus : String} (hplus : '\n' ∉ plus.toList) {d : Decimal}
    (hd : '\n' ∉ d.digits) : '\n' ∉ NumberStyle.exponentText plus d := by
  have hsign : '\n' ∉ (if 0 ≤ d.point - 1 then plus.toList else []) := by
    split
    · exact hplus
    · exact List.not_mem_nil
  have hmantissa := not_mem_mantissa (by decide : '\n' ≠ '.') hd
  have hexponent := not_mem_signedDecimal (c := '\n') (by decide) (by decide) (d.point - 1)
  rw [NumberStyle.exponentText, List.append_assoc, List.mem_append, not_or]
  refine ⟨hmantissa, ?_⟩
  simpa [hexponent] using hsign

theorem newline_not_mem_numberText {style : NumberStyle} (hplus : '\n' ∉ style.plus.toList)
    (x : Double) : '\n' ∉ (style.text x).toList := by
  have hdigits := not_mem_digits (c := '\n') (by decide) style.tie x
  have htext : '\n' ∉ style.digitsText (Shortest.ofDouble style.tie x) := by
    rw [NumberStyle.digitsText]
    split
    · exact not_mem_plainText (by decide) (by decide) _ hdigits
    · split
      · exact not_mem_plainText (by decide) (by decide) _ hdigits
      · exact newline_not_mem_exponentText hplus hdigits
  have hsign : '\n' ∉ (if x.negative then "-" else "").toList := by
    split <;> decide
  simp only [NumberStyle.text]
  split
  · decide
  · split
    · simp [hsign]
    · split
      · cases style.pointZero <;> simp [hsign]
      · simp [hsign, htext]

/-- A number takes one line, if the plus sign of its notation does. -/
theorem newline_not_mem_number {style : NumberStyle} (hplus : '\n' ∉ style.plus.toList)
    (n : Number) : '\n' ∉ (n.text style).toList := by
  cases n with
  | int n => exact not_mem_signedDecimal (by decide) (by decide) n
  | double x => exact newline_not_mem_numberText hplus x

/-! ### Minus signs -/

/-- No minus sign stands behind a digit. -/
def MinusApart (cs : List Char) : Prop :=
  cs.IsChain fun a b => b = '-' → a.isDigit = false

theorem minusApart_cons {c : Char} (hc : c.isDigit = false) {cs : List Char}
    (h : MinusApart cs) : MinusApart (c :: cs) := by
  cases cs with
  | nil => exact List.isChain_singleton c
  | cons d cs => exact List.isChain_cons_cons.2 ⟨fun _ => hc, h⟩

theorem minusApart_of_not_mem {cs : List Char} (h : '-' ∉ cs) : MinusApart cs := by
  induction cs with
  | nil => exact List.isChain_nil
  | cons c cs ih =>
      cases cs with
      | nil => exact List.isChain_singleton c
      | cons d cs =>
          rw [List.mem_cons, not_or] at h
          refine List.isChain_cons_cons.2 ⟨?_, ih h.2⟩
          rintro rfl
          exact absurd List.mem_cons_self h.2

theorem minusApart_append {xs ys : List Char} (hxs : '-' ∉ xs) {c : Char} (hc : c ≠ '-')
    (hys : MinusApart (c :: ys)) : MinusApart (xs ++ c :: ys) := by
  refine List.isChain_append.2 ⟨minusApart_of_not_mem hxs, hys, ?_⟩
  intro _ _ d hd hminus
  rw [List.head?_cons, Option.mem_some_iff] at hd
  exact absurd (hd.trans hminus) hc

theorem minusApart_signedDecimal (n : Int) : MinusApart (Text.signedDecimal n).toList := by
  have hdigits := minusApart_of_not_mem (Text.not_mem_decimal (by decide : '-'.isDigit = false)
    n.natAbs)
  rw [Text.signedDecimal]
  split
  · rw [String.toList_append]
    exact minusApart_cons (by decide) hdigits
  · exact hdigits

theorem minusApart_exponentText {plus : String} (hplus : '-' ∉ plus.toList) {d : Decimal}
    (hd : '-' ∉ d.digits) : MinusApart (NumberStyle.exponentText plus d) := by
  rw [NumberStyle.exponentText, List.append_assoc]
  apply minusApart_append (not_mem_mantissa (by decide) hd) (by decide)
  apply minusApart_cons (by decide)
  split
  · next hpos =>
      apply minusApart_of_not_mem
      rw [Text.signedDecimal, if_neg (by omega)]
      exact fun h => (List.mem_append.1 h).elim hplus (Text.not_mem_decimal (by decide) _)
  · exact minusApart_signedDecimal _

/-- In the text of a number no minus sign stands behind a digit. -/
theorem minusApart_number {style : NumberStyle} (hplus : '-' ∉ style.plus.toList) (n : Number) :
    MinusApart (n.text style).toList := by
  cases n with
  | int n => exact minusApart_signedDecimal n
  | double x =>
      have hdigits := not_mem_digits (by decide : '-'.isDigit = false) style.tie x
      have htext : MinusApart (style.digitsText (Shortest.ofDouble style.tie x)) := by
        rw [NumberStyle.digitsText]
        split
        · exact minusApart_of_not_mem (not_mem_plainText (by decide) (by decide) _ hdigits)
        · split
          · exact minusApart_of_not_mem (not_mem_plainText (by decide) (by decide) _ hdigits)
          · exact minusApart_exponentText hplus hdigits
      have hsigned {cs : List Char} (h : MinusApart cs) :
          MinusApart ((if x.negative then "-" else "").toList ++ cs) := by
        split
        · exact minusApart_cons (by decide) h
        · exact h
      have hzero : MinusApart ("0" ++ if style.pointZero then ".0" else "").toList := by
        cases style.pointZero <;> exact minusApart_of_not_mem (by decide)
      simp only [Number.text, NumberStyle.text]
      split
      · exact minusApart_of_not_mem (by decide)
      · split
        · rw [String.toList_append]
          exact hsigned (minusApart_of_not_mem (by decide))
        · split
          · rw [String.append_assoc, String.toList_append]
            exact hsigned hzero
          · rw [String.toList_append, String.toList_ofList]
            exact hsigned htext

end Portfolio
