/-
Module: Portfolio.Proofs.Theme.Size
Purpose: How the sizes of a design system are written that are whole numbers: exactly within
  64 bits, and as the nearest such number outside of them.
Main exports: Theme.numberText_of_denotes, Theme.numberText_eq_iff, Theme.Size, Theme.sizes,
  Theme.whole_numbers_written
-/
import Portfolio.Panel.Field
import Portfolio.Proofs.Number.Whole
import Portfolio.Proofs.Theme.Step

namespace Portfolio.Theme

open Text (signedDecimal)

variable {x : Double} {n : ℤ}

/-! ### Whole numbers -/

/-- A whole number outside 64 bits is written as the nearest one inside. -/
theorem numberText_of_denotes (h : x.Denotes n) :
    numberText x = signedDecimal (max (-2 ^ 63) (min (2 ^ 63 - 1) n)) := by
  rw [numberText, if_pos (Double.isWhole_of_denotes h), Double.clampToInt_of_denotes h]
  rfl

/-- A whole number is written as its numeral exactly if it fits 64 bits. -/
theorem numberText_eq_iff (h : x.Denotes n) :
    numberText x = signedDecimal n ↔ -2 ^ 63 ≤ n ∧ n < 2 ^ 63 := by
  rw [numberText_of_denotes h]
  constructor
  · intro htext
    have hclamped := Text.signedDecimal_injective htext
    omega
  · rintro ⟨hlow, hhigh⟩
    rw [min_eq_right (by omega), max_eq_right hlow]

/-- The panel keeps the value of a whole number, as an integer or as a binary64 number. -/
theorem plainNumber_denotes (h : x.Denotes n) : (Panel.plainNumber x).Denotes n := by
  rw [Panel.plainNumber]
  split
  · exact (Double.denotes_iff.1 h).2
  · exact h

/-! ### Sizes -/

/-- A size that the tokens' sheet declares: the name of its property, the number and the unit. -/
structure Size where
  name : String
  number : Double
  unit : String

/-- The declaration of a size. -/
def Size.declaration (s : Size) : Declaration :=
  customProperty s.name (numberText s.number ++ s.unit)

/-- The unit of a distance. Zero has none. -/
def distanceUnit (x : Double) : String := if x.isZero then "" else "px"

/-- The sizes of a design system: those of its typography, the unit of its spacing, and the
steps. -/
def sizes (design : Design) : List Size :=
  ⟨"font-size-base", design.typography.baseFontSize, "px"⟩ ::
  ⟨"type-scale", design.typography.scale, ""⟩ ::
  ⟨"spacing-unit", design.spacing.baseUnit, "px"⟩ ::
  design.spacing.scale.zipIdx.map fun step =>
    let distance := design.spacing.baseUnit.mul step.1
    ⟨stepName step.2, distance, distanceUnit distance⟩

theorem denotes_zero_of_isZero (h : x.isZero = true) : x.Denotes 0 := by
  rw [Double.isZero, Bool.and_eq_true, beq_iff_eq] at h
  exact ⟨h.1, by simp [Double.toRat, h.2]⟩

theorem pixels_eq_append (x : Double) : pixels x = numberText x ++ distanceUnit x := by
  rw [pixels, distanceUnit]
  split
  · next hzero =>
      rw [(numberText_eq_iff (denotes_zero_of_isZero hzero)).2 (by decide)]
      rfl
  · rfl

theorem mem_declared {design : Design} {s : Section} (hs : s ∈ sections design) {d : Declaration}
    (hd : d ∈ s.declarations) : d ∈ declared design := by
  rw [declared, filledSections, flatMap_filter_isEmpty]
  exact List.mem_append_left _ (List.mem_flatMap.2 ⟨s, hs, hd⟩)

/-- The sheet declares every size. -/
theorem declaration_mem_declared {design : Design} {size : Size} (h : size ∈ sizes design) :
    size.declaration ∈ declared design := by
  have htypography : ∀ d ∈ typographyDeclarations design.typography design.tokens.fonts,
      d ∈ declared design :=
    fun d => mem_declared (s := ⟨"Typography", _⟩) (List.mem_cons_of_mem _ List.mem_cons_self)
  have hspacing : ∀ d ∈ spacingDeclarations design.spacing design.tokens.spacing,
      d ∈ declared design :=
    fun d => mem_declared (s := ⟨"Spacing", _⟩)
      (List.mem_cons_of_mem _ (List.mem_cons_of_mem _ List.mem_cons_self))
  simp only [sizes, List.mem_cons, List.mem_map] at h
  rcases h with rfl | rfl | rfl | ⟨⟨step, i⟩, hstep, rfl⟩
  · apply htypography
    simp [typographyDeclarations, Size.declaration]
  · apply htypography
    simp [typographyDeclarations, Size.declaration]
  · apply hspacing
    simp [spacingDeclarations, Size.declaration]
  · apply hspacing
    rw [spacingDeclarations, Size.declaration, ← pixels_eq_append]
    apply List.mem_cons_of_mem
    apply List.mem_append_left
    exact List.mem_map.2 ⟨(step, i), hstep, rfl⟩

/-! ### Exact sizes -/

/-- A whole number is written exactly if it fits 64 bits, and as the nearest number that fits if
it does not. The sizes of a design system are written so in the text of the tokens' sheet. The
panel keeps the value of every whole number. -/
theorem whole_numbers_written (h : x.Denotes n) :
    numberText x = signedDecimal (max (-2 ^ 63) (min (2 ^ 63 - 1) n)) ∧
      (numberText x = signedDecimal n ↔ -2 ^ 63 ≤ n ∧ n < 2 ^ 63) ∧
      (Panel.plainNumber x).Denotes n ∧
      ∀ design, Declares (themeCss design) (declared design) ∧
        ∀ size ∈ sizes design, size.number = x →
          size.declaration ∈ declared design ∧
            (size.declaration = customProperty size.name (signedDecimal n ++ size.unit) ↔
              -2 ^ 63 ≤ n ∧ n < 2 ^ 63) := by
  refine ⟨numberText_of_denotes h, numberText_eq_iff h, plainNumber_denotes h,
    fun design => ⟨declares_themeCss design, ?_⟩⟩
  rintro size hsize rfl
  refine ⟨declaration_mem_declared hsize, ?_⟩
  rw [← numberText_eq_iff h, Size.declaration, customProperty, customProperty,
    Declaration.mk.injEq, String.append_left_inj]
  simp

/-- The least number that fits. -/
theorem whole_numbers_written_least : (Double.ofInt (-2 ^ 63)).Denotes (-2 ^ 63) ∧
    numberText (Double.ofInt (-2 ^ 63)) = "-9223372036854775808" := by
  have h : (Double.ofInt (-2 ^ 63)).Denotes (-2 ^ 63) := by decide +kernel
  have hnumeral : signedDecimal (-2 ^ 63) = "-9223372036854775808" := by decide
  exact ⟨h, ((whole_numbers_written h).2.1.2 (by decide)).trans hnumeral⟩

/-- A design system with a root font size of `1e19`, as a document gives it. -/
def largeType : Design where
  typography := { baseFontSize := Double.ofDecimal false 1 19 }

/-- A size past 64 bits is cut off, though the panel keeps it. -/
theorem large_size_cut : (Double.ofDecimal false 1 19).Denotes (10 ^ 19) ∧
    customProperty "font-size-base" "9223372036854775807px" ∈ declared largeType ∧
    (∃ before after, themeCss largeType =
      before ++ "  --font-size-base: 9223372036854775807px;\n" ++ after) ∧
    numberText largeType.typography.baseFontSize ≠ signedDecimal (10 ^ 19) ∧
    (Panel.plainNumber (Double.ofDecimal false 1 19)).Denotes (10 ^ 19) := by
  have h : (Double.ofDecimal false 1 19).Denotes (10 ^ 19) := by decide +kernel
  have htext : numberText largeType.typography.baseFontSize = "9223372036854775807" := by
    rw [largeType, numberText_of_denotes h]
    rfl
  have hsize : customProperty "font-size-base" "9223372036854775807px" ∈ declared largeType := by
    have hdeclared : Size.declaration _ ∈ declared largeType :=
      declaration_mem_declared List.mem_cons_self
    rw [Size.declaration, htext] at hdeclared
    exact hdeclared
  refine ⟨h, hsize, (declares_themeCss largeType).exists_eq_append hsize, ?_,
    plainNumber_denotes h⟩
  rw [htext]
  decide

end Portfolio.Theme
