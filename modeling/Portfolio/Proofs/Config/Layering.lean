/-
Module: Portfolio.Proofs.Config.Layering
Purpose: Two ways to fill in what a configuration leaves out agree: laying it over the default
  settings before it is read, and the defaults of the members while it is read.
Main exports: Config.codec_underlies, Config.codec_roundTrips, Config.layering_agrees,
  Config.ofText_eq_ok_iff
-/
import Portfolio.Config.Text
import Portfolio.Proofs.Toml.Parsing
import Portfolio.Proofs.Toml.Underlay

namespace Portfolio

open Toml (Ordered)
open Document (Shape Codec)

/-! ### Settings -/

theorem SiteSettings.lenient : SiteSettings.shape.Lenient where
  names_distinct := by decide
  members_commute := by simp [SiteSettings.shape]
  members_lenient := by simp [SiteSettings.shape]

@[simp] theorem SiteSettings.ordered_write (x : SiteSettings) :
    Ordered (SiteSettings.shape.codec.write x) :=
  Shape.ordered_write (by simp [SiteSettings.shape])

@[simp] theorem SiteSettings.codec_roundTrips : SiteSettings.shape.codec.RoundTrips := by
  apply SiteSettings.lenient.roundTrips
  simp [SiteSettings.shape]

@[simp] theorem SiteSettings.codec_underlies : SiteSettings.shape.codec.Underlies {} :=
  SiteSettings.lenient.underlies (by simp [SiteSettings.shape]) SiteSettings.codec_roundTrips

theorem PageOptions.lenient : PageOptions.shape.Lenient where
  names_distinct := by decide
  members_commute := by simp [PageOptions.shape]
  members_lenient := by simp [PageOptions.shape]

@[simp] theorem PageOptions.ordered_write (x : PageOptions) :
    Ordered (PageOptions.shape.codec.write x) :=
  Shape.ordered_write (by simp [PageOptions.shape])

@[simp] theorem PageOptions.codec_roundTrips : PageOptions.shape.codec.RoundTrips := by
  apply PageOptions.lenient.roundTrips
  simp [PageOptions.shape]

@[simp] theorem PageOptions.codec_underlies : PageOptions.shape.codec.Underlies {} :=
  PageOptions.lenient.underlies (by simp [PageOptions.shape]) PageOptions.codec_roundTrips

theorem BlueprintSettings.lenient : BlueprintSettings.shape.Lenient where
  names_distinct := by decide
  members_commute := by simp [BlueprintSettings.shape]
  members_lenient := by simp [BlueprintSettings.shape]

@[simp] theorem BlueprintSettings.ordered_write (x : BlueprintSettings) :
    Ordered (BlueprintSettings.shape.codec.write x) :=
  Shape.ordered_write (by simp [BlueprintSettings.shape])

@[simp] theorem BlueprintSettings.codec_roundTrips :
    BlueprintSettings.shape.codec.RoundTrips := by
  apply BlueprintSettings.lenient.roundTrips
  simp [BlueprintSettings.shape]

@[simp] theorem BlueprintSettings.codec_underlies :
    BlueprintSettings.shape.codec.Underlies {} :=
  BlueprintSettings.lenient.underlies (by simp [BlueprintSettings.shape])
    BlueprintSettings.codec_roundTrips

@[simp] theorem BooleanFormat.ordered_write (format : BooleanFormat) :
    Ordered (BooleanFormat.codec.write format) := .text format.name

@[simp] theorem BooleanFormat.codec_roundTrips : BooleanFormat.codec.RoundTrips := by
  intro format
  cases format with
  | trueFalse | yesNo | oneZero => rfl

@[simp] theorem BooleanFormat.codec_underlies (format : BooleanFormat) :
    BooleanFormat.codec.Underlies format :=
  Codec.underlies_of_leaf (BooleanFormat.codec_roundTrips format) fun entries h => by cases h

theorem ContentSettings.lenient : ContentSettings.shape.Lenient where
  names_distinct := by decide
  members_commute := by simp [ContentSettings.shape]
  members_lenient := by simp [ContentSettings.shape]

@[simp] theorem ContentSettings.ordered_write (x : ContentSettings) :
    Ordered (ContentSettings.shape.codec.write x) :=
  Shape.ordered_write (by simp [ContentSettings.shape])

@[simp] theorem ContentSettings.codec_roundTrips : ContentSettings.shape.codec.RoundTrips := by
  apply ContentSettings.lenient.roundTrips
  simp [ContentSettings.shape]

@[simp] theorem ContentSettings.codec_underlies : ContentSettings.shape.codec.Underlies {} :=
  ContentSettings.lenient.underlies (by simp [ContentSettings.shape])
    ContentSettings.codec_roundTrips

theorem ThemeSettings.lenient : ThemeSettings.shape.Lenient where
  names_distinct := by decide
  members_commute := by simp [ThemeSettings.shape]
  members_lenient := by simp [ThemeSettings.shape]

@[simp] theorem ThemeSettings.ordered_write (x : ThemeSettings) :
    Ordered (ThemeSettings.shape.codec.write x) :=
  Shape.ordered_write (by simp [ThemeSettings.shape])

@[simp] theorem ThemeSettings.codec_roundTrips : ThemeSettings.shape.codec.RoundTrips := by
  apply ThemeSettings.lenient.roundTrips
  simp [ThemeSettings.shape]

@[simp] theorem ThemeSettings.codec_underlies : ThemeSettings.shape.codec.Underlies {} :=
  ThemeSettings.lenient.underlies (by simp [ThemeSettings.shape]) ThemeSettings.codec_roundTrips

namespace Config

theorem lenient : Config.shape.Lenient where
  names_distinct := by decide
  members_commute := by simp [Config.shape]
  members_lenient := by simp [Config.shape]

theorem codec_roundTrips : codec.RoundTrips := by
  apply lenient.roundTrips
  simp [Config.shape]

theorem codec_underlies : codec.Underlies {} :=
  lenient.underlies (by simp [Config.shape]) codec_roundTrips

theorem ordered_write (c : Config) : Ordered (codec.write c) :=
  Shape.ordered_write (by simp [Config.shape])

/-! ### Resolution -/

theorem ofToml_eq_ok_iff {table : Toml} {c : Config} :
    ofToml table = .ok c ↔ codec.read table = .ok c ∧ c.problem? = none := by
  rw [ofToml]
  cases hread : codec.read table with
  | error failure => simp [Except.mapError, bind, Except.bind]
  | ok c' =>
      simp only [Except.mapError, bind, Except.bind, Except.ok.injEq]
      cases hproblem : c'.problem? with
      | some problem =>
          simp only [reduceCtorEq, false_iff, not_and]
          rintro rfl
          simp [hproblem]
      | none =>
          simp only [pure, Except.pure, Except.ok.injEq, iff_self_and]
          rintro rfl
          exact hproblem

/-- The settings of an overlay are those that it reads as alone. -/
theorem resolve_eq_ok_iff {overlay : Toml} (h : Ordered overlay) {c : Config} :
    resolve (some overlay) = .ok c ↔ codec.read overlay = .ok c ∧ c.problem? = none := by
  rw [resolve, ofToml_eq_ok_iff, stock, codec_underlies.layers overlay h]

/-- The settings of a text are those that its table reads as alone. -/
theorem ofText_eq_ok_iff {text : String} {c : Config} :
    ofText text = .ok c ↔
      ∃ table, Toml.parse text = some table ∧ codec.read table = .ok c ∧ c.problem? = none := by
  rw [ofText]
  cases hparse : Toml.parse text with
  | none => simp
  | some table => simp [resolve_eq_ok_iff (Toml.ordered_of_parse hparse)]

/-- Laying an overlay over the default settings gives the settings that the overlay alone reads
as, and fails if it does. And settings that are not refused come back from what is written of
them. -/
theorem layering_agrees :
    (∀ overlay, Ordered overlay → ∀ c,
      resolve (some overlay) = .ok c ↔ codec.read overlay = .ok c ∧ c.problem? = none) ∧
    ∀ c, c.problem? = none → resolve (some (codec.write c)) = .ok c := by
  refine ⟨fun overlay hordered c => resolve_eq_ok_iff hordered, fun c hproblem => ?_⟩
  exact (resolve_eq_ok_iff (ordered_write c)).2 ⟨codec_roundTrips c, hproblem⟩

/-- The title and the language stand in a list, and of the page options only one is set. -/
def partialOverlay : Toml := .table [
  ("blueprints", .table [("options", .table [("delete", .boolean false)])]),
  ("site", .array [.text "Gigs", .text "de"])]

/-- A table in a table, with a key that is not known. -/
def misspeltOverlay : Toml := .table [("site", .table [("language", .text "de"),
  ("titel", .text "Gigs")])]

theorem layering_agrees_partialOverlay :
    ∃ c, resolve (some partialOverlay) = .ok c ∧ c.site.title = "Gigs" ∧
      c.blueprints.options = { delete := false } ∧ resolve (some (codec.write c)) = .ok c ∧
      ∀ c', resolve (some misspeltOverlay) ≠ .ok c' := by
  have hpartial : Ordered partialOverlay := by
    simp +decide [partialOverlay, KeysSorted]
  have hmisspelt : Ordered misspeltOverlay := by
    simp +decide [misspeltOverlay, KeysSorted]
  obtain ⟨hresolve, hreturns⟩ := layering_agrees
  refine ⟨{ site := { title := "Gigs", language := "de" }
            blueprints := { options := { delete := false } } }, ?_, rfl, rfl, ?_, ?_⟩
  · exact (hresolve partialOverlay hpartial _).2 ⟨rfl, by decide⟩
  · exact hreturns _ (by decide)
  · intro c' h
    cases ((hresolve misspeltOverlay hmisspelt c').1 h).1

end Config

end Portfolio
