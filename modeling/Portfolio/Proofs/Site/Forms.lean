/-
Module: Portfolio.Proofs.Site.Forms
Purpose: Which panel forms of a site can be read: those without repeated keys. The checks of
  a schema see to every key but those of choices, where a text and a number may share one.
Main exports: Site.formValues, Site.forms_distinct_iff_loadable, Site.form_repeats_choice
-/
import Portfolio.Proofs.Panel.Distinct
import Portfolio.Site.Parts

namespace Portfolio.Site

open Panel (Loadable LoadableField)
open Validation (Acceptable DeepSound Holds)

/-! ### Forms as values -/

/-- The panel forms of a site before they are printed, with their paths. -/
def formValues (config : Config) (schema : Schema) : List (String × Value) :=
  (Panel.siteBlueprintPath,
      (Panel.siteBlueprint config.site.title schema.entities).toValue) ::
    (schema.entities.map fun e =>
      (Panel.blueprintPath e, (Panel.Blueprint.ofEntity config.blueprints e).toValue)) ++
    if config.blueprints.designTokensPanel then
      [(Panel.blueprintFolder ++ "/design-tokens.yml", Panel.designTokens.toValue)]
    else []

theorem forms_eq_map (config : Config) (schema : Schema) :
    forms config schema =
      (formValues config schema).map fun form => .ofText form.1 (Yaml.print form.2) := by
  have htokens : (if config.blueprints.designTokensPanel then [tokensForm] else []) =
      (if config.blueprints.designTokensPanel then
        [(Panel.blueprintFolder ++ "/design-tokens.yml", Panel.designTokens.toValue)]
      else []).map fun form => File.ofText form.1 (Yaml.print form.2) := by
    cases config.blueprints.designTokensPanel <;> rfl
  rw [forms, formValues, htokens, List.map_append, List.map_cons, List.map_map]
  rfl

/-! ### Repeated keys -/

/-- The form of an entity's pages holds no key twice exactly if its fields are loadable. -/
theorem distinct_pageForm (settings : BlueprintSettings) {e : Entity}
    (h : DeepSound e.fields) :
    (Panel.Blueprint.ofEntity settings e).toValue.DistinctKeys ↔
      ∀ list, Holds e.fields list → ∀ f ∈ list, Loadable f.toFieldSpec := by
  rw [Panel.distinct_blueprint, ← Panel.forall_loadableField_iff]
  exact Panel.distinct_layout h settings.tabs

theorem distinct_formValues {schema : Schema} (config : Config) (h : Acceptable schema) :
    (∀ form ∈ formValues config schema, form.2.DistinctKeys) ↔
      ∀ e ∈ schema.entities, ∀ list, Holds e.fields list → ∀ f ∈ list,
        Loadable f.toFieldSpec := by
  have hsite := Panel.distinct_siteBlueprint config.site.title h.templates_distinct
  have htokens : ∀ form ∈ if config.blueprints.designTokensPanel then
      [(Panel.blueprintFolder ++ "/design-tokens.yml", Panel.designTokens.toValue)]
      else [], form.2.DistinctKeys := by
    split
    · rw [List.forall_mem_singleton]
      decide +kernel
    · simp
  rw [formValues, List.forall_mem_append, and_iff_left htokens, List.forall_mem_cons,
    and_iff_right hsite, List.forall_mem_map]
  constructor
  · intro hforms e he
    exact (distinct_pageForm config.blueprints (h.fields_sound e he)).1 (hforms e he)
  · intro hloadable e he
    exact (distinct_pageForm config.blueprints (h.fields_sound e he)).2 (hloadable e he)

/-- The panel forms of an accepted schema hold no key twice, at any depth, exactly if every
field that offers choices offers them under keys of their own, and no default value holds a
key twice. -/
theorem forms_distinct_iff_loadable {schema : Schema} (config : Config)
    (h : (Validation.report schema).valid = true) :
    (SchemaPart.ofSchema config schema).blueprints.take
        (SchemaPart.ofSchema config schema).blueprintCount =
      (formValues config schema).map (fun form => .ofText form.1 (Yaml.print form.2)) ∧
    ((∀ form ∈ formValues config schema, form.2.DistinctKeys) ↔
      ∀ e ∈ schema.entities, ∀ list, Holds e.fields list → ∀ f ∈ list,
        Loadable f.toFieldSpec) := by
  constructor
  · rw [← forms_eq_map]
    exact List.take_left
  · exact distinct_formValues config ((Validation.report_valid_iff schema).1 h)

/-- A schema with a rating whose two choices are a text and a number. -/
def ratedSchema (second : Value) : Schema :=
  let rating : Field :=
    { Field.named "rating" .select [] with
      options := { choices := [⟨.text "3", "Three", false⟩, ⟨second, "Three", false⟩] } }
  { version := some "1.0.0"
    entities := [{ id := "gig", name := "Gig", pluralName := "Gigs"
                   fields := [.named "title" .text [],
                     .named "Set List" .structured [.named "song" .text [], rating]] }] }

/-- With another number the keys of all forms differ, so all fields are loadable. -/
theorem forms_distinct_ratedSchema :
    (Validation.report (ratedSchema (.ofNat 4))).valid = true ∧
      (∀ form ∈ formValues {} (ratedSchema (.ofNat 4)), form.2.DistinctKeys) ∧
      ∀ e ∈ (ratedSchema (.ofNat 4)).entities, ∀ list, Holds e.fields list → ∀ f ∈ list,
        Loadable f.toFieldSpec := by
  have hvalid : (Validation.report (ratedSchema (.ofNat 4))).valid = true := by decide +kernel
  have hforms : ∀ form ∈ formValues {} (ratedSchema (.ofNat 4)), form.2.DistinctKeys := by
    decide +kernel
  exact ⟨hvalid, hforms, (forms_distinct_iff_loadable {} hvalid).2.1 hforms⟩

/-- The text and the number 3 share a key. The checks accept them, and the form has the key
twice. -/
theorem form_repeats_choice :
    (Validation.report (ratedSchema (.ofNat 3))).valid = true ∧
      ∃ form ∈ formValues {} (ratedSchema (.ofNat 3)), ¬ form.2.DistinctKeys := by
  decide +kernel

end Portfolio.Site
