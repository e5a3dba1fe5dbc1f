/-
Module: Portfolio.Proofs.Site.Independence
Purpose: Entities do not interfere. What a site holds for an entity does not depend on which
  other entities there are, nor on their order; only the overview does.
Main exports: Site.mem_siteFiles_of_subset, Site.entities_independent
-/
import Portfolio.Proofs.Site.Build

namespace Portfolio.Site

open Validation (Acceptable)

/-- With distinct ids, an entity of the schema is the one found by its id. -/
theorem entity?_eq_some_iff {schema : Schema} (h : (schema.entities.map (·.id)).Nodup)
    {id : String} {e : Entity} :
    schema.entity? id = some e ↔ e ∈ schema.entities ∧ e.id = id := by
  constructor
  · intro hfound
    exact ⟨List.mem_of_find?_eq_some hfound, by simpa using List.find?_some hfound⟩
  · rintro ⟨he, rfl⟩
    have hsome : (schema.entity? e.id).isSome = true :=
      List.find?_isSome.2 ⟨e, he, beq_self_eq_true _⟩
    obtain ⟨x, hx⟩ := Option.isSome_iff_exists.1 hsome
    have hid : x.id = e.id := by simpa using List.find?_some hx
    rw [hx, List.inj_on_of_nodup_map h (List.mem_of_find?_eq_some hx) he hid]

/-- Items stay known when entities are added. -/
theorem knownItems_subset {schema schema' : Schema}
    (hids : (schema.entities.map (·.id)).Nodup) (hids' : (schema'.entities.map (·.id)).Nodup)
    (h : schema.entities ⊆ schema'.entities) (content : SortedMap (List Item)) :
    knownItems schema content ⊆ knownItems schema' content := by
  intro known hknown
  obtain ⟨⟨id, items⟩, hentry, hfound⟩ := List.mem_filterMap.1 hknown
  obtain ⟨e, he, rfl⟩ := Option.map_eq_some_iff.1 hfound
  obtain ⟨hmem, hid⟩ := (entity?_eq_some_iff hids).1 he
  have hfound' : schema'.entity? id = some e := (entity?_eq_some_iff hids').2 ⟨h hmem, hid⟩
  refine List.mem_filterMap.2 ⟨(id, items), hentry, ?_⟩
  exact congrArg (Option.map fun e => (e, id, items)) hfound'

/-- The files of an item depend on its own entity alone. -/
theorem files_ofItems_subset (settings : ContentSettings) {schema schema' : Schema}
    (hids : (schema.entities.map (·.id)).Nodup) (hids' : (schema'.entities.map (·.id)).Nodup)
    (h : schema.entities ⊆ schema'.entities) (content : SortedMap (List Item)) :
    (ContentPart.ofItems settings schema content).files ⊆
      (ContentPart.ofItems settings schema' content).files := by
  intro f hf
  rw [files_ofItems] at hf ⊢
  obtain ⟨known, hknown, hfile⟩ := List.mem_flatMap.1 hf
  exact List.mem_flatMap.2 ⟨known, knownItems_subset hids hids' h content hknown, hfile⟩

/-- Of the fixed files, only the overview shows the schema. -/
theorem mem_fixedFiles_of_ne {config : Config} {schema : Schema} {content : Option Collection}
    {design : Option Design} {f : File} (h : f ∈ fixedFiles config ⟨schema, content, design⟩)
    (hpath : f.path ≠ Panel.siteBlueprintPath) (schema' : Schema) :
    f ∈ fixedFiles config ⟨schema', content, design⟩ := by
  have hform : f ≠ siteForm config schema := by
    rintro rfl
    exact hpath rfl
  simp only [fixedFiles, List.mem_append, List.mem_singleton, hform, or_false] at h ⊢
  rcases h with ((h | h) | h) | h
  · exact .inl (.inl (.inl (.inl h)))
  · exact .inl (.inl (.inr h))
  · exact .inl (.inr h)
  · exact .inr h

/-- Adding entities to a schema keeps all files but the overview. -/
theorem mem_siteFiles_of_subset {config : Config} {schema schema' : Schema}
    {content : Option Collection} {design : Option Design} (h : Acceptable schema)
    (h' : Acceptable schema') (hentities : schema.entities ⊆ schema'.entities) {f : File}
    (hf : f ∈ siteFiles config ⟨schema, content, design⟩)
    (hpath : f.path ≠ Panel.siteBlueprintPath) :
    f ∈ siteFiles config ⟨schema', content, design⟩ := by
  rw [mem_siteFiles_iff] at hf ⊢
  rcases hf with hfixed | ⟨e, he, hform⟩ | hitem
  · exact .inl (mem_fixedFiles_of_ne hfixed hpath schema')
  · exact .inr (.inl ⟨e, hentities he, hform⟩)
  · exact .inr (.inr (files_ofItems_subset _ h.ids_distinct h'.ids_distinct hentities _ hitem))

/-- Entities do not interfere. Of two accepted schemas, with the same content and design, one
may have all entities of the other, at any places among its own: then its site has every file
of the other's, with the same body and flag, apart from the overview. If the one has the
entities of the other in another order, the two sites have the same files, apart from the
overview. -/
theorem entities_independent (config : Config) (content : Option Collection)
    (design : Option Design) {schema schema' : Schema}
    (h : (Validation.report schema).valid = true)
    (h' : (Validation.report schema').valid = true) :
    ∃ m m', build config ⟨schema, content, design⟩ = .ok m ∧
      build config ⟨schema', content, design⟩ = .ok m' ∧
      (schema.entities ⊆ schema'.entities →
        ∀ f ∈ m.files, f.path ≠ Panel.siteBlueprintPath → f ∈ m'.files) ∧
      (schema.entities.Perm schema'.entities →
        ∀ f, f.path ≠ Panel.siteBlueprintPath → (f ∈ m.files ↔ f ∈ m'.files)) := by
  have hacceptable := (Validation.report_valid_iff schema).1 h
  have hacceptable' := (Validation.report_valid_iff schema').1 h'
  refine ⟨_, _, build_of_valid h, build_of_valid h', ?_, ?_⟩
  · intro hentities f hf hpath
    exact mem_siteFiles_of_subset hacceptable hacceptable' hentities hf hpath
  · intro hperm f hpath
    constructor
    · intro hf
      exact mem_siteFiles_of_subset hacceptable hacceptable' hperm.subset hf hpath
    · intro hf
      exact mem_siteFiles_of_subset hacceptable' hacceptable hperm.symm.subset hf hpath

/-- Photos put before the gigs leave the page of a gig as it is, and it makes no difference
which of the two stand first. -/
theorem entities_independent_sampleInput :
    ∃ m m' m'',
      build {} { sampleInput with schema := { entities := [Validation.sampleGig] } } = .ok m ∧
      build {} { sampleInput with
        schema := { entities := [Validation.samplePhoto, Validation.sampleGig] } } = .ok m' ∧
      build {} sampleInput = .ok m'' ∧
      (∀ f ∈ m.files, f.path ≠ Panel.siteBlueprintPath → f ∈ m'.files) ∧
      ∀ f, f.path ≠ Panel.siteBlueprintPath → (f ∈ m'.files ↔ f ∈ m''.files) := by
  have hgig : (Validation.report { entities := [Validation.sampleGig] }).valid = true := by
    decide +kernel
  have hturned : (Validation.report
      { entities := [Validation.samplePhoto, Validation.sampleGig] }).valid = true := by
    decide +kernel
  have hboth : (Validation.report sampleInput.schema).valid = true := by decide +kernel
  obtain ⟨m, m', hm, hm', hsubset, -⟩ :=
    entities_independent {} sampleInput.content sampleInput.design hgig hturned
  obtain ⟨n, m'', hn, hm'', -, hperm⟩ :=
    entities_independent {} sampleInput.content sampleInput.design hturned hboth
  have hsame : n = m' := Except.ok.inj (hn.symm.trans hm')
  subst hsame
  exact ⟨m, n, m'', hm, hn, hm'', hsubset (List.subset_cons_self _ _), hperm (.swap _ _ _)⟩

end Portfolio.Site
