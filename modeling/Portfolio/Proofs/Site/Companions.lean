/-
Module: Portfolio.Proofs.Site.Companions
Purpose: The page of an item never stands alone: its panel form, its template and the page of
  its collection are in the same manifest, and the overview of the site lists it once.
Main exports: Site.sectionValues, Site.HasCompanions, Site.item_pages_complete
-/
import Portfolio.Proofs.Site.Snippets

namespace Portfolio.Site

open Validation (Acceptable templateOf collectionOf)

/-! ### The sections of the overview -/

/-- The overview of a site as its form shows it. -/
def overview (config : Config) (schema : Schema) : Value :=
  (Panel.siteBlueprint config.site.title schema.entities).toValue

/-- The sections of a column. -/
def columnSections (column : Value) : List Value :=
  match column.get? "sections" with
  | some (.map sections) => sections.map (·.2)
  | _ => []

/-- The sections in all columns of a form. -/
def sectionValues (form : Value) : List Value :=
  match form.get? "columns" with
  | some (.list columns) => columns.flatMap columnSections
  | _ => []

/-- Whether a section lists pages with the template. -/
def listsPagesOf (template : String) (s : Value) : Bool :=
  s.get? "type" == some (.text "pages") && s.get? "template" == some (.text template)

theorem columnSections_toValue (c : Panel.Column) :
    columnSections c.toValue = c.sections.map fun s => s.2.toValue := by
  have hsections : c.toValue.get? "sections" =
      some (.map (c.sections.map fun s => (s.1, s.2.toValue))) := rfl
  rw [columnSections, hsections]
  exact List.map_map

/-- The overview holds the section of each entity, and that of the files. -/
theorem sectionValues_overview (config : Config) (schema : Schema) :
    ∃ files : Panel.Section, files.kind = "files" ∧
      sectionValues (overview config schema) =
        schema.entities.map (fun e => (Panel.pagesSection e).2.toValue) ++ [files.toValue] := by
  refine ⟨{ kind := "files", headline := some "Files", layout := some "cards" }, rfl, ?_⟩
  have hsections : sectionValues (overview config schema) =
      ((Panel.siteBlueprint config.site.title schema.entities).columns.map
        Panel.Column.toValue).flatMap columnSections := rfl
  rw [hsections, List.flatMap_map]
  simp only [columnSections_toValue]
  rw [Panel.siteBlueprint, List.flatMap_cons, List.flatMap_singleton, List.map_map]
  rfl

theorem listsPagesOf_pagesSection (template : String) (e : Entity) :
    listsPagesOf template (Panel.pagesSection e).2.toValue = (templateOf e == template) := by
  have htype : (Panel.pagesSection e).2.toValue.get? "type" = some (.text "pages") := rfl
  have htemplate : (Panel.pagesSection e).2.toValue.get? "template" =
      some (.text (templateOf e)) := rfl
  rw [listsPagesOf, htype, htemplate, Bool.eq_iff_iff]
  simp

theorem listsPagesOf_of_kind (template : String) {s : Panel.Section} (h : s.kind = "files") :
    listsPagesOf template s.toValue = false := by
  have htype : s.toValue.get? "type" = some (.text s.kind) := rfl
  rw [listsPagesOf, htype, h]
  rfl

/-- Of all sections in the overview, one lists the pages of an entity. -/
theorem filter_listsPagesOf (config : Config) {schema : Schema} (h : Acceptable schema)
    {e : Entity} (he : e ∈ schema.entities) :
    (sectionValues (overview config schema)).filter (listsPagesOf (templateOf e)) =
      [(Panel.pagesSection e).2.toValue] := by
  obtain ⟨files, hfiles, hsections⟩ := sectionValues_overview config schema
  have hrest : [files.toValue].filter (listsPagesOf (templateOf e)) = [] := by
    rw [List.filter_cons_of_neg (by simp [listsPagesOf_of_kind _ hfiles]), List.filter_nil]
  have honly : schema.entities.filter (fun x => templateOf x == templateOf e) = [e] :=
    filter_key_eq_singleton h.templates_distinct he
  rw [hsections, List.filter_append, hrest, List.append_nil, List.filter_map]
  simp only [Function.comp_def, listsPagesOf_pagesSection, honly]
  rfl

/-! ### Companions -/

/-- What the pages of a template in a collection need beside them: the panel form, the
template, the page of the collection, and one list in the overview. -/
structure HasCompanions (files : List File) (overview : Value) (collection template : String) :
    Prop where
  has_form : "site/blueprints/pages/" ++ template ++ ".yml" ∈ files.map (·.path)
  has_template : "site/templates/" ++ template ++ ".php" ∈ files.map (·.path)
  has_collection : "content/" ++ collection ++ "/default.txt" ∈ files.map (·.path)
  listed_once : ∃ s, (sectionValues overview).filter (listsPagesOf template) = [s] ∧
    s.get? "parent" = some (.text ("site.find(\"" ++ collection ++ "\")"))

/-- Every entity of an accepted schema has them, with or without items. -/
theorem hasCompanions {config : Config} {input : Input} (h : Acceptable input.schema)
    {e : Entity} (he : e ∈ input.schema.entities) :
    HasCompanions (siteFiles config input) (overview config input.schema) (collectionOf e)
      (templateOf e) := by
  have hmem : ∀ f ∈ entityFormFiles config e,
      f.path ∈ (siteFiles config input).map (·.path) := by
    intro f hf
    exact List.mem_map_of_mem (mem_siteFiles_iff.2 (.inr (.inl ⟨e, he, hf⟩)))
  constructor
  · exact hmem (pageForm config.blueprints e) List.mem_cons_self
  · refine hmem (Template.pageFile e) ?_
    exact List.mem_cons_of_mem _ (List.mem_cons_of_mem _ List.mem_cons_self)
  · exact hmem (collectionPage e) (List.mem_cons_of_mem _ List.mem_cons_self)
  · exact ⟨_, filter_listsPagesOf config h he, rfl⟩

/-! ### Pages of items -/

/-- The files of a site that are made from items. -/
def itemFiles (config : Config) (input : Input) : List File :=
  (ContentPart.ofItems config.content input.schema (contentOf input)).files

/-- They lie in the collections of their entities. -/
theorem path_of_mem_itemFiles {config : Config} {input : Input} {f : File}
    (h : f ∈ itemFiles config input) :
    ∃ e ∈ input.schema.entities, ∃ items, (e.id, items) ∈ (contentOf input).entries ∧
      ∃ p ∈ Record.pages e items, f.path = "content/" ++ collectionOf e ++ "/" ++
        Record.pageFolder p.status p.slug p.position ++ "/" ++ templateOf e ++ ".txt" := by
  rw [itemFiles, files_ofItems] at h
  obtain ⟨known, hknown, hf⟩ := List.mem_flatMap.1 h
  obtain ⟨p, hp, rfl⟩ := List.mem_map.1 hf
  obtain ⟨he, hid⟩ := mem_knownItems hknown
  refine ⟨known.1, he, known.2.2, ?_, p, hp, rfl⟩
  rw [hid]
  obtain ⟨⟨id, items⟩, hentry, hfound⟩ := List.mem_filterMap.1 hknown
  obtain ⟨e, -, rfl⟩ := Option.map_eq_some_iff.1 hfound
  exact hentry

/-- Every page of an item is complete. A site of an accepted schema is built with one
overview. Its files that are made from items lie in the folder of a page, inside a collection
and named for a template, and the manifest holds the form and the template of this name and
the page of the collection; the overview has one list with this template, and the list shows
the pages of this collection. No two entities share the collection or the template. -/
theorem item_pages_complete (config : Config) {input : Input}
    (h : (Validation.report input.schema).valid = true) :
    ∃ m, build config input = .ok m ∧
      m.files.filter (fun f => f.path == Panel.siteBlueprintPath) =
        [.ofText Panel.siteBlueprintPath (Yaml.print (overview config input.schema))] ∧
      (∀ f ∈ itemFiles config input, f ∈ m.files ∧
        ∃ e ∈ input.schema.entities, ∃ items, (e.id, items) ∈ (contentOf input).entries ∧
          ∃ p ∈ Record.pages e items,
            f.path = "content/" ++ collectionOf e ++ "/" ++
              Record.pageFolder p.status p.slug p.position ++ "/" ++ templateOf e ++ ".txt" ∧
            HasCompanions m.files (overview config input.schema) (collectionOf e)
              (templateOf e)) ∧
      (input.schema.entities.map collectionOf).Nodup ∧
      (input.schema.entities.map templateOf).Nodup := by
  have hacceptable := (Validation.report_valid_iff input.schema).1 h
  refine ⟨siteManifest config input, build_of_valid h, ?_, ?_,
    hacceptable.collections_distinct, hacceptable.templates_distinct⟩
  · have hform : siteForm config input.schema ∈ siteFiles config input := by
      refine mem_siteFiles_iff.2 (.inl ?_)
      simp [fixedFiles]
    exact filter_key_eq_singleton (nodup_paths hacceptable) hform
  · intro f hf
    refine ⟨mem_siteFiles_iff.2 (.inr (.inr hf)), ?_⟩
    obtain ⟨e, he, items, hitems, p, hp, hpath⟩ := path_of_mem_itemFiles hf
    exact ⟨e, he, items, hitems, p, hp, hpath, hasCompanions hacceptable he⟩

/-- The second of two gigs with one name. -/
theorem item_pages_complete_sampleInput :
    ∃ m, build {} sampleInput = .ok m ∧
      "content/live-gigs/_drafts/late-show-2/live-gig.txt" ∈ m.files.map (·.path) ∧
      HasCompanions m.files (overview {} sampleInput.schema) "live-gigs" "live-gig" := by
  have hvalid : (Validation.report sampleInput.schema).valid = true := by decide +kernel
  have hpaths : (itemFiles {} sampleInput).map (·.path) =
      ["content/live-gigs/_drafts/late-show/live-gig.txt",
        "content/live-gigs/_drafts/late-show-2/live-gig.txt"] := by
    decide +kernel
  obtain ⟨m, hm, -, hitems, -, -⟩ := item_pages_complete {} hvalid
  have hmem : "content/live-gigs/_drafts/late-show-2/live-gig.txt" ∈
      (itemFiles {} sampleInput).map (·.path) := by
    rw [hpaths]
    exact List.mem_cons_of_mem _ List.mem_cons_self
  obtain ⟨f, hf, hpath⟩ := List.mem_map.1 hmem
  obtain ⟨hbuilt, e, he, items, hentry, -, -, -, hcompanions⟩ := hitems f hf
  refine ⟨m, hm, hpath ▸ List.mem_map_of_mem hbuilt, ?_⟩
  rcases List.mem_cons.1 he with rfl | he
  · exact hcompanions
  · -- There are no photos.
    rw [List.mem_singleton] at he
    subst he
    have hid : "photo" ∈ (contentOf sampleInput).entries.map (·.1) := List.mem_map_of_mem hentry
    exact absurd hid (by decide +kernel)

end Portfolio.Site
