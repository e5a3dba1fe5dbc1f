/-
Module: Portfolio.Proofs.Site.Build
Purpose: When a site is built. Every file of an accepted schema has a place of its own, so
  no two paths collide, and none lies below another.
Main exports: Site.nodup_places, Site.mem_siteFiles_iff, Site.build_of_valid,
  Site.build_exactly_valid
-/
import Mathlib.Data.List.TakeWhile
import Portfolio.Proofs.Site.Address
import Portfolio.Proofs.Storage.Batch
import Portfolio.Proofs.Validation.Findings

namespace Portfolio.Site

open Naming (Word isSmall)
open Storage (segments)
open Template (Snippet entitySnippets)
open Validation (Acceptable templateOf collectionOf)

/-! ### Places of pages -/

/-- What can be read of a slug at the end of a folder. -/
def slugAtEnd (folder : String) : List Char :=
  (folder.toList.reverse.takeWhile fun c => isSmall c || c == '-').reverse

theorem takeWhile_append_cons_of_neg {α : Type} {p : α → Bool} {xs ys : List α} {y : α}
    (hxs : ∀ x ∈ xs, p x = true) (hy : p y = false) :
    (xs ++ y :: ys).takeWhile p = xs := by
  rw [List.takeWhile_append_of_pos hxs, List.takeWhile_cons_of_neg (by simp [hy]),
    List.append_nil]

/-- The folder of a page ends with its slug, whatever its status. -/
theorem slugAtEnd_pageFolder {slug : String} (h : Word '-' slug) (status : Record.PageStatus)
    (position : Nat) : slugAtEnd (Record.pageFolder status slug position) = slug.toList := by
  have hslug : ∀ c ∈ slug.toList.reverse, (isSmall c || c == '-') = true := by
    intro c hc
    simpa using h.spelled c (List.mem_reverse.1 hc)
  rw [slugAtEnd, List.reverse_eq_iff]
  cases status with
  | draft =>
      have hdrafts : "_drafts/".toList.reverse = '/' :: "_drafts".toList.reverse := by decide
      rw [Record.pageFolder, String.toList_append, List.reverse_append, hdrafts,
        takeWhile_append_cons_of_neg hslug (by decide)]
  | listed =>
      have hunderscore : "_".toList.reverse = ['_'] := rfl
      rw [Record.pageFolder, String.toList_append, String.toList_append, List.reverse_append,
        List.reverse_append, hunderscore, List.singleton_append,
        takeWhile_append_cons_of_neg hslug (by decide)]
  | unlisted =>
      rw [Record.pageFolder, List.takeWhile_eq_self_iff.2 hslug]

/-- Pages of an entity with one place have one slug. -/
theorem slug_eq_of_recordPlace_eq {e : Entity} {p q : Record.Page} (hp : Word '-' p.slug)
    (hq : Word '-' q.slug) (h : recordPlace e p = recordPlace e q) : p.slug = q.slug := by
  have hfolder : Record.pageFolder p.status p.slug p.position =
      Record.pageFolder q.status q.slug q.position :=
    Storage.segments_injective (Place.record.inj h).2.1
  apply String.toList_injective
  rw [← slugAtEnd_pageFolder hp p.status p.position, hfolder, slugAtEnd_pageFolder hq]

theorem nodup_recordPlaces_of_entity (e : Entity) (items : List Item) :
    ((Record.pages e items).map (recordPlace e)).Nodup := by
  have hslugs : ((Record.pages e items).map (·.slug)).Nodup := Record.nodup_slugs e items [] 0
  rw [List.Nodup, List.pairwise_map] at hslugs ⊢
  apply hslugs.imp_of_mem
  intro p q hp hq hne heq
  exact hne (slug_eq_of_recordPlace_eq (Record.word_of_mem_pagesFrom p hp)
    (Record.word_of_mem_pagesFrom q hq) heq)

/-- Only entities of the schema have known items, each under its own id. -/
theorem mem_knownItems {schema : Schema} {content : SortedMap (List Item)}
    {known : Entity × String × List Item} (h : known ∈ knownItems schema content) :
    known.1 ∈ schema.entities ∧ known.1.id = known.2.1 := by
  obtain ⟨⟨id, items⟩, -, hfound⟩ := List.mem_filterMap.1 h
  obtain ⟨e, he, rfl⟩ := Option.map_eq_some_iff.1 hfound
  exact ⟨List.mem_of_find?_eq_some he, by simpa using List.find?_some he⟩

/-- No two known items have one id. -/
theorem knownItems_pairwise (schema : Schema) (content : SortedMap (List Item)) :
    (knownItems schema content).Pairwise fun a b => a.1.id ≠ b.1.id := by
  have hids : (knownItems schema content).Pairwise fun a b => a.2.1 ≠ b.2.1 := by
    rw [knownItems, List.pairwise_filterMap]
    apply content.sorted.imp
    intro a b hlt x hx y hy heq
    obtain ⟨e, -, rfl⟩ := Option.map_eq_some_iff.1 hx
    obtain ⟨e', -, rfl⟩ := Option.map_eq_some_iff.1 hy
    exact absurd (show a.1 = b.1 from heq) (String.ne_of_lt hlt)
  apply hids.imp_of_mem
  intro a b ha hb hne
  rw [(mem_knownItems ha).2, (mem_knownItems hb).2]
  exact hne

/-- The pages of an accepted schema have places of their own. -/
theorem nodup_recordPlaces {schema : Schema} (h : Acceptable schema)
    (content : SortedMap (List Item)) : (recordPlaces schema content).Nodup := by
  rw [recordPlaces, List.nodup_flatMap]
  constructor
  · exact fun known _ => nodup_recordPlaces_of_entity known.1 known.2.2
  · apply (knownItems_pairwise schema content).imp_of_mem
    intro a b ha hb hid
    refine List.disjoint_left.2 ?_
    intro place hplace hplace'
    obtain ⟨p, -, rfl⟩ := List.mem_map.1 hplace
    obtain ⟨q, -, heq⟩ := List.mem_map.1 hplace'
    have hcollection : collectionOf b.1 = collectionOf a.1 := (Place.record.inj heq).1
    have hentity := List.inj_on_of_nodup_map h.collections_distinct (mem_knownItems hb).1
      (mem_knownItems ha).1 hcollection
    exact hid (congrArg Entity.id hentity.symm)

/-! ### Places of snippets -/

theorem segments_eq_of_snippetPlace_eq {s t : Snippet} (h : snippetPlace s = snippetPlace t) :
    segments s.name = segments t.name := by
  obtain ⟨houter, hkey⟩ := Place.snippet.inj h
  rw [← List.dropLast_concat_getLast (Storage.segments_ne_nil s.name), houter, hkey,
    List.dropLast_concat_getLast]

/-- The snippets of an accepted schema have trails of their own. -/
theorem nodup_entityTrails {schema : Schema} (h : Acceptable schema) :
    ((schema.entities.flatMap entitySnippets).map fun s => segments s.name).Nodup := by
  have htemplates : schema.entities.Pairwise fun a b => templateOf a ≠ templateOf b :=
    List.pairwise_map.1 h.templates_distinct
  rw [List.map_flatMap, List.nodup_flatMap]
  constructor
  · intro e he
    exact Template.nodup_trailsOfAll (Template.pageScope e) e.fields (deepKeys_of_acceptable h he)
  · apply htemplates.imp_of_mem
    intro a b ha hb hne
    refine List.disjoint_left.2 ?_
    intro trail htrail htrail'
    obtain ⟨s, hs, rfl⟩ := List.mem_map.1 htrail
    obtain ⟨t, ht, heq⟩ := List.mem_map.1 htrail'
    -- The first segments of the trails are the templates.
    obtain ⟨outer, key, hfirst, -⟩ := segments_snippet (deepKeys_of_acceptable h ha) hs
    obtain ⟨outer', key', hsecond, -⟩ := segments_snippet (deepKeys_of_acceptable h hb) ht
    rw [hfirst, hsecond] at heq
    exact hne (List.cons_eq_cons.1 heq).1.symm

theorem nodup_snippetPlaces {schema : Schema} (h : Acceptable schema) :
    ((schema.entities.flatMap entitySnippets).map snippetPlace).Nodup := by
  have htrails := nodup_entityTrails h
  rw [List.Nodup, List.pairwise_map] at htrails ⊢
  exact htrails.imp fun hne heq => hne (segments_eq_of_snippetPlace_eq heq)

/-! ### All places -/

/-- All files of an accepted schema have regular places. -/
theorem regular_of_mem_places {config : Config} {input : Input}
    (h : Acceptable input.schema) : ∀ place ∈ places config input, place.Regular := by
  intro place hplace
  simp only [places, List.mem_append] at hplace
  rcases hplace with ((((hplace | hplace) | hplace) | hplace) | hplace) | hplace
  · obtain ⟨address, haddress, rfl⟩ := List.mem_map.1 hplace
    exact fixedAddresses_subset _ _ haddress
  · obtain ⟨e, he, rfl⟩ := List.mem_map.1 hplace
    exact ⟨plain_template e, h.templates_free e he⟩
  · obtain ⟨e, -, rfl⟩ := List.mem_map.1 hplace
    exact plain_collection e
  · obtain ⟨known, -, hpage⟩ := List.mem_flatMap.1 hplace
    obtain ⟨p, hp, rfl⟩ := List.mem_map.1 hpage
    have hslug : Word '-' p.slug := Record.word_of_mem_pagesFrom p hp
    exact ⟨plain_collection known.1, Storage.segments_ne_nil _,
      plain_pageFolder hslug p.status p.position, plain_template known.1⟩
  · obtain ⟨e, he, rfl⟩ := List.mem_map.1 hplace
    exact ⟨plain_template e, h.templates_free e he⟩
  · obtain ⟨s, hs, rfl⟩ := List.mem_map.1 hplace
    obtain ⟨e, he, hsnippet⟩ := List.mem_flatMap.1 hs
    obtain ⟨outer, key, htrail, houter, hkey⟩ :=
      segments_snippet (deepKeys_of_acceptable h he) hsnippet
    rw [snippetPlace_eq htrail]
    exact ⟨List.cons_ne_nil _ _, List.forall_mem_cons.2 ⟨plain_template e, houter⟩, hkey⟩

/-- The number of a kind of place, in the order in which they are listed. -/
def Place.kind : Place → Nat
  | fixed _ => 0
  | form _ => 1
  | collection _ => 2
  | record .. => 3
  | template _ => 4
  | snippet .. => 5

/-- Distinct places of the kinds before the one with the number `k`. -/
structure DistinctUpTo (k : Nat) (listed : List Place) : Prop where
  nodup : listed.Nodup
  kinds : ∀ place ∈ listed, place.kind < k

/-- Distinct places of the next kind may follow. -/
theorem DistinctUpTo.append {k : Nat} {listed more : List Place} (h : DistinctUpTo k listed)
    (hmore : more.Nodup) (hkind : ∀ place ∈ more, place.kind = k) :
    DistinctUpTo (k + 1) (listed ++ more) := by
  constructor
  · rw [List.nodup_append]
    refine ⟨h.nodup, hmore, ?_⟩
    intro a ha b hb heq
    have hlt := h.kinds a ha
    rw [heq, hkind b hb] at hlt
    exact absurd hlt (Nat.lt_irrefl k)
  · intro place hplace
    rcases List.mem_append.1 hplace with hplace | hplace
    · exact Nat.lt_succ_of_lt (h.kinds place hplace)
    · rw [hkind place hplace]
      exact Nat.lt_succ_self k

theorem nodup_map_place {entities : List Entity} {name : Entity → String}
    {place : String → Place} (hplace : Function.Injective place)
    (h : (entities.map name).Nodup) : (entities.map fun e => place (name e)).Nodup := by
  have hmap := h.map hplace
  rwa [List.map_map] at hmap

theorem kind_of_mem_recordPlaces {schema : Schema} {content : SortedMap (List Item)} :
    ∀ place ∈ recordPlaces schema content, place.kind = 3 := by
  intro place hplace
  obtain ⟨known, -, hpage⟩ := List.mem_flatMap.1 hplace
  obtain ⟨p, -, rfl⟩ := List.mem_map.1 hpage
  rfl

/-- All files of an accepted schema have places of their own. -/
theorem nodup_places (config : Config) {input : Input} (h : Acceptable input.schema) :
    (places config input).Nodup := by
  have hfixed : DistinctUpTo 1 ((fixedAddresses config.site.devServerScript
      config.blueprints.designTokensPanel).map Place.fixed) :=
    ⟨(nodup_fixedAddresses _ _).map fun _ _ => Place.fixed.inj, by simp [Place.kind]⟩
  have hforms := hfixed.append
    (nodup_map_place (fun _ _ => Place.form.inj) h.templates_distinct)
    (List.forall_mem_map.2 fun _ _ => rfl)
  have hcollections := hforms.append
    (nodup_map_place (fun _ _ => Place.collection.inj) h.collections_distinct)
    (List.forall_mem_map.2 fun _ _ => rfl)
  have hrecords := hcollections.append (nodup_recordPlaces h (contentOf input))
    kind_of_mem_recordPlaces
  have htemplates := hrecords.append
    (nodup_map_place (fun _ _ => Place.template.inj) h.templates_distinct)
    (List.forall_mem_map.2 fun _ _ => rfl)
  have hsnippets := htemplates.append (nodup_snippetPlaces h)
    (List.forall_mem_map.2 fun _ _ => rfl)
  exact hsnippets.nodup

/-! ### All files -/

/-- The files of a site, whether or not its schema is accepted. -/
def siteFiles (config : Config) (input : Input) : List File :=
  allFiles config input (.ofSchema config input.schema)
    (.ofItems config.content input.schema (contentOf input))

theorem files_ofItems (settings : ContentSettings) (schema : Schema)
    (content : SortedMap (List Item)) :
    (ContentPart.ofItems settings schema content).files =
      (knownItems schema content).flatMap fun known =>
        Record.files settings known.1 known.2.2 := by
  rw [ContentPart.ofItems, List.flatMap_map]

theorem map_address_pages (settings : ContentSettings) (e : Entity) (items : List Item) :
    (Record.files settings e items).map (fun f => address f.path) =
      ((Record.pages e items).map (recordPlace e)).map Place.address := by
  rw [Record.files, List.map_map, List.map_map]
  apply List.map_congr_left
  intro p hp
  have hslug : Word '-' p.slug := Record.word_of_mem_pagesFrom p hp
  rw [Function.comp_apply, Function.comp_apply, ← address_page hslug]
  rfl

theorem map_address_records (settings : ContentSettings) (schema : Schema)
    (content : SortedMap (List Item)) :
    (ContentPart.ofItems settings schema content).files.map (fun f => address f.path) =
      (recordPlaces schema content).map Place.address := by
  rw [files_ofItems, recordPlaces, List.map_flatMap, List.map_flatMap]
  simp only [map_address_pages]

/-- The templates of all entities, and then all snippets. -/
theorem perm_entityFiles (entities : List Entity) :
    (entities.flatMap Template.entityFiles).Perm
      (entities.map Template.pageFile ++ (entities.flatMap entitySnippets).map Snippet.file) := by
  induction entities with
  | nil => exact List.Perm.refl _
  | cons e rest ih =>
      rw [List.flatMap_cons, List.flatMap_cons, List.map_cons, List.map_append,
        Template.entityFiles, List.cons_append, List.cons_append]
      apply List.Perm.cons
      exact (ih.append_left _).trans (List.perm_append_comm_assoc _ _ _)

/-- Moving the fixed files of a site to the front. -/
theorem perm_regroup {α : Type} [DecidableEq α]
    (scaffold siteForm forms tokensForm collections tokensPage records templates shared
      sheets : List α) :
    (scaffold ++ ((siteForm ++ forms ++ tokensForm) ++ (collections ++ tokensPage)) ++ records ++
        (templates ++ shared) ++ sheets).Perm
      (scaffold ++ siteForm ++ (tokensForm ++ tokensPage) ++ shared ++ sheets ++ forms ++
        collections ++ records ++ templates) := by
  rw [List.perm_iff_count]
  intro a
  simp only [List.count_append]
  omega

theorem perm_siteFiles (config : Config) (input : Input) :
    (siteFiles config input).Perm
      (fixedFiles config input ++ input.schema.entities.map (pageForm config.blueprints) ++
        input.schema.entities.map collectionPage ++
        (ContentPart.ofItems config.content input.schema (contentOf input)).files ++
        (input.schema.entities.map Template.pageFile ++
          (input.schema.entities.flatMap entitySnippets).map Snippet.file)) := by
  have htokens : (if config.blueprints.designTokensPanel then
      [tokensForm, titleRecord "content/design-tokens/design-tokens.txt" "Design Tokens"]
      else []) = (if config.blueprints.designTokensPanel then [tokensForm] else []) ++
        (if config.blueprints.designTokensPanel then
          [titleRecord "content/design-tokens/design-tokens.txt" "Design Tokens"] else []) := by
    split
    · rfl
    · rfl
  rw [fixedFiles, htokens]
  refine List.Perm.trans ?_ ((perm_entityFiles input.schema.entities).append_left _)
  exact perm_regroup (Scaffold.files config.site) [siteForm config input.schema] _ _ _ _ _ _ _ _

/-- The files that an entity makes whatever its items are. -/
def entityFormFiles (config : Config) (e : Entity) : List File :=
  pageForm config.blueprints e :: collectionPage e :: Template.entityFiles e

/-- A file of a site is fixed, belongs to an entity, or is made from an item. -/
theorem mem_siteFiles_iff {config : Config} {input : Input} {f : File} :
    f ∈ siteFiles config input ↔
      f ∈ fixedFiles config input ∨
        (∃ e ∈ input.schema.entities, f ∈ entityFormFiles config e) ∨
        f ∈ (ContentPart.ofItems config.content input.schema (contentOf input)).files := by
  rw [(perm_siteFiles config input).mem_iff]
  simp only [entityFormFiles, Template.entityFiles, List.mem_append, List.mem_map,
    List.mem_flatMap, List.mem_cons]
  constructor
  · rintro ((((h | ⟨e, he, rfl⟩) | ⟨e, he, rfl⟩) | h) | ⟨e, he, rfl⟩ | ⟨s, ⟨e, he, hs⟩, rfl⟩)
    · exact .inl h
    · exact .inr (.inl ⟨e, he, .inl rfl⟩)
    · exact .inr (.inl ⟨e, he, .inr (.inl rfl)⟩)
    · exact .inr (.inr h)
    · exact .inr (.inl ⟨e, he, .inr (.inr (.inl rfl))⟩)
    · exact .inr (.inl ⟨e, he, .inr (.inr (.inr ⟨s, hs, rfl⟩))⟩)
  · rintro (h | ⟨e, he, rfl | rfl | rfl | ⟨s, hs, rfl⟩⟩ | h)
    · exact .inl (.inl (.inl (.inl h)))
    · exact .inl (.inl (.inl (.inr ⟨e, he, rfl⟩)))
    · exact .inl (.inl (.inr ⟨e, he, rfl⟩))
    · exact .inr (.inl ⟨e, he, rfl⟩)
    · exact .inr (.inr ⟨s, ⟨e, he, hs⟩, rfl⟩)
    · exact .inl (.inr h)

/-- The addresses of all files are those of the places. -/
theorem map_address_siteFiles (config : Config) {input : Input}
    (h : Acceptable input.schema) :
    ((siteFiles config input).map fun f => address f.path).Perm
      ((places config input).map Place.address) := by
  have hfixed : (fixedFiles config input).map (fun f => address f.path) =
      ((fixedAddresses config.site.devServerScript
        config.blueprints.designTokensPanel).map Place.fixed).map Place.address := by
    have hpaths := congrArg (List.map address) (map_path_fixedFiles config input)
    rw [List.map_map, map_address_fixedPaths] at hpaths
    rw [List.map_map, show Place.address ∘ Place.fixed = id from rfl, List.map_id]
    exact hpaths
  have hsnippets : ((input.schema.entities.flatMap entitySnippets).map Snippet.file).map
      (fun f => address f.path) =
        ((input.schema.entities.flatMap entitySnippets).map snippetPlace).map Place.address := by
    rw [List.map_map, List.map_map]
    apply List.map_congr_left
    intro s hs
    obtain ⟨e, he, hsnippet⟩ := List.mem_flatMap.1 hs
    exact address_snippet (deepKeys_of_acceptable h he) hsnippet
  have hperm := (perm_siteFiles config input).map fun f => address f.path
  simp only [List.map_append, hfixed, hsnippets, map_address_records] at hperm
  simp only [places, List.map_append, List.map_map, Function.comp_def] at hperm ⊢
  simp only [address_pageForm, address_collectionPage, address_pageFile] at hperm
  simpa only [List.append_assoc] using hperm

theorem filed_of_mem_siteFiles {config : Config} {input : Input}
    (h : Acceptable input.schema) : ∀ f ∈ siteFiles config input, Filed (address f.path) := by
  intro f hf
  have hmem : address f.path ∈ (places config input).map Place.address :=
    (map_address_siteFiles config h).mem_iff.1 (List.mem_map.2 ⟨f, hf, rfl⟩)
  obtain ⟨place, hplace, heq⟩ := List.mem_map.1 hmem
  rw [← heq]
  exact (regular_of_mem_places h place hplace).filed

/-- The paths of an accepted schema differ, also in lower case. -/
theorem nodup_lowered_paths {config : Config} {input : Input} (h : Acceptable input.schema) :
    ((siteFiles config input).map fun f => Record.lowerAscii f.path).Nodup := by
  have hplaces : ((places config input).map Place.address).Nodup := by
    apply (nodup_places config h).map_on
    intro p hp q hq heq
    exact Place.address_injective (regular_of_mem_places h p hp) (regular_of_mem_places h q hq) heq
  have haddresses := (map_address_siteFiles config h).nodup_iff.2 hplaces
  rw [List.Nodup, List.pairwise_map] at haddresses ⊢
  exact haddresses.imp lowerAscii_ne_of_address_ne

theorem nodup_paths {config : Config} {input : Input} (h : Acceptable input.schema) :
    ((siteFiles config input).map (·.path)).Nodup := by
  have hlowered := @nodup_lowered_paths config input h
  apply List.Nodup.of_map Record.lowerAscii
  rwa [List.map_map]

/-! ### Building -/

/-- The manifest of a site, whether or not its schema is accepted. -/
def siteManifest (config : Config) (input : Input) : Manifest :=
  let content := ContentPart.ofItems config.content input.schema (contentOf input)
  { files := siteFiles config input
    report := Validation.report input.schema
    entityCount := input.schema.entities.length
    itemCount := content.itemCount
    skipped := content.skipped }

/-- Without a collection there are no items. -/
theorem ofItems_contentOf (config : Config) (input : Input) :
    (input.content.elim {} fun c => ContentPart.ofItems config.content input.schema c.content) =
      ContentPart.ofItems config.content input.schema (contentOf input) := by
  rw [contentOf]
  cases input.content with
  | none => rfl
  | some c => rfl

/-- An accepted schema is built. -/
theorem build_of_valid {config : Config} {input : Input}
    (h : (Validation.report input.schema).valid = true) :
    build config input = .ok (siteManifest config input) := by
  have hacceptable := (Validation.report_valid_iff input.schema).1 h
  have hrepeated : repeatedPaths (siteFiles config input) = [] :=
    repeatedPaths_eq_nil_iff.2 (nodup_paths hacceptable)
  rw [build, if_pos h, ofItems_contentOf]
  change (if (repeatedPaths (siteFiles config input)).isEmpty then
    Except.ok (siteManifest config input) else _) = _
  rw [hrepeated]
  rfl

/-- A schema with errors is not. -/
theorem build_of_invalid {config : Config} {input : Input}
    (h : (Validation.report input.schema).valid = false) :
    build config input =
      .error (.invalidSchema (Validation.report input.schema).errorMessages) := by
  rw [build, if_neg (by simp [h])]

/-- A site is built exactly if its schema is accepted, and its paths never collide: no two
are the same, even in lower case, and none is a folder on another. -/
theorem build_exactly_valid (config : Config) (input : Input) :
    ((∃ m, build config input = .ok m) ↔ (Validation.report input.schema).valid = true) ∧
      ((Validation.report input.schema).valid = false → build config input =
        .error (.invalidSchema (Validation.report input.schema).errorMessages)) ∧
      (∀ paths, build config input ≠ .error (.collidingPaths paths)) ∧
      ∀ m, build config input = .ok m →
        (m.files.map fun f => Record.lowerAscii f.path).Nodup ∧
          ∀ f ∈ m.files, ∀ g ∈ m.files, ∀ rest, g.path ≠ f.path ++ "/" ++ rest := by
  cases hvalid : (Validation.report input.schema).valid with
  | false =>
      have hbuild := @build_of_invalid config input hvalid
      refine ⟨?_, fun _ => hbuild, ?_, ?_⟩
      · simp [hbuild]
      · simp [hbuild]
      · simp [hbuild]
  | true =>
      have hbuild := @build_of_valid config input hvalid
      have hacceptable := (Validation.report_valid_iff input.schema).1 hvalid
      refine ⟨?_, ?_, ?_, ?_⟩
      · simp [hbuild]
      · simp
      · simp [hbuild]
      · intro m hm
        rw [hbuild] at hm
        cases hm
        have hfiled := @filed_of_mem_siteFiles config input hacceptable
        exact ⟨nodup_lowered_paths hacceptable,
          fun f hf g hg rest => (hfiled f hf).not_below (hfiled g hg) rest⟩

/-- A site with two gigs of the same name, and an item that no entity has. -/
def sampleInput : Input :=
  let item : Item := { fields := .ofList [("title", .text "Late Show")] }
  { schema := Validation.sampleSchema
    content := some {
      content := .ofList [("Live Gig", [{ item with id := "a" }, { item with id := "b" }]),
        ("ghost", [{ item with id := "c" }])] } }

theorem build_sampleInput :
    (∃ m, build {} sampleInput = .ok m ∧
      (m.files.map fun f => Record.lowerAscii f.path).Nodup) ∧
    build {} { schema := { entities := [{}] } } =
      .error (.invalidSchema (Validation.report { entities := [{}] }).errorMessages) := by
  have hvalid : (Validation.report sampleInput.schema).valid = true := by decide +kernel
  have hinvalid : (Validation.report { entities := [{}] }).valid = false := by decide +kernel
  obtain ⟨hbuilds, -, -, hpaths⟩ := build_exactly_valid {} sampleInput
  obtain ⟨m, hm⟩ := hbuilds.2 hvalid
  refine ⟨⟨m, hm, (hpaths m hm).1⟩, ?_⟩
  exact (build_exactly_valid {} { schema := { entities := [{}] } }).2.1 hinvalid

end Portfolio.Site
