/-
Module: Portfolio.Proofs.Site.Address
Purpose: The places of a site's files: what stands at a fixed address, and which names make
  up the addresses of forms, collections, pages, templates and snippets.
Main exports: Site.places, Site.map_path_fixedFiles, Site.address_pageForm,
  Site.address_collectionPage, Site.address_pageFile, Site.address_page, Site.address_snippet
-/
import Portfolio.Proofs.Record.Slug
import Portfolio.Proofs.Site.Place
import Portfolio.Proofs.Template.Trail
import Portfolio.Site.Manifest

namespace Portfolio.Site

open Naming (Word isSmall)
open Storage (segments)
open Template (Snippet entitySnippets)
open Validation (Acceptable templateOf collectionOf)

/-! ### Files and their places -/

/-- The items of a site by entity id. -/
def contentOf (input : Input) : SortedMap (List Item) := input.content.elim .empty (·.content)

/-- The files that do not depend on the names in the documents. -/
def fixedFiles (config : Config) (input : Input) : List File :=
  Scaffold.files config.site ++ [siteForm config input.schema] ++
    (if config.blueprints.designTokensPanel then
      [tokensForm, titleRecord "content/design-tokens/design-tokens.txt" "Design Tokens"]
    else []) ++
    Template.sharedFiles config.site.language ++
    (ThemePart.ofDesign config.theme (input.design.getD {})).files

/-- The place of a page. Its folder shows the status. -/
def recordPlace (entity : Entity) (p : Record.Page) : Place :=
  .record (collectionOf entity) (segments (Record.pageFolder p.status p.slug p.position))
    (templateOf entity)

/-- The places of all pages of a site. -/
def recordPlaces (schema : Schema) (content : SortedMap (List Item)) : List Place :=
  (knownItems schema content).flatMap fun known =>
    (Record.pages known.1 known.2.2).map (recordPlace known.1)

/-- The place of a snippet: the keys that lead to its structure. -/
def snippetPlace (s : Snippet) : Place :=
  .snippet (segments s.name).dropLast
    ((segments s.name).getLast (Storage.segments_ne_nil s.name))

/-- The places of all files of a site. -/
def places (config : Config) (input : Input) : List Place :=
  (fixedAddresses config.site.devServerScript config.blueprints.designTokensPanel).map .fixed ++
    input.schema.entities.map (fun e => .form (templateOf e)) ++
    input.schema.entities.map (fun e => .collection (collectionOf e)) ++
    recordPlaces input.schema (contentOf input) ++
    input.schema.entities.map (fun e => .template (templateOf e)) ++
    (input.schema.entities.flatMap entitySnippets).map snippetPlace

/-! ### Addresses of files -/

/-- The paths that do not depend on the names in the documents. -/
def fixedPaths (serve tokens : Bool) : List String :=
  ["site/config/config.php", ".gitignore", ".htaccess", "robots.txt", "index.php", "README.md",
    "composer.json", "content/site.txt", "content/home/home.txt", "site/plugins/.gitkeep",
    "assets/images/.gitkeep", "media/.gitkeep"] ++
  (if serve then ["serve.sh"] else []) ++
  ["site/blueprints/site.yml"] ++
  (if tokens then ["site/blueprints/pages/design-tokens.yml",
    "content/design-tokens/design-tokens.txt"] else []) ++
  ["site/snippets/header.php", "site/snippets/footer.php", "site/snippets/page-header.php",
    "site/snippets/card.php", "site/templates/default.php", "site/templates/home.php",
    "assets/css/theme.css", "assets/css/base.css", "assets/css/utilities.css",
    "assets/css/main.css"]

theorem map_path_fixedFiles (config : Config) (input : Input) :
    (fixedFiles config input).map (·.path) =
      fixedPaths config.site.devServerScript config.blueprints.designTokensPanel := by
  rw [fixedFiles, Scaffold.files]
  cases config.site.devServerScript <;> cases config.blueprints.designTokensPanel <;> rfl

theorem map_address_fixedPaths :
    ∀ serve tokens, (fixedPaths serve tokens).map address = fixedAddresses serve tokens := by
  decide +kernel

theorem plain_template (e : Entity) : Plain (templateOf e) :=
  .of_dashed (Naming.word_template e.id)

theorem plain_collection (e : Entity) : Plain (collectionOf e) :=
  .of_dashed (Naming.word_collection e.pluralName e.id)

theorem address_pageForm (settings : BlueprintSettings) (e : Entity) :
    address (pageForm settings e).path = (Place.form (templateOf e)).address := by
  have hname := ending_yml.address_append (plain_template e)
  have hfolder : address Panel.blueprintFolder = ["site", "blueprints", "pages"] := by
    decide +kernel
  change address (Panel.blueprintFolder ++ "/" ++ templateOf e ++ ".yml") = _
  rw [String.append_assoc, address_append, hname, hfolder, Place.address]

theorem address_collectionPage (e : Entity) :
    address (collectionPage e).path = (Place.collection (collectionOf e)).address := by
  have hfolder : "content/" = "content" ++ "/" := rfl
  have hname : address "default.txt" = ["default.txt"] := by decide +kernel
  have hpage : "/default.txt" = "/" ++ "default.txt" := rfl
  change address ("content/" ++ collectionOf e ++ "/default.txt") = _
  rw [hpage, ← String.append_assoc, address_append, hfolder, address_append, hname,
    plain_content.address_eq, (plain_collection e).address_eq, Place.address]
  rfl

theorem address_pageFile (e : Entity) :
    address (Template.pageFile e).path = (Place.template (templateOf e)).address := by
  have hname := ending_php.address_append (plain_template e)
  have hfolder : address Template.templateFolder = ["site", "templates"] := by decide +kernel
  change address (Template.templateFolder ++ "/" ++ templateOf e ++ ".php") = _
  rw [String.append_assoc, address_append, hname, hfolder, Place.address]

/-! ### Pages -/

/-- The folder of a page has one or two plain segments. -/
theorem plain_pageFolder {slug : String} (h : Word '-' slug) (status : Record.PageStatus)
    (position : Nat) : ∀ s ∈ segments (Record.pageFolder status slug position), Plain s := by
  have hslug : Plain slug := .of_dashed h
  cases status with
  | draft =>
      have hdrafts : "_drafts/" = "_drafts" ++ "/" := rfl
      have hplain : Plain "_drafts" := .of_all (by decide)
      rw [Record.pageFolder, hdrafts, Storage.segments_append,
        Storage.segments_of_not_mem hplain.slash_not_mem,
        Storage.segments_of_not_mem hslug.slash_not_mem]
      simp [hplain, hslug]
  | listed =>
      have hfolder : Plain (Text.decimal position ++ ("_" ++ slug)) := by
        apply Plain.append
        · intro c hc
          exact Or.inl (by simp [isSmall, Text.isDigit_of_mem_decimal hc])
        · have hunderscore : Plain "_" := .of_all (by decide)
          exact Plain.append hunderscore.letters hslug
      rw [Record.pageFolder, String.append_assoc,
        Storage.segments_of_not_mem hfolder.slash_not_mem]
      simpa using hfolder
  | unlisted =>
      rw [Record.pageFolder, Storage.segments_of_not_mem hslug.slash_not_mem]
      simpa using hslug

theorem address_page {e : Entity} {p : Record.Page} (h : Word '-' p.slug) :
    address (p.path e) = (recordPlace e p).address := by
  have hcontent : "content/" = "content" ++ "/" := rfl
  have hname := ending_txt.address_append (plain_template e)
  have hfolder : address (Record.pageFolder p.status p.slug p.position) =
      segments (Record.pageFolder p.status p.slug p.position) :=
    map_lowerAscii_of_plain (plain_pageFolder h p.status p.position)
  change address ("content/" ++ collectionOf e ++ "/" ++
    Record.pageFolder p.status p.slug p.position ++ "/" ++ templateOf e ++ ".txt") = _
  rw [String.append_assoc, address_append, address_append, hcontent, address_append, hname,
    hfolder, plain_content.address_eq, (plain_collection e).address_eq, recordPlace,
    Place.address]
  simp

/-! ### Snippets -/

theorem deepKeys_of_acceptable {schema : Schema} (h : Acceptable schema) {e : Entity}
    (he : e ∈ schema.entities) : Template.DeepKeys e.fields :=
  fun list hlist => (h.fields_sound e he list hlist).toKeysSound

/-- A snippet is named by the template of its entity, and then by keys. -/
theorem segments_snippet {e : Entity} (h : Template.DeepKeys e.fields) {s : Snippet}
    (hs : s ∈ entitySnippets e) :
    ∃ outer key, segments s.name = templateOf e :: outer ++ [key] ∧
      (∀ k ∈ outer, Plain k) ∧ Plain key := by
  obtain ⟨f, -, rest, htrail, hwords⟩ :=
    Template.below_of_mem_snippetsOfAll (Template.pageScope e) e.fields h s hs
  have htemplate : segments (Template.pageScope e).path = [templateOf e] :=
    Storage.segments_of_not_mem (plain_template e).slash_not_mem
  rw [htemplate, List.singleton_append] at htrail
  obtain ⟨outer, key, hkeys⟩ :=
    List.eq_nil_or_concat' (Naming.key f.name :: rest) |>.resolve_left (List.cons_ne_nil _ _)
  rw [hkeys] at htrail hwords
  refine ⟨outer, key, htrail, fun k hk => ?_, ?_⟩
  · exact .of_underscored (hwords k (List.mem_append_left _ hk))
  · exact .of_underscored (hwords key (List.mem_append_right _ List.mem_cons_self))

theorem snippetPlace_eq {s : Snippet} {outer : List String} {key : String}
    (h : segments s.name = outer ++ [key]) : snippetPlace s = .snippet outer key := by
  simp [snippetPlace, h]

theorem address_snippet {e : Entity} (h : Template.DeepKeys e.fields) {s : Snippet}
    (hs : s ∈ entitySnippets e) : address s.file.path = (snippetPlace s).address := by
  obtain ⟨outer, key, htrail, houter, hkey⟩ := segments_snippet h hs
  have hfolder : segments Template.snippetFolder = ["site", "snippets"] := by decide +kernel
  have hfile : segments s.file.path =
      ("site" :: "snippets" :: templateOf e :: outer) ++ [key ++ ".php"] := by
    change segments (Template.snippetFolder ++ "/" ++ s.name ++ ".php") = _
    apply Storage.segments_append_of_not_mem
    · rw [Storage.segments_append, hfolder, htrail]
      rfl
    · exact ending_php.slash
  have hplain : ∀ s ∈ "site" :: "snippets" :: templateOf e :: outer, Plain s := by
    simpa [plain_site, plain_snippets, plain_template e] using houter
  rw [address, hfile, List.map_append, map_lowerAscii_of_plain hplain, List.map_singleton,
    hkey.lowerAscii_append, snippetPlace_eq htrail, Place.address]
  rfl

end Portfolio.Site
