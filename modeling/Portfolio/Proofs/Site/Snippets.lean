/-
Module: Portfolio.Proofs.Site.Snippets
Purpose: Every snippet that a template of a site calls is there, and the snippet of each
  structure is called once, from the file that lists the structure. Settings that fail their checks
  can bring a call of their own into the header, through the language.
Main exports: Site.callers, Site.snippets_called_once, Site.header_calls_nowhere
-/
import Mathlib.Algebra.GroupWithZero.Nat
import Mathlib.Data.List.Perm.Basic
import Portfolio.Proofs.Site.Build
import Portfolio.Proofs.Template.Shared

namespace Portfolio.Site

open Template
open Validation (Acceptable)

/-! ### Calls -/

/-- The paths of the files that call a snippet, one for each call. -/
def callers (files : List File) (name : String) : List String :=
  ((callsByFile files).filter fun call => call.2 == name).map (·.1)

/-- The name of a snippet of the site holds no slash. -/
theorem isPathName_of_mem_siteSnippets {name : String} (h : name ∈ siteSnippets) :
    isPathName name = false := by
  revert name
  decide

/-- A language code holds no tag. -/
theorem angle_not_mem_language {language : String} (h : Config.isLanguage language = true) :
    '<' ∉ language.toList := by
  rw [Config.isLanguage] at h
  intro hmem
  split at h
  · next a b hlanguage =>
      rw [hlanguage, List.mem_cons, List.mem_singleton] at hmem
      rcases hmem with rfl | rfl
      · simp at h
      · simp at h
  · contradiction

theorem isLanguage_of_problem?_eq_none {config : Config} (h : config.problem? = none) :
    Config.isLanguage config.site.language = true := by
  rw [Config.problem?] at h
  split at h
  · contradiction
  · split at h
    · contradiction
    · next hlanguage => simpa using hlanguage

theorem templates_ofSchema (config : Config) (schema : Schema) :
    (SchemaPart.ofSchema config schema).templates =
      schema.entities.flatMap entityFiles ++ sharedFiles config.site.language := rfl

/-- The snippets of every site are there. -/
theorem exists_siteSnippet (language : String) {name : String} (h : name ∈ siteSnippets) :
    ∃ snippet ∈ sharedFiles language, snippet.path = snippetPath name := by
  simp only [siteSnippets, List.mem_cons, List.not_mem_nil, or_false] at h
  rcases h with rfl | rfl | rfl | rfl <;> simp [sharedFiles, File.ofText]

/-- The files of every site call no structure's snippet. -/
theorem structureCalls_shared {language : String} (hlanguage : '<' ∉ language.toList) :
    structureCalls (sharedFiles language) = [] := by
  rw [structureCalls, List.filter_eq_nil_iff]
  intro call hcall
  obtain ⟨file, hfile, hcall⟩ := List.mem_flatMap.1 hcall
  obtain ⟨name, hname, rfl⟩ := List.mem_map.1 hcall
  rw [isPathName_of_mem_siteSnippets
    (mem_siteSnippets_of_mem_sharedFiles hlanguage hfile name hname)]
  exact Bool.false_ne_true

/-- The calls of structures as they should be. -/
def nodeCalls (schema : Schema) : List (String × String) :=
  schema.entities.flatMap fun e => e.shownNodes.map (nodeCall e)

theorem nodup_nodeCalls {schema : Schema} (h : Acceptable schema) :
    ((nodeCalls schema).map (·.2)).Nodup := by
  have hnames : (nodeCalls schema).map (·.2) =
      (schema.entities.flatMap entitySnippets).map Snippet.name := by
    rw [nodeCalls, List.map_flatMap, List.map_flatMap]
    apply List.flatMap_congr
    intro e _
    rw [entitySnippets_eq, List.map_map, List.map_map]
    rfl
  have htrails := nodup_entityTrails h
  rw [hnames]
  rw [← Function.comp_def, ← List.map_map] at htrails
  exact htrails.of_map _

section

variable {config : Config} {schema : Schema} (hlanguage : '<' ∉ config.site.language.toList)
include hlanguage

/-- The templates call the structures of a schema, each once and where it is listed. -/
theorem perm_nodeCalls (schema : Schema) :
    (structureCalls (SchemaPart.ofSchema config schema).templates).Perm (nodeCalls schema) := by
  rw [templates_ofSchema, structureCalls_append, structureCalls_shared hlanguage, List.append_nil,
    structureCalls_flatMap]
  exact List.Perm.flatMap_left schema.entities fun e _ => perm_structureCalls e

/-- The snippet of a structure is called once, from the file that lists the structure. -/
theorem callers_snippetName (h : Acceptable schema) {e : Entity} (he : e ∈ schema.entities)
    {n : Node} (hn : n ∈ e.shownNodes) :
    callers (SchemaPart.ofSchema config schema).templates (snippetName e n) =
      [holderPath e n] := by
  have hmem : nodeCall e n ∈ nodeCalls schema :=
    List.mem_flatMap.2 ⟨e, he, List.mem_map_of_mem hn⟩
  have honly : (nodeCalls schema).filter (fun call => call.2 = snippetName e n) =
      [nodeCall e n] :=
    filter_key_eq_singleton (nodup_nodeCalls h) hmem
  -- A call of this name is the call of a structure.
  have hcalls : (callsByFile (SchemaPart.ofSchema config schema).templates).filter
        (fun call => call.2 == snippetName e n) =
      (structureCalls (SchemaPart.ofSchema config schema).templates).filter
        fun call => call.2 = snippetName e n := by
    rw [structureCalls, List.filter_filter]
    apply List.filter_congr
    intro call _
    by_cases hname : call.2 = snippetName e n
    · simp [hname, isPathName_snippetName]
    · simp [hname]
  have hperm := (perm_nodeCalls hlanguage schema).filter fun call => call.2 = snippetName e n
  rw [honly, List.perm_singleton] at hperm
  rw [callers, hcalls, hperm]
  rfl

/-- The snippets that templates call are there. -/
theorem exists_snippet {file : File} (hfile : file ∈ (SchemaPart.ofSchema config schema).templates)
    {name : String} (hname : name ∈ calls file) :
    ∃ snippet ∈ (SchemaPart.ofSchema config schema).templates,
      snippet.path = snippetPath name := by
  cases hpath : isPathName name with
  | true =>
      have hcall : (file.path, name) ∈
          structureCalls (SchemaPart.ofSchema config schema).templates := by
        refine List.mem_filter.2 ⟨List.mem_flatMap.2 ⟨file, hfile, ?_⟩, hpath⟩
        exact List.mem_map_of_mem hname
      have hnode := (perm_nodeCalls hlanguage schema).mem_iff.1 hcall
      obtain ⟨e, he, hnode⟩ := List.mem_flatMap.1 hnode
      obtain ⟨n, hn, heq⟩ := List.mem_map.1 hnode
      have hsnippet : nodeFile e n ∈ entityFiles e := by
        rw [entityFiles_eq]
        exact List.mem_cons_of_mem _ (List.mem_map_of_mem hn)
      rw [templates_ofSchema]
      refine ⟨nodeFile e n, List.mem_append_left _ (List.mem_flatMap.2 ⟨e, he, hsnippet⟩), ?_⟩
      rw [path_nodeFile]
      exact congrArg snippetPath (Prod.mk.inj heq).2
  | false =>
      rw [templates_ofSchema] at hfile ⊢
      have hsite : name ∈ siteSnippets := by
        rcases List.mem_append.1 hfile with hfile | hfile
        · obtain ⟨e, -, hfile⟩ := List.mem_flatMap.1 hfile
          exact mem_siteSnippets_of_mem_calls hfile hname hpath
        · exact mem_siteSnippets_of_mem_sharedFiles hlanguage hfile name hname
      obtain ⟨snippet, hsnippet, heq⟩ := exists_siteSnippet config.site.language hsite
      exact ⟨snippet, List.mem_append_right _ hsnippet, heq⟩

end

/-! ### Files -/

/-- A file of a schema in the folder of an entity's snippets. -/
def isEntitySnippet (schema : Schema) (file : File) : Bool :=
  schema.entities.any fun e =>
    (snippetFolder ++ "/" ++ Naming.template e.id ++ "/").toList.isPrefixOf file.path.toList

theorem isEntitySnippet_iff {schema : Schema} {file : File} :
    isEntitySnippet schema file = true ↔ ∃ e ∈ schema.entities, ∃ rest,
      file.path = snippetFolder ++ "/" ++ Naming.template e.id ++ "/" ++ rest := by
  simp only [isEntitySnippet, List.any_eq_true, List.isPrefixOf_iff_prefix]
  constructor
  · rintro ⟨e, he, rest, hrest⟩
    refine ⟨e, he, String.ofList rest, String.toList_injective ?_⟩
    rw [String.toList_append, String.toList_ofList, hrest]
  · rintro ⟨e, he, rest, hpath⟩
    refine ⟨e, he, rest.toList, ?_⟩
    rw [hpath, ← String.toList_append]

theorem isEntitySnippet_nodeFile {schema : Schema} {e : Entity} (he : e ∈ schema.entities)
    (n : Node) : isEntitySnippet schema (nodeFile e n) = true := by
  have hkeys : n.keys ≠ [] := by simp [Node.keys, Node.path]
  rw [isEntitySnippet_iff]
  refine ⟨e, he, String.intercalate "/" n.keys ++ ".php", ?_⟩
  rw [path_nodeFile, snippetPath, snippetName, String.intercalate_cons_of_ne_nil hkeys]
  simp only [String.append_assoc]

/-- A template is none of these files. -/
theorem isEntitySnippet_of_template {file : File} {name : String}
    (h : file.path = templatePath name) (schema : Schema) :
    isEntitySnippet schema file = false := by
  rw [← Bool.not_eq_true, isEntitySnippet_iff]
  rintro ⟨e, -, rest, hpath⟩
  have hlist := congrArg String.toList (h.symm.trans hpath)
  simp [templatePath, templateFolder, snippetFolder] at hlist

/-- Nor is a snippet whose name holds no slash. -/
theorem isEntitySnippet_of_snippet {file : File} {name : String}
    (h : file.path = snippetPath name) (hname : isPathName name = false) (schema : Schema) :
    isEntitySnippet schema file = false := by
  rw [← Bool.not_eq_true, isEntitySnippet_iff]
  rintro ⟨e, -, rest, hpath⟩
  have hlist := congrArg String.toList (h.symm.trans hpath)
  have hslash : "/".toList = ['/'] := rfl
  simp only [snippetPath, String.toList_append, List.append_assoc,
    List.append_cancel_left_eq] at hlist
  have hmem : '/' ∈ name.toList ++ ".php".toList := by
    rw [hlist, hslash]
    simp
  rcases List.mem_append.1 hmem with hmem | hmem
  · rw [isPathName, List.contains_iff_mem.2 hmem] at hname
    contradiction
  · exact absurd hmem (by decide)

theorem filter_isEntitySnippet_shared (schema : Schema) (language : String) :
    (sharedFiles language).filter (isEntitySnippet schema) = [] := by
  rw [List.filter_eq_nil_iff]
  intro file hfile
  rw [Bool.not_eq_true]
  simp only [sharedFiles, List.mem_cons, List.not_mem_nil, or_false] at hfile
  rcases hfile with rfl | rfl | rfl | rfl | rfl | rfl
  · exact @isEntitySnippet_of_snippet _ "header" rfl (by decide) schema
  · exact @isEntitySnippet_of_snippet _ "footer" rfl (by decide) schema
  · exact @isEntitySnippet_of_snippet _ "page-header" rfl (by decide) schema
  · exact @isEntitySnippet_of_snippet _ "card" rfl (by decide) schema
  · exact isEntitySnippet_of_template rfl schema
  · exact isEntitySnippet_of_template rfl schema

/-- The files in the folders of entities' snippets are those of their structures. -/
theorem filter_isEntitySnippet (config : Config) (schema : Schema) :
    (SchemaPart.ofSchema config schema).templates.filter (isEntitySnippet schema) =
      schema.entities.flatMap fun e => e.shownNodes.map (nodeFile e) := by
  rw [SchemaPart.ofSchema, List.filter_append, filter_isEntitySnippet_shared, List.append_nil,
    List.filter_flatMap]
  apply List.flatMap_congr
  intro e he
  have hpage : isEntitySnippet schema (pageFile e) = false :=
    isEntitySnippet_of_template rfl schema
  rw [entityFiles_eq, List.filter_cons_of_neg (by simp [hpage]), List.filter_eq_self]
  intro file hfile
  obtain ⟨n, -, rfl⟩ := List.mem_map.1 hfile
  exact isEntitySnippet_nodeFile he n

/-- In the templates of an accepted schema, under settings that pass their checks, every call
names a snippet that is there. The files in the folders of entities' snippets are one for each
structure within the depth limit, and each is called once, from the file that lists its structure.
The count of snippets is that of these files and of these structures. -/
theorem snippets_called_once {config : Config} {schema : Schema} (hconfig : config.problem? = none)
    (h : (Validation.report schema).valid = true) :
    (∀ file ∈ (SchemaPart.ofSchema config schema).templates, ∀ name ∈ calls file,
      ∃ snippet ∈ (SchemaPart.ofSchema config schema).templates,
        snippet.path = snippetPath name) ∧
    (SchemaPart.ofSchema config schema).templates.filter (isEntitySnippet schema) =
      schema.entities.flatMap (fun e => e.shownNodes.map (nodeFile e)) ∧
    (∀ e ∈ schema.entities, ∀ n ∈ e.shownNodes,
      (nodeFile e n).path = snippetPath (snippetName e n) ∧
        callers (SchemaPart.ofSchema config schema).templates (snippetName e n) =
          [holderPath e n]) ∧
    (SchemaPart.ofSchema config schema).snippetCount =
      ((SchemaPart.ofSchema config schema).templates.filter (isEntitySnippet schema)).length ∧
    (SchemaPart.ofSchema config schema).snippetCount =
      (schema.entities.map fun e => e.shownNodes.length).sum := by
  have hlanguage := angle_not_mem_language (isLanguage_of_problem?_eq_none hconfig)
  have hacceptable := (Validation.report_valid_iff schema).1 h
  have hcount : (SchemaPart.ofSchema config schema).snippetCount =
      (schema.entities.map fun e => e.shownNodes.length).sum := by
    simp only [SchemaPart.ofSchema, List.length_flatMap, entitySnippets_eq, List.length_map]
  refine ⟨fun _ hfile _ hname => exists_snippet hlanguage hfile hname,
    filter_isEntitySnippet config schema, ?_, ?_, hcount⟩
  · intro e he n hn
    exact ⟨path_nodeFile e n, callers_snippetName hlanguage hacceptable he hn⟩
  · rw [hcount, filter_isEntitySnippet]
    simp only [List.length_flatMap, List.length_map]

/-- A tour with the acts of each of its stops. -/
def tour : Entity :=
  { id := "tour", name := "Tour", pluralName := "Tours"
    fields := [.named "title" .text [],
      .named "Stops" .structured [.named "city" .text [],
        .named "Acts" .structured [.named "name" .text []]]] }

/-- The snippet of the acts is called from that of the stops, and that from the template. -/
theorem snippets_called_once_tour :
    Config.problem? {} = none ∧
      (Validation.report { entities := [tour] }).valid = true ∧
      callers (SchemaPart.ofSchema {} { entities := [tour] }).templates "tour/stops" =
        ["site/templates/tour.php"] ∧
      callers (SchemaPart.ofSchema {} { entities := [tour] }).templates "tour/stops/acts" =
        ["site/snippets/tour/stops.php"] ∧
      (SchemaPart.ofSchema {} { entities := [tour] }).snippetCount = 2 := by
  have hconfig : Config.problem? {} = none := by decide +kernel
  have hvalid : (Validation.report { entities := [tour] }).valid = true := by decide +kernel
  obtain ⟨-, -, hcalled, -, hcount⟩ := snippets_called_once hconfig hvalid
  have hnodes : tour.shownNodes.map (nodeCall tour) =
      [("site/templates/tour.php", "tour/stops"),
        ("site/snippets/tour/stops.php", "tour/stops/acts")] := by
    decide +kernel
  have hcallers : ∀ call ∈ tour.shownNodes.map (nodeCall tour),
      callers (SchemaPart.ofSchema {} { entities := [tour] }).templates call.2 = [call.1] := by
    intro call hcall
    obtain ⟨n, hn, rfl⟩ := List.mem_map.1 hcall
    exact (hcalled tour List.mem_cons_self n hn).2
  rw [hnodes] at hcallers
  have hlength := congrArg List.length hnodes
  rw [List.length_map] at hlength
  rw [List.forall_mem_cons, List.forall_mem_singleton] at hcallers
  refine ⟨hconfig, hvalid, hcallers.1, hcallers.2, ?_⟩
  rw [hcount]
  exact hlength

/-- Settings that do not pass their checks: the language is a tag. -/
def taggedLanguage : Config where
  site := { language := "<?php snippet('nowhere') ?>" }

/-- The language is written into the header as it is, so without the check of the settings it can
call a snippet that is not there. -/
theorem header_calls_nowhere :
    taggedLanguage.problem? = some .badLanguage ∧
      (Validation.report { entities := [tour] }).valid = true ∧
      (∃ file ∈ (SchemaPart.ofSchema taggedLanguage { entities := [tour] }).templates,
        "nowhere" ∈ calls file) ∧
      ∀ snippet ∈ (SchemaPart.ofSchema taggedLanguage { entities := [tour] }).templates,
        snippet.path ≠ snippetPath "nowhere" := by
  have hlanguage : Reads taggedLanguage.site.language [taggedLanguage.site.language] :=
    @reads_island "php " "snippet('nowhere')" (quiet_literal rfl) (quiet_literal rfl)
  have hcall : "nowhere" ∈ calls (.ofText (snippetPath "header")
      (renderAll (headerMarkup taggedLanguage.site.language))) :=
    mem_calls_header hlanguage (by decide +kernel)
  refine ⟨by decide +kernel, by decide +kernel, ⟨_, ?_, hcall⟩, by decide +kernel⟩
  rw [templates_ofSchema]
  exact List.mem_append_right _ List.mem_cons_self

end Portfolio.Site
