/-
Module: Portfolio.Proofs.Site.Place
Purpose: Where the files of a site stand. Places of different kinds have different
  addresses, also in lower case, and no place lies below another.
Main exports: Site.address, Site.Place, Site.Place.Regular, Site.Place.address_injective,
  Site.Filed, Site.Filed.not_below, Site.Filed.isSafe, Site.Place.Regular.filed
-/
import Portfolio.Proofs.Storage.Path
import Portfolio.Validation.Basic

namespace Portfolio.Site

open Naming (Word isSmall)
open Record (lowerAscii)
open Storage (segments)

/-! ### Addresses -/

/-- The segments of a path in lower case. -/
def address (path : String) : List String := (segments path).map lowerAscii

theorem address_append (front back : String) :
    address (front ++ "/" ++ back) = address front ++ address back := by
  rw [address, Storage.segments_append, List.map_append]
  rfl

/-- Paths with different addresses differ, and still do in lower case. -/
theorem lowerAscii_ne_of_address_ne {p q : String} (h : address p ≠ address q) :
    lowerAscii p ≠ lowerAscii q := by
  intro heq
  have hsegments := congrArg segments heq
  rw [Storage.segments_lowerAscii, Storage.segments_lowerAscii] at hsegments
  exact h hsegments

/-! ### Plain names -/

/-- A name as it stands in an address: not empty, and made of small letters, digits, dashes
and underscores. -/
structure Plain (s : String) : Prop where
  filled : s ≠ ""
  letters : ∀ c ∈ s.toList, isSmall c = true ∨ c = '-' ∨ c = '_'

theorem Plain.of_all {s : String}
    (h : (s != "" && s.toList.all fun c => isSmall c || c == '-' || c == '_') = true) :
    Plain s := by
  rw [Bool.and_eq_true, bne_iff_ne] at h
  refine ⟨h.1, fun c hc => ?_⟩
  simpa [or_assoc] using List.all_eq_true.1 h.2 c hc

theorem Plain.of_dashed {s : String} (h : Word '-' s) : Plain s where
  filled := h.filled
  letters c hc := (h.spelled c hc).imp_right Or.inl

theorem Plain.of_underscored {s : String} (h : Word '_' s) : Plain s where
  filled := h.filled
  letters c hc := (h.spelled c hc).imp_right Or.inr

theorem Plain.append {s t : String}
    (hs : ∀ c ∈ s.toList, isSmall c = true ∨ c = '-' ∨ c = '_') (h : Plain t) :
    Plain (s ++ t) where
  filled hempty := h.filled (String.append_eq_empty_iff.1 hempty).2
  letters c hc := by
    rw [String.toList_append, List.mem_append] at hc
    rcases hc with hc | hc
    · exact hs c hc
    · exact h.letters c hc

theorem Plain.not_mem {s : String} (h : Plain s) {c : Char}
    (hc : (isSmall c || c == '-' || c == '_') = false) : c ∉ s.toList := by
  intro hmem
  rcases h.letters c hmem with hsmall | rfl | rfl
  · simp [hsmall] at hc
  · simp at hc
  · simp at hc

theorem Plain.slash_not_mem {s : String} (h : Plain s) : '/' ∉ s.toList := h.not_mem (by decide)

theorem Plain.dot_not_mem {s : String} (h : Plain s) : '.' ∉ s.toList := h.not_mem (by decide)

theorem Plain.lowerAscii_append {s : String} (h : Plain s) (t : String) :
    lowerAscii (s ++ t) = s ++ lowerAscii t := by
  have hlower : s.toList.map Char.toLower = s.toList.map id := by
    apply List.map_congr_left
    intro c hc
    rcases h.letters c hc with hsmall | rfl | rfl
    · exact Naming.toLower_of_isSmall hsmall
    · rfl
    · rfl
  rw [lowerAscii, lowerAscii, String.toList_append, List.map_append, hlower, List.map_id,
    String.ofList_append, String.ofList_toList]

theorem Plain.lowerAscii_eq {s : String} (h : Plain s) : lowerAscii s = s := by
  have hempty := h.lowerAscii_append ""
  rwa [String.append_empty, show lowerAscii "" = "" by decide, String.append_empty] at hempty

theorem Plain.address_eq {s : String} (h : Plain s) : address s = [s] := by
  rw [address, Storage.segments_of_not_mem h.slash_not_mem, List.map_singleton, h.lowerAscii_eq]

/-- Plain segments stay as they are in lower case. -/
theorem map_lowerAscii_of_plain {folders : List String} (h : ∀ s ∈ folders, Plain s) :
    folders.map lowerAscii = folders := by
  have hid : folders.map lowerAscii = folders.map id :=
    List.map_congr_left fun s hs => (h s hs).lowerAscii_eq
  rw [hid, List.map_id]

/-! ### Endings -/

/-- An ending that makes a name the name of a file. -/
structure Ending (ending : String) : Prop where
  slash : '/' ∉ ending.toList
  lower : lowerAscii ending = ending
  dot : '.' ∈ ending.toList
  long : 2 < ending.length

theorem ending_yml : Ending ".yml" := ⟨by decide, by decide, by decide, by decide⟩

theorem ending_txt : Ending ".txt" := ⟨by decide, by decide, by decide, by decide⟩

theorem ending_php : Ending ".php" := ⟨by decide, by decide, by decide, by decide⟩

/-- A plain name with an ending is one segment. -/
theorem Ending.address_append {ending name : String} (h : Ending ending) (hname : Plain name) :
    address (name ++ ending) = [name ++ ending] := by
  have hslash : '/' ∉ (name ++ ending).toList := by
    rw [String.toList_append, List.mem_append, not_or]
    exact ⟨hname.slash_not_mem, h.slash⟩
  rw [address, Storage.segments_of_not_mem hslash, List.map_singleton, hname.lowerAscii_append,
    h.lower]

/-! ### Addresses of files -/

/-- An address of a file: the last segment has a dot, and those before it have none. -/
structure Filed (place : List String) : Prop where
  folders : ∀ folder ∈ place.dropLast, folder ≠ "" ∧ '.' ∉ folder.toList
  name : ∃ name ∈ place.getLast?, '.' ∈ name.toList ∧ name ≠ ".."

instance (place : List String) : Decidable (Filed place) :=
  decidable_of_iff ((∀ folder ∈ place.dropLast, folder ≠ "" ∧ '.' ∉ folder.toList) ∧
    ∃ name ∈ place.getLast?, '.' ∈ name.toList ∧ name ≠ "..")
    ⟨fun h => ⟨h.1, h.2⟩, fun h => ⟨h.folders, h.name⟩⟩

theorem filed_append {folders : List String} {name : String}
    (hfolders : ∀ folder ∈ folders, Plain folder) (hdot : '.' ∈ name.toList)
    (hup : name ≠ "..") : Filed (folders ++ [name]) where
  folders folder hfolder := by
    rw [List.dropLast_concat] at hfolder
    have hplain := hfolders folder hfolder
    exact ⟨hplain.filled, hplain.dot_not_mem⟩
  name := ⟨name, by simp, hdot, hup⟩

/-- Plain folders and a name with an ending make an address of a file. -/
theorem Ending.filed {ending : String} (h : Ending ending) {folders : List String}
    (hfolders : ∀ folder ∈ folders, Plain folder) (name : String) :
    Filed (folders ++ [name ++ ending]) := by
  apply filed_append hfolders
  · rw [String.toList_append]
    exact List.mem_append_right _ h.dot
  · intro hup
    have htwo : (name ++ ending).length = 2 := by rw [hup]; rfl
    have hlong := h.long
    rw [String.length_append] at htwo
    omega

/-- No file stands below another. -/
theorem Filed.not_below {p q : String} (hp : Filed (address p)) (hq : Filed (address q))
    (rest : String) : q ≠ p ++ "/" ++ rest := by
  rintro rfl
  rw [address_append] at hq
  obtain ⟨name, hname, hdot, -⟩ := hp.name
  have hne : address rest ≠ [] := by simp [address, Storage.segments_ne_nil]
  have hfolder : name ∈ (address p ++ address rest).dropLast := by
    rw [List.dropLast_append_of_ne_nil hne]
    exact List.mem_append_left _ (List.mem_of_getLast? hname)
  exact (hq.folders name hfolder).2 hdot

/-- A path with the address of a file is safe. -/
theorem Filed.isSafe {path : String} (h : Filed (address path)) :
    Storage.isSafe path = true := by
  have hsegment : ∀ s ∈ address path, s ≠ "" ∧ s ≠ ".." := by
    intro s hs
    obtain ⟨name, hname, hdot, hup⟩ := h.name
    obtain ⟨folders, hplace⟩ := List.getLast?_eq_some_iff.1 hname
    rw [hplace, List.mem_append, List.mem_singleton] at hs
    rcases hs with hs | rfl
    · have hfolder := h.folders s (by simpa [hplace] using hs)
      refine ⟨hfolder.1, ?_⟩
      rintro rfl
      exact hfolder.2 (by decide)
    · refine ⟨?_, hup⟩
      rintro rfl
      simp at hdot
  apply Storage.isSafe_of_segments
  · exact fun hmem => (hsegment _ (List.mem_map_of_mem hmem)).1 (by decide)
  · exact fun hmem => (hsegment _ (List.mem_map_of_mem hmem)).2 (by decide)

/-! ### Places -/

/-- Where a file of a site stands: at an address that does not depend on the documents, or
at one made from names in them. -/
inductive Place where
  | fixed (place : List String)
  | form (template : String)
  | collection (folder : String)
  | record (collection : String) (page : List String) (template : String)
  | template (name : String)
  | snippet (outer : List String) (key : String)
  deriving DecidableEq, Repr

/-- The address of a place. -/
def Place.address : Place → List String
  | fixed place => place
  | form name => ["site", "blueprints", "pages"] ++ [name ++ ".yml"]
  | collection folder => ["content", folder] ++ ["default.txt"]
  | record folder page name => ("content" :: folder :: page) ++ [name ++ ".txt"]
  | template name => ["site", "templates"] ++ [name ++ ".php"]
  | snippet outer key => ("site" :: "snippets" :: outer) ++ [key ++ ".php"]

/-- The addresses that do not depend on the documents. Two of them are there only if they
are wanted: the development server, and the panel for design tokens. -/
def fixedAddresses (serve tokens : Bool) : List (List String) :=
  [["site", "config", "config.php"], [".gitignore"], [".htaccess"], ["robots.txt"],
    ["index.php"], ["readme.md"], ["composer.json"], ["content", "site.txt"],
    ["content", "home", "home.txt"], ["site", "plugins", ".gitkeep"],
    ["assets", "images", ".gitkeep"], ["media", ".gitkeep"]] ++
  (if serve then [["serve.sh"]] else []) ++
  [["site", "blueprints", "site.yml"]] ++
  (if tokens then [["site", "blueprints", "pages", "design-tokens.yml"],
    ["content", "design-tokens", "design-tokens.txt"]] else []) ++
  [["site", "snippets", "header.php"], ["site", "snippets", "footer.php"],
    ["site", "snippets", "page-header.php"], ["site", "snippets", "card.php"],
    ["site", "templates", "default.php"], ["site", "templates", "home.php"],
    ["assets", "css", "theme.css"], ["assets", "css", "base.css"],
    ["assets", "css", "utilities.css"], ["assets", "css", "main.css"]]

/-- A place that a site may use: its names are plain, and leave the fixed places alone. -/
def Place.Regular : Place → Prop
  | fixed place => place ∈ fixedAddresses true true
  | form name => Plain name ∧ name ∉ Validation.reservedTemplates
  | collection folder => Plain folder
  | record folder page name => Plain folder ∧ page ≠ [] ∧ (∀ s ∈ page, Plain s) ∧ Plain name
  | template name => Plain name ∧ name ∉ Validation.reservedTemplates
  | snippet outer key => outer ≠ [] ∧ (∀ s ∈ outer, Plain s) ∧ Plain key

theorem nodup_fixedAddresses : ∀ serve tokens, (fixedAddresses serve tokens).Nodup := by
  decide

theorem fixedAddresses_subset :
    ∀ serve tokens, fixedAddresses serve tokens ⊆ fixedAddresses true true := by
  decide

theorem filed_of_mem_fixedAddresses : ∀ place ∈ fixedAddresses true true, Filed place := by
  decide

theorem plain_site : Plain "site" := .of_all (by decide)

theorem plain_content : Plain "content" := .of_all (by decide)

theorem plain_snippets : Plain "snippets" := .of_all (by decide)

/-- A regular place is that of a file. -/
theorem Place.Regular.filed {place : Place} (h : place.Regular) : Filed place.address := by
  cases place with
  | fixed place => exact filed_of_mem_fixedAddresses place h
  | form name =>
      have hblueprints : Plain "blueprints" := .of_all (by decide)
      have hpages : Plain "pages" := .of_all (by decide)
      apply ending_yml.filed
      simp [plain_site, hblueprints, hpages]
  | collection folder =>
      have hfolder : Plain folder := h
      refine filed_append ?_ (by decide) (by decide)
      simp [plain_content, hfolder]
  | record folder page name =>
      obtain ⟨hfolder, -, hpage, -⟩ := h
      apply ending_txt.filed
      simpa [plain_content, hfolder] using hpage
  | template name =>
      have htemplates : Plain "templates" := .of_all (by decide)
      apply ending_php.filed
      simp [plain_site, htemplates]
  | snippet outer key =>
      obtain ⟨-, houter, -⟩ := h
      apply ending_php.filed
      simpa [plain_site, plain_snippets] using houter

/-! ### Different places -/

theorem append_singleton_ne_singleton {α : Type} {xs : List α} (h : xs ≠ []) (x y : α) :
    xs ++ [x] ≠ [y] := by
  intro heq
  have hlength := congrArg List.length heq
  rw [List.length_append, List.length_singleton, List.length_singleton] at hlength
  exact h (List.length_eq_zero_iff.1 (by omega))

/-- A name with an ending is a reserved one only if the name is. -/
theorem eq_of_append_eq {name reserved ending : String} (h : name ++ ending = reserved ++ ending) :
    name = reserved := by
  simpa using h

/-- No other place has a fixed address: their names are not reserved, or they are deeper. -/
theorem Place.Regular.fixed_of_mem {place : Place} (h : place.Regular)
    (hmem : place.address ∈ fixedAddresses true true) : ∃ address, place = .fixed address := by
  cases place with
  | fixed address => exact ⟨address, rfl⟩
  | form name =>
      have hname : name ++ ".yml" = "design-tokens" ++ ".yml" := by
        simpa [Place.address, fixedAddresses] using hmem
      rw [eq_of_append_eq hname] at h
      exact absurd h.2 (by decide)
  | collection folder => simp [Place.address, fixedAddresses] at hmem
  | record folder page name =>
      obtain ⟨-, hpage, -⟩ := h
      simp [Place.address, fixedAddresses, append_singleton_ne_singleton hpage] at hmem
  | template name =>
      have hname : name ++ ".php" = "default" ++ ".php" ∨ name ++ ".php" = "home" ++ ".php" := by
        simpa [Place.address, fixedAddresses] using hmem
      rcases hname with hname | hname
      · rw [eq_of_append_eq hname] at h
        exact absurd h.2 (by decide)
      · rw [eq_of_append_eq hname] at h
        exact absurd h.2 (by decide)
  | snippet outer key =>
      obtain ⟨houter, -⟩ := h
      simp [Place.address, fixedAddresses, append_singleton_ne_singleton houter] at hmem

/-- Regular places with one address are one place. -/
theorem Place.address_injective {p q : Place} (hp : p.Regular) (hq : q.Regular)
    (h : p.address = q.address) : p = q := by
  by_cases hfixed : p.address ∈ fixedAddresses true true
  · obtain ⟨place, rfl⟩ := hp.fixed_of_mem hfixed
    obtain ⟨place', rfl⟩ := hq.fixed_of_mem (h ▸ hfixed)
    exact congrArg Place.fixed h
  · have hfixed' : q.address ∉ fixedAddresses true true := h ▸ hfixed
    cases p with
    | fixed place => exact absurd hp hfixed
    | form name =>
        cases q with
        | fixed place => exact absurd hq hfixed'
        | form other => simpa [Place.address] using h
        | _ => simp [Place.address] at h
    | collection folder =>
        cases q with
        | fixed place => exact absurd hq hfixed'
        | collection other => simpa [Place.address] using h
        | record other page name =>
            obtain ⟨-, hpage, -⟩ := hq
            have hlast : page ++ [name ++ ".txt"] = ["default.txt"] := by
              simpa using (List.cons_eq_cons.1 (List.cons_eq_cons.1 h).2).2.symm
            exact absurd hlast (append_singleton_ne_singleton hpage _ _)
        | _ => simp [Place.address] at h
    | record folder page name =>
        cases q with
        | fixed place => exact absurd hq hfixed'
        | collection other =>
            obtain ⟨-, hpage, -⟩ := hp
            have hlast : page ++ [name ++ ".txt"] = ["default.txt"] := by
              simpa using (List.cons_eq_cons.1 (List.cons_eq_cons.1 h).2).2
            exact absurd hlast (append_singleton_ne_singleton hpage _ _)
        | record other page' name' => simpa [Place.address] using h
        | _ => simp [Place.address] at h
    | template name =>
        cases q with
        | fixed place => exact absurd hq hfixed'
        | template other => simpa [Place.address] using h
        | _ => simp [Place.address] at h
    | snippet outer key =>
        cases q with
        | fixed place => exact absurd hq hfixed'
        | snippet outer' key' => simpa [Place.address] using h
        | _ => simp [Place.address] at h

end Portfolio.Site
