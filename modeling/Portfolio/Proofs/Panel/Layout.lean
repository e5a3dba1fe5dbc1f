/-
Module: Portfolio.Proofs.Panel.Layout
Purpose: Every field of an entity stands in its form once. Columns and tabs only divide the
  list of fields, and neither a section nor a field has a key that another one has.
Main exports: Panel.columnFields, Panel.sectionKeys, Panel.LaidOut, Panel.InTabs,
  Panel.fields_laid_out_once
-/
import Portfolio.Proofs.Panel.Distinct
import Portfolio.Proofs.SortedMap

namespace Portfolio.Panel

/-! ### Reading a layout -/

/-- The fields in the sections of columns, from left to right. -/
def columnFields (columns : List Column) : FieldMap :=
  columns.flatMap fun c => c.sections.flatMap fun s => s.2.fields.getD []

/-- The keys of the sections of columns, from left to right. -/
def sectionKeys (columns : List Column) : List String :=
  columns.flatMap fun c => c.sections.map (·.1)

/-- The columns of tabs, tab by tab. -/
def tabColumns (tabs : List (String × Tab)) : List Column := tabs.flatMap fun t => t.2.columns

def Layout.allColumns : Layout → List Column
  | .tabs ts => tabColumns ts
  | .columns cs => cs

/-- A column of one section, which holds form fields. -/
def Column.IsSingle (c : Column) : Prop :=
  ∃ key fields, c.sections = [(key, .ofFields fields)]

@[simp] theorem columnFields_append (front back : List Column) :
    columnFields (front ++ back) = columnFields front ++ columnFields back :=
  List.flatMap_append

@[simp] theorem sectionKeys_append (front back : List Column) :
    sectionKeys (front ++ back) = sectionKeys front ++ sectionKeys back :=
  List.flatMap_append

/-! ### Maps of fields -/

theorem fieldMap_eq_map (fields : List Portfolio.Field) :
    fieldMap fields = fields.map fun f => (Naming.key f.name, Field.ofField f) :=
  fieldMapAt_eq_map 0 fields

theorem fieldMap_append (front back : List Portfolio.Field) :
    fieldMap (front ++ back) = fieldMap front ++ fieldMap back := by
  rw [fieldMap_eq_map, List.map_append, ← fieldMap_eq_map, ← fieldMap_eq_map]

@[simp] theorem length_fieldMap (fields : List Portfolio.Field) :
    (fieldMap fields).length = fields.length := by
  rw [fieldMap_eq_map, List.length_map]

theorem keys_fieldMap (fields : List Portfolio.Field) :
    (fieldMap fields).map (·.1) = fields.map fun f => Naming.key f.name := by
  rw [fieldMap_eq_map, List.map_map]
  rfl

/-! ### The column rule -/

/-- Fields in columns: each stands there once, in order. More than eight fields take two
columns of half the width, with the odd field on the left; others take one column. -/
structure LaidOut (fields : List Portfolio.Field) (columns : List Column) : Prop where
  placed : columnFields columns = fieldMap fields
  divided : columns.map (fun c => (c.width, (columnFields [c]).length)) =
    if 8 < fields.length then [("1/2", (fields.length + 1) / 2), ("1/2", fields.length / 2)]
    else [("1/1", fields.length)]

theorem columnFields_fieldColumn (tab : Option String) (width name : String)
    (fields : List Portfolio.Field) :
    columnFields [fieldColumn tab width name fields] = fieldMap fields := by
  rw [columnFields, List.flatMap_singleton, fieldColumn, List.flatMap_singleton]
  rfl

theorem laidOut_planColumns (fields : List Portfolio.Field) (tab : Option String) :
    LaidOut fields (planColumns fields tab) := by
  have hsplit : splitThreshold = 8 := rfl
  rw [planColumns, hsplit]
  split
  · next hmany =>
      have hleft : min ((fields.length + 1) / 2) fields.length = (fields.length + 1) / 2 := by
        omega
      have hright : fields.length - (fields.length + 1) / 2 = fields.length / 2 := by omega
      constructor
      · rw [← List.singleton_append, columnFields_append, columnFields_fieldColumn,
          columnFields_fieldColumn, ← fieldMap_append, List.take_append_drop]
      · rw [if_pos hmany, List.map_cons, List.map_singleton, columnFields_fieldColumn,
          columnFields_fieldColumn, length_fieldMap, length_fieldMap, List.length_take,
          List.length_drop, hleft, hright]
        rfl
  · next hfew =>
      constructor
      · exact columnFields_fieldColumn tab "1/1" "fields" fields
      · rw [if_neg hfew, List.map_singleton, columnFields_fieldColumn, length_fieldMap]
        rfl

theorem isSingle_of_mem_planColumns {fields : List Portfolio.Field} {tab : Option String}
    {c : Column} (h : c ∈ planColumns fields tab) : c.IsSingle := by
  rw [planColumns] at h
  split at h
  · rcases List.mem_pair.1 h with rfl | rfl
    · exact ⟨_, _, rfl⟩
    · exact ⟨_, _, rfl⟩
  · rw [List.mem_singleton] at h
    subst h
    exact ⟨_, _, rfl⟩

/-- The section keys that the column rule gives, as far as it gives them. -/
def possibleKeys (tab : Option String) : List String :=
  ["fields", "left", "right"].map (sectionKey tab)

theorem sectionKeys_planColumns_sublist (fields : List Portfolio.Field) (tab : Option String) :
    (sectionKeys (planColumns fields tab)).Sublist (possibleKeys tab) := by
  rw [planColumns]
  split
  · exact List.sublist_cons_self _ _
  · exact List.singleton_sublist.2 List.mem_cons_self

/-! ### The tab rule -/

/-- A tab for a list of fields. Without fields there is no tab. -/
structure TabOf (fields : List Portfolio.Field) (tab : Option Tab) : Prop where
  missing : tab = none ↔ fields = []
  laidOut : ∀ t ∈ tab, LaidOut fields t.columns

/-- Fields in tabs: media fields on one tab, all others on another, and the slug on a third
one, unless a field has the key of the slug. -/
structure InTabs (fields : List Portfolio.Field) (tabs : List (String × Tab)) : Prop where
  order : (tabs.map (·.1)).Sublist ["content", "media", "settings"]
  content : TabOf (fields.filter fun f => !f.kind.isMedia) (tabs.lookup "content")
  media : TabOf (fields.filter fun f => f.kind.isMedia) (tabs.lookup "media")
  settings_missing : tabs.lookup "settings" = none ↔ ∃ f ∈ fields, Naming.key f.name = "slug"
  settings_slug : ∀ t ∈ tabs.lookup "settings", (columnFields t.columns).map (·.1) = ["slug"]

/-- The tab of settings, unless a field takes its place. -/
def settingsTabs (fields : List Portfolio.Field) : List (String × Tab) :=
  if fields.any fun f => Naming.key f.name == slugKey then [] else [settingsTab]

theorem planTabs_eq (fields : List Portfolio.Field) :
    planTabs fields =
      fieldTab "content" "Content" "text" (fields.filter fun f => !f.kind.isMedia) ++
        fieldTab "media" "Media" "image" (fields.filter fun f => f.kind.isMedia) ++
        settingsTabs fields :=
  rfl

theorem lookup_fieldTab_of_ne {id other : String} (h : other ≠ id) (label icon : String)
    (fields : List Portfolio.Field) : (fieldTab id label icon fields).lookup other = none := by
  rw [lookup_eq_none_iff_keys]
  intro hmem
  exact h (List.mem_singleton.1 ((keys_fieldTab_sublist id label icon fields).subset hmem))

theorem lookup_settingsTabs_of_ne {other : String} (h : other ≠ "settings")
    (fields : List Portfolio.Field) : (settingsTabs fields).lookup other = none := by
  rw [lookup_eq_none_iff_keys]
  intro hmem
  exact h (List.mem_singleton.1 ((keys_settingsTab_sublist _).subset hmem))

theorem tabOf_fieldTab (id label icon : String) (fields : List Portfolio.Field) :
    TabOf fields ((fieldTab id label icon fields).lookup id) := by
  rw [fieldTab]
  cases fields with
  | nil => exact ⟨by simp, by simp⟩
  | cons f fs =>
      rw [List.isEmpty_cons, if_neg Bool.false_ne_true, lookup_cons_eq_ite, if_pos rfl]
      refine ⟨by simp, ?_⟩
      intro t ht
      rw [Option.mem_some_iff] at ht
      subst ht
      exact laidOut_planColumns (f :: fs) (some id)

theorem lookup_settingsTabs (fields : List Portfolio.Field) :
    (settingsTabs fields).lookup "settings" =
      if ∃ f ∈ fields, Naming.key f.name = "slug" then none else some settingsTab.2 := by
  have htaken : (fields.any fun f => Naming.key f.name == slugKey) = true ↔
      ∃ f ∈ fields, Naming.key f.name = "slug" := by
    simp [slugKey]
  rw [settingsTabs, if_congr htaken rfl rfl]
  split
  · rfl
  · rfl

/-- Under an id stands the tab of one of the three lists. -/
theorem lookup_planTabs (fields : List Portfolio.Field) (id : String) :
    (planTabs fields).lookup id =
      (((fieldTab "content" "Content" "text"
          (fields.filter fun f => !f.kind.isMedia)).lookup id).or
        ((fieldTab "media" "Media" "image"
          (fields.filter fun f => f.kind.isMedia)).lookup id)).or
        ((settingsTabs fields).lookup id) := by
  rw [planTabs_eq, List.lookup_append, List.lookup_append]

theorem inTabs_planTabs (fields : List Portfolio.Field) : InTabs fields (planTabs fields) := by
  have hcontent : ("content" : String) ≠ "media" ∧ ("content" : String) ≠ "settings" := by decide
  have hmedia : ("media" : String) ≠ "content" ∧ ("media" : String) ≠ "settings" := by decide
  have hsettings : ("settings" : String) ≠ "content" ∧ ("settings" : String) ≠ "media" := by decide
  have hslug : (planTabs fields).lookup "settings" =
      if ∃ f ∈ fields, Naming.key f.name = "slug" then none else some settingsTab.2 := by
    rw [lookup_planTabs, lookup_fieldTab_of_ne hsettings.1, lookup_fieldTab_of_ne hsettings.2,
      Option.none_or, Option.none_or, lookup_settingsTabs]
  constructor
  · rw [planTabs_eq, List.map_append, List.map_append]
    exact ((keys_fieldTab_sublist _ _ _ _).append (keys_fieldTab_sublist _ _ _ _)).append
      (keys_settingsTab_sublist _)
  · rw [lookup_planTabs, lookup_fieldTab_of_ne hcontent.1, lookup_settingsTabs_of_ne hcontent.2,
      Option.or_none, Option.or_none]
    exact tabOf_fieldTab _ _ _ _
  · rw [lookup_planTabs, lookup_fieldTab_of_ne hmedia.1, lookup_settingsTabs_of_ne hmedia.2,
      Option.none_or, Option.or_none]
    exact tabOf_fieldTab _ _ _ _
  · rw [hslug]
    split
    · next htaken => exact iff_of_true rfl htaken
    · next hfree => exact iff_of_false (Option.some_ne_none _) hfree
  · intro t ht
    rw [hslug] at ht
    split at ht
    · exact absurd ht (Option.not_mem_none t)
    · rw [Option.mem_some_iff] at ht
      subst ht
      rfl

/-! ### All columns -/

/-- The columns of a tab are those of the column rule, or none if there are no fields. -/
theorem tabColumns_fieldTab (id label icon : String) (fields : List Portfolio.Field) :
    fields = [] ∧ tabColumns (fieldTab id label icon fields) = [] ∨
      tabColumns (fieldTab id label icon fields) = planColumns fields (some id) := by
  rw [fieldTab]
  cases fields with
  | nil => exact Or.inl ⟨rfl, rfl⟩
  | cons f fs =>
      rw [List.isEmpty_cons, if_neg Bool.false_ne_true, tabColumns, List.flatMap_singleton]
      exact Or.inr rfl

theorem columnFields_fieldTab (id label icon : String) (fields : List Portfolio.Field) :
    columnFields (tabColumns (fieldTab id label icon fields)) = fieldMap fields := by
  rcases tabColumns_fieldTab id label icon fields with ⟨rfl, hnone⟩ | hplanned
  · rw [hnone]
    rfl
  · rw [hplanned]
    exact (laidOut_planColumns fields (some id)).placed

theorem sectionKeys_fieldTab_sublist (id label icon : String) (fields : List Portfolio.Field) :
    (sectionKeys (tabColumns (fieldTab id label icon fields))).Sublist
      (possibleKeys (some id)) := by
  rcases tabColumns_fieldTab id label icon fields with ⟨-, hnone⟩ | hplanned
  · rw [hnone]
    exact List.nil_sublist _
  · rw [hplanned]
    exact sectionKeys_planColumns_sublist fields (some id)

theorem isSingle_of_mem_fieldTab {id label icon : String} {fields : List Portfolio.Field}
    {c : Column} (h : c ∈ tabColumns (fieldTab id label icon fields)) : c.IsSingle := by
  rcases tabColumns_fieldTab id label icon fields with ⟨-, hnone⟩ | hplanned
  · rw [hnone] at h
    exact absurd h List.not_mem_nil
  · rw [hplanned] at h
    exact isSingle_of_mem_planColumns h

theorem tabColumns_planTabs (fields : List Portfolio.Field) :
    tabColumns (planTabs fields) =
      tabColumns (fieldTab "content" "Content" "text"
          (fields.filter fun f => !f.kind.isMedia)) ++
        tabColumns (fieldTab "media" "Media" "image" (fields.filter fun f => f.kind.isMedia)) ++
        tabColumns (settingsTabs fields) := by
  rw [planTabs_eq, tabColumns, List.flatMap_append, List.flatMap_append]
  rfl

/-- Every column of a form holds one section. -/
theorem isSingle_of_mem_allColumns {wantsTabs : Bool} {fields : List Portfolio.Field}
    {c : Column} (h : c ∈ (Layout.ofFields wantsTabs fields).allColumns) : c.IsSingle := by
  rw [Layout.ofFields] at h
  split at h
  · rw [Layout.allColumns, tabColumns_planTabs, List.mem_append, List.mem_append] at h
    rcases h with (h | h) | h
    · exact isSingle_of_mem_fieldTab h
    · exact isSingle_of_mem_fieldTab h
    · rw [settingsTabs] at h
      split at h
      · exact absurd h List.not_mem_nil
      · rw [tabColumns, List.flatMap_singleton] at h
        exact List.mem_singleton.1 h ▸ ⟨_, _, rfl⟩
  · exact isSingle_of_mem_planColumns h

/-- No two sections of a form share a key. -/
theorem nodup_sectionKeys (wantsTabs : Bool) (fields : List Portfolio.Field) :
    (sectionKeys (Layout.ofFields wantsTabs fields).allColumns).Nodup := by
  rw [Layout.ofFields]
  split
  · have hpossible : (possibleKeys (some "content") ++ possibleKeys (some "media") ++
        ["settings_fields"]).Nodup := by
      decide
    have hsettings : (sectionKeys (tabColumns (settingsTabs fields))).Sublist
        ["settings_fields"] := by
      rw [settingsTabs]
      split
      · exact List.nil_sublist _
      · exact List.Sublist.refl _
    rw [Layout.allColumns, tabColumns_planTabs, sectionKeys_append, sectionKeys_append]
    exact (((sectionKeys_fieldTab_sublist _ _ _ _).append
      (sectionKeys_fieldTab_sublist _ _ _ _)).append hsettings).nodup hpossible
  · have hpossible : (possibleKeys none).Nodup := by decide
    exact (sectionKeys_planColumns_sublist fields none).nodup hpossible

/-- Fields with keys of their own keep them apart in their form, and from the slug that may be
added. -/
theorem nodup_fieldKeys (wantsTabs : Bool) {fields : List Portfolio.Field}
    (h : (fields.map fun f => Naming.key f.name).Nodup) :
    ((columnFields (Layout.ofFields wantsTabs fields).allColumns).map (·.1)).Nodup := by
  rw [Layout.ofFields]
  split
  · have hmoved : ((fields.filter fun f => !f.kind.isMedia) ++
        fields.filter fun f => f.kind.isMedia).Perm fields :=
      List.perm_append_comm.trans (List.filter_append_perm _ fields)
    have hkeys : ((fieldMap ((fields.filter fun f => !f.kind.isMedia) ++
        fields.filter fun f => f.kind.isMedia)).map (·.1)).Perm
          (fields.map fun f => Naming.key f.name) := by
      rw [keys_fieldMap]
      exact hmoved.map _
    rw [Layout.allColumns, tabColumns_planTabs, columnFields_append, columnFields_append,
      columnFields_fieldTab, columnFields_fieldTab, ← fieldMap_append, List.map_append,
      List.nodup_append]
    refine ⟨hkeys.nodup_iff.2 h, ?_, ?_⟩
    · rw [settingsTabs]
      split
      · exact List.nodup_nil
      · exact List.nodup_singleton _
    · rintro key hkey other hother rfl
      rw [hkeys.mem_iff] at hkey
      rw [settingsTabs] at hother
      split at hother
      · exact absurd hother List.not_mem_nil
      · next hfree =>
          obtain rfl : key = slugKey := List.mem_singleton.1 hother
          obtain ⟨f, hf, hslug⟩ := List.mem_map.1 hkey
          exact hfree (List.any_eq_true.2 ⟨f, hf, beq_iff_eq.2 hslug⟩)
  · rw [Layout.allColumns, (laidOut_planColumns fields none).placed, keys_fieldMap]
    exact h

/-! ### Forms -/

/-- The form of an entity loses, repeats and reorders no field. Without tabs its columns hold
the fields of the entity; with tabs, the columns of each tab hold its part of them. Every
column holds one section, no two sections share a key, and if no two fields of the entity do,
no two fields of the form do. -/
theorem fields_laid_out_once (settings : BlueprintSettings) (e : Entity) :
    let layout := (Blueprint.ofEntity settings e).layout
    (match layout with
      | .columns columns =>
          ¬ (settings.tabs = true ∧ 6 < e.fields.length) ∧ LaidOut e.fields columns
      | .tabs tabs => settings.tabs = true ∧ 6 < e.fields.length ∧ InTabs e.fields tabs) ∧
      (∀ c ∈ layout.allColumns, c.IsSingle) ∧
      (sectionKeys layout.allColumns).Nodup ∧
      ((e.fields.map fun f => Naming.key f.name).Nodup →
        ((columnFields layout.allColumns).map (·.1)).Nodup) := by
  have hlayout : (Blueprint.ofEntity settings e).layout =
      .ofFields settings.tabs e.fields := rfl
  rw [hlayout]
  refine ⟨?_, fun c => isSingle_of_mem_allColumns, nodup_sectionKeys _ _, nodup_fieldKeys _⟩
  have hthreshold : tabThreshold = 6 := rfl
  by_cases htabs : settings.tabs = true ∧ 6 < e.fields.length
  · rw [Layout.ofFields, if_pos (by simpa [hthreshold] using htabs)]
    exact ⟨htabs.1, htabs.2, inTabs_planTabs e.fields⟩
  · rw [Layout.ofFields, if_neg (by simpa [hthreshold] using htabs)]
    exact ⟨htabs, laidOut_planColumns e.fields none⟩

/-- An entity with nine fields of text and two of media. -/
def sampleFestival : Entity :=
  { id := "festival", name := "Festival"
    fields :=
      (["title", "Poster", "venue", "city", "opens", "closes", "tickets", "Line Up", "Photos",
        "notes", "sponsors"].map fun name =>
          .named name (if name = "Poster" ∨ name = "Photos" then .gallery else .text) []) }

/-- Its nine texts stand in two columns, its media in one. -/
theorem fields_laid_out_once_sampleFestival :
    let columns := (Blueprint.ofEntity {} sampleFestival).layout.allColumns
    (sampleFestival.fields.map fun f => Naming.key f.name).Nodup ∧
      sectionKeys columns = ["content_left", "content_right", "media_fields", "settings_fields"] ∧
      (columnFields columns).map (·.1) = ["title", "venue", "city", "opens", "closes", "tickets",
        "line_up", "notes", "sponsors", "poster", "photos", "slug"] ∧
      ((columnFields columns).map (·.1)).Nodup := by
  have hkeys : (sampleFestival.fields.map fun f => Naming.key f.name).Nodup := by decide +kernel
  exact ⟨hkeys, by decide +kernel, by decide +kernel,
    (fields_laid_out_once {} sampleFestival).2.2.2 hkeys⟩

end Portfolio.Panel
