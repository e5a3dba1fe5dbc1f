/-
Module: Portfolio.Proofs.Panel.Distinct
Purpose: When the maps of a panel form hold no key twice. The settings of a field have fixed
  keys and fields are told apart by the checks of a schema, so all depends on what a field
  brings along: its choices and its default value.
Main exports: Panel.Loadable, Panel.LoadableField, Panel.distinct_fieldMapValue,
  Panel.distinct_blueprint, Panel.distinct_siteBlueprint
-/
import Portfolio.Panel.Blueprint
import Portfolio.Proofs.Panel.Nesting
import Portfolio.Proofs.Validation.Reordering
import Portfolio.Proofs.Value

namespace Portfolio.Panel

open Validation (DeepSound Holds KeysSound forall_holds_iff)

/-! ### What a field brings along -/

/-- The kinds whose fields offer choices. -/
def offersChoices : FieldKind → Bool
  | .select | .multiselect | .radio | .checkbox => true
  | _ => false

/-- A field that brings no repeated key into its form: the choices it offers have keys of
their own, and no map in its default value holds a key twice. -/
structure Loadable (f : FieldSpec) : Prop where
  choices : offersChoices f.kind = true → ((choiceMap f.options.choices).map (·.1)).Nodup
  default : ∀ v ∈ f.options.defaultValue, v.DistinctKeys

/-- A loadable field with loadable fields in its structures, at any depth. -/
def LoadableField (f : Portfolio.Field) : Prop :=
  Loadable f.toFieldSpec ∧
    (f.kind = .structured → ∀ list, Holds f.nested list → ∀ g ∈ list, Loadable g.toFieldSpec)

theorem forall_loadableField_iff {fields : List Portfolio.Field} :
    (∀ f ∈ fields, LoadableField f) ↔
      ∀ list, Holds fields list → ∀ f ∈ list, Loadable f.toFieldSpec := by
  rw [forall_holds_iff]
  constructor
  · intro h
    exact ⟨fun f hf => (h f hf).1, fun f hf => (h f hf).2⟩
  · rintro ⟨hown, hnested⟩ f hf
    exact ⟨hown f hf, hnested f hf⟩

/-! ### Settings -/

/-- The entries of the settings that have a value. -/
def present (settings : List (String × Option Value)) : List (String × Value) :=
  settings.flatMap fun setting => entry? setting.1 setting.2

/-- The keys of the settings that have a value are some of the keys. -/
theorem keys_present_sublist (settings : List (String × Option Value)) :
    ((present settings).map (·.1)).Sublist (settings.map (·.1)) := by
  induction settings with
  | nil => exact List.Sublist.refl _
  | cons setting rest ih =>
      obtain ⟨key, v⟩ := setting
      cases v with
      | none => exact ih.cons key
      | some w => exact ih.cons_cons key

theorem forall_mem_present {settings : List (String × Option Value)} :
    (∀ e ∈ present settings, e.2.DistinctKeys) ↔
      ∀ setting ∈ settings, ∀ v ∈ setting.2, v.DistinctKeys := by
  induction settings with
  | nil => simp [present]
  | cons setting rest ih =>
      obtain ⟨key, v⟩ := setting
      have hfirst : (∀ e ∈ entry? key v, e.2.DistinctKeys) ↔ ∀ w ∈ v, w.DistinctKeys := by
        cases v with
        | none => simp [ entry?]
        | some w => simp [ entry?]
      rw [present, List.flatMap_cons, List.forall_mem_append, List.forall_mem_cons, hfirst]
      exact and_congr_right fun _ => ih

/-- A flag as a setting: it has a value only if it is true. -/
def flagSetting (b : Bool) : Option Value := if b then some (.bool true) else none

/-- A list of texts that may be absent. -/
def textsSetting (texts : Option (List String)) : Option Value := texts.map textList

/-- The choices as a setting. -/
def choicesSetting (choices : Option (List (String × String))) : Option Value :=
  choices.map fun choices => .map (choices.map fun choice => (choice.1, .text choice.2))

/-- The settings before the fields of a structure. -/
def leadingSettings (c : Control) : List (String × Option Value) :=
  [("type", some (.text c.kind)), ("label", some (.text c.label)),
    ("required", flagSetting c.required), ("help", c.help.map .text),
    ("placeholder", c.placeholder.map .text), ("width", some (.text c.width)),
    ("default", c.default), ("disabled", flagSetting c.disabled),
    ("minlength", c.minLength.map fun n => .ofNat n.toNat),
    ("maxlength", c.maxLength.map fun n => .ofNat n.toNat), ("pattern", c.pattern.map .text),
    ("min", c.min.map .number), ("max", c.max.map .number), ("step", c.step.map .number),
    ("buttons", c.buttons.map .bool), ("font", c.font.map .text),
    ("marks", textsSetting c.marks), ("options", choicesSetting c.options),
    ("multiple", c.multiple.map .bool),
    ("uploads", c.accept.map fun accept => .map [("accept", .text accept)]),
    ("query", c.query.map .text)]

/-- The settings after them. -/
def trailingSettings (c : Control) : List (String × Option Value) :=
  [("fieldsets", textsSetting c.fieldsets), ("validate", textsSetting c.validate)]

theorem flag_eq_entry? (key : String) (b : Bool) : flag key b = entry? key (flagSetting b) := by
  cases b with
  | false => rfl
  | true => rfl

theorem entry?_some (key : String) (v : Value) : entry? key (some v) = [(key, v)] := rfl

theorem leading_eq_present (c : Control) : c.leading = present (leadingSettings c) := by
  unfold Control.leading
  simp only [present, leadingSettings, List.flatMap_cons, List.flatMap_nil, flag_eq_entry?,
    entry?_some, textsSetting, choicesSetting, List.append_assoc, List.append_nil,
    List.cons_append, List.nil_append]

theorem trailing_eq_present (c : Control) : c.trailing = present (trailingSettings c) := by
  simp only [Control.trailing, present, trailingSettings, List.flatMap_cons, List.flatMap_nil,
    textsSetting, List.append_nil]

/-- Settings that bring no repeated key along. -/
structure Control.Loadable (c : Control) : Prop where
  options : ∀ options ∈ c.options, (options.map (·.1)).Nodup
  default : ∀ v ∈ c.default, v.DistinctKeys

/-- A setting whose values hold no repeated key, whichever it has. -/
theorem distinctKeys_setting {α : Type} {ofValue : α → Value}
    (h : ∀ a, (ofValue a).DistinctKeys) (v : Option α) :
    (∀ w ∈ v.map ofValue, w.DistinctKeys) ↔ True := by
  cases v with
  | none => simp
  | some a => simp [h a]

theorem distinctKeys_flagSetting (b : Bool) :
    (∀ v ∈ flagSetting b, v.DistinctKeys) ↔ True := by
  cases b with
  | false => simp [flagSetting]
  | true => simp [flagSetting]

theorem distinctKeys_textsSetting (texts : Option (List String)) :
    (∀ v ∈ textsSetting texts, v.DistinctKeys) ↔ True := by
  apply distinctKeys_setting
  intro xs
  rw [textList, Value.distinctKeys_list_iff, List.forall_mem_map]
  exact fun s _ => Value.distinctKeys_text s

theorem distinctKeys_choicesSetting {choices : Option (List (String × String))} :
    (∀ v ∈ choicesSetting choices, v.DistinctKeys) ↔
      ∀ options ∈ choices, (options.map (·.1)).Nodup := by
  cases choices with
  | none => simp [choicesSetting]
  | some options =>
      have hvalues : ∀ choice ∈ options, (Value.text choice.2).DistinctKeys :=
        fun choice _ => Value.distinctKeys_text choice.2
      simp only [choicesSetting, Option.map_some, Option.mem_some_iff, forall_eq',
        Value.distinctKeys_mapOf_iff, and_iff_left hvalues]

theorem forall_mem_leading (c : Control) :
    (∀ e ∈ c.leading, e.2.DistinctKeys) ↔ c.Loadable := by
  have hnumber (n : UInt32) : (Value.ofNat n.toNat).DistinctKeys := Value.distinctKeys_number _
  have haccept (accept : String) : (Value.map [("accept", .text accept)]).DistinctKeys := by
    simp [Value.distinctKeys_map_iff]
  rw [leading_eq_present, forall_mem_present]
  simp only [leadingSettings, List.forall_mem_cons, distinctKeys_choicesSetting,
    distinctKeys_flagSetting, distinctKeys_textsSetting, distinctKeys_setting, hnumber, haccept,
    Value.distinctKeys_text, Value.distinctKeys_bool, Value.distinctKeys_number,
    Option.mem_some_iff, forall_eq', implies_true, List.not_mem_nil, false_implies, true_and,
    and_true]
  exact ⟨fun h => ⟨h.2, h.1⟩, fun h => ⟨h.default, h.options⟩⟩

theorem forall_mem_trailing (c : Control) : ∀ e ∈ c.trailing, e.2.DistinctKeys := by
  rw [trailing_eq_present, forall_mem_present]
  simp only [trailingSettings, List.forall_mem_cons, distinctKeys_textsSetting,
    List.not_mem_nil, false_implies, implies_true, and_true]

theorem keys_leading_sublist (c : Control) :
    (c.leading.map (·.1)).Sublist ((leadingSettings default).map (·.1)) := by
  rw [leading_eq_present]
  exact keys_present_sublist (leadingSettings c)

theorem keys_trailing_sublist (c : Control) :
    (c.trailing.map (·.1)).Sublist ((trailingSettings default).map (·.1)) := by
  rw [trailing_eq_present]
  exact keys_present_sublist (trailingSettings c)

/-- The keys of a form field differ. -/
theorem nodup_keys_settings (c : Control) : ((c.leading ++ c.trailing).map (·.1)).Nodup := by
  rw [List.map_append]
  exact ((keys_leading_sublist c).append (keys_trailing_sublist c)).nodup (by decide)

/-- They still do with the fields of a structure among them. -/
theorem nodup_keys_settings_rows (c : Control) (rows : Value) :
    ((c.leading ++ ("fields", rows) :: c.trailing).map (·.1)).Nodup := by
  have hkeys : ((leadingSettings default).map (·.1) ++
      "fields" :: (trailingSettings default).map (·.1)).Nodup := by decide
  rw [List.map_append, List.map_cons]
  exact ((keys_leading_sublist c).append ((keys_trailing_sublist c).cons_cons _)).nodup hkeys

/-! ### Fields -/

/-- The rules of a field change neither its default value nor its choices. -/
theorem addRules_keeps (f : FieldSpec) (rules : ValidationRules) (c : Control) :
    (addRules f rules c).default = c.default ∧ (addRules f rules c).options = c.options := by
  unfold addRules
  cases boundsLength f.kind with
  | true => cases rules.custom <;> exact ⟨rfl, rfl⟩
  | false =>
      cases boundsNumber f.kind with
      | true => cases rules.custom <;> exact ⟨rfl, rfl⟩
      | false => cases rules.custom <;> exact ⟨rfl, rfl⟩

theorem options_kindControl (f : FieldSpec) :
    (kindControl f).options =
      if offersChoices f.kind then some (choiceMap f.options.choices) else none := by
  unfold kindControl
  cases f.kind <;> rfl

theorem ofSpec_keeps (f : FieldSpec) :
    (Control.ofSpec f).default = f.options.defaultValue ∧
      (Control.ofSpec f).options = (kindControl f).options := by
  unfold Control.ofSpec
  cases f.validation with
  | none => exact ⟨rfl, rfl⟩
  | some rules => exact addRules_keeps f rules _

/-- Of the settings of a field only its choices and its default value count. -/
theorem loadable_ofSpec (f : FieldSpec) : (Control.ofSpec f).Loadable ↔ Loadable f := by
  obtain ⟨hdefault, hoptions⟩ := ofSpec_keeps f
  rw [options_kindControl] at hoptions
  constructor
  · intro h
    refine ⟨?_, ?_⟩
    · intro hoffers
      apply h.options
      rw [hoptions, if_pos hoffers, Option.mem_some_iff]
    · intro v hv
      exact h.default v (hdefault ▸ hv)
  · intro h
    refine ⟨?_, ?_⟩
    · intro options hmem
      rw [hoptions] at hmem
      cases hoffers : offersChoices f.kind with
      | false => simp [hoffers] at hmem
      | true =>
          rw [hoffers, if_pos rfl, Option.mem_some_iff] at hmem
          rw [← hmem]
          exact h.choices hoffers
    · intro v hv
      exact h.default v (hdefault ▸ hv)

theorem fieldEntries_eq_map (fields : FieldMap) :
    fieldEntries fields = fields.map fun f => (f.1, f.2.toValue) := by
  induction fields with
  | nil => rw [fieldEntries, List.map_nil]
  | cons f fs ih => rw [fieldEntries, List.map_cons, ih]

/-- A form of fields with sound keys is fine if the form of every field is. -/
theorem distinctKeys_fieldMapValue {enclosing : Nat} {fields : List Portfolio.Field}
    (hkeys : KeysSound fields) :
    (fieldMapValue (fieldMapAt enclosing fields)).DistinctKeys ↔
      ∀ f ∈ fields, (Field.ofFieldAt enclosing f).toValue.DistinctKeys := by
  have hfst : (fieldMapAt enclosing fields).map (·.1) =
      fields.map fun f => Naming.key f.name := by
    rw [fieldMapAt_eq_map, List.map_map]
    rfl
  rw [fieldMapValue, fieldEntries_eq_map, Value.distinctKeys_mapOf_iff, hfst,
    and_iff_right hkeys.distinct, fieldMapAt_eq_map, List.forall_mem_map]

/-- The lists in the structures of a field have sound keys. -/
def NestedKeys (f : Portfolio.Field) : Prop :=
  f.kind = .structured → ∀ list, Holds f.nested list → KeysSound list

mutual

/-- A field that is shown whole has a form without repeated keys exactly if it is loadable,
and so are the fields in it. -/
theorem distinctKeys_ofFieldAt : ∀ (enclosing : Nat) (f : Portfolio.Field),
    f.structureDepth + enclosing ≤ maxStructureDepth → NestedKeys f →
      ((Field.ofFieldAt enclosing f).toValue.DistinctKeys ↔ LoadableField f)
  | enclosing, ⟨spec, nested⟩ => by
      intro hdepth hkeys
      rw [Field.ofFieldAt, LoadableField]
      by_cases hkind : spec.kind = .structured
      · rw [Field.structureDepth, if_pos hkind] at hdepth
        have hshown : enclosing < maxStructureDepth := by omega
        have hlists := hkeys hkind
        have hnested := (forall_holds_iff.1 hlists).2
        have hrows := distinctKeys_ofFieldsAt (enclosing + 1) nested (by omega) hnested
        rw [if_pos hkind, if_pos hshown, Field.toValue, Value.distinctKeys_map_iff,
          and_iff_right (nodup_keys_settings_rows _ _), List.forall_mem_append,
          List.forall_mem_cons, forall_mem_leading, loadable_ofSpec,
          and_iff_left (forall_mem_trailing _)]
        change Loadable spec ∧ (fieldMapValue (fieldMapAt (enclosing + 1) nested)).DistinctKeys ↔ _
        rw [distinctKeys_fieldMapValue (hlists nested .self), hrows, forall_loadableField_iff]
        exact and_congr_right fun _ => ⟨fun h _ => h, fun h => h hkind⟩
      · rw [if_neg hkind, Field.toValue, Value.distinctKeys_map_iff,
          and_iff_right (nodup_keys_settings _), List.forall_mem_append, forall_mem_leading,
          loadable_ofSpec, and_iff_left (forall_mem_trailing _)]
        exact ⟨fun h => ⟨h, fun hstructured => absurd hstructured hkind⟩, fun h => h.1⟩

/-- The same for the fields of a list. -/
theorem distinctKeys_ofFieldsAt : ∀ (enclosing : Nat) (fields : List Portfolio.Field),
    Field.maxStructureDepthOf fields + enclosing ≤ maxStructureDepth →
      (∀ f ∈ fields, NestedKeys f) →
        ((∀ f ∈ fields, (Field.ofFieldAt enclosing f).toValue.DistinctKeys) ↔
          ∀ f ∈ fields, LoadableField f)
  | _, [] => by simp
  | enclosing, f :: fs => by
      intro hdepth hkeys
      rw [Field.maxStructureDepthOf] at hdepth
      obtain ⟨hkey, hrest⟩ := List.forall_mem_cons.1 hkeys
      rw [List.forall_mem_cons, List.forall_mem_cons,
        distinctKeys_ofFieldAt enclosing f (by omega) hkey,
        distinctKeys_ofFieldsAt enclosing fs (by omega) hrest]

end

theorem structureDepthOf_le {fields : List Portfolio.Field} {bound : Nat}
    (h : ∀ f ∈ fields, f.structureDepth ≤ bound) :
    Field.maxStructureDepthOf fields ≤ bound := by
  induction fields with
  | nil => exact Nat.zero_le bound
  | cons f fs ih =>
      obtain ⟨hf, hfs⟩ := List.forall_mem_cons.1 h
      rw [Field.maxStructureDepthOf]
      exact Nat.max_le.2 ⟨hf, ih hfs⟩

/-- A form of sound fields holds no key twice exactly if its fields are loadable. -/
theorem distinct_fieldMapValue {fields : List Portfolio.Field} (h : DeepSound fields) :
    (fieldMapValue (fieldMap fields)).DistinctKeys ↔ ∀ f ∈ fields, LoadableField f := by
  have hown := h fields .self
  have hdepth := structureDepthOf_le hown.shallow
  have hnested : ∀ f ∈ fields, NestedKeys f := by
    intro f hf hkind list hlist
    exact (h list (Holds.trans (.nested .self hf hkind) hlist)).toKeysSound
  rw [fieldMap, distinctKeys_fieldMapValue hown.toKeysSound,
    distinctKeys_ofFieldsAt 0 fields hdepth hnested]

/-! ### Sections, columns and tabs -/

/-- The settings of a section. -/
def sectionSettings (s : Section) : List (String × Option Value) :=
  [("type", some (.text s.kind)), ("headline", s.headline.map .text),
    ("parent", s.parent.map .text), ("template", s.template.map .text),
    ("layout", s.layout.map .text), ("fields", s.fields.map fieldMapValue)]

theorem section_toValue (s : Section) : s.toValue = .map (present (sectionSettings s)) := by
  unfold Section.toValue
  simp only [present, sectionSettings, List.flatMap_cons, List.flatMap_nil, entry?_some,
    List.append_assoc, List.append_nil]

/-- Of a section only the fields count. -/
theorem distinct_section (s : Section) :
    s.toValue.DistinctKeys ↔ ∀ fields ∈ s.fields, (fieldMapValue fields).DistinctKeys := by
  have hkeys : ((present (sectionSettings s)).map (·.1)).Nodup := by
    have hnodup : ((sectionSettings default).map (·.1)).Nodup := by decide
    exact (keys_present_sublist (sectionSettings s)).nodup hnodup
  have hfields : (∀ v ∈ s.fields.map fieldMapValue, v.DistinctKeys) ↔
      ∀ fields ∈ s.fields, (fieldMapValue fields).DistinctKeys := by
    cases s.fields with
    | none => simp
    | some fields => simp
  rw [section_toValue, Value.distinctKeys_map_iff, and_iff_right hkeys, forall_mem_present]
  simp only [sectionSettings, List.forall_mem_cons, distinctKeys_setting,
    Value.distinctKeys_text, hfields, Option.mem_some_iff, forall_eq', implies_true,
    List.not_mem_nil, false_implies, true_and, and_true]

theorem distinct_columnsValue {columns : List Column} :
    (columnsValue columns).DistinctKeys ↔
      ∀ c ∈ columns, (c.sections.map (·.1)).Nodup ∧
        ∀ s ∈ c.sections, s.2.toValue.DistinctKeys := by
  have hcolumn (c : Column) : c.toValue.DistinctKeys ↔
      (c.sections.map (·.1)).Nodup ∧ ∀ s ∈ c.sections, s.2.toValue.DistinctKeys := by
    have hnodup (sections : Value) : ([("width", Value.text c.width),
        ("sections", sections)].map (·.1)).Nodup := by simp
    rw [Column.toValue, Value.distinctKeys_map_iff, and_iff_right (hnodup _),
      List.forall_mem_cons, List.forall_mem_singleton, Value.distinctKeys_mapOf_iff,
      and_iff_right (Value.distinctKeys_text c.width)]
  rw [columnsValue, Value.distinctKeys_list_iff, List.forall_mem_map]
  simp only [hcolumn]

theorem distinct_fieldColumn {fields : List Portfolio.Field} (h : DeepSound fields)
    (tab : Option String) (width name : String) :
    (((fieldColumn tab width name fields).sections.map (·.1)).Nodup ∧
      ∀ s ∈ (fieldColumn tab width name fields).sections, s.2.toValue.DistinctKeys) ↔
        ∀ f ∈ fields, LoadableField f := by
  simp [fieldColumn, distinct_section, Section.ofFields, distinct_fieldMapValue h]

/-- Columns of sound fields hold no key twice exactly if the fields are loadable. -/
theorem distinct_planColumns {fields : List Portfolio.Field} (h : DeepSound fields)
    (tab : Option String) :
    (columnsValue (planColumns fields tab)).DistinctKeys ↔ ∀ f ∈ fields, LoadableField f := by
  rw [distinct_columnsValue, planColumns]
  split
  · have hleft := h.sublist (List.take_sublist ((fields.length + 1) / 2) fields)
    have hright := h.sublist (List.drop_sublist ((fields.length + 1) / 2) fields)
    rw [List.forall_mem_cons, List.forall_mem_singleton, distinct_fieldColumn hleft,
      distinct_fieldColumn hright, ← List.forall_mem_append, List.take_append_drop]
  · rw [List.forall_mem_singleton, distinct_fieldColumn h]

theorem distinct_tab (t : Tab) :
    t.toValue.DistinctKeys ↔ (columnsValue t.columns).DistinctKeys := by
  simp [Tab.toValue, Value.distinctKeys_map_iff]

theorem distinct_fieldTab {fields : List Portfolio.Field} (h : DeepSound fields)
    (id label icon : String) :
    (∀ t ∈ fieldTab id label icon fields, t.2.toValue.DistinctKeys) ↔
      ∀ f ∈ fields, LoadableField f := by
  rw [fieldTab]
  cases fields with
  | nil => simp
  | cons f fs =>
      rw [List.isEmpty_cons, if_neg Bool.false_ne_true, List.forall_mem_singleton, distinct_tab]
      exact distinct_planColumns h (some id)

theorem keys_fieldTab_sublist (id label icon : String) (fields : List Portfolio.Field) :
    ((fieldTab id label icon fields).map (·.1)).Sublist [id] := by
  rw [fieldTab]
  cases fields with
  | nil => simp
  | cons f fs => simp

/-- The tab of settings is there unless a field takes its place. -/
theorem keys_settingsTab_sublist (taken : Prop) [Decidable taken] :
    ((if taken then [] else [settingsTab]).map (·.1)).Sublist ["settings"] := by
  split
  · exact List.nil_sublist _
  · exact List.Sublist.refl _

theorem nodup_keys_planTabs (fields : List Portfolio.Field) :
    ((planTabs fields).map (·.1)).Nodup := by
  have hnodup : (["content"] ++ ["media"] ++ ["settings"]).Nodup := by decide
  simp only [planTabs, List.map_append]
  exact (((keys_fieldTab_sublist _ _ _ _).append (keys_fieldTab_sublist _ _ _ _)).append
    (keys_settingsTab_sublist _)).nodup hnodup

/-- Tabs of sound fields have keys of their own, and hold no key twice exactly if the fields
are loadable. -/
theorem distinct_planTabs {fields : List Portfolio.Field} (h : DeepSound fields) :
    (Value.map ((planTabs fields).map fun t => (t.1, t.2.toValue))).DistinctKeys ↔
      ∀ f ∈ fields, LoadableField f := by
  have hsettings : ∀ t ∈ if fields.any fun f => Naming.key f.name == slugKey then []
      else [settingsTab], t.2.toValue.DistinctKeys := by
    split
    · simp
    · rw [List.forall_mem_singleton]
      decide +kernel
  have hsplit : (∀ f ∈ fields.filter fun f => !f.kind.isMedia, LoadableField f) ∧
      (∀ f ∈ fields.filter fun f => f.kind.isMedia, LoadableField f) ↔
        ∀ f ∈ fields, LoadableField f := by
    simp only [List.mem_filter, and_imp]
    constructor
    · rintro ⟨hcontent, hmedia⟩ f hf
      cases hkind : f.kind.isMedia with
      | false => exact hcontent f hf (by simp [hkind])
      | true => exact hmedia f hf hkind
    · intro hall
      exact ⟨fun f hf _ => hall f hf, fun f hf _ => hall f hf⟩
  rw [Value.distinctKeys_mapOf_iff, and_iff_right (nodup_keys_planTabs fields)]
  simp only [planTabs, List.forall_mem_append]
  rw [and_iff_left hsettings, distinct_fieldTab (h.sublist List.filter_sublist),
    distinct_fieldTab (h.sublist List.filter_sublist), hsplit]

/-! ### Blueprints -/

/-- A form of sound fields, in tabs or columns. -/
theorem distinct_layout {fields : List Portfolio.Field} (h : DeepSound fields)
    (wantsTabs : Bool) :
    (Layout.ofFields wantsTabs fields).entry.2.DistinctKeys ↔ ∀ f ∈ fields, LoadableField f := by
  rw [Layout.ofFields]
  split
  · exact distinct_planTabs h
  · exact distinct_planColumns h none

/-- The settings of a page's form. -/
def blueprintSettings (b : Blueprint) : List (String × Option Value) :=
  [("title", some (.text b.title)), ("icon", b.icon.map .text),
    ("num", if b.numbered then some (.text "default") else none),
    ("status", if b.hasStatus then some statusValue else none),
    ("options", some (optionsValue b.options)), (b.layout.entry.1, some b.layout.entry.2)]

theorem blueprint_toValue (b : Blueprint) : b.toValue = .map (present (blueprintSettings b)) := by
  have hif (key : String) (p : Bool) (v : Value) :
      (if p then [(key, v)] else []) = entry? key (if p then some v else none) := by
    cases p <;> rfl
  unfold Blueprint.toValue
  simp only [present, blueprintSettings, List.flatMap_cons, List.flatMap_nil, entry?_some, hif,
    List.append_assoc, List.append_nil, List.cons_append, List.nil_append]

theorem distinct_optionsValue (o : PageOptions) : (optionsValue o).DistinctKeys := by
  simp [optionsValue, Value.distinctKeys_map_iff]

/-- Of a page's form only the layout counts. -/
theorem distinct_blueprint (b : Blueprint) :
    b.toValue.DistinctKeys ↔ b.layout.entry.2.DistinctKeys := by
  have hkeys : ((present (blueprintSettings b)).map (·.1)).Nodup := by
    apply (keys_present_sublist (blueprintSettings b)).nodup
    cases hlayout : b.layout with
    | tabs ts =>
        simp only [blueprintSettings, hlayout, Layout.entry]
        simp
    | columns cs =>
        simp only [blueprintSettings, hlayout, Layout.entry]
        simp
  have hstatus : statusValue.DistinctKeys := by decide +kernel
  have hoptional (p : Bool) {v : Value} (hv : v.DistinctKeys) :
      (∀ w ∈ if p then some v else none, w.DistinctKeys) ↔ True := by
    cases p with
    | false => simp
    | true => simp [hv]
  rw [blueprint_toValue, Value.distinctKeys_map_iff, and_iff_right hkeys, forall_mem_present]
  simp only [blueprintSettings, List.forall_mem_cons, distinctKeys_setting,
    Value.distinctKeys_text, hoptional _ hstatus, hoptional _ (Value.distinctKeys_text _),
    distinct_optionsValue, Option.mem_some_iff, forall_eq', implies_true, List.not_mem_nil,
    false_implies, true_and, and_true]

/-- The overview of a site holds no key twice if the templates of its entities differ. -/
theorem distinct_siteBlueprint {entities : List Entity} (title : String)
    (h : (entities.map Validation.templateOf).Nodup) :
    (siteBlueprint title entities).toValue.DistinctKeys := by
  have hpages : ∀ s ∈ entities.map pagesSection, s.2.toValue.DistinctKeys := by
    intro s hs
    obtain ⟨e, -, rfl⟩ := List.mem_map.1 hs
    simp [distinct_section, pagesSection]
  have hkeys : ((entities.map pagesSection).map (·.1)).Nodup := by
    rw [List.map_map]
    exact h
  have hcolumns : (columnsValue (siteBlueprint title entities).columns).DistinctKeys := by
    rw [distinct_columnsValue, siteBlueprint, List.forall_mem_cons, List.forall_mem_singleton]
    refine ⟨⟨hkeys, hpages⟩, by simp, ?_⟩
    rw [List.forall_mem_singleton, distinct_section]
    simp
  simp [SiteBlueprint.toValue, Value.distinctKeys_map_iff, hcolumns]

end Portfolio.Panel
