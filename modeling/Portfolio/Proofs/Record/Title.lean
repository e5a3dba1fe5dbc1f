/-
Module: Portfolio.Proofs.Record.Title
Purpose: What an entity needs for its items to be titled by their values, and what the report
  promises of it. The report compares the keys of fields with the names of titles, and a title
  is looked for under the names themselves: the promise is kept where both agree.
Main exports: Record.TitledByValue, Record.Filled, Record.forall_titledByValue_iff,
  Record.title_promised, Record.title_promise_broken
-/
import Portfolio.Proofs.SortedMap
import Portfolio.Proofs.Validation.Origin
import Portfolio.Record.Basic

namespace Portfolio

/-! ### The warning -/

namespace Validation

/-- The report warns that an entity has no title. -/
def ReportsUntitled (schema : Schema) (index : Nat) : Prop :=
  ∃ w ∈ (report schema).warnings,
    w.code = "no-title-field" ∧ w.path = some (indexed "entities" index)

/-- An entity has fields, and none of them gives a title. -/
def Untitled (entity : Entity) : Prop :=
  entity.fields ≠ [] ∧ ∀ f ∈ entity.fields, givesTitle entity f = false

theorem mem_select_contentFindings {path : String} {entity : Entity} {l : Located} :
    l ∈ select (· == "no-title-field") (contentFindings path entity) ↔
      Untitled entity ∧ l = locate path (.noTitleField (entityLabel entity)) := by
  unfold contentFindings Untitled
  by_cases hfields : entity.fields = []
  · simp [select, hfields, locate, Finding.code]
  · by_cases htitle : entity.fields.any (givesTitle entity) = true
    · have hnot : ¬ ∀ f ∈ entity.fields, givesTitle entity f = false := by
        simpa using htitle
      simp [htitle, hfields, hnot]
    · have hall : ∀ f ∈ entity.fields, givesTitle entity f = false := by
        simpa using htitle
      rw [if_neg (by simpa using hfields), if_neg htitle]
      simp only [select, locate, Finding.code, List.filter_cons, beq_self_eq_true, if_true,
        List.filter_nil, List.mem_singleton]
      exact ⟨fun hl => ⟨⟨hfields, hall⟩, hl⟩, fun hl => hl.2⟩

/-- The warnings of entities without a title are found in the entities, in order. -/
theorem select_untitled (schema : Schema) :
    select (· == "no-title-field") (findings schema) =
      schema.entities.zipIdx.flatMap fun (entity, i) =>
        select (· == "no-title-field") (contentFindings (indexed "entities" i) entity) := by
  have hnotes (path : String) (f : Field) :
      select (· == "no-title-field") (noteFindings path f) = [] :=
    select_eq_nil (codesIn_noteFindings path f) (by decide)
  have hdepth (path : String) (f : Field) :
      select (· == "no-title-field") (depthFindings path f) = [] :=
    select_eq_nil (codesIn_depthFindings path f) (by decide)
  have hnil (entity : Entity) :
      (entity.fields.zipIdx.flatMap fun _ => ([] : List Located)) = [] := by
    simp
  rw [select_findings (by decide)]
  simp only [hnotes, hdepth, List.append_nil, hnil]

/-- The warning is given for the entities that have fields and no title. -/
theorem reportsUntitled_iff {schema : Schema} {i : Nat} {entity : Entity}
    (hentity : schema.entities[i]? = some entity) :
    ReportsUntitled schema i ↔ Untitled entity := by
  have hwarnings := filter_issuesOf (· == "no-title-field") .warning (findings schema)
  constructor
  · rintro ⟨w, hw, hcode, hpath⟩
    have hmem : w ∈ (issuesOf .warning (findings schema)).filter
        (fun issue => issue.code == "no-title-field") :=
      List.mem_filter.2 ⟨hw, beq_iff_eq.2 hcode⟩
    rw [hwarnings, issuesOf, List.mem_map] at hmem
    obtain ⟨l, hl, rfl⟩ := hmem
    rw [select_untitled] at hl
    simp only [List.mem_filter, List.mem_flatMap, Prod.exists,
      List.mk_mem_zipIdx_iff_getElem?, mem_select_contentFindings] at hl
    obtain ⟨⟨other, j, hother, huntitled, rfl⟩, -⟩ := hl
    -- Places are distinct, so it is the same entity.
    obtain rfl := indexed_injective "entities" (Option.some.inj hpath)
    obtain rfl : other = entity := Option.some.inj (hother.symm.trans hentity)
    exact huntitled
  · intro huntitled
    have hl : locate (indexed "entities" i) (.noTitleField (entityLabel entity)) ∈
        select (· == "no-title-field") (findings schema) := by
      simp only [select_untitled, List.mem_flatMap, Prod.exists,
        List.mk_mem_zipIdx_iff_getElem?, mem_select_contentFindings]
      exact ⟨entity, i, hentity, huntitled, rfl⟩
    refine ⟨_, List.mem_map_of_mem (List.mem_filter.2 ⟨(List.mem_filter.1 hl).1, rfl⟩), rfl, rfl⟩

end Validation

/-! ### The title -/

namespace Record

/-- The text that is chosen as the title of an item, if there is one. -/
def chosenText? (item : Item) (entity : Entity) : Option String :=
  (entity.displayField.bind (filledText? item)).or
    ((titleNames.findSome? (filledText? item)).or
      ((entity.fields.find? fun f => f.kind == .text).bind fun f => filledText? item f.name))

theorem title_eq (item : Item) (entity : Entity) :
    title item entity = (chosenText? item entity).getD item.id := by
  simp only [title, chosenText?, Option.orElse_eq_orElse, Option.orElse_eq_or]

/-- A name under which a title is looked for: the display field, a name of titles, or the first
text field. -/
def IsTitleSource (entity : Entity) (name : String) : Prop :=
  entity.displayField = some name ∨ name ∈ titleNames ∨
    ∃ f, (entity.fields.find? fun f => f.kind == .text) = some f ∧ f.name = name

theorem exists_filledText_of_chosenText {item : Item} {entity : Entity} {s : String}
    (h : chosenText? item entity = some s) :
    ∃ name, IsTitleSource entity name ∧ filledText? item name = some s := by
  simp only [chosenText?, Option.or_eq_some_iff, Option.bind_eq_some_iff] at h
  rcases h with ⟨name, hname, hs⟩ | ⟨-, h | ⟨-, f, hf, hs⟩⟩
  · exact ⟨name, Or.inl hname, hs⟩
  · obtain ⟨name, hname, hs⟩ := List.exists_of_findSome?_eq_some h
    exact ⟨name, Or.inr (Or.inl hname), hs⟩
  · exact ⟨f.name, Or.inr (Or.inr ⟨f, hf, rfl⟩), hs⟩

/-- A text is chosen if there is one under any of the names. -/
theorem chosenText_ne_none {item : Item} {entity : Entity} {name s : String}
    (hsource : IsTitleSource entity name) (hs : filledText? item name = some s) :
    chosenText? item entity ≠ none := by
  intro hnone
  simp only [chosenText?, Option.or_eq_none_iff, List.findSome?_eq_none_iff] at hnone
  obtain ⟨hdisplay, hnames, htext⟩ := hnone
  rcases hsource with hname | hname | ⟨f, hf, rfl⟩
  · simp [hname, hs] at hdisplay
  · simp [hnames name hname] at hs
  · simp [hf, hs] at htext

theorem filledText_eq_some_iff {item : Item} {name s : String} :
    filledText? item name = some s ↔
      ∃ v, item.value? name = some v ∧ Text.allBlank (scalarText v) = false ∧ scalarText v = s := by
  simp only [filledText?, Option.filter_eq_some_iff, Option.map_eq_some_iff]
  constructor
  · rintro ⟨⟨v, hv, rfl⟩, hblank⟩
    exact ⟨v, hv, by simpa using hblank, rfl⟩
  · rintro ⟨v, hv, hblank, rfl⟩
    exact ⟨⟨v, hv, rfl⟩, by simpa using hblank⟩

/-- The title of an item is the text of one of its values, and its id has no part in it. -/
def TitledByValue (item : Item) (entity : Entity) : Prop :=
  ∃ name v, item.value? name = some v ∧ Text.allBlank (scalarText v) = false ∧
    ∀ id, title { item with id := id } entity = scalarText v

/-- An item is titled by a value exactly if a text is chosen. -/
theorem titledByValue_iff (item : Item) (entity : Entity) :
    TitledByValue item entity ↔ chosenText? item entity ≠ none := by
  have htitle (id : String) : title { item with id := id } entity =
      (chosenText? item entity).getD id :=
    title_eq { item with id := id } entity
  constructor
  · rintro ⟨name, v, -, -, hv⟩ hnone
    have hempty := hv ""
    have hother := hv "id"
    rw [htitle, hnone] at hempty hother
    exact absurd (hempty.trans hother.symm) (by decide)
  · intro hsome
    obtain ⟨s, hs⟩ := Option.ne_none_iff_exists'.1 hsome
    obtain ⟨name, -, hfilled⟩ := exists_filledText_of_chosenText hs
    obtain ⟨v, hv, hblank, rfl⟩ := filledText_eq_some_iff.1 hfilled
    refine ⟨name, v, hv, hblank, fun id => ?_⟩
    rw [htitle, hs, Option.getD_some]

instance (item : Item) (entity : Entity) : Decidable (TitledByValue item entity) :=
  decidable_of_iff _ (titledByValue_iff item entity).symm

/-! ### Items without blank fields -/

/-- An item has a value for every field of its entity, and the text of none is blank. -/
def Filled (entity : Entity) (item : Item) : Prop :=
  ∀ f ∈ entity.fields, ∃ v, item.value? f.name = some v ∧ Text.allBlank (scalarText v) = false

theorem filled_iff (entity : Entity) (item : Item) :
    Filled entity item ↔ ∀ f ∈ entity.fields, (filledText? item f.name).isSome = true := by
  simp only [Filled, Option.isSome_iff_exists, filledText_eq_some_iff]
  refine forall₂_congr fun f _ => ?_
  constructor
  · rintro ⟨v, hv, hblank⟩
    exact ⟨_, v, hv, hblank, rfl⟩
  · rintro ⟨-, v, hv, hblank, -⟩
    exact ⟨v, hv, hblank⟩

instance (entity : Entity) (item : Item) : Decidable (Filled entity item) :=
  decidable_of_iff _ (filled_iff entity item).symm

/-- A field gives its text as a title: as the display field, by its very name, or by its kind. -/
def TitlesItems (entity : Entity) (f : Field) : Prop :=
  entity.displayField = some f.name ∨ f.name ∈ titleNames ∨ f.kind = .text

/-- With a field that gives a title, every filled item is titled by a value. -/
theorem titledByValue_of_filled {entity : Entity} {f : Field} {item : Item}
    (hf : f ∈ entity.fields) (htitles : TitlesItems entity f) (hfilled : Filled entity item) :
    TitledByValue item entity := by
  have hsource : ∃ g ∈ entity.fields, IsTitleSource entity g.name := by
    rcases htitles with hname | hname | hkind
    · exact ⟨f, hf, Or.inl hname⟩
    · exact ⟨f, hf, Or.inr (Or.inl hname)⟩
    · have hfound : (entity.fields.find? fun f => f.kind == .text).isSome = true :=
        List.find?_isSome.2 ⟨f, hf, beq_iff_eq.2 hkind⟩
      obtain ⟨g, hg⟩ := Option.isSome_iff_exists.1 hfound
      exact ⟨g, List.mem_of_find?_eq_some hg, Or.inr (Or.inr ⟨g, hg, rfl⟩)⟩
  obtain ⟨g, hg, hname⟩ := hsource
  obtain ⟨v, hv, hblank⟩ := hfilled g hg
  apply (titledByValue_iff item entity).2
  exact chosenText_ne_none hname (filledText_eq_some_iff.2 ⟨v, hv, hblank, rfl⟩)

/-- An item that has a text for every field of its entity, and no other value. -/
def plainItem (entity : Entity) : Item :=
  { fields := .ofList (entity.fields.map fun f => (f.name, .text "x")) }

theorem value_plainItem_iff {entity : Entity} {name : String} {v : Value} :
    (plainItem entity).value? name = some v ↔
      v = .text "x" ∧ ∃ f ∈ entity.fields, f.name = name := by
  have hforward {w : Value} (h : (plainItem entity).fields.get? name = some w) :
      w = .text "x" ∧ ∃ f ∈ entity.fields, f.name = name := by
    have hmem := (lookup_eq_some_iff_mem (plainItem entity).fields.sorted.nodup).1 h
    obtain ⟨f, hf, hentry⟩ := List.mem_map.1 (mem_of_mem_sortEntries hmem)
    obtain ⟨rfl, rfl⟩ := Prod.mk.inj hentry
    exact ⟨rfl, f, hf, rfl⟩
  constructor
  · intro h
    exact hforward (Option.filter_eq_some_iff.1 h).1
  · rintro ⟨rfl, f, hf, hname⟩
    have hkey : name ∈ (plainItem entity).fields.entries.map (·.1) :=
      mem_keys_sortEntries.2 (List.mem_map.2 ⟨_, List.mem_map_of_mem hf, hname⟩)
    have hfound : (plainItem entity).fields.get? name ≠ none :=
      fun hnone => lookup_eq_none_iff_keys.1 hnone hkey
    obtain ⟨w, hw⟩ := Option.ne_none_iff_exists'.1 hfound
    obtain ⟨rfl, -⟩ := hforward hw
    exact Option.filter_eq_some_iff.2 ⟨hw, rfl⟩

theorem filled_plainItem (entity : Entity) : Filled entity (plainItem entity) := by
  intro f hf
  exact ⟨.text "x", value_plainItem_iff.2 ⟨rfl, f, hf, rfl⟩, by decide⟩

/-- Every filled item is titled by a value exactly if some field gives a title. -/
theorem forall_titledByValue_iff (entity : Entity) :
    (∀ item, Filled entity item → TitledByValue item entity) ↔
      ∃ f ∈ entity.fields, TitlesItems entity f := by
  constructor
  · intro h
    have hsome := (titledByValue_iff _ _).1 (h (plainItem entity) (filled_plainItem entity))
    obtain ⟨s, hs⟩ := Option.ne_none_iff_exists'.1 hsome
    obtain ⟨name, hsource, hfilled⟩ := exists_filledText_of_chosenText hs
    obtain ⟨v, hv, -⟩ := filledText_eq_some_iff.1 hfilled
    obtain ⟨-, f, hf, rfl⟩ := value_plainItem_iff.1 hv
    rcases hsource with hname | hname | ⟨g, hg, -⟩
    · exact ⟨f, hf, Or.inl hname⟩
    · exact ⟨f, hf, Or.inr (Or.inl hname)⟩
    · have hkind := List.find?_some hg
      exact ⟨g, List.mem_of_find?_eq_some hg, Or.inr (Or.inr (beq_iff_eq.1 hkind))⟩
  · rintro ⟨f, hf, htitles⟩ item hfilled
    exact titledByValue_of_filled hf htitles hfilled

/-! ### The promise -/

/-- A field that gives a title by the names of titles has one of them as its key, and need not
have it as its name. -/
theorem givesTitle_iff (entity : Entity) (f : Field) :
    Validation.givesTitle entity f = true ↔
      entity.displayField = some f.name ∨ Naming.key f.name ∈ titleNames ∨ f.kind = .text := by
  simp only [Validation.givesTitle, titleNames, Bool.or_eq_true, beq_iff_eq, or_assoc,
    List.contains_iff_mem]

/-- The report warns of an entity exactly if it has fields and none is the display field, a text
field, or has a name of titles as its key. Every filled item is titled by a value exactly if some
field is the display field, a text field, or has such a name. So an entity without the warning
keeps the promise if the fields with such keys have them as their names. -/
theorem title_promised {schema : Schema} {i : Nat} {entity : Entity}
    (hentity : schema.entities[i]? = some entity) :
    (Validation.ReportsUntitled schema i ↔ entity.fields ≠ [] ∧ ∀ f ∈ entity.fields,
        ¬ (entity.displayField = some f.name ∨ Naming.key f.name ∈ titleNames ∨
          f.kind = .text)) ∧
      ((∀ item, Filled entity item → TitledByValue item entity) ↔
        ∃ f ∈ entity.fields,
          entity.displayField = some f.name ∨ f.name ∈ titleNames ∨ f.kind = .text) ∧
      (entity.fields ≠ [] → ¬ Validation.ReportsUntitled schema i →
        (∀ f ∈ entity.fields, Naming.key f.name ∈ titleNames → f.name ∈ titleNames) →
          ∀ item, Filled entity item → TitledByValue item entity) := by
  have hwarned : Validation.ReportsUntitled schema i ↔ entity.fields ≠ [] ∧
      ∀ f ∈ entity.fields, ¬ (entity.displayField = some f.name ∨
        Naming.key f.name ∈ titleNames ∨ f.kind = .text) := by
    simp only [Validation.reportsUntitled_iff hentity, Validation.Untitled, ← givesTitle_iff,
      Bool.not_eq_true]
  refine ⟨hwarned, forall_titledByValue_iff entity, ?_⟩
  intro hfields hquiet hspelled item hfilled
  have hsome : ∃ f ∈ entity.fields, entity.displayField = some f.name ∨
      Naming.key f.name ∈ titleNames ∨ f.kind = .text := by
    by_contra hnone
    exact hquiet (hwarned.2 ⟨hfields, fun f hf htitles => hnone ⟨f, hf, htitles⟩⟩)
  obtain ⟨f, hf, htitles⟩ := hsome
  have hexact : TitlesItems entity f := htitles.imp_right (Or.imp_left (hspelled f hf))
  exact titledByValue_of_filled hf hexact hfilled

/-- Photos whose caption is their heading, and one of them. -/
def framedPhoto : Entity :=
  { id := "photo", name := "Photo"
    fields := [.named "year" .number [], .named "heading" .textarea []] }

def framedSchema : Schema := { version := some "1.0.0", entities := [framedPhoto] }

def sampleFramed : Item :=
  { id := "photo-1"
    fields := .ofList [("heading", .text "Blue hour"), ("year", .number (.int 1959))] }

theorem title_promised_framedPhoto :
    ¬ Validation.ReportsUntitled framedSchema 0 ∧ Filled framedPhoto sampleFramed ∧
      TitledByValue sampleFramed framedPhoto := by
  obtain ⟨hwarned, -, hkept⟩ := @title_promised framedSchema 0 framedPhoto rfl
  have hquiet : ¬ Validation.ReportsUntitled framedSchema 0 := by
    rw [hwarned]
    decide
  have hfilled : Filled framedPhoto sampleFramed := by decide
  exact ⟨hquiet, hfilled, hkept (by decide) hquiet (by decide) sampleFramed hfilled⟩

/-! ### A respelled title -/

/-- Photos whose only field is a long text with the name of a title, written large. -/
def captionedPhoto : Entity :=
  { id := "photo", name := "Photo", pluralName := "Photos"
    fields := [.named "Title" .textarea []] }

def captionedSchema : Schema := { version := some "1.0.0", entities := [captionedPhoto] }

def sampleCaptioned : Item :=
  { id := "photo-1", fields := .ofList [("Title", .text "Blue hour")] }

/-- The report has no warning, the only field is filled, and the title is the id of the item. -/
theorem title_promise_broken :
    ¬ Validation.ReportsUntitled captionedSchema 0 ∧ captionedPhoto.fields ≠ [] ∧
      Filled captionedPhoto sampleCaptioned ∧ ¬ TitledByValue sampleCaptioned captionedPhoto ∧
      title sampleCaptioned captionedPhoto = "photo-1" := by
  have hquiet : ¬ Validation.Untitled captionedPhoto := by
    unfold Validation.Untitled
    decide
  refine ⟨?_, by decide, by decide, by decide, by decide⟩
  rw [Validation.reportsUntitled_iff rfl]
  exact hquiet

end Record

end Portfolio
