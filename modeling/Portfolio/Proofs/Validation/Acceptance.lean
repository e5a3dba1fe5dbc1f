/-
Module: Portfolio.Proofs.Validation.Acceptance
Purpose: Which schemas pass the checks, said without the checks: names can stand beside
  each other in paths, relationships have ends, and fields can be called and shown.
Main exports: Validation.Holds, Validation.ListSound, Validation.Acceptable,
  Validation.acceptable_iff
-/
import Mathlib.Data.List.Nodup
import Portfolio.Validation.Basic

namespace Portfolio.Validation

/-! ### What is acceptable -/

/-- The field lists that count for a list of fields: the list itself, and those nested
in its structures at any depth. Lists nested in fields of other kinds mean nothing. -/
inductive Holds (top : List Field) : List Field → Prop where
  | self : Holds top top
  | nested {list : List Field} {f : Field} (outer : Holds top list) (member : f ∈ list)
      (structured : f.kind = .structured) : Holds top f.nested

/-- A key that can be called: its first character is an ASCII letter. -/
def Callable (key : String) : Prop := ∃ c ∈ key.toList.head?, c.isAlpha = true

/-- The keys of a field list can be called, and tell the fields apart. -/
structure KeysSound (fields : List Field) : Prop where
  callable : ∀ f ∈ fields, Callable (Naming.key f.name)
  distinct : (fields.map fun f => Naming.key f.name).Nodup

/-- A field list that can be shown: besides, no structure nests too deep. -/
structure ListSound (fields : List Field) : Prop extends KeysSound fields where
  shallow : ∀ f ∈ fields, f.structureDepth ≤ maxStructureDepth

/-- The name of an entity's template. -/
def templateOf (entity : Entity) : String := Naming.template entity.id

/-- A schema that makes a site. -/
structure Acceptable (schema : Schema) : Prop where
  ids_filled : ∀ e ∈ schema.entities, Text.allBlank e.id = false
  names_filled : ∀ e ∈ schema.entities, Text.allBlank e.name = false
  ids_distinct : (schema.entities.map (·.id)).Nodup
  templates_distinct : (schema.entities.map templateOf).Nodup
  collections_distinct : (schema.entities.map collectionOf).Nodup
  templates_free : ∀ e ∈ schema.entities, templateOf e ∉ reservedTemplates
  collections_free : ∀ e ∈ schema.entities, collectionOf e ∉ reservedCollections
  sources_known : ∀ r ∈ schema.relationships, ∃ e ∈ schema.entities, e.id = r.source
  targets_known : ∀ r ∈ schema.relationships, ∃ e ∈ schema.entities, e.id = r.target
  fields_sound : ∀ e ∈ schema.entities, ∀ list, Holds e.fields list → ListSound list

/-! ### A sample -/

/-- A sample entity with a structure. Its id and its plural name hold blanks. -/
def sampleGig : Entity :=
  { id := "Live Gig", name := "Gig", pluralName := "Live Gigs"
    fields := [.named "title" .text [],
      .named "Set List" .structured [.named "song" .text [], .named "encore" .boolean []]] }

/-- A sample entity without a plural name. -/
def samplePhoto : Entity :=
  { id := "photo", name := "Photo", fields := [.named "image" .image []] }

/-- A sample schema. -/
def sampleSchema : Schema :=
  { version := some "1.0.0"
    entities := [sampleGig, samplePhoto]
    relationships := [{ source := "Live Gig", target := "photo" }] }

/-! ### Keys -/

theorem isKey_iff (key : String) : Naming.isKey key = true ↔ Callable key := by
  unfold Naming.isKey Callable
  cases key.toList with
  | nil => simp
  | cons c cs => simp

/-! ### Lists inside lists -/

theorem Holds.trans {top list inner : List Field} (h : Holds top list)
    (h' : Holds list inner) : Holds top inner := by
  induction h' with
  | self => exact h
  | nested _ member structured ih => exact .nested ih member structured

/-- A list inside is the list itself, or inside one of its structures. -/
theorem Holds.head {top list : List Field} (h : Holds top list) :
    list = top ∨ ∃ f ∈ top, f.kind = .structured ∧ Holds f.nested list := by
  induction h with
  | self => exact Or.inl rfl
  | @nested list g _ member structured ih =>
      right
      rcases ih with rfl | ⟨f, hf, hkind, hlist⟩
      · exact ⟨g, member, structured, .self⟩
      · exact ⟨f, hf, hkind, .nested hlist member structured⟩

/-- What holds of all lists inside holds of the list itself, and of all lists inside its
structures. -/
theorem forall_holds_iff {P : List Field → Prop} {top : List Field} :
    (∀ list, Holds top list → P list) ↔
      P top ∧ ∀ f ∈ top, f.kind = .structured → ∀ list, Holds f.nested list → P list := by
  constructor
  · intro h
    refine ⟨h top .self, ?_⟩
    intro f hf hkind list hlist
    exact h list (Holds.trans (.nested .self hf hkind) hlist)
  · rintro ⟨htop, hnested⟩ list hlist
    rcases hlist.head with rfl | ⟨f, hf, hkind, hinner⟩
    · exact htop
    · exact hnested f hf hkind list hinner

/-! ### Depth -/

theorem structureDepth_le_of_mem {f : Field} :
    ∀ {fields : List Field}, f ∈ fields → f.structureDepth ≤ Field.maxStructureDepthOf fields
  | [], h => by simp at h
  | g :: gs, h => by
      rw [Field.maxStructureDepthOf]
      rcases List.mem_cons.1 h with rfl | h
      · exact Nat.le_max_left _ _
      · exact Nat.le_trans (structureDepth_le_of_mem h) (Nat.le_max_right _ _)

/-- The structures in a structure nest less deep than itself. -/
theorem structureDepth_lt_of_mem_nested {f g : Field} (hkind : f.kind = .structured)
    (hg : g ∈ f.nested) : g.structureDepth < f.structureDepth := by
  obtain ⟨spec, nested⟩ := f
  have hle : g.structureDepth ≤ Field.maxStructureDepthOf nested := structureDepth_le_of_mem hg
  have hdepth : Field.structureDepth ⟨spec, nested⟩ = 1 + Field.maxStructureDepthOf nested := by
    rw [Field.structureDepth, if_pos hkind]
  omega

/-- A bound on the depth of the fields of a list bounds that of all fields inside. -/
theorem Holds.structureDepth_le {top list : List Field} {bound : Nat} (h : Holds top list)
    (htop : ∀ f ∈ top, f.structureDepth ≤ bound) : ∀ f ∈ list, f.structureDepth ≤ bound := by
  induction h with
  | self => exact htop
  | nested _ member structured ih =>
      intro g hg
      have hlt := structureDepth_lt_of_mem_nested structured hg
      have hle := ih _ member
      omega

theorem forall_listSound_iff {top : List Field} :
    (∀ list, Holds top list → ListSound list) ↔
      (∀ list, Holds top list → KeysSound list) ∧
        ∀ f ∈ top, f.structureDepth ≤ maxStructureDepth := by
  constructor
  · intro h
    exact ⟨fun list hlist => (h list hlist).toKeysSound, (h top .self).shallow⟩
  · rintro ⟨hkeys, hdepth⟩ list hlist
    exact { hkeys list hlist with shallow := hlist.structureDepth_le hdepth }

/-! ### Entity by entity -/

/-- An entity by itself: it has an id and a name, no output of it is reserved, and its
fields are sound. -/
structure EntitySound (entity : Entity) : Prop where
  id_filled : Text.allBlank entity.id = false
  name_filled : Text.allBlank entity.name = false
  template_free : templateOf entity ∉ reservedTemplates
  collection_free : collectionOf entity ∉ reservedCollections
  fields_sound : ∀ list, Holds entity.fields list → ListSound list

/-- Two entities share neither their id nor the name of any output. -/
structure Apart (a b : Entity) : Prop where
  id : a.id ≠ b.id
  template : templateOf a ≠ templateOf b
  collection : collectionOf a ≠ collectionOf b

theorem pairwise_apart_iff {entities : List Entity} :
    entities.Pairwise Apart ↔
      (entities.map (·.id)).Nodup ∧ (entities.map templateOf).Nodup ∧
        (entities.map collectionOf).Nodup := by
  simp only [List.Nodup, List.pairwise_map, ← List.pairwise_and_iff]
  constructor
  · exact List.Pairwise.imp fun h => ⟨h.id, h.template, h.collection⟩
  · exact List.Pairwise.imp fun h => ⟨h.1, h.2.1, h.2.2⟩

/-- A schema is acceptable if its entities are sound and apart, and relationships join
entities. -/
theorem acceptable_iff (schema : Schema) :
    Acceptable schema ↔
      (∀ e ∈ schema.entities, EntitySound e) ∧ schema.entities.Pairwise Apart ∧
        ∀ r ∈ schema.relationships,
          r.source ∈ schema.entities.map (·.id) ∧ r.target ∈ schema.entities.map (·.id) := by
  simp only [pairwise_apart_iff, List.mem_map]
  constructor
  · intro h
    refine ⟨?_, ⟨h.ids_distinct, h.templates_distinct, h.collections_distinct⟩,
      fun r hr => ⟨h.sources_known r hr, h.targets_known r hr⟩⟩
    intro e he
    exact ⟨h.ids_filled e he, h.names_filled e he, h.templates_free e he,
      h.collections_free e he, h.fields_sound e he⟩
  · rintro ⟨hsound, ⟨hids, htemplates, hcollections⟩, hrelationships⟩
    exact {
      ids_filled := fun e he => (hsound e he).id_filled
      names_filled := fun e he => (hsound e he).name_filled
      ids_distinct := hids
      templates_distinct := htemplates
      collections_distinct := hcollections
      templates_free := fun e he => (hsound e he).template_free
      collections_free := fun e he => (hsound e he).collection_free
      sources_known := fun r hr => (hrelationships r hr).1
      targets_known := fun r hr => (hrelationships r hr).2
      fields_sound := fun e he => (hsound e he).fields_sound }

end Portfolio.Validation
