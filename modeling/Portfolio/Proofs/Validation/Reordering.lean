/-
Module: Portfolio.Proofs.Validation.Reordering
Purpose: The checks of a schema do not depend on the order of its entities, of its
  relationships, or of the fields in any list.
Main exports: Validation.Reordered, Validation.SchemaReordered,
  Validation.acceptable_iff_of_reordered, Validation.report_accepts_exactly
-/
import Mathlib.Data.List.Forall2
import Portfolio.Proofs.Validation.Findings

namespace Portfolio.Validation

/-! ### Orders -/

/-- Two fields that differ only in the order of the fields nested in them, at any
depth. -/
inductive Reordered : Field → Field → Prop where
  | nested (spec : FieldSpec) {fs gs hs : List Field} (each : List.Forall₂ Reordered fs gs)
      (order : gs.Perm hs) : Reordered ⟨spec, fs⟩ ⟨spec, hs⟩

/-- Two field lists that differ only in order, at any depth. -/
def ListReordered (fs hs : List Field) : Prop :=
  ∃ gs, List.Forall₂ Reordered fs gs ∧ gs.Perm hs

/-- Two entities that differ only in the order of their fields. -/
def EntityReordered (e e' : Entity) : Prop :=
  ∃ fields, ListReordered e.fields fields ∧ e' = { e with fields := fields }

/-- Two schemas with the same entities and the same relationships in any order, where the
fields of an entity may stand in any order, too. -/
structure SchemaReordered (schema schema' : Schema) : Prop where
  entities : ∃ es, List.Forall₂ EntityReordered schema.entities es ∧ es.Perm schema'.entities
  relationships : schema.relationships.Perm schema'.relationships

/-! ### Fields -/

/-- All lists inside a list of fields are sound. -/
def DeepSound (fields : List Field) : Prop := ∀ list, Holds fields list → ListSound list

/-- Two fields that the checks cannot tell apart. -/
structure Similar (f g : Field) : Prop where
  spec : f.toFieldSpec = g.toFieldSpec
  depth : f.structureDepth = g.structureDepth
  deep : (f.kind = .structured → DeepSound f.nested) ↔ (g.kind = .structured → DeepSound g.nested)

/-- What related members agree on holds of all members of both lists or of neither. -/
theorem forall_mem_iff_of_forall₂ {α : Type} {R : α → α → Prop} {P : α → Prop}
    (hP : ∀ a b, R a b → (P a ↔ P b)) {xs ys : List α} (h : List.Forall₂ R xs ys) :
    (∀ x ∈ xs, P x) ↔ ∀ y ∈ ys, P y := by
  induction h with
  | nil => simp
  | cons hab _ ih => rw [List.forall_mem_cons, List.forall_mem_cons, hP _ _ hab, ih]

/-- Functions that agree on related members map both lists to the same. -/
theorem map_eq_of_forall₂ {α β : Type} {R : α → α → Prop} (k : α → β)
    (hk : ∀ a b, R a b → k a = k b) {xs ys : List α} (h : List.Forall₂ R xs ys) :
    xs.map k = ys.map k := by
  induction h with
  | nil => rfl
  | cons hab _ ih => rw [List.map_cons, List.map_cons, hk _ _ hab, ih]

theorem key_eq_of_similar {f g : Field} (h : Similar f g) :
    Naming.key f.name = Naming.key g.name := by
  rw [h.spec]

theorem listSound_iff_of_forall₂ {fs gs : List Field} (h : List.Forall₂ Similar fs gs) :
    ListSound fs ↔ ListSound gs := by
  have hkeys := map_eq_of_forall₂ (fun f : Field => Naming.key f.name)
    (fun f g => key_eq_of_similar) h
  have hcallable : (∀ f ∈ fs, Callable (Naming.key f.name)) ↔
      ∀ g ∈ gs, Callable (Naming.key g.name) :=
    forall_mem_iff_of_forall₂ (fun f g hfg => by rw [key_eq_of_similar hfg]) h
  have hshallow : (∀ f ∈ fs, f.structureDepth ≤ maxStructureDepth) ↔
      ∀ g ∈ gs, g.structureDepth ≤ maxStructureDepth :=
    forall_mem_iff_of_forall₂ (fun f g hfg => by rw [hfg.depth]) h
  constructor
  · intro hfs
    exact ⟨⟨hcallable.1 hfs.callable, hkeys ▸ hfs.distinct⟩, hshallow.1 hfs.shallow⟩
  · intro hgs
    exact ⟨⟨hcallable.2 hgs.callable, hkeys ▸ hgs.distinct⟩, hshallow.2 hgs.shallow⟩

theorem ListSound.perm {fs gs : List Field} (hfs : ListSound fs) (h : fs.Perm gs) :
    ListSound gs where
  callable g hg := hfs.callable g (h.mem_iff.2 hg)
  distinct := (h.map _).nodup_iff.1 hfs.distinct
  shallow g hg := hfs.shallow g (h.mem_iff.2 hg)

theorem ListSound.sublist {fs gs : List Field} (hgs : ListSound gs) (h : fs.Sublist gs) :
    ListSound fs where
  callable f hf := hgs.callable f (h.subset hf)
  distinct := (h.map _).nodup hgs.distinct
  shallow f hf := hgs.shallow f (h.subset hf)

theorem deepSound_iff {fields : List Field} :
    DeepSound fields ↔
      ListSound fields ∧ ∀ f ∈ fields, f.kind = .structured → DeepSound f.nested :=
  forall_holds_iff

theorem DeepSound.perm {fs gs : List Field} (hfs : DeepSound fs) (h : fs.Perm gs) :
    DeepSound gs := by
  rw [deepSound_iff] at hfs ⊢
  exact ⟨hfs.1.perm h, fun g hg => hfs.2 g (h.mem_iff.2 hg)⟩

/-- Some of the fields of a sound list are a sound list. -/
theorem DeepSound.sublist {fs gs : List Field} (hgs : DeepSound gs) (h : fs.Sublist gs) :
    DeepSound fs := by
  rw [deepSound_iff] at hgs ⊢
  exact ⟨hgs.1.sublist h, fun f hf => hgs.2 f (h.subset hf)⟩

theorem deepSound_iff_of_forall₂ {fs gs hs : List Field} (h : List.Forall₂ Similar fs gs)
    (order : gs.Perm hs) : DeepSound fs ↔ DeepSound hs := by
  have hdeep : DeepSound fs ↔ DeepSound gs := by
    rw [deepSound_iff, deepSound_iff, listSound_iff_of_forall₂ h,
      forall_mem_iff_of_forall₂ (fun f g hfg => hfg.deep) h]
  rw [hdeep]
  exact ⟨fun hgs => hgs.perm order, fun hhs => hhs.perm order.symm⟩

/-! ### Depth -/

theorem maxStructureDepthOf_perm {fs gs : List Field} (h : fs.Perm gs) :
    Field.maxStructureDepthOf fs = Field.maxStructureDepthOf gs := by
  induction h with
  | nil => rfl
  | cons f _ ih => rw [Field.maxStructureDepthOf, Field.maxStructureDepthOf, ih]
  | swap f g fs =>
      simp only [Field.maxStructureDepthOf]
      omega
  | trans _ _ ih ih' => rw [ih, ih']

theorem maxStructureDepthOf_forall₂ {fs gs : List Field} (h : List.Forall₂ Similar fs gs) :
    Field.maxStructureDepthOf fs = Field.maxStructureDepthOf gs := by
  induction h with
  | nil => rfl
  | cons hfg _ ih => rw [Field.maxStructureDepthOf, Field.maxStructureDepthOf, hfg.depth, ih]

mutual

/-- Fields that differ only in the order of nested fields are similar. -/
theorem Reordered.similar : ∀ {f g : Field}, Reordered f g → Similar f g
  | _, _, @Reordered.nested spec fs gs hs each order => by
      have hsimilar : List.Forall₂ Similar fs gs := similar_of_reordered each
      have hdepth : Field.maxStructureDepthOf fs = Field.maxStructureDepthOf hs := by
        rw [maxStructureDepthOf_forall₂ hsimilar, maxStructureDepthOf_perm order]
      refine ⟨rfl, ?_, ?_⟩
      · rw [Field.structureDepth, Field.structureDepth, hdepth]
      · exact imp_congr_right fun _ => deepSound_iff_of_forall₂ hsimilar order

/-- The same member by member. -/
theorem similar_of_reordered :
    ∀ {fs gs : List Field}, List.Forall₂ Reordered fs gs → List.Forall₂ Similar fs gs
  | [], _, .nil => .nil
  | _ :: _, _, .cons head tail => .cons head.similar (similar_of_reordered tail)

end

/-! ### Entities and schemas -/

theorem entitySound_iff_of_reordered {e e' : Entity} (h : EntityReordered e e') :
    EntitySound e ↔ EntitySound e' := by
  obtain ⟨fields, ⟨gs, each, order⟩, rfl⟩ := h
  have hdeep : DeepSound e.fields ↔ DeepSound fields :=
    deepSound_iff_of_forall₂ (similar_of_reordered each) order
  constructor
  · intro hsound
    exact ⟨hsound.id_filled, hsound.name_filled, hsound.template_free, hsound.collection_free,
      hdeep.1 hsound.fields_sound⟩
  · intro hsound
    exact ⟨hsound.id_filled, hsound.name_filled, hsound.template_free, hsound.collection_free,
      hdeep.2 hsound.fields_sound⟩

/-- Nothing about the names of an entity depends on the order of its fields. -/
theorem names_eq_of_reordered {e e' : Entity} (h : EntityReordered e e') :
    e.id = e'.id ∧ templateOf e = templateOf e' ∧ collectionOf e = collectionOf e' := by
  obtain ⟨fields, -, rfl⟩ := h
  exact ⟨rfl, rfl, rfl⟩

/-- Acceptable schemas stay acceptable in any order, and others do not become so. -/
theorem acceptable_iff_of_reordered {schema schema' : Schema}
    (h : SchemaReordered schema schema') : Acceptable schema ↔ Acceptable schema' := by
  obtain ⟨⟨es, each, order⟩, hrelationships⟩ := h
  have hsounds : (∀ e ∈ schema.entities, EntitySound e) ↔ ∀ e ∈ es, EntitySound e :=
    forall_mem_iff_of_forall₂ (fun e e' he => entitySound_iff_of_reordered he) each
  have hids := map_eq_of_forall₂ Entity.id (fun e e' he => (names_eq_of_reordered he).1) each
  have htemplates :=
    map_eq_of_forall₂ templateOf (fun e e' he => (names_eq_of_reordered he).2.1) each
  have hcollections :=
    map_eq_of_forall₂ collectionOf (fun e e' he => (names_eq_of_reordered he).2.2) each
  have hends (id : String) :
      id ∈ es.map (·.id) ↔ id ∈ schema'.entities.map (·.id) := (order.map _).mem_iff
  rw [acceptable_iff, acceptable_iff, pairwise_apart_iff, pairwise_apart_iff, hids, htemplates,
    hcollections, hsounds]
  apply and_congr
  · simp only [order.mem_iff]
  · apply and_congr
    · rw [(order.map _).nodup_iff, (order.map _).nodup_iff, (order.map _).nodup_iff]
    · simp only [hends, hrelationships.mem_iff]

/-- The checks accept a schema exactly if it is acceptable; so they accept it in any order
of its entities, of its relationships and of the fields in any list, or in none. -/
theorem report_accepts_exactly :
    (∀ schema, (report schema).valid = true ↔ Acceptable schema) ∧
      ∀ schema schema', SchemaReordered schema schema' →
        (report schema).valid = (report schema').valid := by
  refine ⟨report_valid_iff, ?_⟩
  intro schema schema' h
  rw [Bool.eq_iff_iff, report_valid_iff, report_valid_iff]
  exact acceptable_iff_of_reordered h

/-- The sample schema with its entities, fields and nested fields the other way round. -/
def turnedSchema : Schema :=
  { sampleSchema with
    entities := [samplePhoto, { sampleGig with
      fields := [
        .named "Set List" .structured [.named "encore" .boolean [], .named "song" .text []],
        .named "title" .text []] }] }

/-- The sample schema is accepted in this order, as in the other. -/
theorem report_accepts_turnedSchema :
    SchemaReordered sampleSchema turnedSchema ∧ Acceptable turnedSchema ∧
      (report sampleSchema).valid = (report turnedSchema).valid := by
  have hleaf (name : String) (kind : FieldKind) :
      Reordered (.named name kind []) (.named name kind []) := .nested _ .nil (.refl [])
  have hsetList : Reordered
      (.named "Set List" .structured [.named "song" .text [], .named "encore" .boolean []])
      (.named "Set List" .structured [.named "encore" .boolean [], .named "song" .text []]) :=
    .nested _ (.cons (hleaf _ _) (.cons (hleaf _ _) .nil)) (.swap _ _ [])
  have hphoto : EntityReordered samplePhoto samplePhoto :=
    ⟨_, ⟨_, .cons (hleaf _ _) .nil, .refl _⟩, rfl⟩
  have hgig : EntityReordered sampleGig turnedSchema.entities[1] :=
    ⟨_, ⟨_, .cons (hleaf _ _) (.cons hsetList .nil), .swap _ _ []⟩, rfl⟩
  have h : SchemaReordered sampleSchema turnedSchema :=
    ⟨⟨_, .cons hgig (.cons hphoto .nil), .swap _ _ []⟩, .refl _⟩
  have hvalid : (report turnedSchema).valid = true := by decide +kernel
  exact ⟨h, (report_accepts_exactly.1 _).1 hvalid, report_accepts_exactly.2 _ _ h⟩

end Portfolio.Validation
