/-
Module: Portfolio.Proofs.Validation.Findings
Purpose: What it takes for each check of a schema to find no error, and from that: the
  report is valid exactly for acceptable schemas.
Main exports: Validation.Clean, Validation.clean_fieldListNames, Validation.report_valid_iff
-/
import Portfolio.Proofs.Validation.Acceptance

namespace Portfolio.Validation

/-- None of the findings is an error. -/
def Clean (found : List Located) : Prop := ∀ l ∈ found, l.finding.severity ≠ .error

@[simp] theorem clean_nil : Clean [] := by
  simp [Clean]

@[simp] theorem clean_cons {l : Located} {ls : List Located} :
    Clean (l :: ls) ↔ l.finding.severity ≠ .error ∧ Clean ls := by
  simp [Clean]

@[simp] theorem clean_append {ls ms : List Located} :
    Clean (ls ++ ms) ↔ Clean ls ∧ Clean ms := by
  simp [Clean, or_imp, forall_and]

@[simp] theorem clean_flatMap {α : Type} {xs : List α} {check : α → List Located} :
    Clean (xs.flatMap check) ↔ ∀ x ∈ xs, Clean (check x) := by
  simp only [Clean, List.mem_flatMap]
  constructor
  · intro h x hx l hl
    exact h l ⟨x, hx, hl⟩
  · rintro h l ⟨x, hx, hl⟩
    exact h x hx l hl

/-- A check of every member of a list is clean if all members pass, wherever they
stand. -/
theorem clean_flatMap_zipIdx {α : Type} {xs : List α} {check : α → Nat → List Located}
    {P : α → Prop} (hcheck : ∀ x i, Clean (check x i) ↔ P x) :
    Clean (xs.zipIdx.flatMap fun (x, i) => check x i) ↔ ∀ x ∈ xs, P x := by
  simp only [clean_flatMap, hcheck, Prod.forall, List.mk_mem_zipIdx_iff_getElem?]
  constructor
  · intro h x hx
    obtain ⟨i, hi⟩ := List.mem_iff_getElem?.1 hx
    exact h x i hi
  · intro h x i hi
    exact h x (List.mem_of_getElem? hi)

/-- A check that finds one error or nothing is clean if it does not apply. -/
theorem clean_ite_error {p : Prop} [Decidable p] {l : Located}
    (herror : l.finding.severity = .error) : Clean (if p then [l] else []) ↔ ¬p := by
  split <;> simp_all

theorem report_valid_iff_clean (schema : Schema) :
    (report schema).valid = true ↔ Clean (findings schema) := by
  simp [report, issuesOf, Clean, List.isEmpty_iff, List.filter_eq_nil_iff]

/-! ### Field names -/

theorem clean_nameFindings (label path : String) (keys : List String) (spec : FieldSpec) :
    Clean (nameFindings label path keys spec) ↔
      Callable (Naming.key spec.name) ∧ Naming.key spec.name ∉ keys := by
  simp only [nameFindings, ← isKey_iff]
  cases hkey : Naming.isKey (Naming.key spec.name) with
  | false => simp [locate, Finding.severity]
  | true =>
      by_cases hmem : Naming.key spec.name ∈ keys
      · simp [hmem, locate, Finding.severity]
      · simp [hmem]

/-- The keys of a list are sound beside keys already taken. -/
theorem keysSound_cons_iff {f : Field} {fs : List Field} {keys : List String} :
    (KeysSound (f :: fs) ∧ ∀ g ∈ f :: fs, Naming.key g.name ∉ keys) ↔
      (Callable (Naming.key f.name) ∧ Naming.key f.name ∉ keys) ∧
        KeysSound fs ∧ ∀ g ∈ fs, Naming.key g.name ∉ Naming.key f.name :: keys := by
  constructor
  · rintro ⟨⟨hcallable, hdistinct⟩, hfree⟩
    rw [List.map_cons, List.nodup_cons] at hdistinct
    refine ⟨⟨hcallable f List.mem_cons_self, hfree f List.mem_cons_self⟩,
      ⟨fun g hg => hcallable g (List.mem_cons_of_mem _ hg), hdistinct.2⟩, ?_⟩
    intro g hg
    rw [List.mem_cons, not_or]
    constructor
    · intro heq
      exact hdistinct.1 (List.mem_map.2 ⟨g, hg, heq⟩)
    · exact hfree g (List.mem_cons_of_mem _ hg)
  · rintro ⟨⟨hcallable, hfree⟩, ⟨hcallables, hdistinct⟩, hfrees⟩
    refine ⟨⟨?_, ?_⟩, ?_⟩
    · intro g hg
      rcases List.mem_cons.1 hg with rfl | hg
      · exact hcallable
      · exact hcallables g hg
    · rw [List.map_cons, List.nodup_cons]
      refine ⟨?_, hdistinct⟩
      intro hmem
      obtain ⟨g, hg, heq⟩ := List.mem_map.1 hmem
      exact hfrees g hg (List.mem_cons.2 (Or.inl heq))
    · intro g hg
      rcases List.mem_cons.1 hg with rfl | hg
      · exact hfree
      · exact fun hmem => hfrees g hg (List.mem_cons_of_mem _ hmem)

/-- The lists inside the structures of a field are sound. -/
def NestedSound (f : Field) : Prop :=
  f.kind = .structured → ∀ list, Holds f.nested list → KeysSound list

mutual

/-- A field passes if its own key does, and the lists inside it do. -/
theorem clean_fieldNames (label : String) : ∀ (path : String) (keys : List String) (f : Field),
    Clean (fieldNames label path keys f) ↔
      (Callable (Naming.key f.name) ∧ Naming.key f.name ∉ keys) ∧ NestedSound f
  | path, keys, ⟨spec, nested⟩ => by
      rw [fieldNames, clean_append, clean_nameFindings]
      apply and_congr Iff.rfl
      unfold NestedSound
      by_cases hkind : spec.kind = .structured
      · simp only [hkind, if_true, true_implies]
        rw [clean_fieldListNames label path 0 [] nested, forall_holds_iff]
        simp [NestedSound]
      · simp [hkind]

/-- A list passes if its keys are sound beside those already taken, and so are the lists
inside its structures. -/
theorem clean_fieldListNames (label : String) :
    ∀ (path : String) (index : Nat) (keys : List String) (fields : List Field),
    Clean (fieldListNames label path index keys fields) ↔
      (KeysSound fields ∧ ∀ f ∈ fields, Naming.key f.name ∉ keys) ∧
        ∀ f ∈ fields, NestedSound f
  | path, index, keys, [] => by
      simp only [fieldListNames, clean_nil, true_iff]
      exact ⟨⟨⟨by simp, by simp⟩, by simp⟩, by simp⟩
  | path, index, keys, f :: fs => by
      rw [fieldListNames, clean_append, clean_fieldNames label _ _ f,
        clean_fieldListNames label _ _ _ fs, keysSound_cons_iff, List.forall_mem_cons]
      tauto

end

/-- The names in an entity's fields pass if the keys of all lists inside are sound. -/
theorem clean_entityNames (label path : String) (fields : List Field) :
    Clean (fieldListNames label path 0 [] fields) ↔
      ∀ list, Holds fields list → KeysSound list := by
  rw [clean_fieldListNames, forall_holds_iff]
  simp [NestedSound]

/-! ### Fields apart from their names -/

theorem clean_noteFindings (path : String) (f : Field) : Clean (noteFindings path f) := by
  intro l hl
  obtain ⟨note, -, hnote⟩ := List.mem_filterMap.1 hl
  cases hkind : note.kind with
  | truncated => simp [hkind] at hnote
  | needsPlugin | lossy | unknownKind =>
      simp only [hkind, Option.some.injEq] at hnote
      subst hnote
      simp [locate, Finding.severity]

theorem clean_depthFindings (path : String) (f : Field) :
    Clean (depthFindings path f) ↔ f.structureDepth ≤ maxStructureDepth := by
  rw [depthFindings, clean_ite_error (by rfl), Nat.not_lt]

theorem clean_demandFindings (ids : List String) (path : String) (f : FieldSpec) :
    Clean (demandFindings ids path f) := by
  rw [demandFindings, clean_append]
  constructor
  · split <;> simp [locate, Finding.severity]
  · split
    · split <;> simp [locate, Finding.severity]
    · exact clean_nil

theorem clean_fieldFindings (ids : List String) (path : String) (f : Field) :
    Clean (fieldFindings ids path f) ↔ f.structureDepth ≤ maxStructureDepth := by
  simp [fieldFindings, clean_noteFindings, clean_depthFindings, clean_demandFindings]

/-! ### Entities -/

theorem clean_contentFindings (path : String) (entity : Entity) :
    Clean (contentFindings path entity) := by
  rw [contentFindings]
  split
  · simp [locate, Finding.severity]
  · split <;> simp [locate, Finding.severity]

theorem clean_identityFindings (path : String) (earlier : List Entity) (entity : Entity) :
    Clean (identityFindings path earlier entity) ↔
      (Text.allBlank entity.id = false ∧ ∀ e ∈ earlier, e.id ≠ entity.id) ∧
        Text.allBlank entity.name = false := by
  rw [identityFindings, clean_append, clean_ite_error (by rfl), Bool.not_eq_true]
  apply and_congr _ Iff.rfl
  cases hblank : Text.allBlank entity.id with
  | true => simp [locate, Finding.severity]
  | false =>
      rw [if_neg (by simp), clean_ite_error (by rfl)]
      simp

/-- Among entities that have ids, and other ids than this one, every entity of the same
output name is a rival. -/
theorem rival?_eq_none_iff {outputName : Entity → String} {earlier : List Entity}
    {entity : Entity} (hfilled : ∀ e ∈ earlier, Text.allBlank e.id = false)
    (hids : ∀ e ∈ earlier, e.id ≠ entity.id) :
    rival? outputName earlier entity = none ↔
      ∀ e ∈ earlier, outputName e ≠ outputName entity := by
  rw [rival?]
  constructor
  · intro hnone e he hname
    have hfound : (earlier.find? fun e =>
        !Text.allBlank e.id && outputName e == outputName entity).isSome = true := by
      rw [List.find?_isSome]
      exact ⟨e, he, by simp [hfilled e he, hname]⟩
    obtain ⟨rival, hrival⟩ := Option.isSome_iff_exists.1 hfound
    have hmem : rival ∈ earlier := List.mem_of_find?_eq_some hrival
    rw [hrival] at hnone
    simp [Option.filter, hids rival hmem] at hnone
  · intro hnames
    have hnone : (earlier.find? fun e =>
        !Text.allBlank e.id && outputName e == outputName entity) = none := by
      rw [List.find?_eq_none]
      intro e he
      simp [hnames e he]
    rw [hnone]
    rfl

theorem clean_outputFindings {path : String} {earlier : List Entity} {entity : Entity}
    (hfilled : ∀ e ∈ earlier, Text.allBlank e.id = false)
    (hid : Text.allBlank entity.id = false) (hids : ∀ e ∈ earlier, e.id ≠ entity.id) :
    Clean (outputFindings path earlier entity) ↔
      (templateOf entity ∉ reservedTemplates ∧
        ∀ e ∈ earlier, templateOf e ≠ templateOf entity) ∧
      (collectionOf entity ∉ reservedCollections ∧
        ∀ e ∈ earlier, collectionOf e ≠ collectionOf entity) := by
  rw [outputFindings, if_neg (by simp [hid])]
  simp only [clean_append]
  rw [clean_ite_error (by rfl), clean_ite_error (by rfl), ← rival?_eq_none_iff hfilled hids,
    ← rival?_eq_none_iff hfilled hids, List.contains_iff_mem, List.contains_iff_mem]
  rw [show (fun e : Entity => Naming.template e.id) = templateOf from rfl]
  cases rival? templateOf earlier entity with
  | some other => simp [locate, Finding.severity]
  | none =>
      cases rival? collectionOf earlier entity with
      | some other => simp [locate, Finding.severity]
      | none => simp [templateOf]

theorem clean_entityFindings {ids : List String} {path : String} {earlier : List Entity}
    {entity : Entity} (hfilled : ∀ e ∈ earlier, Text.allBlank e.id = false) :
    Clean (entityFindings ids path earlier entity) ↔
      EntitySound entity ∧ ∀ e ∈ earlier, Apart e entity := by
  rw [entityFindings]
  simp only [clean_append, clean_identityFindings, clean_contentFindings, clean_entityNames,
    clean_flatMap_zipIdx fun f i => clean_fieldFindings ids (path ++ indexed ".fields" i) f]
  constructor
  · rintro ⟨⟨⟨⟨⟨⟨hid, hids⟩, hname⟩, -⟩, hkeys⟩, hdepth⟩, houtput⟩
    obtain ⟨⟨htemplate, htemplates⟩, hcollection, hcollections⟩ :=
      (clean_outputFindings hfilled hid hids).1 houtput
    refine ⟨⟨hid, hname, htemplate, hcollection, forall_listSound_iff.2 ⟨hkeys, hdepth⟩⟩, ?_⟩
    intro e he
    exact ⟨hids e he, htemplates e he, hcollections e he⟩
  · rintro ⟨hsound, hapart⟩
    obtain ⟨hkeys, hdepth⟩ := forall_listSound_iff.1 hsound.fields_sound
    have hids : ∀ e ∈ earlier, e.id ≠ entity.id := fun e he => (hapart e he).id
    refine ⟨⟨⟨⟨⟨⟨hsound.id_filled, hids⟩, hsound.name_filled⟩, trivial⟩, hkeys⟩, hdepth⟩, ?_⟩
    exact (clean_outputFindings hfilled hsound.id_filled hids).2
      ⟨⟨hsound.template_free, fun e he => (hapart e he).template⟩,
        hsound.collection_free, fun e he => (hapart e he).collection⟩

/-- The entities from a position on pass if each is sound, and apart from all before it. -/
theorem clean_entitiesFindings {ids : List String} :
    ∀ {earlier entities : List Entity},
      (∀ e ∈ earlier, Text.allBlank e.id = false) →
        (Clean (entitiesFindings ids earlier entities) ↔
          (∀ e ∈ entities, EntitySound e) ∧ entities.Pairwise Apart ∧
            ∀ e ∈ earlier, ∀ e' ∈ entities, Apart e e')
  | earlier, [], _ => by
      simp [entitiesFindings]
  | earlier, entity :: entities, hfilled => by
      rw [entitiesFindings, clean_append, clean_entityFindings hfilled]
      have hnext (hsound : EntitySound entity) :
          ∀ e ∈ earlier ++ [entity], Text.allBlank e.id = false := by
        intro e he
        rcases List.mem_append.1 he with he | he
        · exact hfilled e he
        · rw [List.mem_singleton.1 he]
          exact hsound.id_filled
      constructor
      · rintro ⟨⟨hsound, hapart⟩, hrest⟩
        obtain ⟨hsounds, hpairs, haparts⟩ := (clean_entitiesFindings (hnext hsound)).1 hrest
        refine ⟨List.forall_mem_cons.2 ⟨hsound, hsounds⟩, List.pairwise_cons.2 ⟨?_, hpairs⟩, ?_⟩
        · intro e' he'
          exact haparts entity (by simp) e' he'
        · intro e he e' he'
          rcases List.mem_cons.1 he' with rfl | he'
          · exact hapart e he
          · exact haparts e (List.mem_append_left _ he) e' he'
      · rintro ⟨hsounds, hpairs, haparts⟩
        obtain ⟨hsound, hsounds⟩ := List.forall_mem_cons.1 hsounds
        obtain ⟨hfirst, hpairs⟩ := List.pairwise_cons.1 hpairs
        refine ⟨⟨hsound, fun e he => haparts e he entity List.mem_cons_self⟩, ?_⟩
        refine (clean_entitiesFindings (hnext hsound)).2 ⟨hsounds, hpairs, ?_⟩
        intro e he e' he'
        rcases List.mem_append.1 he with he | he
        · exact haparts e he e' (List.mem_cons_of_mem _ he')
        · rw [List.mem_singleton.1 he]
          exact hfirst e' he'

/-! ### Schemas -/

theorem clean_relationshipFindings (ids : List String) (index : Nat) (r : Relationship) :
    Clean (relationshipFindings ids index r) ↔ r.source ∈ ids ∧ r.target ∈ ids := by
  simp only [relationshipFindings, clean_append]
  apply and_congr <;> split <;> simp_all [locate, Finding.severity]

theorem clean_findings_iff (schema : Schema) : Clean (findings schema) ↔ Acceptable schema := by
  have hversion : Clean (if (schema.version.map Text.allBlank).getD true
      then [locate "version" .missingVersion] else []) := by
    split <;> simp [locate, Finding.severity]
  have hempty : Clean (if schema.entities.isEmpty then [⟨.noEntities, none⟩] else []) := by
    split <;> simp [Finding.severity]
  have hentities :=
    @clean_entitiesFindings (schema.entities.map (·.id)) [] schema.entities (by simp)
  have hrelationships := @clean_flatMap_zipIdx _ schema.relationships _ _
    fun r i => clean_relationshipFindings (schema.entities.map (·.id)) i r
  rw [findings, acceptable_iff]
  simp only [clean_append, hversion, hempty, hentities, hrelationships]
  simp [Finding.severity, and_assoc]

/-- The checks accept exactly the acceptable schemas. -/
theorem report_valid_iff (schema : Schema) :
    (report schema).valid = true ↔ Acceptable schema := by
  rw [report_valid_iff_clean, clean_findings_iff]

end Portfolio.Validation
