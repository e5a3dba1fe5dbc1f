/-
Module: Portfolio.Proofs.Validation.Origin
Purpose: Which check a finding comes from. Every check has codes of its own, so the findings of
  some codes can be followed from the report back to the entities and fields they are about.
Main exports: Validation.fieldPlace, Validation.fieldPlace_injective, Validation.CodesIn,
  Validation.select, Validation.select_findings, Validation.filter_issuesOf
-/
import Mathlib.Data.List.Basic
import Portfolio.Proofs.Text.Numeral
import Portfolio.Validation.Basic

namespace Portfolio.Validation

/-! ### Places -/

/-- The place of a field in the list of an entity. -/
def fieldPlace (entity field : Nat) : String :=
  indexed "entities" entity ++ indexed ".fields" field

/-- An index ends at its bracket. -/
theorem eq_of_indexed_append {list : String} {i j : Nat} {xs ys : List Char}
    (h : (indexed list i).toList ++ xs = (indexed list j).toList ++ ys) : i = j ∧ xs = ys := by
  have hchars (n : Nat) (rest : List Char) : (indexed list n).toList ++ rest =
      (list.toList ++ ['[']) ++ ((Text.decimal n).toList ++ ']' :: rest) := by
    simp [indexed]
  rw [hchars, hchars, List.append_cancel_left_eq] at h
  exact Text.eq_of_decimal_append (by decide) h

theorem indexed_injective (list : String) {i j : Nat} (h : indexed list i = indexed list j) :
    i = j := by
  have hlist : (indexed list i).toList ++ [] = (indexed list j).toList ++ [] := by rw [h]
  exact (eq_of_indexed_append hlist).1

/-- Two fields of a schema have different places. -/
theorem fieldPlace_injective {i j k l : Nat} (h : fieldPlace i j = fieldPlace k l) :
    i = k ∧ j = l := by
  have hlist : (indexed "entities" i).toList ++ (indexed ".fields" j).toList =
      (indexed "entities" k).toList ++ (indexed ".fields" l).toList := by
    simpa only [fieldPlace, String.toList_append] using congrArg String.toList h
  obtain ⟨hentity, hfield⟩ := eq_of_indexed_append hlist
  exact ⟨hentity, indexed_injective ".fields" (String.toList_injective hfield)⟩

/-! ### Codes of checks -/

/-- All findings have one of the codes. -/
def CodesIn (codes : List String) (found : List Located) : Prop :=
  ∀ l ∈ found, l.finding.code ∈ codes

section
variable {codes : List String}

@[simp] theorem codesIn_nil : CodesIn codes [] := by
  simp [CodesIn]

@[simp] theorem codesIn_cons {l : Located} {ls : List Located} :
    CodesIn codes (l :: ls) ↔ l.finding.code ∈ codes ∧ CodesIn codes ls := by
  simp [CodesIn]

@[simp] theorem codesIn_append {found more : List Located} :
    CodesIn codes (found ++ more) ↔ CodesIn codes found ∧ CodesIn codes more := by
  simp [CodesIn, or_imp, forall_and]

@[simp] theorem codesIn_flatMap {α : Type} {xs : List α} {check : α → List Located} :
    CodesIn codes (xs.flatMap check) ↔ ∀ x ∈ xs, CodesIn codes (check x) := by
  simp only [CodesIn, List.mem_flatMap]
  constructor
  · intro h x hx l hl
    exact h l ⟨x, hx, hl⟩
  · rintro h l ⟨x, hx, hl⟩
    exact h x hx l hl

end

/-- The codes of findings that are not about the title of an entity, what the panel cannot show,
or the depth of a field. -/
def otherCodes : List String :=
  ["missing-version", "no-entities", "missing-entity-id", "duplicate-entity-id",
    "missing-entity-name", "invalid-field-name", "duplicate-field-name", "unique-not-supported",
    "unknown-target-entity", "reserved-template-name", "duplicate-template-name",
    "reserved-collection", "duplicate-collection", "unknown-relationship-from",
    "unknown-relationship-to", "entity-count", "field-count", "relationship-count"]

theorem codesIn_nameFindings (label path : String) (keys : List String) (spec : FieldSpec) :
    CodesIn otherCodes (nameFindings label path keys spec) := by
  rw [nameFindings]
  split
  · simp [locate, Finding.code, otherCodes]
  · split <;> simp [locate, Finding.code, otherCodes]

mutual

theorem codesIn_fieldNames (label : String) :
    ∀ (path : String) (keys : List String) (f : Field),
      CodesIn otherCodes (fieldNames label path keys f)
  | path, keys, ⟨spec, nested⟩ => by
      rw [fieldNames, codesIn_append]
      refine ⟨codesIn_nameFindings label path keys spec, ?_⟩
      split
      · exact codesIn_fieldListNames label path 0 [] nested
      · exact codesIn_nil

theorem codesIn_fieldListNames (label : String) :
    ∀ (path : String) (index : Nat) (keys : List String) (fields : List Field),
      CodesIn otherCodes (fieldListNames label path index keys fields)
  | _, _, _, [] => by simp [fieldListNames]
  | path, index, keys, f :: fs => by
      rw [fieldListNames, codesIn_append]
      exact ⟨codesIn_fieldNames label _ keys f, codesIn_fieldListNames label path _ _ fs⟩

end

theorem codesIn_demandFindings (ids : List String) (path : String) (f : FieldSpec) :
    CodesIn otherCodes (demandFindings ids path f) := by
  unfold demandFindings
  rw [codesIn_append]
  constructor
  · split <;> simp [locate, Finding.code, otherCodes]
  · split
    · split <;> simp [locate, Finding.code, otherCodes]
    · exact codesIn_nil

theorem codesIn_identityFindings (path : String) (earlier : List Entity) (entity : Entity) :
    CodesIn otherCodes (identityFindings path earlier entity) := by
  unfold identityFindings
  rw [codesIn_append]
  constructor
  · split
    · simp [locate, Finding.code, otherCodes]
    · split <;> simp [locate, Finding.code, otherCodes]
  · split <;> simp [locate, Finding.code, otherCodes]

theorem codesIn_outputFindings (path : String) (earlier : List Entity) (entity : Entity) :
    CodesIn otherCodes (outputFindings path earlier entity) := by
  unfold outputFindings
  split
  · exact codesIn_nil
  · simp only [codesIn_append]
    refine ⟨⟨⟨?_, ?_⟩, ?_⟩, ?_⟩ <;> split <;> simp [locate, Finding.code, otherCodes]

theorem codesIn_relationshipFindings (ids : List String) (index : Nat) (r : Relationship) :
    CodesIn otherCodes (relationshipFindings ids index r) := by
  unfold relationshipFindings
  simp only [codesIn_append]
  constructor <;> split <;> simp [locate, Finding.code, otherCodes]

theorem codesIn_relationships (ids : List String) (rs : List Relationship) :
    CodesIn otherCodes (rs.zipIdx.flatMap fun (r, i) => relationshipFindings ids i r) :=
  codesIn_flatMap.2 fun entry _ => codesIn_relationshipFindings ids entry.2 entry.1

/-- What is found in the content of an entity is that it has no fields, or no title. -/
theorem codesIn_contentFindings (path : String) (entity : Entity) :
    CodesIn ["empty-entity", "no-title-field"] (contentFindings path entity) := by
  unfold contentFindings
  split
  · simp [locate, Finding.code]
  · split <;> simp [locate, Finding.code]

theorem codesIn_depthFindings (path : String) (f : Field) :
    CodesIn ["structure-too-deep"] (depthFindings path f) := by
  unfold depthFindings
  split <;> simp [locate, Finding.code]

/-- The codes of findings on what the panel cannot show. -/
def gapCodes : List String := ["compatibility-note", "unknown-field-type"]

theorem codesIn_noteFindings (path : String) (f : Field) :
    CodesIn gapCodes (noteFindings path f) := by
  intro l hl
  obtain ⟨note, -, hnote⟩ := List.mem_filterMap.1 hl
  cases hkind : note.kind with
  | truncated => simp [hkind] at hnote
  | needsPlugin | lossy | unknownKind =>
      simp only [hkind, Option.some.injEq] at hnote
      subst hnote
      simp [gapCodes, locate, Finding.code]

/-! ### Findings by code -/

/-- The findings of the wanted codes. -/
def select (wanted : String → Bool) (found : List Located) : List Located :=
  found.filter fun l => wanted l.finding.code

section
variable {wanted : String → Bool}

@[simp] theorem select_nil : select wanted [] = [] := rfl

@[simp] theorem select_append (found more : List Located) :
    select wanted (found ++ more) = select wanted found ++ select wanted more :=
  List.filter_append found more

@[simp] theorem select_flatMap {α : Type} (xs : List α) (check : α → List Located) :
    select wanted (xs.flatMap check) = xs.flatMap fun x => select wanted (check x) :=
  List.filter_flatMap

theorem select_eq_nil {codes : List String} {found : List Located} (h : CodesIn codes found)
    (hcodes : ∀ code ∈ codes, wanted code = false) : select wanted found = [] := by
  apply List.filter_eq_nil_iff.2
  intro l hl
  simp [hcodes _ (h l hl)]

theorem select_eq_self {codes : List String} {found : List Located} (h : CodesIn codes found)
    (hcodes : ∀ code ∈ codes, wanted code = true) : select wanted found = found :=
  List.filter_eq_self.2 fun l hl => hcodes _ (h l hl)

variable (hother : ∀ code ∈ otherCodes, wanted code = false)
include hother

theorem select_fieldFindings (ids : List String) (path : String) (f : Field) :
    select wanted (fieldFindings ids path f) =
      select wanted (noteFindings path f) ++ select wanted (depthFindings path f) := by
  have hdemands : select wanted ((allSpecs f).flatMap (demandFindings ids path)) = [] := by
    apply select_eq_nil _ hother
    exact codesIn_flatMap.2 fun spec _ => codesIn_demandFindings ids path spec
  unfold fieldFindings
  rw [select_append, select_append, hdemands, List.append_nil]

/-- The selected findings on the content of an entity, and on its fields one by one. -/
theorem select_entityFindings (ids : List String) (index : Nat) (earlier : List Entity)
    (entity : Entity) :
    select wanted (entityFindings ids (indexed "entities" index) earlier entity) =
      select wanted (contentFindings (indexed "entities" index) entity) ++
        entity.fields.zipIdx.flatMap fun (f, i) =>
          select wanted (noteFindings (fieldPlace index i) f) ++
            select wanted (depthFindings (fieldPlace index i) f) := by
  have hidentity : select wanted
      (identityFindings (indexed "entities" index) earlier entity) = [] :=
    select_eq_nil (codesIn_identityFindings _ _ _) hother
  have hnames : select wanted
      (fieldListNames (entityLabel entity) (indexed "entities" index) 0 [] entity.fields) = [] :=
    select_eq_nil (codesIn_fieldListNames _ _ _ _ _) hother
  have houtput : select wanted (outputFindings (indexed "entities" index) earlier entity) = [] :=
    select_eq_nil (codesIn_outputFindings _ _ _) hother
  unfold entityFindings
  simp only [select_append, select_flatMap, hidentity, hnames, houtput, List.nil_append,
    List.append_nil, select_fieldFindings hother, fieldPlace]

theorem select_entitiesFindings (ids : List String) (earlier entities : List Entity) :
    select wanted (entitiesFindings ids earlier entities) =
      (entities.zipIdx earlier.length).flatMap fun (entity, index) =>
        select wanted (contentFindings (indexed "entities" index) entity) ++
          entity.fields.zipIdx.flatMap fun (f, i) =>
            select wanted (noteFindings (fieldPlace index i) f) ++
              select wanted (depthFindings (fieldPlace index i) f) := by
  induction entities generalizing earlier with
  | nil => simp [entitiesFindings]
  | cons entity entities ih =>
      have hlength : (earlier ++ [entity]).length = earlier.length + 1 := by simp
      rw [entitiesFindings, select_append, select_entityFindings hother, ih, hlength,
        List.zipIdx_cons, List.flatMap_cons]

/-- The selected findings of a schema are those on the content of its entities and on their
fields, in order. -/
theorem select_findings (schema : Schema) :
    select wanted (findings schema) =
      schema.entities.zipIdx.flatMap fun (entity, index) =>
        select wanted (contentFindings (indexed "entities" index) entity) ++
          entity.fields.zipIdx.flatMap fun (f, i) =>
            select wanted (noteFindings (fieldPlace index i) f) ++
              select wanted (depthFindings (fieldPlace index i) f) := by
  have hversion : CodesIn otherCodes (if (schema.version.map Text.allBlank).getD true
      then [locate "version" .missingVersion] else []) := by
    split <;> simp [locate, Finding.code, otherCodes]
  have hempty : CodesIn otherCodes
      (if schema.entities.isEmpty then [⟨.noEntities, none⟩] else []) := by
    split <;> simp [Finding.code, otherCodes]
  have hcounts : CodesIn otherCodes [⟨.entityCount schema.entities.length, none⟩,
      ⟨.fieldCount schema.fieldCount, none⟩,
      ⟨.relationshipCount schema.relationships.length, none⟩] := by
    simp [Finding.code, otherCodes]
  unfold findings
  rw [select_append, select_append, select_append, select_append, select_eq_nil hversion hother,
    select_eq_nil hempty hother, select_eq_nil (codesIn_relationships _ _) hother,
    select_eq_nil hcounts hother, select_entitiesFindings hother]
  simp only [List.nil_append, List.append_nil, List.length_nil]

end

/-! ### Issues by code -/

/-- The issues of the wanted codes are the selected findings. -/
theorem filter_issuesOf (wanted : String → Bool) (severity : Severity) (found : List Located) :
    (issuesOf severity found).filter (fun issue => wanted issue.code) =
      issuesOf severity (select wanted found) := by
  have hswap : (found.filter fun l => l.finding.severity == severity).filter
        (fun l => wanted l.finding.code) =
      (select wanted found).filter fun l => l.finding.severity == severity := by
    simp only [select, List.filter_filter, Bool.and_comm]
  rw [issuesOf, List.filter_map]
  exact congrArg (List.map Located.issue) hswap

/-- Findings of one severity are all issues of it. -/
theorem issuesOf_eq_map {severity : Severity} {found : List Located}
    (h : ∀ l ∈ found, l.finding.severity = severity) :
    issuesOf severity found = found.map Located.issue := by
  have hall : (found.filter fun l => l.finding.severity == severity) = found :=
    List.filter_eq_self.2 fun l hl => beq_iff_eq.2 (h l hl)
  rw [issuesOf, hall]

end Portfolio.Validation
