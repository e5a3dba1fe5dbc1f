/-
Module: Portfolio.Proofs.Validation.Depth
Purpose: The checks of a schema find a structure nested too deep exactly at the fields that
  nest deeper than the limit, once for each.
Main exports: Validation.tooDeep_findings, Validation.reported_tooDeep_iff
-/
import Portfolio.Proofs.Validation.Origin

namespace Portfolio.Validation

/-! ### Findings -/

/-- A finding of a structure nested too deep. -/
def isTooDeep (l : Located) : Bool := l.finding.code == "structure-too-deep"

/-- The findings of structures nested too deep. -/
def tooDeep (found : List Located) : List Located := found.filter isTooDeep

/-- The findings of structures nested too deep in the fields of an entity. -/
def entityDepthFindings (entity : Entity) (index : Nat) : List Located :=
  entity.fields.zipIdx.flatMap fun (f, i) => depthFindings (fieldPlace index i) f

/-- The checks of a schema find structures nested too deep in the fields of the entities, in
their order, and nowhere else. -/
theorem tooDeep_findings (schema : Schema) :
    tooDeep (findings schema) =
      schema.entities.zipIdx.flatMap fun (entity, index) => entityDepthFindings entity index := by
  have hcontent (path : String) (entity : Entity) :
      select (· == "structure-too-deep") (contentFindings path entity) = [] :=
    select_eq_nil (codesIn_contentFindings path entity) (by decide)
  have hnotes (path : String) (f : Field) :
      select (· == "structure-too-deep") (noteFindings path f) = [] :=
    select_eq_nil (codesIn_noteFindings path f) (by decide)
  have hdepth (path : String) (f : Field) :
      select (· == "structure-too-deep") (depthFindings path f) = depthFindings path f :=
    select_eq_self (codesIn_depthFindings path f) (by decide)
  change select (· == "structure-too-deep") (findings schema) = _
  rw [select_findings (by decide)]
  simp only [hcontent, hnotes, hdepth, List.nil_append]
  rfl

/-! ### Report -/

theorem mem_depthFindings {path : String} {f : Field} {l : Located} :
    l ∈ depthFindings path f ↔ maxStructureDepth < f.structureDepth ∧
      l = locate path (.structureTooDeep f.name f.structureDepth) := by
  rw [depthFindings]
  split
  · simp [*]
  · simp only [List.not_mem_nil, false_iff]
    exact fun h => absurd h.1 ‹_›

/-- A structure nested too deep is found at the place of a field that nests too deep. -/
theorem mem_tooDeep_findings {schema : Schema} {l : Located} :
    l ∈ tooDeep (findings schema) ↔
      ∃ entity i, schema.entities[i]? = some entity ∧ ∃ f j, entity.fields[j]? = some f ∧
        maxStructureDepth < f.structureDepth ∧
          l = locate (fieldPlace i j) (.structureTooDeep f.name f.structureDepth) := by
  simp only [tooDeep_findings, entityDepthFindings, List.mem_flatMap, Prod.exists,
    List.mk_mem_zipIdx_iff_getElem?, mem_depthFindings]

/-- The report holds the error of a structure nested too deep at the place of a field. -/
def ReportsTooDeep (schema : Schema) (place : String) : Prop :=
  ∃ issue ∈ (report schema).errors,
    issue.code = "structure-too-deep" ∧ issue.path = some place

/-- The errors of that kind are the findings of that kind. -/
theorem reportsTooDeep_iff {schema : Schema} {place : String} :
    ReportsTooDeep schema place ↔ ∃ l ∈ tooDeep (findings schema), l.path = some place := by
  constructor
  · rintro ⟨issue, hissue, hcode, hpath⟩
    simp only [report, issuesOf, List.mem_map, List.mem_filter] at hissue
    obtain ⟨l, ⟨hl, -⟩, rfl⟩ := hissue
    exact ⟨l, List.mem_filter.2 ⟨hl, beq_iff_eq.2 hcode⟩, hpath⟩
  · rintro ⟨l, hl, hpath⟩
    obtain ⟨hmem, hcode⟩ := List.mem_filter.1 hl
    obtain ⟨entity, i, -, f, j, -, -, hfinding⟩ := mem_tooDeep_findings.1 hl
    have hseverity : l.finding.severity = .error := by
      rw [hfinding]
      rfl
    refine ⟨l.issue, ?_, beq_iff_eq.1 hcode, hpath⟩
    exact List.mem_map_of_mem (List.mem_filter.2 ⟨hmem, beq_iff_eq.2 hseverity⟩)

/-- The error is reported at a field exactly if the field nests too deep. -/
theorem reported_tooDeep_iff {schema : Schema} {i j : Nat} {entity : Entity} {f : Field}
    (hentity : schema.entities[i]? = some entity) (hfield : entity.fields[j]? = some f) :
    ReportsTooDeep schema (fieldPlace i j) ↔ maxStructureDepth < f.structureDepth := by
  rw [reportsTooDeep_iff]
  constructor
  · rintro ⟨l, hl, hpath⟩
    obtain ⟨entity', i', hentity', f', j', hfield', hdeep, hfinding⟩ := mem_tooDeep_findings.1 hl
    rw [hfinding, locate, Option.some.injEq] at hpath
    -- Places are distinct, so it is the same field.
    obtain ⟨rfl, rfl⟩ := fieldPlace_injective hpath
    obtain rfl : entity = entity' := Option.some.inj (hentity.symm.trans hentity')
    obtain rfl : f = f' := Option.some.inj (hfield.symm.trans hfield')
    exact hdeep
  · intro hdeep
    exact ⟨_, mem_tooDeep_findings.2 ⟨entity, i, hentity, f, j, hfield, hdeep, rfl⟩, rfl⟩

end Portfolio.Validation
