/-
Module: Portfolio.Proofs.Site.Nesting
Purpose: Panel, templates, notes and checks agree on how deep structures may nest.
Main exports: Site.nesting_agrees
-/
import Portfolio.Proofs.Panel.Nesting
import Portfolio.Proofs.Template.Nesting
import Portfolio.Proofs.Validation.Depth

namespace Portfolio.Site

open Validation (ReportsTooDeep fieldPlace)

/-- The files of an entity's structures, field by field. -/
theorem entityFiles_eq_flatMap (entity : Entity) :
    Template.entityFiles entity = Template.pageFile entity ::
      entity.fields.flatMap fun f =>
        (f.nodes.filter Node.shown).map (Template.nodeFile entity) := by
  rw [Template.entityFiles_eq, Entity.shownNodes, Entity.nodes, List.filter_flatMap,
    List.map_flatMap]

/-- All passes over a field count structures alike. Down to the depth limit a structure has
its fields in the form, and one snippet named by the keys that lead to it; one level below
it has a form without fields, no snippet and one note; further down it has nothing. The
field nests too deep if there is such a note, and then an error is reported for it. A field
that does not is shown whole. -/
theorem nesting_agrees (f : Field) :
    Panel.outline (Naming.key f.name) (Panel.Field.ofField f) =
        (f.nodes.filter Panel.hasRows).map Panel.nodeRows ∧
      (∀ entity, Template.entityFiles entity = Template.pageFile entity ::
        entity.fields.flatMap fun g =>
          (g.nodes.filter Node.shown).map (Template.nodeFile entity)) ∧
      (Panel.notes f).filter Panel.isTruncated = (f.nodes.filter Node.cut).map Panel.cutNote ∧
      (maxStructureDepth < f.structureDepth ↔
        ∃ note ∈ Panel.notes f, note.kind = .truncated) ∧
      (∀ (schema : Schema) (i j : Nat) (entity : Entity),
        schema.entities[i]? = some entity → entity.fields[j]? = some f →
          (ReportsTooDeep schema (fieldPlace i j) ↔ maxStructureDepth < f.structureDepth)) ∧
      (f.structureDepth ≤ maxStructureDepth → Panel.Mirrors f (Panel.Field.ofField f)) := by
  refine ⟨Panel.outline_ofField f, entityFiles_eq_flatMap, Panel.truncated_notes f,
    Panel.structureDepth_lt_iff_truncated f, ?_, Panel.mirrors_ofField⟩
  intro schema i j entity hentity hfield
  exact Validation.reported_tooDeep_iff hentity hfield

/-- A field with three structures in each other, and one around them. -/
def sides : Field := .named "Sides" .structured [.named "tracks" .structured [
  .named "takes" .structured [.named "length" .number []]]]

def discs : Field := .named "Discs" .structured [sides]

/-- A schema with an entity that has both fields. -/
def albumSchema : Schema :=
  { version := some "1.0.0"
    entities := [{ id := "album", name := "Album", fields := [sides, discs] }] }

/-- Three structures are shown whole, and the fourth is reported. -/
theorem nesting_agrees_albumSchema :
    Panel.Mirrors sides (Panel.Field.ofField sides) ∧
      ReportsTooDeep albumSchema "entities[0].fields[1]" ∧
      ¬ ReportsTooDeep albumSchema "entities[0].fields[0]" := by
  obtain ⟨-, -, -, -, hsides, hmirrors⟩ := nesting_agrees sides
  obtain ⟨-, -, -, -, hdiscs, -⟩ := nesting_agrees discs
  refine ⟨hmirrors (by decide), (hdiscs albumSchema 0 1 _ rfl rfl).2 (by decide), ?_⟩
  rw [show "entities[0].fields[0]" = fieldPlace 0 0 from by decide +kernel,
    hsides albumSchema 0 0 _ rfl rfl]
  decide

end Portfolio.Site
