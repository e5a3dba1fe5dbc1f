/-
Module: Portfolio.Proofs.Schema.Codec
Purpose: Content models come back from what is written of them.
Main exports: Entity.codec_yields, Relationship.codec_restores, Schema.codec_yields
-/
import Portfolio.Proofs.Schema.Field

namespace Portfolio

open Document (readKeeps_part)
open Document.Codec

theorem Entity.sound : Entity.shape.Sound where
  names_distinct := by decide
  members_commute := by simp [Entity.shape]

theorem Entity.codec_yields : Entity.codec.Yields Entity.codec.Restores := by
  refine Entity.sound.yields_restores (fun x => ∀ f ∈ x.fields, Field.codec.Restores f) ?_ ?_ ?_
  · exact List.forall_mem_nil _
  · simp [Entity.shape, readKeeps_part (list_yields Field.codec_yields)]
  · intro x hfields
    simp [Entity.shape, list_restores hfields]

@[simp] theorem Cardinality.codec_restores (c : Cardinality) : Cardinality.codec.Restores c := by
  cases c with
  | oneToOne | oneToMany | manyToMany => exact choice_restores rfl

theorem Relationship.sound : Relationship.shape.Sound where
  names_distinct := by decide
  members_commute := by simp [Relationship.shape]

/-- The older spelling of a label is read, and the other one is written. -/
@[simp] theorem Relationship.codec_restores (r : Relationship) :
    Relationship.shape.codec.Restores r := by
  apply Relationship.sound.restores
  simp [Relationship.shape]

theorem SchemaMetadata.sound : SchemaMetadata.shape.Sound where
  names_distinct := by decide
  members_commute := by simp [SchemaMetadata.shape]

@[simp] theorem SchemaMetadata.codec_restores (m : SchemaMetadata) :
    SchemaMetadata.shape.codec.Restores m := by
  apply SchemaMetadata.sound.restores
  simp [SchemaMetadata.shape]

theorem Schema.sound : Schema.shape.Sound where
  names_distinct := by decide
  members_commute := by simp [Schema.shape]

theorem Schema.codec_yields : Schema.codec.Yields Schema.codec.Restores := by
  refine Schema.sound.yields_restores
    (fun x => ∀ e ∈ x.entities, Entity.codec.Restores e) ?_ ?_ ?_
  · exact List.forall_mem_nil _
  · simp [Schema.shape, readKeeps_part (list_yields Entity.codec_yields)]
  · intro x hentities
    simp [Schema.shape, list_restores hentities]

end Portfolio
