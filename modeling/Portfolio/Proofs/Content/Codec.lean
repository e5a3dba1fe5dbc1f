/-
Module: Portfolio.Proofs.Content.Codec
Purpose: Items and collections come back from what is written of them.
Main exports: Item.codec_yields, Collection.codec_yields
-/
import Portfolio.Content.Basic
import Portfolio.Proofs.Schema.Codec

namespace Portfolio

open Document (Shape Codec readKeeps_part)
open Document.Codec

/-- Statuses that are not known have a name in common, which is not known either. -/
@[simp] theorem EditorialStatus.codec_restores (s : EditorialStatus) :
    EditorialStatus.codec.Restores s := by
  cases s with
  | draft | published | archived | other => exact choice_restores rfl

theorem ItemMetadata.sound : ItemMetadata.shape.Sound where
  names_distinct := by decide
  members_commute := by simp [ItemMetadata.shape]

@[simp] theorem ItemMetadata.codec_restores (m : ItemMetadata) :
    ItemMetadata.shape.codec.Restores m := by
  apply ItemMetadata.sound.restores
  simp [ItemMetadata.shape]

theorem Item.sound : Item.shape.Sound where
  names_distinct := by decide
  members_commute := by simp [Item.shape]

theorem Item.codec_yields : Item.codec.Yields Item.codec.Restores := by
  refine Item.sound.yields_restores
    (fun x => ∀ e ∈ x.fields.entries, Codec.value.Restores e.2) ?_ ?_ ?_
  · exact List.forall_mem_nil _
  · simp [Item.shape, readKeeps_part (map_yields value_yields)]
  · intro x hfields
    simp [Item.shape, map_restores hfields]

theorem CollectionMetadata.sound : CollectionMetadata.shape.Sound where
  names_distinct := by decide
  members_commute := by simp [CollectionMetadata.shape]

@[simp] theorem CollectionMetadata.codec_restores (m : CollectionMetadata) :
    CollectionMetadata.shape.codec.Restores m := by
  apply CollectionMetadata.sound.restores
  simp [CollectionMetadata.shape]

theorem Collection.sound : Collection.shape.Sound where
  names_distinct := by decide
  members_commute := by simp [Collection.shape]

theorem Collection.codec_yields : Collection.codec.Yields Collection.codec.Restores := by
  have hschema : Collection.codec.Yields fun x => Schema.codec.Restores x.schema := by
    refine Shape.yields ?_ ?_
    · exact Schema.codec_yields (.map []) {} rfl
    · simp [Collection.shape, readKeeps_part Schema.codec_yields]
  have hcontent : Collection.codec.Yields
      fun x => ∀ e ∈ x.content.entries, (Codec.list Item.codec).Restores e.2 := by
    have hitems : (Codec.list Item.codec).Yields (Codec.list Item.codec).Restores :=
      (list_yields Item.codec_yields).imp fun _ => list_restores
    refine Shape.yields (List.forall_mem_nil _) ?_
    simp [Collection.shape, readKeeps_part (map_yields hitems)]
  intro tree x hread
  apply Collection.sound.restores
  simp [Collection.shape, hschema tree x hread, map_restores (hcontent tree x hread)]

end Portfolio
