/-
Module: Portfolio.Proofs.Document.Stability
Purpose: Decoding undoes encoding: a document of any kind that was read and is written again
  reads as the same data, so one pass brings every spelling into its stable form.
Main exports: Document.documents_settle
-/
import Portfolio.Proofs.Content.Codec
import Portfolio.Proofs.Design.Codec

namespace Portfolio.Document

/-- What was read of a schema, an entity, a field, an item, a collection or a design system
comes back from what is written of it, whether its entries stand in the order of writing or
in that of their keys. In particular a field kind keeps its name, known or not. -/
theorem documents_settle :
    Schema.codec.Settles ∧ Entity.codec.Settles ∧ Field.codec.Settles ∧ Item.codec.Settles ∧
      Collection.codec.Settles ∧ Design.codec.Settles ∧
      ∀ s, (FieldKind.ofName s).name = s :=
  ⟨.of_yields Schema.codec_yields, .of_yields Entity.codec_yields,
    .of_yields Field.codec_yields, .of_yields Item.codec_yields,
    .of_yields Collection.codec_yields, .of_yields Design.codec_yields,
    FieldKind.name_ofName⟩

/-- A schema in an old spelling: the label of the other direction is spelled as it used to
be, a field has an unknown kind and null options, and most members are absent. -/
def oldSchema : Value := .map [
  ("relationships", .list [.map [("type", .text "one-to-many"), ("from", .text "gig"),
    ("to", .text "photo"), ("inversLabel", .text "Shown at")]]),
  ("entities", .list [.map [("id", .text "gig"), ("fields", .list [
    .map [("type", .text "stars"), ("name", .text "rating"),
      ("options", .map [("max", .null), ("defaultValue", .null), ("fields", .list [])])]])]])]

/-- An item whose status is not known. -/
def pendingItem : Value := .map [
  ("id", .text "a"), ("entityType", .text "gig"),
  ("metadata", .map [("status", .text "pending"), ("createdAt", .text ""),
    ("updatedAt", .text "")])]

theorem documents_settle_oldSchema :
    (∃ schema, Schema.codec.read oldSchema = .ok schema ∧
      schema.relationships.map (·.inverseLabel) = [some "Shown at"] ∧
      Schema.codec.read (Schema.codec.write schema).sorted = .ok schema) ∧
    ∃ item, Item.codec.read pendingItem = .ok item ∧ item.metadata.status = .other ∧
      Item.codec.read (Item.codec.write item) = .ok item := by
  obtain ⟨hschema, -, -, hitem, -⟩ := documents_settle
  refine ⟨⟨_, rfl, rfl, hschema.stable_sorted oldSchema _ rfl⟩,
    ⟨_, rfl, rfl, hitem.stable pendingItem _ rfl⟩⟩

end Portfolio.Document
