/-
Module: Portfolio.Content.Basic
Purpose: The items of a portfolio, grouped by the entity they belong to, and their
  documents.
Main exports: Item, EditorialStatus, Collection, Item.codec, Collection.codec
-/
import Portfolio.Schema.Codec

namespace Portfolio

open Document (Shape Member Codec)

/-- How far an item has come. Statuses that are not known count as `other`. -/
inductive EditorialStatus where
  | draft
  | published
  | archived
  | other
  deriving DecidableEq, Repr, Inhabited

namespace EditorialStatus

/-- The statuses with a name of their own. -/
def known : List (String × EditorialStatus) :=
  [("draft", .draft), ("published", .published), ("archived", .archived)]

/-- The status of a name. -/
def ofName (name : String) : EditorialStatus := (known.lookup name).getD .other

def name : EditorialStatus → String
  | .draft => "draft"
  | .published => "published"
  | .archived => "archived"
  | .other => "other"

/-- Statuses by name. Every name is read. -/
def codec : Codec Value EditorialStatus := .choice known (some .other) name

end EditorialStatus

/-- What is known of an item beside its fields. Times are kept as they were written. -/
structure ItemMetadata where
  slug : Option String := none
  status : EditorialStatus := .draft
  createdAt : String := ""
  updatedAt : String := ""
  author : Option String := none
  publishedAt : Option String := none
  deriving DecidableEq, Repr, Inhabited

/-- One piece of content. -/
structure Item where
  id : String := ""
  /-- The id of the entity that the item belongs to. -/
  entityType : String := ""
  fields : SortedMap Value := .empty
  metadata : ItemMetadata := {}
  deriving DecidableEq, Repr, Inhabited

/-- The value of a field. Null counts as absent. -/
def Item.value? (item : Item) (name : String) : Option Value :=
  (item.fields.get? name).filter fun v => !v.isNull

/-- Where a collection comes from. -/
structure CollectionMetadata where
  generatedAt : Option String := none
  generator : Option String := none
  version : Option String := none
  deriving DecidableEq, Repr, Inhabited

/-- Items by entity id, with the schema they were made for. -/
structure Collection where
  schema : Schema := {}
  content : SortedMap (List Item) := .empty
  metadata : CollectionMetadata := {}
  deriving Repr, Inhabited

namespace Collection

/-- All items, in the order of their entities' ids. -/
def items (c : Collection) : List Item := c.content.values.flatten

/-- The number of all items. -/
def itemCount (c : Collection) : Nat := c.content.values.flatten.length

end Collection

/-! ### Documents -/

def ItemMetadata.shape : Shape Value ItemMetadata where
  title := "ItemMetadata"
  blank := {}
  members := [
    .optional "slug" .text (·.slug) fun y x => { x with slug := y },
    .defaulted "status" EditorialStatus.codec (·.status) fun y x => { x with status := y },
    .needed "createdAt" .text (·.createdAt) fun y x => { x with createdAt := y },
    .needed "updatedAt" .text (·.updatedAt) fun y x => { x with updatedAt := y },
    .optional "author" .text (·.author) fun y x => { x with author := y },
    .optional "publishedAt" .text (·.publishedAt) fun y x => { x with publishedAt := y }]

def Item.shape : Shape Value Item where
  title := "ContentItem"
  blank := {}
  members := [
    .needed "id" .text (·.id) fun y x => { x with id := y },
    .needed "entityType" .text (·.entityType) fun y x => { x with entityType := y },
    .defaulted "fields" (.map .value) (·.fields) fun y x => { x with fields := y },
    .needed "metadata" ItemMetadata.shape.codec (·.metadata)
      fun y x => { x with metadata := y }]

def Item.codec : Codec Value Item := Item.shape.codec

def CollectionMetadata.shape : Shape Value CollectionMetadata where
  title := "CollectionMetadata"
  blank := {}
  members := [
    .optional "generatedAt" .text (·.generatedAt) fun y x => { x with generatedAt := y },
    .optional "generator" .text (·.generator) fun y x => { x with generator := y },
    .optional "version" .text (·.version) fun y x => { x with version := y }]

def Collection.shape : Shape Value Collection where
  title := "StructuredContentCollection"
  blank := {}
  members := [
    .needed "schema" Schema.codec (·.schema) fun y x => { x with schema := y },
    .defaulted "content" (.map (.list Item.codec)) (·.content)
      fun y x => { x with content := y },
    .defaulted "metadata" CollectionMetadata.shape.codec (·.metadata)
      fun y x => { x with metadata := y }]

def Collection.codec : Codec Value Collection := Collection.shape.codec

end Portfolio
