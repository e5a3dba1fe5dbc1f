/-
Module: Portfolio.Schema.Codec
Purpose: Content models as documents.
Main exports: Schema.codec, Entity.codec, Field.codec
-/
import Portfolio.Document.Shape
import Portfolio.Schema.Basic

namespace Portfolio

open Document (Shape Member Codec Failure fail)

/-! ### Parts of a field -/

/-- Field kinds by name. Every name is read. -/
def FieldKind.codec : Codec Value FieldKind where
  read v := (Codec.text.read v).map FieldKind.ofName
  write kind := .text kind.name

def Width.name : Width → String
  | .full => "full"
  | .half => "half"
  | .third => "third"
  | .quarter => "quarter"

def Width.codec : Codec Value Width :=
  .choice [("full", .full), ("half", .half), ("third", .third), ("quarter", .quarter)] none
    Width.name

/-- Choices as documents. -/
def Choice.shape : Shape Value Choice where
  title := "FieldChoice"
  blank := {}
  members := [
    .needed "value" .value (·.value) fun y x => { x with value := y },
    .needed "label" .text (·.label) fun y x => { x with label := y },
    .defaulted "disabled" .bool (·.disabled) fun y x => { x with disabled := y }]

/-- Custom rules as documents. -/
def CustomRule.shape : Shape Value CustomRule where
  title := "ValidationRule"
  blank := {}
  members := [
    .needed "type" .text (·.kind) fun y x => { x with kind := y },
    .defaulted "message" .text (·.message) fun y x => { x with message := y },
    .optional "params" .value (·.params) fun y x => { x with params := y }]

def ValidationRules.shape : Shape Value ValidationRules where
  title := "FieldValidation"
  blank := {}
  members := [
    .optional "required" .bool (·.required) fun y x => { x with required := y },
    .optional "unique" .bool (·.unique) fun y x => { x with unique := y },
    .optional "min" .double (·.min) fun y x => { x with min := y },
    .optional "max" .double (·.max) fun y x => { x with max := y },
    .optional "pattern" .text (·.pattern) fun y x => { x with pattern := y },
    .listed "custom" (.list CustomRule.shape.codec) (·.custom) fun y x => { x with custom := y }]

/-- The options of a field together with its nested fields, which are members of the
options and are read and written by `nested`. -/
def FieldOptions.shape {ρ : Type} (nested : Codec Value ρ) :
    Shape Value (FieldOptions × List ρ) where
  title := "FieldOptions"
  blank := ({}, [])
  members := [
    .optional "minLength" .uint32 (·.1.minLength) fun y x => { x with 1.minLength := y },
    .optional "maxLength" .uint32 (·.1.maxLength) fun y x => { x with 1.maxLength := y },
    .optional "pattern" .text (·.1.pattern) fun y x => { x with 1.pattern := y },
    .optional "min" .double (·.1.min) fun y x => { x with 1.min := y },
    .optional "max" .double (·.1.max) fun y x => { x with 1.max := y },
    .optional "step" .double (·.1.step) fun y x => { x with 1.step := y },
    .listed "choices" (.list Choice.shape.codec) (·.1.choices)
      fun y x => { x with 1.choices := y },
    .optional "allowCustom" .bool (·.1.allowCustom) fun y x => { x with 1.allowCustom := y },
    .listed "accept" (.list .text) (·.1.accept) fun y x => { x with 1.accept := y },
    .optional "maxSize" .uint64 (·.1.maxSize) fun y x => { x with 1.maxSize := y },
    .optional "maxFiles" .uint32 (·.1.maxFiles) fun y x => { x with 1.maxFiles := y },
    .listed "fields" (.list nested) (·.2) fun y x => { x with 2 := y },
    .optional "maxItems" .uint32 (·.1.maxItems) fun y x => { x with 1.maxItems := y },
    .optional "targetEntity" .text (·.1.targetEntity) fun y x => { x with 1.targetEntity := y },
    .optional "multiple" .bool (·.1.multiple) fun y x => { x with 1.multiple := y },
    .listed "allowedBlocks" (.list .text) (·.1.allowedBlocks)
      fun y x => { x with 1.allowedBlocks := y },
    .listed "allowedFormats" (.list .text) (·.1.allowedFormats)
      fun y x => { x with 1.allowedFormats := y },
    .optional "defaultValue" .value (·.1.defaultValue) fun y x => { x with 1.defaultValue := y },
    .optional "readonly" .bool (·.1.readonly) fun y x => { x with 1.readonly := y }]

/-- A field as a document, where `nested` reads and writes the nested fields. -/
def FieldSpec.shape {ρ : Type} (nested : Codec Value ρ) : Shape Value (FieldSpec × List ρ) where
  title := "FieldSchema"
  blank := ({}, [])
  members := [
    .defaulted "id" .text (·.1.id) fun y x => { x with 1.id := y },
    .needed "name" .text (·.1.name) fun y x => { x with 1.name := y },
    .defaulted "label" .text (·.1.label) fun y x => { x with 1.label := y },
    .needed "type" FieldKind.codec (·.1.kind) fun y x => { x with 1.kind := y },
    .defaulted "required" .bool (·.1.required) fun y x => { x with 1.required := y },
    .optional "helpText" .text (·.1.helpText) fun y x => { x with 1.helpText := y },
    .optional "placeholder" .text (·.1.placeholder) fun y x => { x with 1.placeholder := y },
    .optional "width" Width.codec (·.1.width) fun y x => { x with 1.width := y },
    .defaulted "options" (FieldOptions.shape nested).codec (fun x => (x.1.options, x.2))
      fun y x => ({ x.1 with options := y.1 }, y.2),
    .optional "validation" ValidationRules.shape.codec (·.1.validation)
      fun y x => { x with 1.validation := y }]

/-! ### Fields -/

namespace Field

/-- Reads a field inside which fields may be nested up to `levels`. -/
def read : Nat → Value → Except Failure Field
  | 0, _ => fail .tooDeep
  | levels + 1, v =>
      ((FieldSpec.shape ⟨read levels, fun _ => .null⟩).codec.read v).map fun x => ⟨x.1, x.2⟩

mutual

/-- A field as a document. The nested fields are written first. -/
def toValue : Field → Value
  | ⟨spec, nested⟩ => (FieldSpec.shape ⟨.ok, id⟩).codec.write (spec, toValues nested)

def toValues : List Field → List Value
  | [] => []
  | f :: fs => toValue f :: toValues fs

end

/-- Fields as documents. A field is nested less deep than the value that holds it, so
the depth of the value bounds the levels. -/
def codec : Codec Value Field where
  read v := read (v.depth + 1) v
  write := toValue

end Field

/-! ### Entities and schemas -/

/-- Entities as documents. -/
def Entity.shape : Shape Value Entity where
  title := "EntitySchema"
  blank := {}
  members := [
    .defaulted "id" .text (·.id) fun y x => { x with id := y },
    .defaulted "name" .text (·.name) fun y x => { x with name := y },
    .defaulted "pluralName" .text (·.pluralName) fun y x => { x with pluralName := y },
    .optional "description" .text (·.description) fun y x => { x with description := y },
    .optional "displayField" .text (·.displayField) fun y x => { x with displayField := y },
    .optional "icon" .text (·.icon) fun y x => { x with icon := y },
    .optional "color" .text (·.color) fun y x => { x with color := y },
    .optional "sortable" .bool (·.sortable) fun y x => { x with sortable := y },
    .optional "timestamps" .bool (·.timestamps) fun y x => { x with timestamps := y },
    .optional "slugSource" .text (·.slugSource) fun y x => { x with slugSource := y },
    .defaulted "fields" (.list Field.codec) (·.fields) fun y x => { x with fields := y }]

/-- Entities as documents. -/
def Entity.codec : Codec Value Entity := Entity.shape.codec

def Cardinality.name : Cardinality → String
  | .oneToOne => "one-to-one"
  | .oneToMany => "one-to-many"
  | .manyToMany => "many-to-many"

/-- Cardinalities by name. -/
def Cardinality.codec : Codec Value Cardinality :=
  .choice [("one-to-one", .oneToOne), ("one-to-many", .oneToMany), ("many-to-many", .manyToMany)]
    none Cardinality.name

/-- Relationships as documents. The label of the other direction has a second, older
spelling. -/
def Relationship.shape : Shape Value Relationship where
  title := "RelationshipSchema"
  blank := {}
  members := [
    .defaulted "id" .text (·.id) fun y x => { x with id := y },
    .needed "type" Cardinality.codec (·.cardinality) fun y x => { x with cardinality := y },
    .needed "from" .text (·.source) fun y x => { x with source := y },
    .needed "to" .text (·.target) fun y x => { x with target := y },
    .defaulted "label" .text (·.label) fun y x => { x with label := y },
    (Member.optional "inverseLabel" .text (·.inverseLabel)
      fun y x => { x with inverseLabel := y }).alsoNamed "inversLabel",
    .optional "required" .bool (·.required) fun y x => { x with required := y },
    .optional "cascadeDelete" .bool (·.cascadeDelete) fun y x => { x with cascadeDelete := y }]

def SchemaMetadata.shape : Shape Value SchemaMetadata where
  title := "SchemaMetadata"
  blank := {}
  members := [
    .defaulted "name" .text (·.name) fun y x => { x with name := y },
    .optional "description" .text (·.description) fun y x => { x with description := y },
    .optional "author" .text (·.author) fun y x => { x with author := y },
    .optional "createdAt" .text (·.createdAt) fun y x => { x with createdAt := y },
    .optional "updatedAt" .text (·.updatedAt) fun y x => { x with updatedAt := y }]

def Schema.shape : Shape Value Schema where
  title := "ContentSchema"
  blank := {}
  members := [
    .optional "version" .text (·.version) fun y x => { x with version := y },
    .defaulted "entities" (.list Entity.codec) (·.entities) fun y x => { x with entities := y },
    .defaulted "relationships" (.list Relationship.shape.codec) (·.relationships)
      fun y x => { x with relationships := y },
    .defaulted "metadata" SchemaMetadata.shape.codec (·.metadata)
      fun y x => { x with metadata := y }]

def Schema.codec : Codec Value Schema := Schema.shape.codec

end Portfolio
