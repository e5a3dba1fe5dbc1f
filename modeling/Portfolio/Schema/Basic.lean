/-
Module: Portfolio.Schema.Basic
Purpose: The content model of a portfolio: entities, their fields, and the relationships
  between them.
Main exports: Schema, Entity, Field, FieldKind, Relationship, Field.depth
-/
import Portfolio.Value
import Portfolio.Text.Blank

namespace Portfolio

/-! ### Field kinds -/

/-- The kinds of fields. A kind that is not known keeps its name. -/
inductive FieldKind where
  | text
  | textarea
  | richtext
  | markdown
  | code
  | number
  | range
  | boolean
  | select
  | multiselect
  | radio
  | checkbox
  | date
  | time
  | datetime
  | image
  | file
  | gallery
  | files
  | json
  | list
  | structured
  | blocks
  | relation
  | relations
  | url
  | email
  | tel
  | color
  | location
  | tags
  | unknown (name : String)
  deriving DecidableEq, Repr, Inhabited

namespace FieldKind

def known : List (String × FieldKind) := [
  ("text", .text),
  ("textarea", .textarea),
  ("richtext", .richtext),
  ("markdown", .markdown),
  ("code", .code),
  ("number", .number),
  ("range", .range),
  ("boolean", .boolean),
  ("select", .select),
  ("multiselect", .multiselect),
  ("radio", .radio),
  ("checkbox", .checkbox),
  ("date", .date),
  ("time", .time),
  ("datetime", .datetime),
  ("image", .image),
  ("file", .file),
  ("gallery", .gallery),
  ("files", .files),
  ("json", .json),
  ("list", .list),
  ("structure", .structured),
  ("blocks", .blocks),
  ("relation", .relation),
  ("relations", .relations),
  ("url", .url),
  ("email", .email),
  ("tel", .tel),
  ("color", .color),
  ("location", .location),
  ("tags", .tags)]

/-- The kind of a name. -/
def ofName (name : String) : FieldKind :=
  (known.lookup name).getD (.unknown name)

def name : FieldKind → String
  | .text => "text"
  | .textarea => "textarea"
  | .richtext => "richtext"
  | .markdown => "markdown"
  | .code => "code"
  | .number => "number"
  | .range => "range"
  | .boolean => "boolean"
  | .select => "select"
  | .multiselect => "multiselect"
  | .radio => "radio"
  | .checkbox => "checkbox"
  | .date => "date"
  | .time => "time"
  | .datetime => "datetime"
  | .image => "image"
  | .file => "file"
  | .gallery => "gallery"
  | .files => "files"
  | .json => "json"
  | .list => "list"
  | .structured => "structure"
  | .blocks => "blocks"
  | .relation => "relation"
  | .relations => "relations"
  | .url => "url"
  | .email => "email"
  | .tel => "tel"
  | .color => "color"
  | .location => "location"
  | .tags => "tags"
  | .unknown name => name

/-- The kinds that hold images and files, which have a tab of their own. -/
def isMedia : FieldKind → Bool
  | .image | .file | .gallery | .files => true
  | _ => false

/-- A kind outside the known ones. -/
def isUnknown : FieldKind → Bool
  | .unknown _ => true
  | _ => false

end FieldKind

/-! ### Fields -/

/-- The part of a row that a field takes in a form. -/
inductive Width where
  | full
  | half
  | third
  | quarter
  deriving DecidableEq, Repr, Inhabited

/-- One choice of a field that offers choices. Its value is a text or a number. -/
structure Choice where
  value : Value := .null
  label : String := ""
  disabled : Bool := false
  deriving DecidableEq, Repr, Inhabited

/-- The settings of a field that depend on its kind. All may be absent. -/
structure FieldOptions where
  minLength : Option UInt32 := none
  maxLength : Option UInt32 := none
  pattern : Option String := none
  min : Option Double := none
  max : Option Double := none
  step : Option Double := none
  choices : List Choice := []
  allowCustom : Option Bool := none
  accept : List String := []
  maxSize : Option UInt64 := none
  maxFiles : Option UInt32 := none
  maxItems : Option UInt32 := none
  targetEntity : Option String := none
  multiple : Option Bool := none
  allowedBlocks : List String := []
  allowedFormats : List String := []
  defaultValue : Option Value := none
  readonly : Option Bool := none
  deriving DecidableEq, Repr, Inhabited

/-- A named rule that the panel may or may not know. -/
structure CustomRule where
  kind : String := ""
  message : String := ""
  params : Option Value := none
  deriving DecidableEq, Repr, Inhabited

/-- What a field's value has to satisfy. -/
structure ValidationRules where
  required : Option Bool := none
  unique : Option Bool := none
  min : Option Double := none
  max : Option Double := none
  pattern : Option String := none
  custom : List CustomRule := []
  deriving DecidableEq, Repr, Inhabited

/-- A field without the fields nested in it. -/
structure FieldSpec where
  id : String := ""
  name : String := ""
  label : String := ""
  kind : FieldKind := .text
  required : Bool := false
  helpText : Option String := none
  placeholder : Option String := none
  width : Option Width := none
  options : FieldOptions := {}
  validation : Option ValidationRules := none
  deriving DecidableEq, Repr, Inhabited

/-- A field. The nested fields describe one row of a structure; other kinds may carry
some, which then mean nothing to the panel. -/
structure Field extends FieldSpec where
  nested : List Field := []
  deriving Repr, Inhabited

/-- Structures may be nested in structures up to this many levels, counting the
outermost as one. -/
def maxStructureDepth : Nat := 3

namespace Field

/-- A field whose id and label are its name. -/
def named (name : String) (kind : FieldKind) (nested : List Field) : Field :=
  { id := name, name := name, label := name, kind := kind, nested := nested }

/-- The field flag or the validation rules demand a value. -/
def isRequired (f : FieldSpec) : Bool :=
  f.required || ((f.validation.bind (·.required)).getD false)

/-- The label for display: the name where the label is blank. -/
def displayLabel (f : FieldSpec) : String :=
  if Text.allBlank f.label then f.name else f.label

mutual

/-- The levels of structures in a field: one for a structure of plain fields, and
none for any other kind. -/
def structureDepth : Field → Nat
  | ⟨spec, nested⟩ => if spec.kind = .structured then 1 + maxStructureDepthOf nested else 0

/-- The most levels of structures in any of the fields. -/
def maxStructureDepthOf : List Field → Nat
  | [] => 0
  | f :: fs => max (structureDepth f) (maxStructureDepthOf fs)

end

end Field

/-! ### Entities and relationships -/

/-- A kind of content, such as gigs. -/
structure Entity where
  id : String := ""
  name : String := ""
  pluralName : String := ""
  description : Option String := none
  /-- The field whose value is an item's title. -/
  displayField : Option String := none
  icon : Option String := none
  color : Option String := none
  sortable : Option Bool := none
  timestamps : Option Bool := none
  /-- The field whose value an item's slug is made from. -/
  slugSource : Option String := none
  fields : List Field := []
  deriving Repr, Inhabited

namespace Entity

/-- The first field with a name. -/
def field? (entity : Entity) (name : String) : Option Field :=
  entity.fields.find? fun f => f.name == name

end Entity

/-- How many items of each side a relationship joins. -/
inductive Cardinality where
  | oneToOne
  | oneToMany
  | manyToMany
  deriving DecidableEq, Repr, Inhabited

/-- A relationship between two entities, given by their ids. -/
structure Relationship where
  id : String := ""
  cardinality : Cardinality := .oneToOne
  source : String := ""
  target : String := ""
  label : String := ""
  inverseLabel : Option String := none
  required : Option Bool := none
  cascadeDelete : Option Bool := none
  deriving DecidableEq, Repr, Inhabited

/-- Where a content model comes from. -/
structure SchemaMetadata where
  name : String := ""
  description : Option String := none
  author : Option String := none
  createdAt : Option String := none
  updatedAt : Option String := none
  deriving DecidableEq, Repr, Inhabited

/-- The content model of a portfolio. -/
structure Schema where
  version : Option String := none
  entities : List Entity := []
  relationships : List Relationship := []
  metadata : SchemaMetadata := {}
  deriving Repr, Inhabited

namespace Schema

/-- The first entity with an id. -/
def entity? (schema : Schema) (id : String) : Option Entity :=
  schema.entities.find? fun e => e.id == id

/-- The number of fields of all entities, without nested ones. -/
def fieldCount (schema : Schema) : Nat :=
  (schema.entities.flatMap (·.fields)).length

end Schema

end Portfolio
