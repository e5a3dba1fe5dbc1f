/-
Module: Portfolio.Validation.Basic
Purpose: The checks of a schema, and their report. Names are compared the way they
  end up in paths, so names that differ only in case count as the same.
Main exports: Validation.findings, Validation.Report, Validation.report
-/
import Portfolio.Naming
import Portfolio.Validation.Finding

namespace Portfolio.Validation

/-- The template names of fixed pages. -/
def reservedTemplates : List String := ["home", "default", "site", "error", "design-tokens"]

/-- The content folders of fixed pages. -/
def reservedCollections : List String := ["home", "error", "design-tokens"]

/-- A place in the schema. -/
def locate (path : String) (finding : Finding) : Located := ⟨finding, some path⟩

/-- A member of a list in the schema. -/
def indexed (list : String) (index : Nat) : String :=
  list ++ "[" ++ Text.decimal index ++ "]"

/-! ### Fields -/

/-- What is wrong with the name of one field, where `keys` are the keys before it. -/
def nameFindings (label path : String) (keys : List String) (spec : FieldSpec) :
    List Located :=
  let key := Naming.key spec.name
  if !Naming.isKey key then [locate path (.invalidFieldName spec.name label)]
  else if keys.contains key then [locate path (.duplicateFieldName spec.name label)]
  else []

mutual

/-- What is wrong with the names in a field: its own, and those inside a structure. -/
def fieldNames (label path : String) (keys : List String) : Field → List Located
  | ⟨spec, nested⟩ =>
      nameFindings label path keys spec ++
        (if spec.kind = .structured then fieldListNames label path 0 [] nested else [])

/-- What is wrong with the names of a field list from a position on. Names have to be
usable as keys, and unique in their list. -/
def fieldListNames (label path : String) (index : Nat) (keys : List String) :
    List Field → List Located
  | [] => []
  | f :: fs =>
      fieldNames label (path ++ indexed ".fields" index) keys f ++
        fieldListNames label path (index + 1) (Naming.key f.name :: keys) fs

end

/-- What the panel cannot show of a field. Truncated structures are reported as errors
of their own. -/
def noteFindings (path : String) (f : Field) : List Located :=
  (Panel.notes f).filterMap fun note =>
    match note.kind with
    | .unknownKind => some (locate path (.unknownFieldType note))
    | .needsPlugin | .lossy => some (locate path (.compatibilityNote note))
    | .truncated => none

/-- A structure nested too deep. -/
def depthFindings (path : String) (f : Field) : List Located :=
  if maxStructureDepth < f.structureDepth then
    [locate path (.structureTooDeep f.name f.structureDepth)]
  else []

/-- Demands of one field that the panel cannot meet. -/
def demandFindings (ids : List String) (path : String) (f : FieldSpec) : List Located :=
  (if (f.validation.bind (·.unique)).getD false then [locate path (.uniqueNotSupported f.name)]
    else []) ++
    (match f.options.targetEntity with
      | some target =>
          if ids.contains target then [] else [locate path (.unknownTargetEntity f.name target)]
      | none => [])

mutual

/-- A field and all fields nested in it, each before those nested in it. -/
def allSpecs : Field → List FieldSpec
  | ⟨spec, nested⟩ => spec :: allSpecsOf nested

/-- All fields of a list with those nested in them. -/
def allSpecsOf : List Field → List FieldSpec
  | [] => []
  | f :: fs => allSpecs f ++ allSpecsOf fs

end

/-- What can be said against a field, apart from its name. -/
def fieldFindings (ids : List String) (path : String) (f : Field) : List Located :=
  noteFindings path f ++ depthFindings path f ++
    (allSpecs f).flatMap (demandFindings ids path)

/-! ### Entities -/

/-- The name of an entity, or its id where the name is empty. -/
def entityLabel (entity : Entity) : String :=
  if entity.name.isEmpty then entity.id else entity.name

/-- A field that gives items a title: the display field, one with the key of a title,
or any text field. -/
def givesTitle (entity : Entity) (f : Field) : Bool :=
  entity.displayField == some f.name ||
    ["title", "name", "heading"].contains (Naming.key f.name) || f.kind == .text

/-- An entity without fields, or without a title. -/
def contentFindings (path : String) (entity : Entity) : List Located :=
  if entity.fields.isEmpty then [locate path (.emptyEntity (entityLabel entity))]
  else if entity.fields.any (givesTitle entity) then []
  else [locate path (.noTitleField (entityLabel entity))]

/-- What is wrong with the id and the name of an entity, given the entities before
it. -/
def identityFindings (path : String) (earlier : List Entity) (entity : Entity) :
    List Located :=
  (if Text.allBlank entity.id then [locate path .missingEntityId]
    else if earlier.any (·.id == entity.id) then [locate path (.duplicateEntityId entity.id)]
    else []) ++
    (if Text.allBlank entity.name then [locate path .missingEntityName] else [])

/-- The first entity before this one that has an id and the same name for its output.
An entity of the same id is no rival: it is reported as a repeated id. -/
def rival? (outputName : Entity → String) (earlier : List Entity) (entity : Entity) :
    Option Entity :=
  (earlier.find? fun e => !Text.allBlank e.id && outputName e == outputName entity).filter
    fun e => e.id != entity.id

/-- The folder of an entity's items. -/
def collectionOf (entity : Entity) : String := Naming.collection entity.pluralName entity.id

/-- An output name that is reserved, or that an entity before this one takes. -/
def outputFindings (path : String) (earlier : List Entity) (entity : Entity) :
    List Located :=
  if Text.allBlank entity.id then []
  else
    let template := Naming.template entity.id
    let collection := collectionOf entity
    (if reservedTemplates.contains template then
        [locate path (.reservedTemplate entity.id template)]
      else []) ++
      (match rival? (Naming.template ·.id) earlier entity with
        | some other => [locate path (.duplicateTemplate other.id entity.id template)]
        | none => []) ++
      (if reservedCollections.contains collection then
        [locate path (.reservedCollection collection)]
      else []) ++
      (match rival? collectionOf earlier entity with
        | some other => [locate path (.duplicateCollection other.id entity.id collection)]
        | none => [])

/-- Everything found in an entity, given the ids of all entities and the entities
before it. -/
def entityFindings (ids : List String) (path : String) (earlier : List Entity)
    (entity : Entity) : List Located :=
  identityFindings path earlier entity ++
    contentFindings path entity ++
    fieldListNames (entityLabel entity) path 0 [] entity.fields ++
    (entity.fields.zipIdx.flatMap fun (f, i) =>
      fieldFindings ids (path ++ indexed ".fields" i) f) ++
    outputFindings path earlier entity

/-- Everything found in the entities from a position on. -/
def entitiesFindings (ids : List String) (earlier : List Entity) :
    List Entity → List Located
  | [] => []
  | e :: es =>
      entityFindings ids (indexed "entities" earlier.length) earlier e ++
        entitiesFindings ids (earlier ++ [e]) es

/-! ### Schemas -/

/-- The ends of a relationship that are no entity. -/
def relationshipFindings (ids : List String) (index : Nat) (r : Relationship) :
    List Located :=
  let path := indexed "relationships" index
  (if ids.contains r.source then [] else [locate path (.unknownSource r.source)]) ++
    (if ids.contains r.target then [] else [locate path (.unknownTarget r.target)])

/-- Everything found in a schema, in the order it is reported. -/
def findings (schema : Schema) : List Located :=
  let ids := schema.entities.map (·.id)
  (if (schema.version.map Text.allBlank).getD true then [locate "version" .missingVersion]
    else []) ++
    (if schema.entities.isEmpty then [⟨.noEntities, none⟩] else []) ++
    entitiesFindings ids [] schema.entities ++
    (schema.relationships.zipIdx.flatMap fun (r, i) => relationshipFindings ids i r) ++
    [⟨.entityCount schema.entities.length, none⟩, ⟨.fieldCount schema.fieldCount, none⟩,
      ⟨.relationshipCount schema.relationships.length, none⟩]

/-- The issues of a schema by severity. -/
structure Report where
  valid : Bool := false
  errors : List Issue := []
  warnings : List Issue := []
  info : List Issue := []
  deriving DecidableEq, Repr, Inhabited

namespace Report

/-- The messages of the errors, each behind its place. -/
def errorMessages (r : Report) : List String := r.errors.map Issue.text

/-- Some issue has the code. -/
def hasCode (r : Report) (code : String) : Bool :=
  (r.errors ++ r.warnings ++ r.info).any (·.code == code)

end Report

/-- The issues of a severity among located findings, in the same order. -/
def issuesOf (severity : Severity) (found : List Located) : List Issue :=
  (found.filter fun l => l.finding.severity == severity).map Located.issue

/-- The report on a schema. It is valid if nothing found is an error. -/
def report (schema : Schema) : Report :=
  let found := findings schema
  { valid := (issuesOf .error found).isEmpty
    errors := issuesOf .error found
    warnings := issuesOf .warning found
    info := issuesOf .info found }

end Portfolio.Validation
