/-
Module: Portfolio.Validation.Finding
Purpose: What can be said against a schema, how grave it is, and in which words.
Main exports: Validation.Finding, Validation.Severity, Validation.Issue
-/
import Portfolio.Panel.Note
import Portfolio.Text.Numeral

namespace Portfolio.Validation

/-- How grave a finding is. A schema with an error makes no site. -/
inductive Severity where
  | error
  | warning
  | info
  deriving DecidableEq, Repr, Inhabited

def Severity.name : Severity → String
  | .error => "error"
  | .warning => "warning"
  | .info => "info"

/-- One thing found in a schema. -/
inductive Finding where
  | missingVersion
  | noEntities
  | missingEntityId
  | duplicateEntityId (id : String)
  | missingEntityName
  | emptyEntity (label : String)
  | noTitleField (label : String)
  | invalidFieldName (name label : String)
  | duplicateFieldName (name label : String)
  | unknownFieldType (note : Panel.Note)
  | compatibilityNote (note : Panel.Note)
  | structureTooDeep (name : String) (depth : Nat)
  | uniqueNotSupported (name : String)
  | unknownTargetEntity (name target : String)
  | reservedTemplate (id template : String)
  | duplicateTemplate (other id template : String)
  | reservedCollection (collection : String)
  | duplicateCollection (other id collection : String)
  | unknownSource (id : String)
  | unknownTarget (id : String)
  | entityCount (n : Nat)
  | fieldCount (n : Nat)
  | relationshipCount (n : Nat)
  deriving DecidableEq, Repr, Inhabited

namespace Finding

/-- How grave a finding is. -/
def severity : Finding → Severity
  | .missingVersion | .noEntities | .emptyEntity _ | .noTitleField _ | .unknownFieldType _
  | .compatibilityNote _ | .uniqueNotSupported _ | .unknownTargetEntity .. => .warning
  | .entityCount _ | .fieldCount _ | .relationshipCount _ => .info
  | _ => .error

def code : Finding → String
  | .missingVersion => "missing-version"
  | .noEntities => "no-entities"
  | .missingEntityId => "missing-entity-id"
  | .duplicateEntityId _ => "duplicate-entity-id"
  | .missingEntityName => "missing-entity-name"
  | .emptyEntity _ => "empty-entity"
  | .noTitleField _ => "no-title-field"
  | .invalidFieldName .. => "invalid-field-name"
  | .duplicateFieldName .. => "duplicate-field-name"
  | .unknownFieldType _ => "unknown-field-type"
  | .compatibilityNote _ => "compatibility-note"
  | .structureTooDeep .. => "structure-too-deep"
  | .uniqueNotSupported _ => "unique-not-supported"
  | .unknownTargetEntity .. => "unknown-target-entity"
  | .reservedTemplate .. => "reserved-template-name"
  | .duplicateTemplate .. => "duplicate-template-name"
  | .reservedCollection _ => "reserved-collection"
  | .duplicateCollection .. => "duplicate-collection"
  | .unknownSource _ => "unknown-relationship-from"
  | .unknownTarget _ => "unknown-relationship-to"
  | .entityCount _ => "entity-count"
  | .fieldCount _ => "field-count"
  | .relationshipCount _ => "relationship-count"

/-- A text between double quotes. -/
def inQuotes (s : String) : String := "\"" ++ s ++ "\""

def message : Finding → String
  | .missingVersion => "schema has no version"
  | .noEntities => "schema defines no entities; only the scaffold will be generated"
  | .missingEntityId => "entity has no id"
  | .duplicateEntityId id => "entity id " ++ inQuotes id ++ " is used more than once"
  | .missingEntityName => "entity has no name"
  | .emptyEntity label => "entity " ++ inQuotes label ++ " has no fields"
  | .noTitleField label =>
      "entity " ++ inQuotes label ++ " has no field usable as a title; item ids will be used"
  | .invalidFieldName name label =>
      "field name " ++ inQuotes name ++ " in " ++ inQuotes label ++ " is not a usable key"
  | .duplicateFieldName name label =>
      "field " ++ inQuotes name ++ " appears more than once in " ++ inQuotes label
  | .unknownFieldType note | .compatibilityNote note => note.path ++ ": " ++ note.message
  | .structureTooDeep name depth =>
      "structure " ++ inQuotes name ++ " nests " ++ Text.decimal depth ++
        " levels; at most " ++ Text.decimal maxStructureDepth ++ " are supported"
  | .uniqueNotSupported name =>
      "uniqueness of " ++ inQuotes name ++ " cannot be enforced by the panel"
  | .unknownTargetEntity name target =>
      inQuotes name ++ " points at unknown entity " ++ inQuotes target
  | .reservedTemplate id template =>
      "entity " ++ inQuotes id ++ " would replace the built-in " ++ inQuotes template ++
        " template"
  | .duplicateTemplate other id template =>
      "entities " ++ inQuotes other ++ " and " ++ inQuotes id ++ " both map to template " ++
        inQuotes template
  | .reservedCollection collection =>
      "collection folder " ++ inQuotes ("content/" ++ collection) ++ " is reserved"
  | .duplicateCollection other id collection =>
      "entities " ++ inQuotes other ++ " and " ++ inQuotes id ++
        " share the collection folder " ++ inQuotes ("content/" ++ collection)
  | .unknownSource id => "relationship source " ++ inQuotes id ++ " is not a known entity"
  | .unknownTarget id => "relationship target " ++ inQuotes id ++ " is not a known entity"
  | .entityCount n => Text.decimal n ++ " entities"
  | .fieldCount n => Text.decimal n ++ " fields"
  | .relationshipCount n => Text.decimal n ++ " relationships"

/-- What could be done about a finding. -/
def suggestion : Finding → Option String
  | .missingVersion => some "set a version such as \"1.0.0\""
  | .noTitleField _ => some "add a text field named \"title\" or set displayField"
  | .invalidFieldName .. => some "start the name with a letter"
  | .duplicateFieldName .. =>
      some "field names must differ after lowercasing and replacing separators"
  | .structureTooDeep .. => some "flatten the inner structure or turn it into a relation"
  | .reservedTemplate .. => some "rename the entity id"
  | .duplicateTemplate .. =>
      some "entity ids must differ after lowercasing and replacing separators"
  | .reservedCollection _ => some "change the plural name"
  | .duplicateCollection .. => some "give each entity a distinct plural name"
  | _ => none

end Finding

/-- A finding as it is reported. -/
structure Issue where
  severity : Severity
  code : String
  message : String
  /-- The place in the schema, such as `entities[2].fields[0]`. -/
  path : Option String
  suggestion : Option String
  deriving DecidableEq, Repr, Inhabited

/-- A finding and its place. -/
structure Located where
  finding : Finding
  path : Option String
  deriving DecidableEq, Repr, Inhabited

def Located.issue (l : Located) : Issue :=
  ⟨l.finding.severity, l.finding.code, l.finding.message, l.path, l.finding.suggestion⟩

/-- The message of an issue behind its place. -/
def Issue.text (issue : Issue) : String :=
  match issue.path with
  | some path => path ++ ": " ++ issue.message
  | none => issue.message

end Portfolio.Validation
