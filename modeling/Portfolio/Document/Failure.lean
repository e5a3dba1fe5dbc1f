/-
Module: Portfolio.Document.Failure
Purpose: Why a value is no document of the wanted kind, and the words for it.
Main exports: Document.Found, Document.Cause, Document.Failure, Document.Cause.message
-/
import Portfolio.Number.Basic
import Portfolio.Text.Printable

namespace Portfolio.Document

/-- What stands where something else is wanted. -/
inductive Found where
  | null
  | bool (b : Bool)
  | integer (n : Int)
  | double (x : Double)
  | text (s : String)
  | sequence
  | map
  | unitVariant
  deriving DecidableEq, Repr, Inhabited

/-- Floating point numbers in messages: without an exponent, and with `.0` behind a
whole number or the name of an infinity or NaN. -/
def doubleText (x : Double) : String :=
  let s := NumberStyle.positional.text x
  if '.' ∈ s.toList then s else s ++ ".0"

def Found.words : Found → String
  | .null => "null"
  | .bool b => "boolean `" ++ (if b then "true" else "false") ++ "`"
  | .integer n => "integer `" ++ Text.signedDecimal n ++ "`"
  | .double x => "floating point `" ++ doubleText x ++ "`"
  | .text s => "string " ++ Text.quoted s
  | .sequence => "sequence"
  | .map => "map"
  | .unitVariant => "unit variant"

/-- Why a value is no document of the wanted kind. -/
inductive Cause where
  /-- A member that has to be there is absent. -/
  | missing (name : String)
  /-- A member is there twice, perhaps under two spellings. -/
  | duplicate (name : String)
  /-- A choice has none of the expected names. -/
  | unknownVariant (name : String) (expected : List String)
  /-- A closed document has a member of another name. -/
  | unknownMember (name : String) (expected : List String)
  /-- A value is of another kind. -/
  | wrongKind (found : Found) (wanted : String)
  /-- A value is of the right kind and outside the range. -/
  | outOfRange (found : Found) (wanted : String)
  /-- A list has too few or too many items. -/
  | wrongLength (length : Nat) (wanted : String)
  /-- A value is nested too deep. -/
  | tooDeep
  deriving DecidableEq, Repr, Inhabited

/-- A name between backticks. -/
def ticked (name : String) : String := "`" ++ name ++ "`"

/-- The names that were expected. -/
def oneOf : List String → String
  | [] => "nothing"
  | [a] => ticked a
  | [a, b] => ticked a ++ " or " ++ ticked b
  | names => "one of " ++ String.intercalate ", " (names.map ticked)

def Cause.message : Cause → String
  | .missing name => "missing field " ++ ticked name
  | .duplicate name => "duplicate field " ++ ticked name
  | .unknownVariant name expected =>
      "unknown variant " ++ ticked name ++ ", expected " ++ oneOf expected
  | .unknownMember name expected =>
      "unknown field " ++ ticked name ++ ", expected " ++ oneOf expected
  | .wrongKind found wanted => "invalid type: " ++ found.words ++ ", expected " ++ wanted
  | .outOfRange found wanted => "invalid value: " ++ found.words ++ ", expected " ++ wanted
  | .wrongLength length wanted =>
      "invalid length " ++ Text.decimal length ++ ", expected " ++ wanted
  | .tooDeep => "recursion limit exceeded"

/-- A cause, and the keys that lead to where it arose. -/
structure Failure where
  path : List String
  cause : Cause
  deriving DecidableEq, Repr, Inhabited

/-- The failure of a value, seen from the map that holds it under a key. -/
def Failure.under (key : String) (f : Failure) : Failure := { f with path := key :: f.path }

/-- Fails for a cause at the place itself. -/
def fail {α : Type} (cause : Cause) : Except Failure α := .error ⟨[], cause⟩

end Portfolio.Document
