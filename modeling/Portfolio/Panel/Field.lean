/-
Module: Portfolio.Panel.Field
Purpose: How each field of the content model appears in a panel form.
Main exports: Panel.Control, Panel.Field, Panel.Field.ofField, Panel.fieldMap
-/
import Portfolio.Json.Printer
import Portfolio.Naming
import Portfolio.Schema.Basic

namespace Portfolio.Panel

/-- The settings of a form field, apart from the fields of a structure's rows. -/
structure Control where
  kind : String
  label : String
  required : Bool := false
  help : Option String := none
  placeholder : Option String := none
  width : String := "1/1"
  default : Option Value := none
  disabled : Bool := false
  minLength : Option UInt32 := none
  maxLength : Option UInt32 := none
  pattern : Option String := none
  min : Option Number := none
  max : Option Number := none
  step : Option Number := none
  buttons : Option Bool := none
  font : Option String := none
  marks : Option (List String) := none
  /-- The choices by key, in order. -/
  options : Option (List (String × String)) := none
  multiple : Option Bool := none
  /-- The kinds of files that can be uploaded. -/
  accept : Option String := none
  query : Option String := none
  fieldsets : Option (List String) := none
  validate : Option (List String) := none
  deriving DecidableEq, Repr, Inhabited

/-- A form field. The rows of a structure have fields of their own, by key. -/
structure Field where
  control : Control
  rows : Option (List (String × Field)) := none
  deriving Repr, Inhabited

/-- The fields of a form by key, in the order the panel shows them. -/
abbrev FieldMap := List (String × Field)

/-! ### Settings by kind -/

/-- The part of a row as a fraction. -/
def widthText : Option Width → String
  | some .half => "1/2"
  | some .third => "1/3"
  | some .quarter => "1/4"
  | some .full | none => "1/1"

/-- A number as the panel shows it: an integer where it is whole and fits 64 bits. -/
def plainNumber (x : Double) : Number :=
  if x.isWhole && x.wholePart < Nat.pow 2 63 then .int x.truncate else .double x

/-- The key of a choice: a text is its own key, other values take their JSON. -/
def choiceKey : Value → String
  | .text s => s
  | v => Json.compact v

/-- The choices that can be chosen, by key. -/
def choiceMap (choices : List Choice) : List (String × String) :=
  (choices.filter fun c => !c.disabled).map fun c => (choiceKey c.value, c.label)

/-- A text field with its length limits. -/
def textControl (kind : String) (f : FieldSpec) : Control :=
  { kind := kind
    label := Field.displayLabel f
    minLength := f.options.minLength
    maxLength := f.options.maxLength
    pattern := f.options.pattern }

/-- A number field with its bounds. -/
def numberControl (kind : String) (f : FieldSpec) : Control :=
  { kind := kind
    label := Field.displayLabel f
    min := f.options.min.map plainNumber
    max := f.options.max.map plainNumber
    step := f.options.step.map plainNumber }

/-- A field that offers choices. -/
def choiceControl (kind : String) (f : FieldSpec) : Control :=
  { kind := kind
    label := Field.displayLabel f
    options := some (choiceMap f.options.choices) }

/-- The accepted kinds of files, if there are any. -/
def acceptText (accept : List String) : Option String :=
  if accept.isEmpty then none else some (String.intercalate ", " accept)

/-- A field that holds up to `max` files. -/
def filesControl (max : UInt32) (f : FieldSpec) : Control :=
  { kind := "files"
    label := Field.displayLabel f
    max := some (.int max.toNat)
    multiple := some (decide (1 < max.toNat))
    accept := acceptText f.options.accept }

/-- A field that points at pages of the target entity. -/
def pagesControl (multiple : Bool) (f : FieldSpec) : Control :=
  { kind := "pages"
    label := Field.displayLabel f
    multiple := some multiple
    query := f.options.targetEntity.map fun target =>
      "site.index.filterBy(\"intendedTemplate\", \"" ++ Naming.template target ++ "\")" }

/-- A list that is left out when empty. -/
def unlessEmpty (xs : List String) : Option (List String) :=
  if xs.isEmpty then none else some xs

/-- The settings that follow from the kind of a field. -/
def kindControl (f : FieldSpec) : Control :=
  let plain (kind : String) : Control := { kind := kind, label := Field.displayLabel f }
  match f.kind with
  | .text => textControl "text" f
  | .textarea => { textControl "textarea" f with buttons := some false }
  | .markdown => { textControl "textarea" f with buttons := some true }
  | .richtext => { plain "writer" with marks := unlessEmpty f.options.allowedFormats }
  | .code | .json => { plain "textarea" with buttons := some false, font := some "monospace" }
  | .number => numberControl "number" f
  | .range => numberControl "range" f
  | .boolean => plain "toggle"
  | .select => choiceControl "select" f
  | .multiselect => choiceControl "multiselect" f
  | .radio => choiceControl "radio" f
  | .checkbox => choiceControl "checkboxes" f
  | .date | .datetime => plain "date"
  | .time => plain "time"
  | .image =>
      let c := filesControl 1 f
      { c with accept := some (c.accept.getD "image/*") }
  | .file | .gallery | .files => filesControl (f.options.maxFiles.getD 1) f
  | .list => plain "list"
  | .structured => { plain "structure" with max := f.options.maxItems.map (.int ·.toNat) }
  | .blocks => { plain "blocks" with fieldsets := unlessEmpty f.options.allowedBlocks }
  | .relation => pagesControl false f
  | .relations => pagesControl (f.options.multiple.getD true) f
  | .url => plain "url"
  | .email => plain "email"
  | .tel => plain "tel"
  | .color => plain "color"
  | .tags => plain "tags"
  | .location => { plain "text" with placeholder := some "lat,lng" }
  | .unknown _ => plain "text"

/-! ### Validation rules -/

/-- A bound of a rule as a length: no less than zero, and without a fraction. -/
def lengthBound (x : Double) : UInt32 :=
  UInt32.ofNat (x.clampToInt 0 (Nat.pow 2 32 - 1)).toNat

/-- The kinds whose rules bound the length of a text. -/
def boundsLength : FieldKind → Bool
  | .text | .textarea | .markdown => true
  | _ => false

/-- The kinds whose rules bound a number. -/
def boundsNumber : FieldKind → Bool
  | .number | .range => true
  | _ => false

/-- A first value, or else a second one. -/
def firstOf {α : Type} (a b : Option α) : Option α := a <|> b

/-- The settings with the rules added. The field's own options win over the rules. -/
def addRules (f : FieldSpec) (rules : ValidationRules) (c : Control) : Control :=
  let c :=
    if boundsLength f.kind then
      { c with
        minLength := firstOf c.minLength (rules.min.map lengthBound)
        maxLength := firstOf c.maxLength (rules.max.map lengthBound)
        pattern := firstOf c.pattern rules.pattern }
    else if boundsNumber f.kind then
      { c with
        min := firstOf c.min (rules.min.map plainNumber)
        max := firstOf c.max (rules.max.map plainNumber) }
    else c
  if rules.custom.isEmpty then c else { c with validate := some (rules.custom.map (·.kind)) }

def Control.ofSpec (f : FieldSpec) : Control :=
  let c := kindControl f
  let c : Control :=
    { c with
      required := Field.isRequired f
      width := widthText f.width
      help := f.helpText
      placeholder := firstOf f.placeholder c.placeholder
      default := f.options.defaultValue
      disabled := f.options.readonly.getD false }
  match f.validation with
  | none => c
  | some rules => addRules f rules c

/-! ### Fields and forms -/

mutual

/-- The form field of a field inside `enclosing` structures. A structure nested too
deep keeps no fields. -/
def Field.ofFieldAt (enclosing : Nat) : Portfolio.Field → Panel.Field
  | ⟨spec, nested⟩ =>
      { control := Control.ofSpec spec
        rows :=
          if spec.kind = .structured then
            some (if enclosing < maxStructureDepth then fieldMapAt (enclosing + 1) nested else [])
          else none }

/-- The form of a field list inside `enclosing` structures. -/
def fieldMapAt (enclosing : Nat) : List Portfolio.Field → FieldMap
  | [] => []
  | f :: fs => (Naming.key f.name, Field.ofFieldAt enclosing f) :: fieldMapAt enclosing fs

end

def Field.ofField (f : Portfolio.Field) : Panel.Field := Field.ofFieldAt 0 f

/-- The form of a field list, in the same order. -/
def fieldMap (fields : List Portfolio.Field) : FieldMap := fieldMapAt 0 fields

/-! ### Forms as values -/

/-- An entry, if there is a value for it. -/
def entry? (key : String) (v : Option Value) : List (String × Value) :=
  match v with
  | none => []
  | some v => [(key, v)]

/-- An entry that only a true flag has. -/
def flag (key : String) (b : Bool) : List (String × Value) :=
  if b then [(key, .bool true)] else []

def textList (xs : List String) : Value := .list (xs.map .text)

/-- The settings before the fields of a structure's rows. -/
def Control.leading (c : Control) : List (String × Value) :=
  [("type", .text c.kind), ("label", .text c.label)] ++
    flag "required" c.required ++
    entry? "help" (c.help.map .text) ++
    entry? "placeholder" (c.placeholder.map .text) ++
    [("width", .text c.width)] ++
    entry? "default" c.default ++
    flag "disabled" c.disabled ++
    entry? "minlength" (c.minLength.map fun n => .ofNat n.toNat) ++
    entry? "maxlength" (c.maxLength.map fun n => .ofNat n.toNat) ++
    entry? "pattern" (c.pattern.map .text) ++
    entry? "min" (c.min.map .number) ++
    entry? "max" (c.max.map .number) ++
    entry? "step" (c.step.map .number) ++
    entry? "buttons" (c.buttons.map .bool) ++
    entry? "font" (c.font.map .text) ++
    entry? "marks" (c.marks.map textList) ++
    entry? "options" (c.options.map fun options =>
      .map (options.map fun o => (o.1, .text o.2))) ++
    entry? "multiple" (c.multiple.map .bool) ++
    entry? "uploads" (c.accept.map fun accept => .map [("accept", .text accept)]) ++
    entry? "query" (c.query.map .text)

/-- The settings after the fields of a structure's rows. -/
def Control.trailing (c : Control) : List (String × Value) :=
  entry? "fieldsets" (c.fieldsets.map textList) ++ entry? "validate" (c.validate.map textList)

mutual

/-- A form field as a value, its settings in a fixed order. -/
def Field.toValue : Panel.Field → Value
  | ⟨control, none⟩ => .map (control.leading ++ control.trailing)
  | ⟨control, some rows⟩ =>
      .map (control.leading ++ ("fields", .map (fieldEntries rows)) :: control.trailing)

def fieldEntries : FieldMap → List (String × Value)
  | [] => []
  | (key, f) :: fs => (key, f.toValue) :: fieldEntries fs

end

def fieldMapValue (fields : FieldMap) : Value := .map (fieldEntries fields)

end Portfolio.Panel
