/-
Module: Portfolio.Proofs.Validation.Gap
Purpose: The report warns of every field that the panel cannot show, once each and in the order
  of the schema, at the place of the top-level field it lies in. The message starts with the path
  of names to the field, but a nameless top-level field is missing from it.
Main exports: Validation.gapWarning, Validation.gapWarnings, Validation.gaps_reported,
  Validation.nameless_field_unnamed
-/
import Portfolio.Proofs.Panel.Gap
import Portfolio.Proofs.Validation.Origin

namespace Portfolio.Validation

/-- The warning of a gap, at the place of its top-level field. -/
def gapWarning (place : String) (n : Node) : Issue where
  severity := .warning
  code := if n.field.kind.isUnknown then "unknown-field-type" else "compatibility-note"
  message := Panel.shownPath n.names ++ ": " ++ n.field.kind.gapText
  path := some place
  suggestion := none

/-- The warnings of a report about gaps. -/
def gapWarnings (r : Report) : List Issue := r.warnings.filter fun w => gapCodes.contains w.code

/-- The finding of a gap. -/
def gapFinding (n : Node) : Finding :=
  if n.field.kind.isUnknown then .unknownFieldType (Panel.gapNote n)
  else .compatibilityNote (Panel.gapNote n)

theorem issue_gapFinding (place : String) (n : Node) :
    (locate place (gapFinding n)).issue = gapWarning place n := by
  unfold gapFinding gapWarning
  split <;> rfl

/-- What a note is reported as: notes on cut structures are passed over. -/
def noteFinding? (place : String) (note : Panel.Note) : Option Located :=
  match note.kind with
  | .unknownKind => some (locate place (.unknownFieldType note))
  | .needsPlugin | .lossy => some (locate place (.compatibilityNote note))
  | .truncated => none

theorem noteFinding?_gapNote {place : String} {n : Node} (h : n.isGap = true) :
    noteFinding? place (Panel.gapNote n) = some (locate place (gapFinding n)) := by
  simp only [Node.isGap, Bool.and_eq_true] at h
  cases hkind : n.field.kind <;> simp [FieldKind.isGap, hkind] at h <;>
    simp [noteFinding?, gapFinding, Panel.gapNote, Panel.gapKind, FieldKind.isUnknown, hkind]

/-- The findings from the notes of a field are its gaps. -/
theorem noteFindings_eq (place : String) (f : Field) :
    noteFindings place f = f.gaps.map fun n => locate place (gapFinding n) := by
  have huncut : noteFindings place f =
      (Panel.uncut (Panel.notes f)).filterMap (noteFinding? place) := by
    unfold Panel.uncut
    rw [List.filterMap_filter]
    apply List.filterMap_congr
    intro note _
    cases hkind : note.kind <;> simp [noteFinding?, Panel.isTruncated, hkind]
  have hgaps : f.gaps.filterMap (fun n => noteFinding? place (Panel.gapNote n)) =
      f.gaps.filterMap fun n => some (locate place (gapFinding n)) := by
    apply List.filterMap_congr
    intro n hn
    exact noteFinding?_gapNote (List.mem_filter.1 hn).2
  rw [huncut, Panel.gap_notes, List.filterMap_map]
  exact hgaps.trans (congrFun List.filterMap_eq_map' _)

/-- The findings about gaps are those from the notes of the fields, in order. -/
theorem select_gapCodes_findings (schema : Schema) :
    select gapCodes.contains (findings schema) =
      schema.entities.zipIdx.flatMap fun (entity, i) =>
        entity.fields.zipIdx.flatMap fun (f, j) =>
          f.gaps.map fun n => locate (fieldPlace i j) (gapFinding n) := by
  have hcontent (path : String) (entity : Entity) :
      select gapCodes.contains (contentFindings path entity) = [] :=
    select_eq_nil (codesIn_contentFindings path entity) (by decide)
  have hdepth (path : String) (f : Field) :
      select gapCodes.contains (depthFindings path f) = [] :=
    select_eq_nil (codesIn_depthFindings path f) (by decide)
  have hnotes (path : String) (f : Field) : select gapCodes.contains (noteFindings path f) =
      f.gaps.map fun n => locate path (gapFinding n) :=
    (select_eq_self (codesIn_noteFindings path f) (by decide)).trans (noteFindings_eq path f)
  rw [select_findings (by decide)]
  simp only [hcontent, hdepth, hnotes, List.nil_append, List.append_nil]

theorem gapWarnings_report (schema : Schema) :
    gapWarnings (report schema) =
      schema.entities.zipIdx.flatMap fun (entity, i) =>
        entity.fields.zipIdx.flatMap fun (f, j) => f.gaps.map (gapWarning (fieldPlace i j)) := by
  have hwarning : ∀ l ∈ select gapCodes.contains (findings schema),
      l.finding.severity = .warning := by
    intro l hl
    rw [select_gapCodes_findings] at hl
    simp only [List.mem_flatMap, List.mem_map] at hl
    obtain ⟨-, -, -, -, n, -, rfl⟩ := hl
    simp only [locate, gapFinding]
    split <;> rfl
  have hissues := filter_issuesOf gapCodes.contains .warning (findings schema)
  rw [issuesOf_eq_map hwarning, select_gapCodes_findings] at hissues
  simp only [List.map_flatMap, List.map_map, Function.comp_def, issue_gapFinding] at hissues
  exact hissues

/-- The message of a gap names the way to it, unless it lies in a nameless top-level field. -/
theorem message_gapWarning_iff {f : Field} {n : Node} (h : n ∈ f.gaps) (place : String) :
    (gapWarning place n).message = Panel.dotted n.names ++ ": " ++ n.field.kind.gapText ↔
      n.enclosing = [] ∨ f.name ≠ "" := by
  obtain ⟨rest, hpath⟩ := (Field.mem_fieldsBelow_iff_reaches.1 (List.mem_filter.1 h).1).path
  have hnames : n.names = f.name :: rest.map fun spec => spec.name := by
    rw [Node.names, hpath]
    rfl
  have htop : n.enclosing = [] ↔ rest.map (fun spec => spec.name) = [] := by
    have hlength := congrArg List.length hpath
    simp only [Node.path, List.nil_append, List.length_append, List.length_cons, List.length_nil,
      Nat.add_right_cancel_iff] at hlength
    rw [List.map_eq_nil_iff, ← List.length_eq_zero_iff, ← List.length_eq_zero_iff, hlength]
  change Panel.shownPath n.names ++ ": " ++ n.field.kind.gapText = _ ↔ _
  rw [String.append_left_inj, String.append_left_inj, hnames, Panel.shownPath_eq_dotted_iff, htop]

/-- The warnings about gaps are one for each field that the panel cannot show as it is and that
lies in at most as many structures as are shown, in order, at the place of the top-level field.
The message starts with the path of names to the field, without the empty names in front: it is
whole unless the field lies in a nameless top-level field. -/
theorem gaps_reported (schema : Schema) :
    gapWarnings (report schema) =
        (schema.entities.zipIdx.flatMap fun (entity, i) =>
          entity.fields.zipIdx.flatMap fun (f, j) => f.gaps.map (gapWarning (fieldPlace i j))) ∧
      (∀ (f : Field) (n : Node), n ∈ f.gaps ↔
        Field.Reaches [] f n ∧ n.enclosing.length ≤ maxStructureDepth ∧
          n.field.kind.isGap = true) ∧
      ∀ (f : Field), ∀ n ∈ f.gaps, ∀ place,
        (gapWarning place n).message = Panel.dotted n.names ++ ": " ++ n.field.kind.gapText ↔
          n.enclosing = [] ∨ f.name ≠ "" := by
  refine ⟨gapWarnings_report schema, ?_, fun f n hn => message_gapWarning_iff hn⟩
  intro f n
  rw [Field.gaps, List.mem_filter, Field.mem_fieldsBelow_iff_reaches]
  simp [Node.isGap]

/-- A tour whose stops have a place, and legs with a time and an unknown field. -/
def stops : Field := .named "stops" .structured [.named "where" .location [],
  .named "legs" .structured [.named "start" .datetime [], .named "grade" (.unknown "rating") []]]

def tourSchema : Schema :=
  { version := some "1.0.0"
    entities := [{ id := "tour", name := "Tour", fields := [.named "title" .text [], stops] }] }

theorem gaps_reported_tourSchema :
    (gapWarnings (report tourSchema)).map (fun w => (w.code, w.message)) =
        [("compatibility-note", "stops.where: " ++ FieldKind.gapText .location),
          ("compatibility-note", "stops.legs.start: " ++ FieldKind.gapText .datetime),
          ("unknown-field-type", "stops.legs.grade: " ++ FieldKind.gapText (.unknown "rating"))] ∧
      (gapWarning "entities[0].fields[1]" ⟨[stops.toFieldSpec], .named "where" .location []⟩).message
        = Panel.dotted ["stops", "where"] ++ ": " ++ FieldKind.gapText .location := by
  obtain ⟨hwarnings, hgaps, hmessage⟩ := gaps_reported tourSchema
  constructor
  · rw [hwarnings]
    decide +kernel
  · refine (hmessage stops _ ?_ _).2 (Or.inr (by decide))
    exact (hgaps stops _).2 ⟨.row .self rfl List.mem_cons_self, by decide, rfl⟩

/-! ### A nameless field -/

/-- A structure without a name, and a place in it. -/
def namelessField : Field := .named "" .structured [.named "where" .location []]

def namelessSchema : Schema :=
  { version := some "1.0.0"
    entities := [{
      id := "tour", name := "Tour", pluralName := "Tours"
      fields := [namelessField, .named "title" .text []] }] }

/-- The warning about the place does not start with the path of names to it. -/
theorem nameless_field_unnamed :
    namelessField.gaps.map Node.names = [["", "where"]] ∧
      (gapWarnings (report namelessSchema)).map (·.path) = [some (fieldPlace 0 0)] ∧
      ∀ w ∈ gapWarnings (report namelessSchema),
        ¬ (Panel.dotted ["", "where"]).toList <+: w.message.toList := by
  decide +kernel

end Portfolio.Validation
