/-
Module: Portfolio.Proofs.Panel.Nesting
Purpose: What the panel makes of structures in structures: the fields of their rows down to
  the depth limit, empty rows where it is passed, and a note for each structure cut there.
Main exports: Panel.outline, Panel.outline_ofField, Panel.Mirrors, Panel.mirrors_ofField,
  Panel.truncated_notes
-/
import Portfolio.Panel.Field
import Portfolio.Panel.Note
import Portfolio.Proofs.Schema.Nesting

namespace Portfolio.Panel

open Portfolio.Field (nodesBelow nodesBelowAll nodesBelow_of_structured nodesBelow_of_plain)

theorem fieldMapAt_eq_map (enclosing : Nat) (fields : List Portfolio.Field) :
    fieldMapAt enclosing fields =
      fields.map fun f => (Naming.key f.name, Field.ofFieldAt enclosing f) := by
  induction fields with
  | nil => rw [fieldMapAt, List.map_nil]
  | cons f fs ih => rw [fieldMapAt, List.map_cons, ih]

/-! ### Rows -/

/-- The form of a structure's rows: the keys that lead to it, and the settings of the fields
by key. -/
structure Rows where
  keys : List String
  fields : List (String × Control)
  deriving DecidableEq, Repr

mutual

/-- The forms of all rows in a form field, outer ones first. -/
def outlineAt (keys : List String) : Panel.Field → List Rows
  | ⟨_, none⟩ => []
  | ⟨_, some rows⟩ => ⟨keys, rows.map fun row => (row.1, row.2.control)⟩ :: outlineAll keys rows

/-- The forms of all rows in the fields of a form. -/
def outlineAll (keys : List String) : FieldMap → List Rows
  | [] => []
  | (key, f) :: fs => outlineAt (keys ++ [key]) f ++ outlineAll keys fs

end

/-- The forms of all rows in the form field of a key. -/
def outline (key : String) (f : Panel.Field) : List Rows := outlineAt [key] f

/-- The rows that a structure should have: the settings of all its fields while they are
shown, and nothing below. -/
def nodeRows (n : Node) : Rows :=
  ⟨n.keys, if n.shown then
      n.field.nested.map fun f => (Naming.key f.name, Control.ofSpec f.toFieldSpec)
    else []⟩

/-- A structure that has rows in its form, be they empty. -/
def hasRows (n : Node) : Bool := n.shown || n.cut

theorem level_le_of_hasRows {n : Node} (h : hasRows n = true) :
    n.level ≤ maxStructureDepth + 1 := by
  rcases Bool.or_eq_true_iff.1 h with h | h
  · exact Node.level_le_of_shown h
  · exact Node.level_le_of_cut h

theorem control_ofFieldAt (enclosing : Nat) (f : Portfolio.Field) :
    (Field.ofFieldAt enclosing f).control = Control.ofSpec f.toFieldSpec := by
  obtain ⟨spec, nested⟩ := f
  rw [Field.ofFieldAt]

theorem rows_fieldMapAt (enclosing : Nat) (fields : List Portfolio.Field) :
    (fieldMapAt enclosing fields).map (fun row => (row.1, row.2.control)) =
      fields.map fun f => (Naming.key f.name, Control.ofSpec f.toFieldSpec) := by
  rw [fieldMapAt_eq_map, List.map_map]
  apply List.map_congr_left
  intro f _
  rw [Function.comp_apply, control_ofFieldAt]

mutual

/-- The rows in the form of a field are those of the structures in it, as far as they have
rows. -/
theorem outlineAt_ofFieldAt : ∀ (enclosing : List FieldSpec) (f : Portfolio.Field),
    enclosing.length ≤ maxStructureDepth →
      outlineAt ((enclosing ++ [f.toFieldSpec]).map fun spec => Naming.key spec.name)
          (Field.ofFieldAt enclosing.length f) =
        ((nodesBelow enclosing f).filter hasRows).map nodeRows
  | enclosing, ⟨spec, nested⟩ => by
      intro hdepth
      rw [Field.ofFieldAt]
      by_cases hkind : spec.kind = .structured
      · rw [if_pos hkind, outlineAt, nodesBelow_of_structured hkind]
        rcases Nat.lt_or_eq_of_le hdepth with hlt | heq
        · have hshown := (Node.shown_iff enclosing ⟨spec, nested⟩).2 hlt
          have hinner := outlineAll_fieldMapAt (enclosing ++ [spec]) nested
            (by rw [List.length_append, List.length_singleton]; exact hlt)
          rw [List.length_append, List.length_singleton] at hinner
          rw [if_pos hlt, List.filter_cons_of_pos (by rw [hasRows, hshown, Bool.true_or]),
            List.map_cons, hinner, nodeRows, if_pos hshown, rows_fieldMapAt]
          rfl
        · have hnotShown : ¬ (⟨enclosing, ⟨spec, nested⟩⟩ : Node).shown = true := by
            rw [Node.shown_iff, heq]
            exact Nat.lt_irrefl _
          have hcut := (Node.cut_iff enclosing ⟨spec, nested⟩).2 heq
          -- Nothing below a structure without fields has rows.
          have hbelow : (nodesBelowAll (enclosing ++ [spec]) nested).filter hasRows = [] :=
            Portfolio.Field.filter_nodesBelowAll_eq_nil (Nat.le_of_eq heq.symm)
              fun _ => level_le_of_hasRows
          rw [if_neg (by omega), List.filter_cons_of_pos (by rw [hasRows, hcut, Bool.or_true]),
            hbelow, outlineAll, List.map_cons, nodeRows, if_neg hnotShown]
          rfl
      · rw [if_neg hkind, outlineAt, nodesBelow_of_plain hkind]
        rfl

/-- The same for a list of fields. -/
theorem outlineAll_fieldMapAt : ∀ (enclosing : List FieldSpec) (fields : List Portfolio.Field),
    enclosing.length ≤ maxStructureDepth →
      outlineAll (enclosing.map fun spec => Naming.key spec.name)
          (fieldMapAt enclosing.length fields) =
        ((nodesBelowAll enclosing fields).filter hasRows).map nodeRows
  | _, [] => by
      intro _
      rw [fieldMapAt, outlineAll, nodesBelowAll]
      rfl
  | enclosing, f :: fs => by
      intro hdepth
      have hfirst := outlineAt_ofFieldAt enclosing f hdepth
      rw [List.map_append, List.map_singleton] at hfirst
      rw [fieldMapAt, outlineAll, nodesBelowAll, List.filter_append, List.map_append, hfirst,
        outlineAll_fieldMapAt enclosing fs hdepth]

end

/-- The form of a field has rows for the structures in it and no others: with all their
fields in order down to the depth limit, and without any one level below. -/
theorem outline_ofField (f : Portfolio.Field) :
    outline (Naming.key f.name) (Field.ofField f) = (f.nodes.filter hasRows).map nodeRows :=
  outlineAt_ofFieldAt [] f (Nat.zero_le _)

/-! ### Mirrors -/

mutual

/-- A form field shows a field whole: it has the field's settings, and the rows of a
structure mirror all its fields. -/
inductive Mirrors : Portfolio.Field → Panel.Field → Prop where
  | plain {spec : FieldSpec} {nested : List Portfolio.Field} (kind : spec.kind ≠ .structured) :
      Mirrors ⟨spec, nested⟩ ⟨Control.ofSpec spec, none⟩
  | structured {spec : FieldSpec} {nested : List Portfolio.Field} {rows : FieldMap}
      (kind : spec.kind = .structured) (fields : MirrorsAll nested rows) :
      Mirrors ⟨spec, nested⟩ ⟨Control.ofSpec spec, some rows⟩

/-- A form shows the fields of a list whole, each under its key and in the same order. -/
inductive MirrorsAll : List Portfolio.Field → FieldMap → Prop where
  | nil : MirrorsAll [] []
  | cons {f : Portfolio.Field} {fs : List Portfolio.Field} {p : Panel.Field} {ps : FieldMap}
      (head : Mirrors f p) (tail : MirrorsAll fs ps) :
      MirrorsAll (f :: fs) ((Naming.key f.name, p) :: ps)

end

mutual

/-- A field that does not nest too deep is shown whole. -/
theorem mirrors_ofFieldAt : ∀ (enclosing : Nat) (f : Portfolio.Field),
    f.structureDepth + enclosing ≤ maxStructureDepth → Mirrors f (Field.ofFieldAt enclosing f)
  | enclosing, ⟨spec, nested⟩ => by
      intro hdepth
      rw [Field.ofFieldAt]
      rw [Field.structureDepth] at hdepth
      by_cases hkind : spec.kind = .structured
      · rw [if_pos hkind] at hdepth
        rw [if_pos hkind, if_pos (by omega)]
        exact .structured hkind (mirrors_fieldMapAt (enclosing + 1) nested (by omega))
      · rw [if_neg hkind]
        exact .plain hkind

/-- The same for a list of fields. -/
theorem mirrors_fieldMapAt : ∀ (enclosing : Nat) (fields : List Portfolio.Field),
    Field.maxStructureDepthOf fields + enclosing ≤ maxStructureDepth →
      MirrorsAll fields (fieldMapAt enclosing fields)
  | _, [] => by
      intro _
      rw [fieldMapAt]
      exact .nil
  | enclosing, f :: fs => by
      intro hdepth
      rw [Field.maxStructureDepthOf] at hdepth
      rw [fieldMapAt]
      exact .cons (mirrors_ofFieldAt enclosing f (by omega))
        (mirrors_fieldMapAt enclosing fs (by omega))

end

theorem mirrors_ofField {f : Portfolio.Field} (h : f.structureDepth ≤ maxStructureDepth) :
    Mirrors f (Field.ofField f) :=
  mirrors_ofFieldAt 0 f h

/-! ### Notes -/

/-- A note of a structure that is cut. -/
def isTruncated (note : Note) : Bool := note.kind == .truncated

/-- The path of the fields of a list, from the outermost to the innermost. -/
def pathOf (specs : List FieldSpec) : String :=
  specs.foldl (fun outer spec => notePath outer spec.name) ""

/-- The note that a cut structure should have. -/
def cutNote (n : Node) : Note :=
  ⟨pathOf n.path, .truncated,
    "structure nested 4 levels deep; fields below level 3 are dropped"⟩

theorem pathOf_append (enclosing : List FieldSpec) (spec : FieldSpec) :
    pathOf (enclosing ++ [spec]) = notePath (pathOf enclosing) spec.name := by
  rw [pathOf, pathOf, List.foldl_append, List.foldl_cons, List.foldl_nil]

/-- Only structures are cut. -/
theorem truncated_notesAt_of_plain {spec : FieldSpec} {nested : List Portfolio.Field}
    (h : ¬ spec.kind = .structured) (outer : String) (enclosing : Nat) :
    (notesAt outer enclosing ⟨spec, nested⟩).filter isTruncated = [] := by
  rw [notesAt]
  cases hkind : spec.kind with
  | structured => exact absurd hkind h
  | _ => rfl

mutual

/-- The notes of cut structures inside a field are those of the structures one level below
the limit. -/
theorem truncated_notesAt : ∀ (enclosing : List FieldSpec) (f : Portfolio.Field),
    enclosing.length ≤ maxStructureDepth →
      (notesAt (pathOf enclosing) enclosing.length f).filter isTruncated =
        ((nodesBelow enclosing f).filter Node.cut).map cutNote
  | enclosing, ⟨spec, nested⟩ => by
      intro hdepth
      by_cases hkind : spec.kind = .structured
      · rw [nodesBelow_of_structured hkind]
        rcases Nat.lt_or_eq_of_le hdepth with hlt | heq
        · have hinner := truncated_notesOfAll (enclosing ++ [spec]) nested
            (by rw [List.length_append, List.length_singleton]; exact hlt)
          have hnotCut : ¬ (⟨enclosing, ⟨spec, nested⟩⟩ : Node).cut = true := by
            rw [Node.cut_iff]
            exact Nat.ne_of_lt hlt
          rw [List.length_append, List.length_singleton, pathOf_append] at hinner
          rw [List.filter_cons_of_neg hnotCut, ← hinner, notesAt]
          simp only [hkind, if_pos hlt]
        · have hcut := (Node.cut_iff enclosing ⟨spec, nested⟩).2 heq
          have hbelow : (nodesBelowAll (enclosing ++ [spec]) nested).filter Node.cut = [] :=
            Portfolio.Field.filter_nodesBelowAll_eq_nil (Nat.le_of_eq heq.symm)
              fun _ => Node.level_le_of_cut
          rw [List.filter_cons_of_pos hcut, hbelow, List.map_singleton, cutNote, Node.path,
            pathOf_append, notesAt]
          simp only [hkind, heq, Nat.lt_irrefl, if_false]
          rfl
      · rw [nodesBelow_of_plain hkind, truncated_notesAt_of_plain hkind]
        rfl

/-- The same for a list of fields. -/
theorem truncated_notesOfAll : ∀ (enclosing : List FieldSpec) (fields : List Portfolio.Field),
    enclosing.length ≤ maxStructureDepth →
      (notesOfAll (pathOf enclosing) enclosing.length fields).filter isTruncated =
        ((nodesBelowAll enclosing fields).filter Node.cut).map cutNote
  | _, [] => by
      intro _
      rw [notesOfAll, nodesBelowAll]
      rfl
  | enclosing, f :: fs => by
      intro hdepth
      rw [notesOfAll, nodesBelowAll, List.filter_append, List.filter_append, List.map_append,
        truncated_notesAt enclosing f hdepth, truncated_notesOfAll enclosing fs hdepth]

end

/-- A field has a note of a cut for each structure one level below the limit, and no other. -/
theorem truncated_notes (f : Portfolio.Field) :
    (notes f).filter isTruncated = (f.nodes.filter Node.cut).map cutNote :=
  truncated_notesAt [] f (Nat.zero_le _)

/-- There is such a note exactly if the field nests too deep. -/
theorem structureDepth_lt_iff_truncated (f : Portfolio.Field) :
    maxStructureDepth < f.structureDepth ↔ ∃ note ∈ notes f, note.kind = .truncated := by
  have hnodes : (∃ n ∈ f.nodes, n.level = maxStructureDepth + 1) ↔
      (f.nodes.filter Node.cut).map cutNote ≠ [] := by
    simp [List.filter_eq_nil_iff, Node.cut]
  have hnotes : (∃ note ∈ notes f, note.kind = .truncated) ↔
      (notes f).filter isTruncated ≠ [] := by
    simp [List.filter_eq_nil_iff, isTruncated]
  rw [Portfolio.Field.lt_structureDepth_iff, hnodes, hnotes, truncated_notes]

end Portfolio.Panel
