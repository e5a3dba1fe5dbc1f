/-
Module: Portfolio.Proofs.Panel.Gap
Purpose: The fields that the panel cannot show, wherever they lie in structures, and the note
  on each of them. The notes of a field, apart from those on cut structures, are exactly these.
Main exports: Panel.dotted, Panel.shownPath, Panel.shownPath_eq_dotted_iff, Field.gaps,
  Panel.gap_notes
-/
import Portfolio.Proofs.Panel.Nesting

namespace Portfolio

/-! ### Fields in fields -/

namespace Field

mutual

/-- A field inside structures and the fields in it, each before those in it. Only structures
have fields in them: lists nested in fields of other kinds mean nothing. -/
def fieldsBelow (enclosing : List FieldSpec) : Field → List Node
  | ⟨spec, nested⟩ =>
      ⟨enclosing, ⟨spec, nested⟩⟩ ::
        (if spec.kind = .structured then fieldsBelowAll (enclosing ++ [spec]) nested else [])

/-- The fields of a list with the fields in them. -/
def fieldsBelowAll (enclosing : List FieldSpec) : List Field → List Node
  | [] => []
  | f :: fs => fieldsBelow enclosing f ++ fieldsBelowAll enclosing fs

end

/-- The list of a field lists it and, behind a structure, the fields of its rows. -/
theorem mem_fieldsBelow {enclosing : List FieldSpec} {f : Field} {n : Node} :
    n ∈ fieldsBelow enclosing f ↔ n = ⟨enclosing, f⟩ ∨
      f.kind = .structured ∧ n ∈ fieldsBelowAll (enclosing ++ [f.toFieldSpec]) f.nested := by
  obtain ⟨spec, nested⟩ := f
  rw [fieldsBelow, List.mem_cons]
  by_cases hkind : spec.kind = .structured
  · simp [hkind]
  · simp [hkind]

theorem mem_fieldsBelowAll {enclosing : List FieldSpec} {fields : List Field} {n : Node} :
    n ∈ fieldsBelowAll enclosing fields ↔ ∃ f ∈ fields, n ∈ fieldsBelow enclosing f := by
  induction fields with
  | nil => simp [fieldsBelowAll]
  | cons f fs ih => simp [fieldsBelowAll, ih]

/-- A field inside structures reaches itself, and the fields of the rows of every structure that
it reaches. -/
inductive Reaches (enclosing : List FieldSpec) (f : Field) : Node → Prop where
  | self : Reaches enclosing f ⟨enclosing, f⟩
  | row {n : Node} {g : Field} (outer : Reaches enclosing f n)
      (structured : n.field.kind = .structured) (member : g ∈ n.field.nested) :
      Reaches enclosing f ⟨n.path, g⟩

/-- What is reached from a row is reached from the structure. -/
theorem Reaches.of_row {enclosing : List FieldSpec} {f g : Field} {n : Node}
    (structured : f.kind = .structured) (member : g ∈ f.nested)
    (h : Reaches (enclosing ++ [f.toFieldSpec]) g n) : Reaches enclosing f n := by
  induction h with
  | self => exact .row .self structured member
  | row _ hkind hmember ih => exact .row ih hkind hmember

mutual

theorem reaches_of_mem_fieldsBelow : ∀ (enclosing : List FieldSpec) (f : Field),
    ∀ n ∈ fieldsBelow enclosing f, Reaches enclosing f n
  | enclosing, ⟨spec, nested⟩ => by
      intro n hn
      rcases mem_fieldsBelow.1 hn with rfl | ⟨hkind, hn⟩
      · exact .self
      · obtain ⟨g, hg, hreaches⟩ := reaches_of_mem_fieldsBelowAll _ nested n hn
        exact .of_row hkind hg hreaches

theorem reaches_of_mem_fieldsBelowAll : ∀ (enclosing : List FieldSpec) (fields : List Field),
    ∀ n ∈ fieldsBelowAll enclosing fields, ∃ f ∈ fields, Reaches enclosing f n
  | _, [] => by
      intro n hn
      simp [fieldsBelowAll] at hn
  | enclosing, f :: fs => by
      intro n hn
      rw [fieldsBelowAll, List.mem_append] at hn
      rcases hn with hn | hn
      · exact ⟨f, List.mem_cons_self, reaches_of_mem_fieldsBelow enclosing f n hn⟩
      · obtain ⟨g, hg, hreaches⟩ := reaches_of_mem_fieldsBelowAll enclosing fs n hn
        exact ⟨g, List.mem_cons_of_mem f hg, hreaches⟩

end

mutual

/-- With a structure its rows are listed. -/
theorem row_mem_fieldsBelow : ∀ (enclosing : List FieldSpec) (f : Field),
    ∀ n ∈ fieldsBelow enclosing f, n.field.kind = .structured →
      ∀ g ∈ n.field.nested, ⟨n.path, g⟩ ∈ fieldsBelow enclosing f
  | enclosing, ⟨spec, nested⟩ => by
      intro n hn hkind g hg
      rcases mem_fieldsBelow.1 hn with rfl | ⟨hself, hn⟩
      · refine mem_fieldsBelow.2 (Or.inr ⟨hkind, ?_⟩)
        exact mem_fieldsBelowAll.2 ⟨g, hg, mem_fieldsBelow.2 (Or.inl rfl)⟩
      · exact mem_fieldsBelow.2
          (Or.inr ⟨hself, row_mem_fieldsBelowAll _ nested n hn hkind g hg⟩)

theorem row_mem_fieldsBelowAll : ∀ (enclosing : List FieldSpec) (fields : List Field),
    ∀ n ∈ fieldsBelowAll enclosing fields, n.field.kind = .structured →
      ∀ g ∈ n.field.nested, ⟨n.path, g⟩ ∈ fieldsBelowAll enclosing fields
  | _, [] => by
      intro n hn
      simp [fieldsBelowAll] at hn
  | enclosing, f :: fs => by
      intro n hn hkind g hg
      rw [fieldsBelowAll, List.mem_append] at hn ⊢
      rcases hn with hn | hn
      · exact Or.inl (row_mem_fieldsBelow enclosing f n hn hkind g hg)
      · exact Or.inr (row_mem_fieldsBelowAll enclosing fs n hn hkind g hg)

end

/-- The list of a field lists what the field reaches. -/
theorem mem_fieldsBelow_iff_reaches {enclosing : List FieldSpec} {f : Field} {n : Node} :
    n ∈ fieldsBelow enclosing f ↔ Reaches enclosing f n := by
  constructor
  · exact reaches_of_mem_fieldsBelow enclosing f n
  · intro h
    induction h with
    | self => exact mem_fieldsBelow.2 (Or.inl rfl)
    | row _ hkind hmember ih => exact row_mem_fieldsBelow enclosing f _ ih hkind _ hmember

/-- The way to what a field reaches leads through the field. -/
theorem Reaches.path {enclosing : List FieldSpec} {f : Field} {n : Node}
    (h : Reaches enclosing f n) : ∃ rest, n.path = enclosing ++ f.toFieldSpec :: rest := by
  induction h with
  | self => exact ⟨[], rfl⟩
  | @row n g _ _ _ ih =>
      obtain ⟨rest, hpath⟩ := ih
      refine ⟨rest ++ [g.toFieldSpec], ?_⟩
      rw [Node.path, hpath, List.append_assoc, List.cons_append]

end Field

namespace Panel

/-! ### Paths of names -/

/-- Names with dots between them. -/
def dotted (names : List String) : String := String.intercalate "." names

/-- A path of names as notes show it: without the empty names in front. -/
def shownPath (names : List String) : String := dotted (names.dropWhile String.isEmpty)

theorem foldl_notePath_of_ne_empty (first : String) (names : List String) (h : first ≠ "") :
    names.foldl notePath first = dotted (first :: names) := by
  induction names generalizing first with
  | nil => exact String.intercalate_singleton.symm
  | cons name names ih =>
      have hpath : notePath first name = first ++ "." ++ name := by
        simp [notePath, h]
      have hne : first ++ "." ++ name ≠ "" := by
        simp [String.append_eq_empty_iff, h]
      rw [List.foldl_cons, hpath, ih _ hne, dotted, dotted, String.intercalate_cons_cons]
      cases names with
      | nil => simp
      | cons next names => simp [String.intercalate_cons_cons, String.append_assoc]

theorem foldl_notePath (names : List String) : names.foldl notePath "" = shownPath names := by
  induction names with
  | nil => rfl
  | cons name names ih =>
      by_cases hname : name = ""
      · simpa [hname, notePath, shownPath] using ih
      · have hfirst : notePath "" name = name := by
          simp [notePath]
        rw [List.foldl_cons, hfirst, foldl_notePath_of_ne_empty name names hname, shownPath,
          List.dropWhile_cons_of_neg (by simpa using hname)]

/-- The path in a note is the path of names, without the empty ones in front. -/
theorem pathOf_eq (specs : List FieldSpec) :
    pathOf specs = shownPath (specs.map fun spec => spec.name) := by
  rw [← foldl_notePath, List.foldl_map]
  rfl

theorem dotted_cons_of_ne_nil (first : String) {names : List String} (h : names ≠ []) :
    dotted (first :: names) = first ++ "." ++ dotted names :=
  String.intercalate_cons_of_ne_nil h

/-- Leaving out empty names makes no path longer. -/
theorem length_shownPath_le (names : List String) :
    (shownPath names).length ≤ (dotted names).length := by
  induction names with
  | nil => exact Nat.le_refl _
  | cons name names ih =>
      by_cases hname : name = ""
      · have hshown : shownPath (name :: names) = shownPath names := by
          simp [shownPath, hname]
        cases names with
        | nil => simp [hname, shownPath, dotted]
        | cons next names =>
            rw [hshown, dotted_cons_of_ne_nil _ (List.cons_ne_nil _ _), String.length_append]
            omega
      · have hshown : shownPath (name :: names) = dotted (name :: names) := by
          simp [shownPath, hname]
        exact Nat.le_of_eq (congrArg String.length hshown)

/-- A path is shown whole unless its first name is empty and others follow. -/
theorem shownPath_eq_dotted_iff (first : String) (names : List String) :
    shownPath (first :: names) = dotted (first :: names) ↔ names = [] ∨ first ≠ "" := by
  by_cases hfirst : first = ""
  · simp only [hfirst, ne_eq, not_true_eq_false, or_false]
    constructor
    · intro heq
      by_contra hnames
      -- The dot behind the empty name is not shown.
      have hshown : shownPath ("" :: names) = shownPath names := by
        simp [shownPath]
      have hle := length_shownPath_le names
      have hlength := congrArg String.length heq
      rw [hshown, dotted_cons_of_ne_nil "" hnames, String.length_append,
        String.length_append] at hlength
      have hdot : (".").length = 1 := rfl
      omega
    · rintro rfl
      rfl
  · simp [shownPath, hfirst]

end Panel

/-! ### Gaps -/

/-- The kinds that the panel cannot show as they are. -/
def FieldKind.isGap : FieldKind → Bool
  | .location | .datetime | .unknown _ => true
  | _ => false

/-- What is said of a kind that the panel cannot show as it is. -/
def FieldKind.gapText : FieldKind → String
  | .location => "location is stored as \"lat,lng\" text; a map plugin is needed for a picker"
  | .datetime => "datetime is edited with a date-only field; the time part is not editable"
  | .unknown name => "unknown field type \"" ++ name ++ "\" is edited as plain text"
  | _ => ""

/-- The names that lead to a field, its own included. -/
def Node.names (n : Node) : List String := n.path.map fun spec => spec.name

/-- A field that the panel cannot show as it is, inside no more structures than are shown. -/
def Node.isGap (n : Node) : Bool :=
  decide (n.enclosing.length ≤ maxStructureDepth) && n.field.kind.isGap

/-- The fields in a field, itself included, that the panel cannot show as they are. -/
def Field.gaps (f : Field) : List Node := (fieldsBelow [] f).filter Node.isGap

namespace Panel

open Portfolio.Field (fieldsBelow fieldsBelowAll mem_fieldsBelowAll mem_fieldsBelow_iff_reaches)

/-- In which way the panel falls short of such a kind. -/
def gapKind : FieldKind → NoteKind
  | .location => .needsPlugin
  | .datetime => .lossy
  | _ => .unknownKind

/-- The note on a field that the panel cannot show as it is. -/
def gapNote (n : Node) : Note :=
  ⟨shownPath n.names, gapKind n.field.kind, n.field.kind.gapText⟩

/-- The notes that are not on a cut structure. -/
def uncut (notes : List Note) : List Note := notes.filter fun note => !isTruncated note

/-- In the rows of a structure below the depth limit no gap counts. -/
theorem filter_isGap_fieldsBelowAll {enclosing : List FieldSpec} {spec : FieldSpec}
    {fields : List Portfolio.Field} (h : maxStructureDepth ≤ enclosing.length) :
    (fieldsBelowAll (enclosing ++ [spec]) fields).filter Node.isGap = [] := by
  apply List.filter_eq_nil_iff.2
  intro n hn hgap
  obtain ⟨f, -, hf⟩ := mem_fieldsBelowAll.1 hn
  obtain ⟨rest, hpath⟩ := (mem_fieldsBelow_iff_reaches.1 hf).path
  have hlength := congrArg List.length hpath
  simp only [Node.path, List.length_append, List.length_cons, List.length_nil] at hlength
  simp only [Node.isGap, Bool.and_eq_true, decide_eq_true_eq] at hgap
  omega

/-- A field of any other kind than a structure has a note if it is a gap. -/
theorem uncut_notesAt_of_plain {spec : FieldSpec} {nested : List Portfolio.Field}
    (h : ¬ spec.kind = .structured) (outer : String) (enclosing : Nat) :
    uncut (notesAt outer enclosing ⟨spec, nested⟩) =
      if spec.kind.isGap then
        [⟨notePath outer spec.name, gapKind spec.kind, spec.kind.gapText⟩]
      else [] := by
  rw [notesAt]
  cases hkind : spec.kind with
  | structured => exact absurd hkind h
  | _ => rfl

mutual

/-- The notes of a field inside structures, apart from those on cut structures, are the notes
on the gaps in it. -/
theorem uncut_notesAt : ∀ (enclosing : List FieldSpec) (f : Portfolio.Field),
    enclosing.length ≤ maxStructureDepth →
      uncut (notesAt (pathOf enclosing) enclosing.length f) =
        ((fieldsBelow enclosing f).filter Node.isGap).map gapNote
  | enclosing, ⟨spec, nested⟩ => by
      intro hdepth
      have hpath : notePath (pathOf enclosing) spec.name =
          shownPath (Node.names ⟨enclosing, ⟨spec, nested⟩⟩) := by
        rw [← pathOf_append, pathOf_eq]
        rfl
      rw [fieldsBelow]
      by_cases hkind : spec.kind = .structured
      · have hself : ¬ Node.isGap ⟨enclosing, ⟨spec, nested⟩⟩ = true := by
          simp [Node.isGap, FieldKind.isGap, hkind]
        rw [if_pos hkind, List.filter_cons_of_neg hself, notesAt]
        rcases Nat.lt_or_eq_of_le hdepth with hlt | heq
        · have hinner := uncut_notesOfAll (enclosing ++ [spec]) nested
            (by rw [List.length_append, List.length_singleton]; exact hlt)
          rw [List.length_append, List.length_singleton, pathOf_append] at hinner
          simp only [hkind, if_pos hlt]
          exact hinner
        · -- The structure is cut, and nothing in it is noted.
          rw [filter_isGap_fieldsBelowAll (Nat.le_of_eq heq.symm)]
          simp [hkind, uncut, isTruncated, heq]
      · rw [if_neg hkind, uncut_notesAt_of_plain hkind, hpath]
        by_cases hgap : spec.kind.isGap = true
        · simp [Node.isGap, gapNote, hgap, hdepth]
        · simp [Node.isGap, hgap]

/-- The same for a list of fields. -/
theorem uncut_notesOfAll : ∀ (enclosing : List FieldSpec) (fields : List Portfolio.Field),
    enclosing.length ≤ maxStructureDepth →
      uncut (notesOfAll (pathOf enclosing) enclosing.length fields) =
        ((fieldsBelowAll enclosing fields).filter Node.isGap).map gapNote
  | _, [] => by
      intro _
      rw [notesOfAll, fieldsBelowAll]
      rfl
  | enclosing, f :: fs => by
      intro hdepth
      have hfirst := uncut_notesAt enclosing f hdepth
      have hrest := uncut_notesOfAll enclosing fs hdepth
      rw [uncut] at hfirst hrest ⊢
      rw [notesOfAll, fieldsBelowAll, List.filter_append, List.filter_append, List.map_append,
        hfirst, hrest]

end

/-- A field has one note for each gap in it, in order, and otherwise notes on cut structures
only. -/
theorem gap_notes (f : Portfolio.Field) : uncut (notes f) = f.gaps.map gapNote :=
  uncut_notesAt [] f (Nat.zero_le _)

end Panel

end Portfolio
