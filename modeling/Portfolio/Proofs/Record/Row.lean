/-
Module: Portfolio.Proofs.Record.Row
Purpose: The rows of a structure as lines: a line for every cell that is not null, the cells of
  the nested fields first. The cells are told apart by their names and written under their keys,
  so a cell that no field is declared for can take the key of another, or have none.
Main exports: Record.CellsOf, Record.RowWritten, Record.rows_keep_cells, Record.rowKeys,
  Record.row_keys_sound_iff, Record.row_repeats_key
-/
import Portfolio.Proofs.Record.Reading
import Portfolio.Proofs.Record.Scalar
import Portfolio.Proofs.SortedMap

namespace Portfolio.Record

/-! ### Cells -/

/-- The names of fields. -/
def fieldNames (fields : List Field) : List String := fields.map fun f => f.name

/-- How the cells of a row stand: each entry that is not null once, first those of the nested
fields in the order of these, and then all others in byte order of their names. -/
structure CellsOf (nested : List Field) (row declared others : List (String × Value)) :
    Prop where
  every_entry : (declared ++ others).Perm (row.filter fun e => !e.2.isNull)
  schema_order : (declared.map (·.1)).Sublist (fieldNames nested)
  undeclared : ∀ e ∈ others, e.1 ∉ fieldNames nested
  byte_order : KeysSorted others

/-- The line of a cell. -/
def cellLine (cell : String × Value) : String :=
  "  " ++ Naming.key cell.1 ++ ": " ++ yamlScalar cell.2

/-- How a row is written: nothing for null, a dash and a line for each cell of a map, and one line
for any other value. -/
inductive RowWritten (nested : List Field) : Value → List String → Prop where
  | null : RowWritten nested .null []
  | cells {row declared others : List (String × Value)}
      (stand : CellsOf nested row declared others) :
      RowWritten nested (.map row) ("-" :: (declared ++ others).map cellLine)
  | single {v : Value} (filled : v ≠ .null) (no_map : ∀ row, v ≠ .map row) :
      RowWritten nested v ["- " ++ yamlScalar v]

section

variable {nested : List Field} {row : List (String × Value)}

/-- The entries of a row under the names of the nested fields, in the order of these. -/
def declaredEntries (nested : List Field) (row : List (String × Value)) :
    List (String × Value) :=
  nested.filterMap fun f => (row.lookup f.name).map fun v => (f.name, v)

/-- The entries of a row under other names. -/
def otherEntries (nested : List Field) (row : List (String × Value)) : List (String × Value) :=
  row.filter fun e => !nested.any fun f => f.name == e.1

/-- The cells among the entries. -/
def filledCells (entries : List (String × Value)) : List (String × Value) :=
  entries.filter fun e => !e.2.isNull

theorem orderedRow_eq (nested : List Field) (row : List (String × Value)) :
    orderedRow nested row =
      filledCells (declaredEntries nested row) ++ filledCells (otherEntries nested row) :=
  List.filter_append _ _

theorem any_name_iff {name : String} :
    (nested.any fun f => f.name == name) = true ↔ name ∈ fieldNames nested := by
  simp [fieldNames]

theorem keys_declaredEntries_sublist :
    ((declaredEntries nested row).map (·.1)).Sublist (fieldNames nested) := by
  induction nested with
  | nil => exact List.Sublist.refl _
  | cons f rest ih =>
      rw [declaredEntries, List.filterMap_cons, fieldNames, List.map_cons]
      cases row.lookup f.name with
      | none => exact ih.cons f.name
      | some v => exact ih.cons_cons f.name

theorem mem_declaredEntries_iff (hrow : (row.map (·.1)).Nodup) (e : String × Value) :
    e ∈ declaredEntries nested row ↔ e ∈ row ∧ e.1 ∈ fieldNames nested := by
  obtain ⟨name, v⟩ := e
  simp only [declaredEntries, List.mem_filterMap, Option.map_eq_some_iff, Prod.mk.injEq,
    ← lookup_eq_some_iff_mem hrow, fieldNames, List.mem_map]
  constructor
  · rintro ⟨f, hf, w, hw, rfl, rfl⟩
    exact ⟨hw, f, hf, rfl⟩
  · rintro ⟨hv, f, hf, rfl⟩
    exact ⟨f, hf, v, hv, rfl, rfl⟩

/-- An entry is declared or another one, so none is lost and none stands twice. -/
theorem declared_append_other_perm (hnested : (fieldNames nested).Nodup)
    (hrow : (row.map (·.1)).Nodup) :
    (declaredEntries nested row ++ otherEntries nested row).Perm row := by
  have hdeclared : (declaredEntries nested row).Perm
      (row.filter fun e => nested.any fun f => f.name == e.1) := by
    apply (List.perm_ext_iff_of_nodup _ _).2
    · intro e
      rw [mem_declaredEntries_iff hrow, List.mem_filter, any_name_iff]
    · exact (hnested.sublist keys_declaredEntries_sublist).of_map
    · exact hrow.of_map.filter _
  exact (hdeclared.append_right _).trans (List.filter_append_perm _ row)

theorem orderedRow_perm (hnested : (fieldNames nested).Nodup) (hrow : (row.map (·.1)).Nodup) :
    (orderedRow nested row).Perm (filledCells row) :=
  (declared_append_other_perm hnested hrow).filter _

theorem cellsOf_orderedRow (hnested : (fieldNames nested).Nodup) (hrow : KeysSorted row) :
    CellsOf nested row (filledCells (declaredEntries nested row))
      (filledCells (otherEntries nested row)) := by
  refine ⟨?_, ?_, ?_, ?_⟩
  · rw [← orderedRow_eq]
    exact orderedRow_perm hnested hrow.nodup
  · exact (List.filter_sublist.map _).trans keys_declaredEntries_sublist
  · intro e he hname
    have hother := (List.mem_filter.1 (List.mem_filter.1 he).1).2
    rw [any_name_iff.2 hname] at hother
    exact absurd hother (by decide)
  · exact hrow.sublist (List.filter_sublist.trans List.filter_sublist)

end

/-! ### Lines -/

theorem rowWritten_rowLines {nested : List Field} (hnested : (fieldNames nested).Nodup)
    {v : Value} (hv : ∀ row, v = .map row → KeysSorted row) :
    RowWritten nested v (rowLines nested v) := by
  cases v with
  | null => exact .null
  | map row =>
      have hlines : rowLines nested (.map row) =
          "-" :: (filledCells (declaredEntries nested row) ++
            filledCells (otherEntries nested row)).map cellLine := by
        rw [← orderedRow_eq]
        rfl
      rw [hlines]
      exact .cells (cellsOf_orderedRow hnested (hv row rfl))
  | bool b => exact .single (by simp) (by simp)
  | number n => exact .single (by simp) (by simp)
  | text s => exact .single (by simp) (by simp)
  | list items => exact .single (by simp) (by simp)

theorem newline_not_mem_key (name : String) : '\n' ∉ (Naming.key name).toList :=
  (Naming.spelled_key name).not_mem (by decide) (by decide)

theorem newline_not_mem_rowLines (nested : List Field) (v : Value) :
    ∀ line ∈ rowLines nested v, '\n' ∉ line.toList := by
  have hsingle (w : Value) : ∀ line ∈ ["- " ++ yamlScalar w], '\n' ∉ line.toList := by
    simp [newline_not_mem_yamlScalar w]
  cases v with
  | null => simp [rowLines]
  | map row =>
      rw [rowLines, List.forall_mem_cons, List.forall_mem_map]
      refine ⟨by decide, fun e _ => ?_⟩
      simp [newline_not_mem_key e.1, newline_not_mem_yamlScalar e.2]
  | bool b => exact hsingle (.bool b)
  | number n => exact hsingle (.number n)
  | text s => exact hsingle (.text s)
  | list items => exact hsingle (.list items)

/-- The rows of a structure are written row by row, with all their cells, and the lines of the
body are those of the rows. -/
theorem rows_keep_cells {nested : List Field} {rows : List Value}
    (hnested : (fieldNames nested).Nodup)
    (hrows : ∀ row, Value.map row ∈ rows → KeysSorted row) :
    ∃ pieces : List (List String),
      List.Forall₂ (RowWritten nested) rows pieces ∧
        structureBlock nested (.list rows) = Text.unlines pieces.flatten ∧
        (pieces.flatten ≠ [] →
          Text.splitLines (structureBlock nested (.list rows)).toList =
            pieces.flatten.map String.toList) := by
  have hbody : structureBlock nested (.list rows) =
      Text.unlines (rows.map (rowLines nested)).flatten := by
    rw [structureBlock, List.flatMap_def]
  refine ⟨rows.map (rowLines nested), ?_, hbody, ?_⟩
  · rw [List.forall₂_map_right_iff, List.forall₂_same]
    intro v hv
    apply rowWritten_rowLines hnested
    rintro row rfl
    exact hrows row hv
  · intro hne
    rw [hbody]
    apply Text.splitLines_unlines hne
    intro line hline
    obtain ⟨piece, hpiece, hline⟩ := List.mem_flatten.1 hline
    obtain ⟨v, -, rfl⟩ := List.mem_map.1 hpiece
    exact newline_not_mem_rowLines nested v line hline

/-- The fields of a song on a set list. -/
def songFields : List Field := [.named "song" .text [], .named "minutes" .number []]

/-- A set list: a song with its soloist, an empty row, and a remark. -/
def sampleRows : List Value :=
  [.map [("minutes", .ofNat 9), ("solo", .null), ("soloist", .text "Miles"),
    ("song", .text "So What")], .null, .text "encore: open"]

theorem rows_keep_cells_sampleRows :
    (fieldNames songFields).Nodup ∧ (∀ row, Value.map row ∈ sampleRows → KeysSorted row) ∧
      (∃ pieces : List (List String),
        List.Forall₂ (RowWritten songFields) sampleRows pieces ∧
          structureBlock songFields (.list sampleRows) = Text.unlines pieces.flatten) ∧
      structureBlock songFields (.list sampleRows) =
        "-\n  song: So What\n  minutes: 9\n  soloist: Miles\n- 'encore: open'" := by
  have hrows : ∀ row, Value.map row ∈ sampleRows → KeysSorted row := by
    intro row hrow
    simp only [sampleRows, List.mem_cons, List.not_mem_nil, Value.map.injEq, reduceCtorEq,
      or_false] at hrow
    subst hrow
    unfold KeysSorted
    decide
  have hnested : (fieldNames songFields).Nodup := by decide
  obtain ⟨pieces, hwritten, hbody, -⟩ := rows_keep_cells hnested hrows
  exact ⟨hnested, hrows, ⟨pieces, hwritten, hbody⟩, by decide +kernel⟩

/-! ### Keys -/

/-- The key of a line: what stands between its indentation and its first colon. -/
def lineKey (line : String) : String :=
  String.ofList ((line.toList.drop 2).takeWhile (· != ':'))

/-- The keys of the lines that are written for a map as a row. -/
def rowKeys (nested : List Field) (row : List (String × Value)) : List String :=
  ((rowLines nested (.map row)).drop 1).map lineKey

theorem lineKey_cellLine (cell : String × Value) :
    lineKey (cellLine cell) = Naming.key cell.1 := by
  have hkey : ∀ c ∈ (Naming.key cell.1).toList, (c != ':') = true := by
    intro c hc
    rw [bne_iff_ne]
    rintro rfl
    exact (Naming.spelled_key cell.1).not_mem (by decide) (by decide) hc
  have hline : (cellLine cell).toList.drop 2 =
      (Naming.key cell.1).toList ++ ':' :: ' ' :: (yamlScalar cell.2).toList := by
    simp [cellLine]
  rw [lineKey, hline, List.takeWhile_append_of_pos hkey, List.takeWhile_cons_of_neg (by decide),
    List.append_nil, String.ofList_toList]

theorem rowKeys_eq (nested : List Field) (row : List (String × Value)) :
    rowKeys nested row = (orderedRow nested row).map fun e => Naming.key e.1 := by
  have hlines : (rowLines nested (.map row)).drop 1 = (orderedRow nested row).map cellLine := rfl
  rw [rowKeys, hlines, List.map_map]
  exact List.map_congr_left fun e _ => lineKey_cellLine e

section

variable {nested : List Field} {row : List (String × Value)}

theorem mem_orderedRow_iff (hnested : (fieldNames nested).Nodup) (hrow : KeysSorted row)
    (e : String × Value) : e ∈ orderedRow nested row ↔ e ∈ row ∧ e.2.isNull = false := by
  rw [(orderedRow_perm hnested hrow.nodup).mem_iff, filledCells, List.mem_filter,
    Bool.not_eq_true']

theorem eq_of_mem_row (hrow : KeysSorted row) {e other : String × Value} (he : e ∈ row)
    (hother : other ∈ row) (h : e.1 = other.1) : e = other :=
  List.inj_on_of_nodup_map hrow.nodup he hother h

/-- Names of declared fields are told apart by their keys. -/
theorem name_eq_of_key_eq (hsound : Validation.KeysSound nested) {name other : String}
    (hname : name ∈ fieldNames nested) (hother : other ∈ fieldNames nested)
    (h : Naming.key name = Naming.key other) : name = other := by
  obtain ⟨f, hf, rfl⟩ := List.mem_map.1 hname
  obtain ⟨g, hg, rfl⟩ := List.mem_map.1 hother
  rw [List.inj_on_of_nodup_map hsound.distinct hf hg h]

/-- The key of a declared field is not empty. -/
theorem key_ne_empty (hsound : Validation.KeysSound nested) {name : String}
    (hname : name ∈ fieldNames nested) : Naming.key name ≠ "" := by
  obtain ⟨f, hf, rfl⟩ := List.mem_map.1 hname
  obtain ⟨c, hc, -⟩ := hsound.callable f hf
  intro hempty
  rw [hempty] at hc
  simp at hc

/-- No undeclared cell has an empty key, or that of another cell. -/
def OthersKeyed (nested : List Field) (row : List (String × Value)) : Prop :=
  ∀ e ∈ row, e.2.isNull = false → e.1 ∉ fieldNames nested →
    Naming.key e.1 ≠ "" ∧ ∀ other ∈ row, other.2.isNull = false →
      Naming.key other.1 = Naming.key e.1 → other.1 = e.1

theorem rowKeys_sound_iff_othersKeyed (hsound : Validation.KeysSound nested)
    (hrow : KeysSorted row) :
    (∀ key ∈ rowKeys nested row, key ≠ "") ∧ (rowKeys nested row).Nodup ↔
      OthersKeyed nested row := by
  have hkeys : ((fieldNames nested).map Naming.key).Nodup := by
    rw [fieldNames, List.map_map]
    exact hsound.distinct
  have hmem := mem_orderedRow_iff hkeys.of_map hrow
  rw [rowKeys_eq, List.forall_mem_map]
  constructor
  · rintro ⟨hfilled, hdistinct⟩ e he hnull _
    have hmeme := (hmem e).2 ⟨he, hnull⟩
    refine ⟨hfilled e hmeme, fun other hother hother_null hkey => ?_⟩
    exact congrArg _
      (List.inj_on_of_nodup_map hdistinct ((hmem other).2 ⟨hother, hother_null⟩) hmeme hkey)
  · intro h
    constructor
    · intro e he
      obtain ⟨he, hnull⟩ := (hmem e).1 he
      by_cases hname : e.1 ∈ fieldNames nested
      · exact key_ne_empty hsound hname
      · exact (h e he hnull hname).1
    · have hcells : (orderedRow nested row).Nodup := by
        rw [(orderedRow_perm hkeys.of_map hrow.nodup).nodup_iff]
        exact hrow.nodup.of_map.filter _
      apply hcells.map_on
      intro e he other hother hkey
      obtain ⟨he, hnull⟩ := (hmem e).1 he
      obtain ⟨hother, hother_null⟩ := (hmem other).1 hother
      -- Either one of the two is undeclared, or the checks tell their keys apart.
      by_cases hname : e.1 ∈ fieldNames nested
      · by_cases hother_name : other.1 ∈ fieldNames nested
        · exact eq_of_mem_row hrow he hother (name_eq_of_key_eq hsound hname hother_name hkey)
        · exact eq_of_mem_row hrow he hother
            ((h other hother hother_null hother_name).2 e he hnull hkey)
      · exact eq_of_mem_row hrow he hother
          ((h e he hnull hname).2 other hother hother_null hkey.symm).symm

end

/-- The keys of a row of a structure in an accepted schema are distinct and not empty exactly if
none of its undeclared cells has an empty key, or that of another cell. Declared cells are never
to blame. -/
theorem row_keys_sound_iff {schema : Schema} {entity : Entity} {fields : List Field}
    {field : Field} {row : List (String × Value)}
    (hvalid : (Validation.report schema).valid = true) (hentity : entity ∈ schema.entities)
    (hfields : Validation.Holds entity.fields fields) (hfield : field ∈ fields)
    (hkind : field.kind = .structured) (hrow : KeysSorted row) :
    (∀ key ∈ rowKeys field.nested row, key ≠ "") ∧ (rowKeys field.nested row).Nodup ↔
      OthersKeyed field.nested row := by
  have hacceptable := (Validation.report_valid_iff schema).1 hvalid
  have hnested := Validation.Holds.nested hfields hfield hkind
  have hsound := (hacceptable.fields_sound entity hentity field.nested hnested).toKeysSound
  exact rowKeys_sound_iff_othersKeyed hsound hrow

/-- A gig with a set list. -/
def setlistGig : Entity :=
  { id := "gig", name := "Gig", pluralName := "Gigs"
    fields := [.named "title" .text [], .named "setlist" .structured songFields] }

def setlistSchema : Schema := { version := some "1.0.0", entities := [setlistGig] }

/-- A soloist has a key of its own. -/
theorem row_keys_sound_soloist :
    (Validation.report setlistSchema).valid = true ∧
      (∀ key ∈ rowKeys songFields [("soloist", .text "Miles"), ("song", .text "So What")],
        key ≠ "") ∧
      (rowKeys songFields [("soloist", .text "Miles"), ("song", .text "So What")]).Nodup := by
  have hvalid : (Validation.report setlistSchema).valid = true := by decide +kernel
  have hrow : KeysSorted [("soloist", Value.text "Miles"), ("song", .text "So What")] := by
    unfold KeysSorted
    decide
  refine ⟨hvalid, (row_keys_sound_iff hvalid List.mem_cons_self .self
    (List.mem_cons_of_mem _ List.mem_cons_self) rfl hrow).2 ?_⟩
  unfold OthersKeyed
  decide +kernel

/-- Another spelling of a declared name takes its key, and a name without letters and digits has
none. -/
theorem row_repeats_key :
    (Validation.report setlistSchema).valid = true ∧
      KeysSorted [("Song", Value.text "Freddie"), ("song", .text "So What")] ∧
      rowKeys songFields [("Song", .text "Freddie"), ("song", .text "So What")] =
        ["song", "song"] ∧
      rowKeys songFields [("***", .text "encore")] = [""] := by
  unfold KeysSorted
  decide +kernel

end Portfolio.Record
