/-
Module: Portfolio.Proofs.Record.Reading
Purpose: A reader of content records, and what it reads back. A record is cut at its
  separator lines; no value can pose as a separator, so every entry comes back whole.
Main exports: Record.read, Record.meant, Record.keepFirst, Record.read_render,
  Record.record_reads_back
-/
import Mathlib.Data.List.Nodup
import Portfolio.Proofs.Naming.Spelling
import Portfolio.Proofs.Validation.Findings
import Portfolio.Record.Basic

namespace Portfolio.Record

/-! ### Reading -/

/-- A text without the line feed at its end. -/
def dropFinalFeed (cs : List Char) : List Char :=
  if cs.getLast? = some '\n' then cs.dropLast else cs

/-- Lines without a blank one in front. -/
def dropBlankFirst (lines : List (List Char)) : List (List Char) :=
  if lines.head? = some [] then lines.tail else lines

/-- Lines without a blank one at the end. -/
def dropBlankLast (lines : List (List Char)) : List (List Char) :=
  if lines.getLast? = some [] then lines.dropLast else lines

/-- The lines between separators, without the one blank line that each separator puts on
either side of itself. `opened` says that a separator stands before the first of them. -/
def unpad (opened : Bool) : List (List (List Char)) → List (List (List Char))
  | [] => []
  | lines :: rest =>
      let lines := if opened then dropBlankFirst lines else lines
      (if rest.isEmpty then lines else dropBlankLast lines) :: unpad true rest

/-- The sections of a record: it is cut at the lines that are separators. A record without
text has none. -/
def sections (record : String) : List (List Char) :=
  match dropFinalFeed record.toList with
  | [] => []
  | cs => (unpad false ((Text.splitLines cs).splitOn separatorLine)).map Text.joinLines

/-- A section as a key and a value: the text before the first colon in lower case, and
the text behind it. -/
def readSection (cs : List Char) : String × String :=
  (String.ofList ((cs.takeWhile (· != ':')).map Char.toLower),
    String.ofList ((cs.dropWhile (· != ':')).drop 1))

/-- The keys and values of a record. -/
def read (record : String) : List (String × String) := (sections record).map readSection

/-! ### What a record is meant to hold -/

/-- A body as it stands behind the colon: on the same line, or below a blank line. -/
def written : Body → String
  | .line s => " " ++ escapeLine s
  | .block s => "\n\n" ++ escapeBlock s

/-- The times and the author of an item by key. -/
def meantMetadata (item : Item) : List (String × Body) :=
  [("created", .line (momentOfText item.metadata.createdAt)),
    ("updated", .line (momentOfText item.metadata.updatedAt))] ++
    (item.metadata.author.map fun author => ("author", Body.line author)).toList ++
    (item.metadata.publishedAt.map fun time =>
      ("published", Body.line (momentOfText time))).toList

/-- What a record is meant to hold, by key: the title if no field has its key, then the
fields that have a value, then the metadata if they are wanted. -/
def meant (settings : ContentSettings) (item : Item) (entity : Entity) :
    List (String × Body) :=
  (if "title" ∈ entity.fields.map fun f => Naming.key f.name then []
    else [("title", .line (title item entity))]) ++
  (entity.fields.filterMap fun f =>
    (item.value? f.name).map fun v => (Naming.key f.name, bodyOf settings f v)) ++
  (if settings.includeMetadata then meantMetadata item else [])

/-- The first entry of every key, in order: an entry takes its key from all behind it. -/
def keepFirst {α : Type} : List (String × α) → List (String × α)
  | [] => []
  | e :: rest => e :: (keepFirst rest).filter fun other => other.1 != e.1

/-! ### Lines -/

theorem newline_not_mem_splitLines {cs line : List Char} (h : line ∈ Text.splitLines cs) :
    '\n' ∉ line := by
  rw [Text.splitLines, List.splitOn_eq_splitOnP] at h
  intro hmem
  simpa using Naming.eq_false_of_mem_splitOnP cs line h '\n' hmem

theorem joinLines_cons_cons (line next : List Char) (lines : List (List Char)) :
    Text.joinLines (line :: next :: lines) =
      line ++ '\n' :: Text.joinLines (next :: lines) := by
  simp [Text.joinLines, List.intercalate_cons_cons]

theorem joinLines_append {lines more : List (List Char)} (hlines : lines ≠ [])
    (hmore : more ≠ []) :
    Text.joinLines (lines ++ more) = Text.joinLines lines ++ '\n' :: Text.joinLines more := by
  induction lines with
  | nil => exact absurd rfl hlines
  | cons line rest ih =>
      obtain ⟨first, others, rfl⟩ := List.exists_cons_of_ne_nil hmore
      cases rest with
      | nil => simp [Text.joinLines, List.intercalate_cons_cons]
      | cons next rest =>
          rw [List.cons_append, List.cons_append, joinLines_cons_cons, joinLines_cons_cons,
            ← List.cons_append, ih (List.cons_ne_nil _ _), List.append_assoc, List.cons_append]

/-! ### Escapes -/

theorem newline_not_mem_escapeLineChars (cs : List Char) : '\n' ∉ escapeLineChars cs := by
  fun_induction escapeLineChars cs with
  | case1 cs ih => simp [ih]
  | case2 cs ih => simp [ih]
  | case3 cs _ ih => exact ih
  | case4 c cs _ hfeed _ ih =>
      rw [List.mem_cons, not_or]
      exact ⟨fun h => hfeed h.symm, ih⟩
  | case5 => simp

theorem newline_not_mem_readLines {cs line : List Char} (h : line ∈ Text.readLines cs) :
    '\n' ∉ line := by
  rw [Text.readLines, List.mem_append] at h
  rcases h with h | h
  · obtain ⟨piece, hpiece, rfl⟩ := List.mem_map.1 h
    have hnot := newline_not_mem_splitLines (List.dropLast_subset _ hpiece)
    rw [Text.dropReturn]
    split
    · exact fun hmem => hnot (List.dropLast_subset _ hmem)
    · exact hnot
  · split at h
    · next c rest hlast =>
        rw [List.mem_singleton.1 h]
        exact newline_not_mem_splitLines (List.mem_of_getLast? hlast)
    · simp at h

theorem escapeBlockLine_ne_separatorLine (line : List Char) :
    escapeBlockLine line ≠ separatorLine := by
  rw [escapeBlockLine]
  split
  · next h => rw [h]; decide
  · next h => exact h

/-- Escaped lines come back from a block. -/
theorem splitLines_escaped {lines : List (List Char)} (hne : lines ≠ [])
    (h : ∀ line ∈ lines, '\n' ∉ line) :
    Text.splitLines (Text.joinLines (lines.map escapeBlockLine)) = lines.map escapeBlockLine := by
  apply Text.splitLines_joinLines
  · simpa using hne
  · intro line hline
    obtain ⟨plain, hplain, rfl⟩ := List.mem_map.1 hline
    have hnot := h plain hplain
    rw [escapeBlockLine]
    split
    · simp [hnot]
    · exact hnot

/-- No line of an escaped block is a separator. -/
theorem separatorLine_not_mem_escapeBlockChars (cs : List Char) :
    separatorLine ∉ Text.splitLines (escapeBlockChars cs) := by
  rw [escapeBlockChars]
  generalize htrimmed : Text.dropEndWhile (fun c => c == '\n' || c == '\r') cs = trimmed
  by_cases hempty : Text.readLines trimmed = []
  · rw [hempty]
    decide
  · rw [splitLines_escaped hempty fun _ => newline_not_mem_readLines]
    intro hmem
    obtain ⟨line, -, hline⟩ := List.mem_map.1 hmem
    exact escapeBlockLine_ne_separatorLine line hline

/-! ### Entries as lines -/

/-- A label names a field: what the labels of a record are like. -/
def Named (e : Entry) : Prop := ∃ name, e.label = Naming.label name

theorem Named.not_mem_label {e : Entry} (h : Named e) {c : Char}
    (hc : (c == '_' || Naming.isKept c) = false) : c ∉ e.label.toList := by
  obtain ⟨name, hname⟩ := h
  intro hmem
  rw [hname] at hmem
  rcases Naming.mem_label hmem with rfl | hkept
  · simp at hc
  · simp [hkept] at hc

/-- The key of an entry is its label in lower case. -/
theorem Named.toList_key {e : Entry} (h : Named e) :
    e.key.toList = e.label.toList.map Char.toLower := by
  obtain ⟨name, hname⟩ := h
  rw [Entry.key, hname, Naming.key_label, Naming.map_toLower_label]

theorem toList_render_line (label s : String) :
    (Entry.render ⟨label, .line s⟩).toList =
      label.toList ++ ':' :: ' ' :: escapeLineChars s.toList := by
  simp [Entry.render, escapeLine]

theorem toList_render_block (label s : String) :
    (Entry.render ⟨label, .block s⟩).toList =
      label.toList ++ ':' :: '\n' :: '\n' :: escapeBlockChars s.toList := by
  simp [Entry.render, escapeBlock]

/-- Every entry shows its label up to a colon, and what is written behind it. -/
theorem toList_render (e : Entry) :
    e.render.toList = e.label.toList ++ ':' :: (written e.body).toList := by
  obtain ⟨label, body⟩ := e
  cases body with
  | line s => simp [toList_render_line, written, escapeLine]
  | block s => simp [toList_render_block, written, escapeBlock]

theorem readSection_render {e : Entry} (h : Named e) :
    readSection e.render.toList = (e.key, written e.body) := by
  have hlabel : ∀ c ∈ e.label.toList, (c != ':') = true := by
    intro c hc
    rw [bne_iff_ne]
    rintro rfl
    exact h.not_mem_label (by decide) hc
  rw [readSection, toList_render, List.takeWhile_append_of_pos hlabel,
    List.dropWhile_append_of_pos hlabel, ← String.ofList_toList (s := e.key), h.toList_key]
  simp

/-- The lines of an entry. -/
def Entry.lines (e : Entry) : List (List Char) := Text.splitLines e.render.toList

theorem Entry.lines_ne_nil (e : Entry) : e.lines ≠ [] := List.splitOn_ne_nil _ _

theorem Entry.joinLines_lines (e : Entry) : Text.joinLines e.lines = e.render.toList :=
  Text.joinLines_splitLines _

/-- A line is one line, with the label in front of a colon. -/
theorem Entry.lines_line {label s : String} (h : '\n' ∉ label.toList) :
    Entry.lines ⟨label, .line s⟩ = [label.toList ++ ':' :: ' ' :: escapeLineChars s.toList] := by
  rw [Entry.lines, toList_render_line, Text.splitLines, List.splitOn_eq_singleton]
  simp [h, newline_not_mem_escapeLineChars]

/-- A block is the line of the label, a blank line, and the lines of the escaped block. -/
theorem Entry.lines_block {label s : String} (h : '\n' ∉ label.toList) :
    Entry.lines ⟨label, .block s⟩ =
      (label.toList ++ [':']) :: [] :: Text.splitLines (escapeBlockChars s.toList) := by
  rw [Entry.lines, toList_render_block, List.append_cons, Text.splitLines,
    List.splitOn_append_cons_self_of_not_mem (by simpa using h)]
  exact congrArg _ (List.splitOn_append_cons_self_of_not_mem List.not_mem_nil _)

/-- A line with a colon does not separate. -/
theorem ne_separatorLine_of_colon_mem {line : List Char} (h : ':' ∈ line) :
    separatorLine ≠ line := by
  rintro rfl
  exact absurd h (by decide)

theorem separatorLine_not_mem_lines {e : Entry} (h : Named e) : separatorLine ∉ e.lines := by
  have hfeed : '\n' ∉ e.label.toList := h.not_mem_label (by decide)
  obtain ⟨label, body⟩ := e
  cases body with
  | line s =>
      rw [Entry.lines_line hfeed, List.mem_singleton]
      exact ne_separatorLine_of_colon_mem (by simp)
  | block s =>
      rw [Entry.lines_block hfeed, List.mem_cons, List.mem_cons, not_or, not_or]
      exact ⟨ne_separatorLine_of_colon_mem (by simp), by decide,
        separatorLine_not_mem_escapeBlockChars s.toList⟩

/-! ### Records as lines -/

/-- The lines between two entries. -/
def separatorLines : List (List Char) := [[], separatorLine, []]

/-- A separator on lines is the separator in the text. -/
theorem joinLines_intercalate :
    ∀ {pieces : List (List (List Char))}, (∀ piece ∈ pieces, piece ≠ []) →
      Text.joinLines (separatorLines.intercalate pieces) =
        separator.toList.intercalate (pieces.map Text.joinLines)
  | [], _ => by simp [Text.joinLines]
  | [piece], _ => by simp
  | piece :: next :: rest, h => by
      have hrest : ∀ piece ∈ next :: rest, piece ≠ [] :=
        fun piece hpiece => h piece (List.mem_cons_of_mem _ hpiece)
      have hne : separatorLines.intercalate (next :: rest) ≠ [] := by
        cases rest with
        | nil => simpa using h next (by simp)
        | cons _ _ => simp [List.intercalate_cons_cons, separatorLines]
      have hseparator : separator.toList = '\n' :: Text.joinLines separatorLines ++ ['\n'] := by
        decide
      rw [List.intercalate_cons_cons, List.append_assoc,
        joinLines_append (h piece List.mem_cons_self) (by simp [separatorLines]),
        joinLines_append (by decide) hne, joinLines_intercalate hrest, List.map_cons,
        List.map_cons, List.map_cons, List.intercalate_cons_cons, hseparator]
      simp

/-- Pieces free of separators come back from their lines. If a separator stands before
them, so does its blank line. -/
theorem unpad_splitOn :
    ∀ {pieces : List (List (List Char))} (opened : Bool), pieces ≠ [] →
      (∀ piece ∈ pieces, separatorLine ∉ piece) →
      unpad opened (((if opened then [[]] else []) ++
        separatorLines.intercalate pieces).splitOn separatorLine) = pieces
  | [], _, hne, _ => absurd rfl hne
  | [piece], opened, _, h => by
      have hpiece : separatorLine ∉ piece := h piece List.mem_cons_self
      rw [List.intercalate_singleton, List.splitOn_eq_singleton]
      · cases opened <;> simp [unpad, dropBlankFirst]
      · cases opened
        · simpa using hpiece
        · simpa [separatorLine] using hpiece
  | piece :: next :: rest, opened, _, h => by
      have hpiece : separatorLine ∉ piece := h piece List.mem_cons_self
      have ih := unpad_splitOn true (List.cons_ne_nil next rest)
        fun piece hpiece => h piece (List.mem_cons_of_mem _ hpiece)
      obtain ⟨first, others, hsplit⟩ := List.exists_cons_of_ne_nil
        (List.splitOn_ne_nil separatorLine ([[]] ++ separatorLines.intercalate (next :: rest)))
      rw [if_pos rfl, hsplit] at ih
      have hlines : (if opened then [[]] else []) ++
          separatorLines.intercalate (piece :: next :: rest) =
            ((if opened then [[]] else []) ++ piece ++ [[]]) ++
              separatorLine :: ([[]] ++ separatorLines.intercalate (next :: rest)) := by
        simp [List.intercalate_cons_cons, separatorLines]
      rw [hlines, List.splitOn_append_cons_self_of_not_mem, hsplit, unpad, ih]
      · cases opened <;> simp [dropBlankFirst, dropBlankLast]
      · cases opened
        · simpa [separatorLine] using hpiece
        · simpa [separatorLine] using hpiece

/-- The lines of all entries come back from the text of a record. -/
theorem splitLines_intercalate {es : List Entry} (hne : es ≠ []) :
    Text.splitLines (separator.toList.intercalate (es.map fun e => e.render.toList)) =
      separatorLines.intercalate (es.map Entry.lines) := by
  have htext : separator.toList.intercalate (es.map fun e => e.render.toList) =
      Text.joinLines (separatorLines.intercalate (es.map Entry.lines)) := by
    rw [joinLines_intercalate, List.map_map]
    · exact congrArg _ (List.map_congr_left fun e _ => e.joinLines_lines.symm)
    · intro piece hpiece
      obtain ⟨e, -, rfl⟩ := List.mem_map.1 hpiece
      exact e.lines_ne_nil
  rw [htext, Text.splitLines_joinLines]
  · cases es with
    | nil => exact absurd rfl hne
    | cons e rest =>
        cases rest with
        | nil => simpa using e.lines_ne_nil
        | cons _ _ => simp [List.intercalate_cons_cons, separatorLines]
  · intro line hline
    rcases Naming.mem_intercalate hline with h | ⟨piece, hpiece, hmem⟩
    · exact (by decide : ∀ line ∈ separatorLines, '\n' ∉ line) line h
    · obtain ⟨e, -, rfl⟩ := List.mem_map.1 hpiece
      exact newline_not_mem_splitLines hmem

/-- A record is its entries with separators between them, and a line feed at the end. -/
theorem toList_render_all (es : List Entry) :
    (render es).toList =
      separator.toList.intercalate (es.map fun e => e.render.toList) ++ ['\n'] := by
  simp [render, String.toList_intercalate, Function.comp_def]

/-- The sections of a record are its entries. -/
theorem sections_render {es : List Entry} (h : ∀ e ∈ es, Named e) :
    sections (render es) = es.map fun e => e.render.toList := by
  have hfeed : dropFinalFeed (render es).toList =
      separator.toList.intercalate (es.map fun e => e.render.toList) := by
    simp [dropFinalFeed, toList_render_all]
  rw [sections, hfeed]
  cases es with
  | nil => rfl
  | cons e rest =>
      have hpieces : (e :: rest).map Entry.lines ≠ [] := by simp
      have hnot : ∀ piece ∈ (e :: rest).map Entry.lines, separatorLine ∉ piece := by
        intro piece hpiece
        obtain ⟨entry, hentry, rfl⟩ := List.mem_map.1 hpiece
        exact separatorLine_not_mem_lines (h entry hentry)
      have hunpad := unpad_splitOn false hpieces hnot
      split
      · next hnil =>
          have hcolon : ':' ∈ separator.toList.intercalate
              ((e :: rest).map fun e => e.render.toList) := by
            cases rest <;> simp [List.intercalate_cons_cons, toList_render]
          rw [hnil] at hcolon
          exact absurd hcolon List.not_mem_nil
      · rw [splitLines_intercalate (List.cons_ne_nil e rest)]
        simp only [Bool.false_eq_true, if_false, List.nil_append] at hunpad
        rw [hunpad, List.map_map]
        exact List.map_congr_left fun entry _ => entry.joinLines_lines

/-- Every entry is read back as its key and what was written behind it. -/
theorem read_render {es : List Entry} (h : ∀ e ∈ es, Named e) :
    read (render es) = es.map fun e => (e.key, written e.body) := by
  rw [read, sections_render h, List.map_map]
  exact List.map_congr_left fun e he => readSection_render (h e he)

/-! ### First entries -/

/-- No key is kept twice. -/
theorem nodup_keepFirst {α : Type} :
    ∀ all : List (String × α), ((keepFirst all).map (·.1)).Nodup
  | [] => List.nodup_nil
  | first :: rest => by
      rw [keepFirst, List.map_cons, List.nodup_cons]
      constructor
      · simp
      · exact ((List.filter_sublist).map _).nodup (nodup_keepFirst rest)

/-- Of the entries of a key, the first is kept. -/
theorem filter_keepFirst {α : Type} (key : String) :
    ∀ all : List (String × α),
      (keepFirst all).filter (·.1 == key) = (all.filter (·.1 == key)).take 1
  | [] => rfl
  | first :: rest => by
      have ih := filter_keepFirst key rest
      rw [keepFirst]
      by_cases hkey : first.1 = key
      · rw [List.filter_cons_of_pos (by simpa using hkey),
          List.filter_cons_of_pos (by simpa using hkey), List.take_succ_cons, List.take_zero,
          List.filter_filter, List.filter_eq_nil_iff.2]
        intro other _
        simp [hkey]
      · rw [List.filter_cons_of_neg (by simpa using hkey),
          List.filter_cons_of_neg (by simpa using hkey), ← ih, List.filter_filter]
        apply List.filter_congr
        intro other _
        by_cases hother : other.1 = key
        · simp [hother, Ne.symm hkey]
        · simp [hother]

theorem firstByKey_eq (keys : List String) (es : List Entry) :
    (firstByKey keys es).map (fun e => (e.key, e.body)) =
      (keepFirst (es.map fun e => (e.key, e.body))).filter fun e => !keys.contains e.1 := by
  induction es generalizing keys with
  | nil => rfl
  | cons e rest ih =>
      rw [firstByKey, List.map_cons, keepFirst]
      by_cases hkey : e.key ∈ keys
      · rw [if_pos (by simpa using hkey), ih, List.filter_cons_of_neg (by simpa using hkey),
          List.filter_filter]
        apply List.filter_congr
        intro other _
        by_cases hother : other.1 = e.key
        · simp [hother, hkey]
        · simp [hother]
      · rw [if_neg (by simpa using hkey), List.map_cons, ih,
          List.filter_cons_of_pos (by simpa using hkey), List.filter_filter]
        congr 1
        apply List.filter_congr
        intro other _
        by_cases hother : other.1 = e.key
        · simp [hother]
        · simp [hother]

/-! ### Records of items -/

theorem key_label_entry (name : String) (body : Body) :
    (Entry.mk (Naming.label name) body).key = Naming.key name :=
  Naming.key_label name

/-- Every label of a record names a field, also those that no field gave. -/
theorem named_of_mem_plannedEntries {settings : ContentSettings} {item : Item}
    {entity : Entity} : ∀ e ∈ plannedEntries settings item entity, Named e := by
  intro e he
  rw [plannedEntries, List.mem_append, List.mem_append] at he
  rcases he with (he | he) | he
  · rw [titleEntries] at he
    split at he
    · simp at he
    · have hlabel : "Title" = Naming.label "Title" := by decide
      rw [List.mem_singleton.1 he]
      exact ⟨"Title", hlabel⟩
  · rw [fieldEntries, List.mem_filterMap] at he
    obtain ⟨f, -, hf⟩ := he
    obtain ⟨v, -, rfl⟩ := Option.map_eq_some_iff.1 hf
    exact ⟨f.name, rfl⟩
  · have hlabel : e.label ∈ ["Created", "Updated", "Author", "Published"] := by
      rw [metadataEntries] at he
      split at he
      · simp only [List.mem_append, List.mem_cons, List.not_mem_nil, or_false,
          Option.mem_toList, Option.map_eq_some_iff] at he
        rcases he with ((rfl | rfl) | ⟨_, _, rfl⟩) | ⟨_, _, rfl⟩ <;> simp
      · simp at he
    refine ⟨e.label, ?_⟩
    exact (by decide : ∀ label ∈ ["Created", "Updated", "Author", "Published"],
      label = Naming.label label) _ hlabel

theorem firstByKey_subset (keys : List String) (es : List Entry) : firstByKey keys es ⊆ es := by
  induction es generalizing keys with
  | nil => exact List.Subset.refl _
  | cons e rest ih =>
      rw [firstByKey]
      split
      · exact List.subset_cons_of_subset _ (ih keys)
      · exact List.cons_subset_cons _ (ih _)

/-- The entries that a record plans are those it is meant to hold. -/
theorem map_plannedEntries (settings : ContentSettings) (item : Item) (entity : Entity) :
    (plannedEntries settings item entity).map (fun e => (e.key, e.body)) =
      meant settings item entity := by
  have htitle : (titleEntries item entity).map (fun e => (e.key, e.body)) =
      if "title" ∈ entity.fields.map fun f => Naming.key f.name then []
      else [("title", .line (title item entity))] := by
    have hkey : Naming.key "Title" = "title" := by decide
    rw [titleEntries]
    by_cases h : "title" ∈ entity.fields.map fun f => Naming.key f.name
    · rw [if_pos h, if_pos (by simpa using h)]
      rfl
    · rw [if_neg h, if_neg (by simpa using h)]
      simp [Entry.key, hkey]
  have hfields : (fieldEntries settings item entity).map (fun e => (e.key, e.body)) =
      entity.fields.filterMap fun f =>
        (item.value? f.name).map fun v => (Naming.key f.name, bodyOf settings f v) := by
    rw [fieldEntries, List.map_filterMap]
    simp only [Option.map_map, Function.comp_def, key_label_entry]
  have hmetadata : (metadataEntries settings item).map (fun e => (e.key, e.body)) =
      if settings.includeMetadata then meantMetadata item else [] := by
    have hkeys : Naming.key "Created" = "created" ∧ Naming.key "Updated" = "updated" ∧
        Naming.key "Author" = "author" ∧ Naming.key "Published" = "published" := by decide
    obtain ⟨hcreated, hupdated, hauthor, hpublished⟩ := hkeys
    rw [metadataEntries]
    split
    · rw [meantMetadata]
      cases hname : item.metadata.author <;> cases htime : item.metadata.publishedAt <;>
        simp [Entry.key, hcreated, hupdated, hauthor, hpublished, hname, htime]
    · rfl
  rw [plannedEntries, meant, List.map_append, List.map_append, htitle, hfields, hmetadata]

theorem read_text (settings : ContentSettings) (item : Item) (entity : Entity) :
    read (text settings item entity) =
      (keepFirst (meant settings item entity)).map fun e => (e.1, written e.2) := by
  have hnamed : ∀ e ∈ entries settings item entity, Named e :=
    fun e he => named_of_mem_plannedEntries e (firstByKey_subset _ _ he)
  have hfirst := firstByKey_eq [] (plannedEntries settings item entity)
  rw [map_plannedEntries, List.filter_eq_self.2 (by simp)] at hfirst
  rw [text, read_render hnamed, entries, ← hfirst, List.map_map]
  rfl

theorem nodup_read_text (settings : ContentSettings) (item : Item) (entity : Entity) :
    ((read (text settings item entity)).map (·.1)).Nodup := by
  rw [read_text, List.map_map]
  exact nodup_keepFirst _

/-- The first entry meant for the key of a field is that of the field, if the keys of its
entity are distinct. -/
theorem filter_meant {settings : ContentSettings} {item : Item} {entity : Entity} {f : Field}
    {v : Value} (hkeys : (entity.fields.map fun f => Naming.key f.name).Nodup)
    (hf : f ∈ entity.fields) (hv : item.value? f.name = some v) :
    ((meant settings item entity).filter (·.1 == Naming.key f.name)).take 1 =
      [(Naming.key f.name, bodyOf settings f v)] := by
  -- No entry stands before that of the field: neither the title nor a field before it.
  obtain ⟨before, after, hfields⟩ := List.append_of_mem hf
  have htitle : List.filter (·.1 == Naming.key f.name)
      (if "title" ∈ entity.fields.map fun f => Naming.key f.name then []
        else [("title", Body.line (title item entity))]) = [] := by
    split
    · rfl
    · next hnot =>
        rw [List.filter_eq_nil_iff, List.forall_mem_singleton, beq_iff_eq]
        intro (heq : "title" = Naming.key f.name)
        rw [heq] at hnot
        exact hnot (List.mem_map_of_mem hf)
  have hbefore : List.filter (·.1 == Naming.key f.name) (before.filterMap fun g =>
      (item.value? g.name).map fun w => (Naming.key g.name, bodyOf settings g w)) = [] := by
    rw [List.filter_eq_nil_iff]
    intro e he
    obtain ⟨g, hg, hmap⟩ := List.mem_filterMap.1 he
    obtain ⟨w, -, rfl⟩ := Option.map_eq_some_iff.1 hmap
    rw [hfields, List.map_append, List.nodup_append] at hkeys
    rw [beq_iff_eq]
    exact hkeys.2.2 _ (List.mem_map_of_mem hg) _ (List.mem_map_of_mem List.mem_cons_self)
  rw [meant, List.filter_append, List.filter_append, htitle, hfields, List.filterMap_append,
    List.filter_append, hbefore]
  simp [hv]

/-- A record reads back as the entries it is meant to hold, the first of every key, and no
key twice. In an accepted schema every field with a value has its section, and only that
one. -/
theorem record_reads_back (settings : ContentSettings) (item : Item) (entity : Entity) :
    read (text settings item entity) =
        (keepFirst (meant settings item entity)).map (fun e => (e.1, written e.2)) ∧
      ((read (text settings item entity)).map (·.1)).Nodup ∧
      ∀ schema, (Validation.report schema).valid = true → entity ∈ schema.entities →
        ∀ f ∈ entity.fields, ∀ v, item.value? f.name = some v →
          (read (text settings item entity)).filter (·.1 == Naming.key f.name) =
            [(Naming.key f.name, written (bodyOf settings f v))] := by
  refine ⟨read_text settings item entity, nodup_read_text settings item entity, ?_⟩
  intro schema hvalid hentity f hf v hv
  have hacceptable := (Validation.report_valid_iff schema).1 hvalid
  have hkeys := (hacceptable.fields_sound entity hentity entity.fields .self).distinct
  have hfirst := filter_keepFirst (Naming.key f.name) (meant settings item entity)
  rw [filter_meant hkeys hf hv] at hfirst
  rw [read_text, List.filter_map]
  exact congrArg (List.map fun e => (e.1, written e.2)) hfirst

/-- A gig whose text shows separators and labels of its own. -/
def sampleItem : Item :=
  { id := "gig-1"
    fields := .ofList [("title", .text "Late\r\nShow: encore"),
      ("Set List", .text "one\n----\n\nTitle: fake\n")] }

theorem sampleItem_reads_back :
    (Validation.report Validation.sampleSchema).valid = true ∧
      (read (text {} sampleItem Validation.sampleGig)).filter (·.1 == "set_list") =
        [("set_list", "\n\none\n\\----\n\nTitle: fake")] := by
  have hvalid : (Validation.report Validation.sampleSchema).valid = true := by decide +kernel
  obtain ⟨-, -, hfields⟩ := record_reads_back {} sampleItem Validation.sampleGig
  refine ⟨hvalid, ?_⟩
  exact hfields Validation.sampleSchema hvalid List.mem_cons_self _
    (List.mem_cons_of_mem _ List.mem_cons_self)
    (.text "one\n----\n\nTitle: fake\n") (by decide)

end Portfolio.Record
