/-
Module: Portfolio.Proofs.Record.Separator
Purpose: The lines of a record for a reader that takes the carriage return off the end of a line.
  Blocks are escaped for such a reader, but the lines they are escaped by have lost a carriage
  return already: one that ends in two of them can come out as a separator.
Main exports: Record.trimmedBlock, Record.HidesSeparator, Record.Entry.seenLines,
  Record.separators_seen, Record.returns_expose_separator
-/
import Portfolio.Proofs.Record.Reading

namespace Portfolio.Record

/-! ### Carriage returns -/

theorem dropReturn_eq_iff {line rest : List Char} :
    Text.dropReturn line = rest ↔
      line = rest ++ ['\r'] ∨ (line = rest ∧ rest.getLast? ≠ some '\r') := by
  unfold Text.dropReturn
  split
  · next hlast =>
      obtain ⟨init, rfl⟩ := List.getLast?_eq_some_iff.1 hlast
      rw [List.dropLast_concat]
      constructor
      · rintro rfl
        exact Or.inl rfl
      · rintro (h | ⟨rfl, h⟩)
        · exact List.append_cancel_right h
        · exact absurd hlast h
  · next hlast =>
      constructor
      · rintro rfl
        exact Or.inr ⟨rfl, hlast⟩
      · rintro (rfl | ⟨rfl, -⟩)
        · exact absurd List.getLast?_concat hlast
        · rfl

theorem dropReturn_eq_self {line : List Char} (h : line.getLast? ≠ some '\r') :
    Text.dropReturn line = line :=
  dropReturn_eq_iff.2 (Or.inr ⟨rfl, h⟩)

/-- Only a carriage return is dropped. -/
theorem mem_dropReturn {line : List Char} {c : Char} (hc : c ≠ '\r') (h : c ∈ line) :
    c ∈ Text.dropReturn line := by
  rcases dropReturn_eq_iff.1 (rfl : Text.dropReturn line = _) with hline | ⟨hline, -⟩
  · rw [hline, List.mem_append, List.mem_singleton] at h
    exact h.resolve_right hc
  · rwa [← hline]

/-- The last line of a text ends as the text does. -/
theorem getLast?_of_getLast?_splitLines {cs line : List Char} (hend : cs.getLast? ≠ some '\n')
    (h : (Text.splitLines cs).getLast? = some line) : line.getLast? = cs.getLast? := by
  obtain ⟨init, hlines⟩ := List.getLast?_eq_some_iff.1 h
  have htext : cs = Text.joinLines (init ++ [line]) := by
    rw [← hlines, Text.joinLines_splitLines]
  by_cases hinit : init = []
  · simp [htext, hinit, Text.joinLines]
  · have hline : Text.joinLines [line] = line := List.intercalate_singleton
    rw [joinLines_append hinit (List.cons_ne_nil line []), hline] at htext
    cases line with
    | nil => simp [htext] at hend
    | cons c rest =>
        rw [htext, List.getLast?_append_of_ne_nil _ (List.cons_ne_nil _ _),
          List.getLast?_cons_cons]

/-- All lines lose a carriage return, if the last one is not empty and has none. -/
theorem readLines_eq_map {cs : List Char}
    (h : ∀ line, (Text.splitLines cs).getLast? = some line →
      line ≠ [] ∧ line.getLast? ≠ some '\r') :
    Text.readLines cs = (Text.splitLines cs).map Text.dropReturn := by
  obtain ⟨init, line, hlines⟩ : ∃ init line, Text.splitLines cs = init ++ [line] :=
    (List.eq_nil_or_concat' _).resolve_left (List.splitOn_ne_nil _ _)
  obtain ⟨hne, hreturn⟩ := h line (by rw [hlines, List.getLast?_concat])
  obtain ⟨c, rest, rfl⟩ := List.exists_cons_of_ne_nil hne
  simp [Text.readLines, hlines, dropReturn_eq_self hreturn]

/-- So they do in a text with a line feed at its end. -/
theorem readLines_append_newline (cs : List Char) :
    Text.readLines (cs ++ ['\n']) = (Text.splitLines cs).map Text.dropReturn := by
  have hne : Text.splitLines cs ≠ [] := List.splitOn_ne_nil _ _
  have hlines : Text.splitLines (cs ++ ['\n']) = Text.splitLines cs ++ [[]] := by
    have hjoin : cs ++ ['\n'] = Text.joinLines (Text.splitLines cs ++ [[]]) := by
      rw [joinLines_append hne (List.cons_ne_nil [] []), Text.joinLines_splitLines]
      rfl
    rw [hjoin, Text.splitLines_joinLines]
    · simp
    · intro line hline
      rcases List.mem_append.1 hline with hline | hline
      · exact newline_not_mem_splitLines hline
      · simp [List.mem_singleton.1 hline]
  simp [Text.readLines, hlines]

/-! ### Blocks -/

/-- A block without line ends at its end. -/
def trimmedBlock (cs : List Char) : List Char :=
  Text.dropEndWhile (fun c => c == '\n' || c == '\r') cs

theorem getLast?_trimmedBlock (cs : List Char) :
    (trimmedBlock cs).getLast? ≠ some '\n' ∧ (trimmedBlock cs).getLast? ≠ some '\r' := by
  constructor <;> intro h <;> simpa using Text.getLast?_dropEndWhile _ cs _ h

/-- The last line of a trimmed block is not empty and has no carriage return at its end. -/
theorem last_line_trimmedBlock {cs line : List Char} (hne : trimmedBlock cs ≠ [])
    (h : (Text.splitLines (trimmedBlock cs)).getLast? = some line) :
    line ≠ [] ∧ line.getLast? ≠ some '\r' := by
  obtain ⟨hfeed, hreturn⟩ := getLast?_trimmedBlock cs
  have hlast := getLast?_of_getLast?_splitLines hfeed h
  constructor
  · rintro rfl
    exact hne (List.getLast?_eq_none_iff.1 hlast.symm)
  · rwa [hlast]

/-- The lines of a block are escaped without the carriage return at the end of each. -/
theorem splitLines_escapeBlockChars (cs : List Char) :
    Text.splitLines (escapeBlockChars cs) =
      (Text.splitLines (trimmedBlock cs)).map fun line =>
        escapeBlockLine (Text.dropReturn line) := by
  change Text.splitLines (Text.joinLines ((Text.readLines (trimmedBlock cs)).map
    escapeBlockLine)) = _
  by_cases hempty : trimmedBlock cs = []
  · rw [hempty]
    decide
  · have hread := readLines_eq_map fun _ => last_line_trimmedBlock hempty
    have hne : Text.readLines (trimmedBlock cs) ≠ [] := by
      rw [hread, Ne, List.map_eq_nil_iff]
      exact List.splitOn_ne_nil '\n' (trimmedBlock cs)
    rw [splitLines_escaped hne fun _ => newline_not_mem_readLines, hread, List.map_map]
    rfl

/-- What is left of an escaped line without its carriage returns is a separator if it was one
with two of them behind. -/
theorem dropReturn_escapeBlockLine_eq_separatorLine_iff (line : List Char) :
    Text.dropReturn (escapeBlockLine (Text.dropReturn line)) = separatorLine ↔
      line = separatorLine ++ ['\r', '\r'] := by
  have hescape (l : List Char) :
      escapeBlockLine l = separatorLine ++ ['\r'] ↔ l = separatorLine ++ ['\r'] := by
    unfold escapeBlockLine
    split
    · next h => simp [h, separatorLine]
    · rfl
  rw [dropReturn_eq_iff, hescape, dropReturn_eq_iff]
  simp only [escapeBlockLine_ne_separatorLine, false_and, or_false]
  simp [separatorLine]

/-- A line of a block is a separator with two carriage returns behind it. The escape takes one of
them off and sees no separator, and the reader takes off the other. -/
def HidesSeparator (block : String) : Prop :=
  separatorLine ++ ['\r', '\r'] ∈ Text.splitLines (trimmedBlock block.toList)

instance (block : String) : Decidable (HidesSeparator block) :=
  inferInstanceAs (Decidable (_ ∈ _))

theorem separatorLine_mem_map_dropReturn_iff (block : String) :
    separatorLine ∈ (Text.splitLines (escapeBlockChars block.toList)).map Text.dropReturn ↔
      HidesSeparator block := by
  rw [splitLines_escapeBlockChars, List.map_map, List.mem_map, HidesSeparator]
  constructor
  · rintro ⟨line, hline, heq⟩
    rwa [← (dropReturn_escapeBlockLine_eq_separatorLine_iff line).1 heq]
  · intro h
    exact ⟨_, h, (dropReturn_escapeBlockLine_eq_separatorLine_iff _).2 rfl⟩

/-- A line of an escaped block is read as a separator exactly if the block hides one. -/
theorem separatorLine_mem_readLines_iff (block : String) :
    separatorLine ∈ Text.readLines (escapeBlock block).toList ↔ HidesSeparator block := by
  rw [escapeBlock, String.toList_ofList]
  by_cases hempty : trimmedBlock block.toList = []
  · have htext : escapeBlockChars block.toList = [] := by
      change Text.joinLines ((Text.readLines (trimmedBlock block.toList)).map _) = []
      rw [hempty]
      rfl
    rw [htext, HidesSeparator, hempty]
    decide
  · rw [readLines_eq_map, separatorLine_mem_map_dropReturn_iff]
    -- The escape leaves the last line as it ends, and it is not empty.
    intro line hline
    rw [splitLines_escapeBlockChars, List.getLast?_map, Option.map_eq_some_iff] at hline
    obtain ⟨last, hlast, rfl⟩ := hline
    obtain ⟨hne, hreturn⟩ := last_line_trimmedBlock hempty hlast
    rw [dropReturn_eq_self hreturn, escapeBlockLine]
    split
    · next h => simp [h, separatorLine]
    · exact ⟨hne, hreturn⟩

/-! ### Records -/

/-- The lines of an entry without the carriage return at the end of each. -/
def Entry.seenLines (e : Entry) : List (List Char) := e.lines.map Text.dropReturn

/-- An entry has a line that is read as a separator exactly if it is a block that hides one. -/
theorem separatorLine_mem_seenLines_iff {e : Entry} (h : Named e) :
    separatorLine ∈ e.seenLines ↔ ∃ block, e.body = .block block ∧ HidesSeparator block := by
  have hfeed : '\n' ∉ e.label.toList := h.not_mem_label (by decide)
  have hcolon {line : List Char} (hmem : ':' ∈ line) : separatorLine ≠ Text.dropReturn line :=
    ne_separatorLine_of_colon_mem (mem_dropReturn (by decide) hmem)
  obtain ⟨label, body⟩ := e
  cases body with
  | line s =>
      have hlabel : separatorLine ≠
          Text.dropReturn (label.toList ++ ':' :: ' ' :: escapeLineChars s.toList) :=
        hcolon (by simp)
      simp [Entry.seenLines, Entry.lines_line hfeed, hlabel]
  | block s =>
      have hlabel : separatorLine ≠ Text.dropReturn (label.toList ++ [':']) := hcolon (by simp)
      have hblank : separatorLine ≠ Text.dropReturn [] := by decide
      rw [Entry.seenLines, Entry.lines_block hfeed, List.map_cons, List.map_cons, List.mem_cons,
        List.mem_cons, separatorLine_mem_map_dropReturn_iff]
      simp [hlabel, hblank]

theorem map_intercalate {α β : Type} (f : α → β) (sep : List α) :
    ∀ pieces : List (List α),
      (sep.intercalate pieces).map f = (sep.map f).intercalate (pieces.map (List.map f))
  | [] => rfl
  | [piece] => by simp
  | piece :: next :: rest => by
      simp [List.intercalate_cons_cons, map_intercalate f sep (next :: rest)]

/-- The lines of a record are those of its entries with the separators between them. -/
theorem readLines_render {es : List Entry} (hne : es ≠ []) :
    Text.readLines (render es).toList = separatorLines.intercalate (es.map Entry.seenLines) := by
  have hseparators : separatorLines.map Text.dropReturn = separatorLines := by decide
  rw [toList_render_all, readLines_append_newline, splitLines_intercalate hne, map_intercalate,
    hseparators, List.map_map]
  rfl

/-- Between every two pieces of lines stands one separator more. -/
theorem count_intercalate : ∀ pieces : List (List (List Char)),
    (separatorLines.intercalate pieces).count separatorLine =
      pieces.flatten.count separatorLine + (pieces.length - 1)
  | [] => rfl
  | [piece] => by simp
  | piece :: next :: rest => by
      have hseparators : separatorLines.count separatorLine = 1 := by decide
      have ih := count_intercalate (next :: rest)
      have hflat : (piece :: next :: rest).flatten = piece ++ (next :: rest).flatten := rfl
      rw [List.intercalate_cons_cons, List.count_append, List.count_append, hseparators, ih,
        hflat, List.count_append]
      simp only [List.length_cons]
      omega

/-- The separators between the entries are all that a record shows exactly if no entry has one
more. -/
theorem count_readLines_render (es : List Entry) :
    (Text.readLines (render es).toList).count separatorLine = es.length - 1 ↔
      ∀ e ∈ es, separatorLine ∉ e.seenLines := by
  by_cases hne : es = []
  · subst hne
    decide
  · have hnone : (es.map Entry.seenLines).flatten.count separatorLine = 0 ↔
        ∀ e ∈ es, separatorLine ∉ e.seenLines := by
      simp [List.count_eq_zero]
    rw [readLines_render hne, count_intercalate, List.length_map, ← hnone]
    omega

/-- For a reader that takes a carriage return off the end of every line, a line of an escaped
block is a separator exactly if the block hides one. The lines of a record are those of its
entries with the separators between them, and these are its only separators exactly if no entry
is such a block. -/
theorem separators_seen (settings : ContentSettings) (item : Item) (entity : Entity) :
    (∀ block, separatorLine ∈ Text.readLines (escapeBlock block).toList ↔
        HidesSeparator block) ∧
      (entries settings item entity ≠ [] →
        Text.readLines (text settings item entity).toList =
          separatorLines.intercalate ((entries settings item entity).map Entry.seenLines)) ∧
      (∀ e ∈ entries settings item entity, separatorLine ∈ e.seenLines ↔
        ∃ block, e.body = .block block ∧ HidesSeparator block) ∧
      ((Text.readLines (text settings item entity).toList).count separatorLine =
          (entries settings item entity).length - 1 ↔
        ∀ e ∈ entries settings item entity, ∀ block, e.body = .block block →
          ¬ HidesSeparator block) := by
  have hseen : ∀ e ∈ entries settings item entity, separatorLine ∈ e.seenLines ↔
      ∃ block, e.body = .block block ∧ HidesSeparator block := by
    intro e he
    exact separatorLine_mem_seenLines_iff
      (named_of_mem_plannedEntries e (firstByKey_subset _ _ he))
  refine ⟨separatorLine_mem_readLines_iff, readLines_render, hseen, ?_⟩
  rw [text, count_readLines_render]
  refine forall₂_congr fun e he => ?_
  rw [hseen e he, not_exists]
  simp only [not_and]

/-- A gig with notes that show a separator. -/
def notedGig : Entity :=
  { id := "gig", name := "Gig", pluralName := "Gigs"
    fields := [.named "title" .text [], .named "notes" .markdown []] }

def notedItem (notes : String) : Item :=
  { id := "gig-1", fields := .ofList [("notes", .text notes), ("title", .text "Jazz Night")] }

/-- A separator with one carriage return behind it is escaped. -/
theorem separators_seen_notedGig :
    (Text.readLines (text {} (notedItem "one\n----\r\ntwo") notedGig).toList).take 6 =
        ["Title: Jazz Night", "", "----", "", "Notes:", ""].map String.toList ∧
      separatorLine ∉ Entry.seenLines ⟨"Notes", .block "one\n----\r\ntwo"⟩ ∧
      (Text.readLines (text {} (notedItem "one\n----\r\ntwo") notedGig).toList).count
        separatorLine = 3 := by
  obtain ⟨-, hlines, hseen, hcount⟩ := separators_seen {} (notedItem "one\n----\r\ntwo") notedGig
  have hplain : ∀ e ∈ entries {} (notedItem "one\n----\r\ntwo") notedGig,
      separatorLine ∉ e.seenLines := by
    decide +kernel
  refine ⟨?_, hplain _ (by decide +kernel), ?_⟩
  · rw [hlines (by decide +kernel)]
    decide +kernel
  · refine hcount.2 ?_
    intro e he block hblock hhides
    exact hplain e he ((hseen e he).2 ⟨block, hblock, hhides⟩)

/-- With one carriage return more the line comes out as a separator. -/
theorem returns_expose_separator :
    HidesSeparator "before\n----\r\r\nafter" ∧
      escapeBlock "before\n----\r\r\nafter" = "before\n----\r\nafter" ∧
      separatorLine ∈ Text.readLines (escapeBlock "before\n----\r\r\nafter").toList ∧
      (Text.readLines (text { includeMetadata := false }
        (notedItem "before\n----\r\r\nafter") notedGig).toList).count separatorLine = 2 ∧
      (entries { includeMetadata := false }
        (notedItem "before\n----\r\r\nafter") notedGig).length = 2 := by
  decide +kernel

end Portfolio.Record
