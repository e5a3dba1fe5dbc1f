/-
Module: Portfolio.Proofs.Record.Scalar
Purpose: The values in lists and structures as YAML scalars: always on one line, and with all of
  the text they were written from, unless that stands without quotes and ends in a blank.
Main exports: Record.wholeScalar, Record.decode_wholeScalar, Record.LosesEnd,
  Record.yamlScalar_eq_wholeScalar_iff, Record.Undoes, Record.forall_undoes_iff,
  Record.newline_not_mem_yamlScalar, Record.yamlScalar_tells_apart, Record.yamlScalar_drops_blank
-/
import Portfolio.Proofs.Json.Line
import Portfolio.Record.Value

namespace Portfolio.Record

/-! ### Trimming -/

theorem trimEndChars_concat (cs : List Char) (c : Char) :
    Text.trimEndChars (cs ++ [c]) =
      if Text.isBlank c then Text.trimEndChars cs else cs ++ [c] := by
  rw [Text.trimEndChars, Text.dropEndWhile, List.reverse_concat, List.dropWhile_cons]
  split
  · rfl
  · rw [List.reverse_cons, List.reverse_reverse]

/-- The line break at the end of a document is trimmed. -/
theorem trimEndChars_newLine (cs : List Char) :
    Text.trimEndChars (Yaml.newLine 0 cs) = Text.trimEndChars cs := by
  rw [Yaml.newLine, List.replicate_zero, List.append_nil]
  split
  · rw [List.append_nil]
  · rw [trimEndChars_concat, if_pos (by decide)]

/-- A quote at the end stops the trimming. -/
theorem trimEndChars_of_quoted {cs : List Char} (h : Yaml.Quoted cs) :
    Text.trimEndChars cs = cs := by
  obtain ⟨quote, inner, hquote, rfl⟩ := h
  have hblank : Text.isBlank quote = false := by
    rcases hquote with rfl | rfl <;> decide
  rw [← List.cons_append, trimEndChars_concat, hblank]
  simp

theorem head_trimEndChars_ne {cs : List Char} {c : Char} (h : cs.head? ≠ some c) :
    (Text.trimEndChars cs).head? ≠ some c := by
  have htrimmed : Text.trimEndChars cs <+: cs := by
    rw [← List.reverse_suffix, Text.trimEndChars, Text.dropEndWhile, List.reverse_reverse]
    exact List.dropWhile_suffix _
  obtain ⟨rest, hrest⟩ := htrimmed
  intro hhead
  rw [← hrest, List.head?_append, hhead] at h
  exact h rfl

/-! ### Whole scalars -/

/-- The scalar of a text with nothing taken off its end. -/
def wholeScalar (s : String) : String :=
  if s.toList.contains '\n' then Json.quote s else String.ofList (Yaml.scalar 2 s)

theorem wholeScalar_of_newline_mem {s : String} (h : '\n' ∈ s.toList) :
    wholeScalar s = Json.quote s := if_pos (by simpa using h)

theorem wholeScalar_of_newline_not_mem {s : String} (h : '\n' ∉ s.toList) :
    wholeScalar s = String.ofList (Yaml.scalar 2 s) := if_neg (by simpa using h)

/-- Nothing of a text is lost in its whole scalar. -/
theorem decode_wholeScalar (s : String) :
    Yaml.decode? (wholeScalar s).toList = some s.toList := by
  by_cases hfeed : '\n' ∈ s.toList
  · rw [wholeScalar_of_newline_mem hfeed]
    exact Yaml.decode_quote s
  · rw [wholeScalar_of_newline_not_mem hfeed, String.toList_ofList]
    exact Yaml.decode_scalar 2 hfeed

theorem wholeScalar_injective : Function.Injective wholeScalar := by
  intro s t h
  have hdecoded := decode_wholeScalar s
  rw [h, decode_wholeScalar t] at hdecoded
  exact String.toList_injective (Option.some.inj hdecoded).symm

theorem newline_not_mem_of_plain {s : String} (h : Yaml.styleOf s = .plain) : '\n' ∉ s.toList :=
  ((Yaml.styleOf_eq_plain_iff s).1 h).1

theorem wholeScalar_of_plain {s : String} (h : Yaml.styleOf s = .plain) : wholeScalar s = s := by
  rw [wholeScalar_of_newline_not_mem (newline_not_mem_of_plain h)]
  simp only [Yaml.scalar, h, String.ofList_toList]

/-- A text that cannot stand plain stands between quotes. -/
theorem quoted_wholeScalar {s : String} (h : Yaml.styleOf s ≠ .plain) :
    Yaml.Quoted (wholeScalar s).toList := by
  by_cases hfeed : '\n' ∈ s.toList
  · rw [wholeScalar_of_newline_mem hfeed]
    exact Yaml.quoted_quote s
  · rw [wholeScalar_of_newline_not_mem hfeed, String.toList_ofList]
    exact Yaml.quoted_scalar 2 hfeed h

/-! ### Scalars of texts -/

theorem toList_yamlScalar_text {s : String} (h : '\n' ∉ s.toList) :
    (yamlScalar (.text s)).toList = Text.trimEndChars (Yaml.scalar 2 s) := by
  rw [yamlScalar, if_neg (by simpa using h), Text.trimEnd, String.toList_ofList, Yaml.print,
    String.toList_ofList, trimEndChars_newLine]

/-- A text that stands plain loses its blanks at the end. -/
theorem yamlScalar_of_plain {s : String} (h : Yaml.styleOf s = .plain) :
    yamlScalar (.text s) = Text.trimEnd s := by
  apply String.toList_injective
  rw [toList_yamlScalar_text (newline_not_mem_of_plain h), Text.trimEnd, String.toList_ofList]
  simp only [Yaml.scalar, h]

/-- Any other text keeps all of its scalar. -/
theorem yamlScalar_of_not_plain {s : String} (h : Yaml.styleOf s ≠ .plain) :
    yamlScalar (.text s) = wholeScalar s := by
  by_cases hfeed : '\n' ∈ s.toList
  · rw [wholeScalar_of_newline_mem hfeed, yamlScalar, if_pos (by simpa using hfeed)]
  · have hquoted := Yaml.quoted_scalar 2 hfeed h
    apply String.toList_injective
    rw [toList_yamlScalar_text hfeed, trimEndChars_of_quoted hquoted,
      wholeScalar_of_newline_not_mem hfeed, String.toList_ofList]

/-- A plain text does not look quoted, not even without its blanks. -/
theorem not_quoted_trimEnd {s : String} (h : Yaml.styleOf s = .plain) :
    ¬ Yaml.Quoted (Text.trimEnd s).toList := by
  obtain ⟨-, -, hplain⟩ := (Yaml.styleOf_eq_plain_iff s).1 h
  obtain ⟨hsingle, hdouble⟩ := Yaml.head_ne_quote hplain
  rw [Text.trimEnd, String.toList_ofList]
  rintro ⟨quote, inner, rfl | rfl, heq⟩
  · exact head_trimEndChars_ne hsingle (by rw [heq]; rfl)
  · exact head_trimEndChars_ne hdouble (by rw [heq]; rfl)

/-- So it never has the scalar of a text that stands between quotes. -/
theorem yamlScalar_ne_of_plain {s t : String} (hs : Yaml.styleOf s = .plain)
    (ht : Yaml.styleOf t ≠ .plain) : yamlScalar (.text s) ≠ yamlScalar (.text t) := by
  intro heq
  apply not_quoted_trimEnd hs
  rw [← yamlScalar_of_plain hs, heq, yamlScalar_of_not_plain ht]
  exact quoted_wholeScalar ht

/-- Two texts share a scalar exactly if both stand plain and differ in the blanks at their ends
only. -/
theorem yamlScalar_text_eq_iff (s t : String) :
    yamlScalar (.text s) = yamlScalar (.text t) ↔
      s = t ∨ Yaml.styleOf s = .plain ∧ Yaml.styleOf t = .plain ∧
        Text.trimEnd s = Text.trimEnd t := by
  by_cases hs : Yaml.styleOf s = .plain
  · by_cases ht : Yaml.styleOf t = .plain
    · rw [yamlScalar_of_plain hs, yamlScalar_of_plain ht]
      simp only [hs, ht, true_and]
      exact ⟨Or.inr, fun h => h.elim (congrArg _) id⟩
    · have hne : s ≠ t := fun heq => ht (heq ▸ hs)
      simp [hne, ht, yamlScalar_ne_of_plain hs ht]
  · by_cases ht : Yaml.styleOf t = .plain
    · have hne : s ≠ t := fun heq => hs (heq ▸ ht)
      simp [hne, hs, (yamlScalar_ne_of_plain ht hs).symm]
    · rw [yamlScalar_of_not_plain hs, yamlScalar_of_not_plain ht]
      simp only [hs, false_and, or_false]
      exact wholeScalar_injective.eq_iff

/-- A text that stands without quotes and ends in a blank, such as a no-break space: it is
written without its end. -/
def LosesEnd (s : String) : Prop := Yaml.styleOf s = .plain ∧ Text.trimEnd s ≠ s

instance (s : String) : Decidable (LosesEnd s) := inferInstanceAs (Decidable (_ ∧ _))

/-- A text has its whole scalar exactly if it loses no end. -/
theorem yamlScalar_eq_wholeScalar_iff (s : String) :
    yamlScalar (.text s) = wholeScalar s ↔ ¬ LosesEnd s := by
  by_cases hplain : Yaml.styleOf s = .plain
  · rw [yamlScalar_of_plain hplain, wholeScalar_of_plain hplain, LosesEnd, and_iff_right hplain,
      Decidable.not_not]
  · simp [LosesEnd, hplain, yamlScalar_of_not_plain hplain]

/-! ### Reading back -/

/-- A reader of scalars undoes the emitter: a text without line feeds is read from its whole
scalar. Nothing else is supposed of a reader. -/
structure Undoes (read : String → Option String) : Prop where
  read_wholeScalar : ∀ s, '\n' ∉ s.toList → read (wholeScalar s) = some s

/-- The reader that reads whole scalars only. -/
def readWhole (scalar : String) : Option String :=
  ((Yaml.decode? scalar.toList).map String.ofList).filter fun s =>
    !s.toList.contains '\n' && wholeScalar s == scalar

theorem undoes_readWhole : Undoes readWhole where
  read_wholeScalar s h := by
    rw [readWhole, decode_wholeScalar, Option.map_some, String.ofList_toList]
    simp [Option.filter, h]

/-- Every reader that undoes the emitter takes a scalar for a text exactly if it is the text's
own. -/
theorem forall_undoes_iff (scalar s : String) :
    (∀ read, Undoes read → read scalar = some s) ↔
      '\n' ∉ s.toList ∧ scalar = wholeScalar s := by
  constructor
  · intro hall
    have hread := hall readWhole undoes_readWhole
    rw [readWhole, Option.filter_eq_some_iff] at hread
    simp only [Bool.and_eq_true, Bool.not_eq_true', beq_iff_eq] at hread
    exact ⟨by simpa using hread.2.1, hread.2.2.symm⟩
  · rintro ⟨hfeed, rfl⟩ read hread
    exact hread.read_wholeScalar s hfeed

/-! ### One line -/

/-- A text takes one line as a scalar. -/
theorem newline_not_mem_yamlScalar_text (s : String) :
    '\n' ∉ (yamlScalar (.text s)).toList := by
  by_cases hfeed : '\n' ∈ s.toList
  · rw [yamlScalar, if_pos (by simpa using hfeed)]
    exact Json.newline_not_mem_quote s
  · rw [toList_yamlScalar_text hfeed]
    exact fun hmem => Yaml.newline_not_mem_scalar 2 hfeed (Naming.dropEndWhile_subset _ _ hmem)

/-- So does a value without parts, from a document of one line. -/
theorem newline_not_mem_trimEnd_print {v : Value} {cs : List Char}
    (hprint : Yaml.print v = String.ofList (Yaml.newLine 0 cs)) (h : '\n' ∉ cs) :
    '\n' ∉ (Text.trimEnd (Yaml.print v)).toList := by
  rw [hprint, Text.trimEnd, String.toList_ofList, String.toList_ofList, trimEndChars_newLine]
  exact fun hmem => h (Naming.dropEndWhile_subset _ _ hmem)

/-- Every value takes one line as a scalar. -/
theorem newline_not_mem_yamlScalar (v : Value) : '\n' ∉ (yamlScalar v).toList := by
  cases v with
  | null => decide
  | bool b => cases b <;> decide
  | number n =>
      have hplus : '\n' ∉ NumberStyle.yaml.plus.toList := by decide
      exact newline_not_mem_trimEnd_print (v := .number n) rfl (newline_not_mem_number hplus n)
  | text s => exact newline_not_mem_yamlScalar_text s
  | list items => exact Json.newline_not_mem_compact (.list items)
  | map entries => exact Json.newline_not_mem_compact (.map entries)

/-- A text takes one line as a scalar. Two texts share a scalar exactly if both stand without
quotes and differ in the blanks at their ends only, and a text has its whole scalar exactly if it
does not stand so and end in a blank. -/
theorem yamlScalar_tells_apart (s t : String) :
    '\n' ∉ (yamlScalar (.text s)).toList ∧
      (yamlScalar (.text s) = yamlScalar (.text t) ↔
        s = t ∨ Yaml.styleOf s = .plain ∧ Yaml.styleOf t = .plain ∧
          Text.trimEnd s = Text.trimEnd t) ∧
      (yamlScalar (.text s) = wholeScalar s ↔ ¬ LosesEnd s) :=
  ⟨newline_not_mem_yamlScalar_text s, yamlScalar_text_eq_iff s t, yamlScalar_eq_wholeScalar_iff s⟩

/-- A no-break space at the end is lost: two names share a scalar, and a text has that of a
boolean. -/
theorem yamlScalar_drops_blank :
    "Miles\u00a0" ≠ "Miles" ∧
      yamlScalar (.text "Miles\u00a0") = yamlScalar (.text "Miles") ∧
      yamlScalar (.text "true\u00a0") = yamlScalar (.bool true) := by
  decide +kernel

end Portfolio.Record
