/-
Module: Portfolio.Proofs.Json.Line
Purpose: Values as JSON without indentation take one line.
Main exports: Json.newline_not_mem_compact
-/
import Portfolio.Proofs.Number.Text
import Portfolio.Proofs.Yaml.Decoding

namespace Portfolio.Json

theorem newline_not_mem_quote (s : String) : '\n' ∉ (quote s).toList := by
  simp [quote, Yaml.newline_not_mem_flatMap Yaml.escaped_escapeChar_json]

theorem newline_not_mem_intercalate {texts : List String}
    (h : ∀ text ∈ texts, '\n' ∉ text.toList) :
    '\n' ∉ (String.intercalate "," texts).toList := by
  rw [String.toList_intercalate]
  intro hmem
  rcases Naming.mem_intercalate hmem with hmem | ⟨piece, hpiece, hmem⟩
  · exact absurd hmem (by decide)
  · obtain ⟨text, htext, rfl⟩ := List.mem_map.1 hpiece
    exact h text htext hmem

mutual

/-- A value as JSON without indentation takes one line. -/
theorem newline_not_mem_compact : ∀ v : Value, '\n' ∉ (compact v).toList
  | .null => by decide
  | .bool b => by cases b <;> decide
  | .number (.int n) => by
      rw [compact]
      · exact newline_not_mem_number (by decide) (.int n)
      · simp
  | .number (.double x) => by
      rw [compact]
      split
      · exact newline_not_mem_numberText (by decide) x
      · decide
  | .text s => by
      rw [compact]
      exact newline_not_mem_quote s
  | .list items => by
      have hitems := newline_not_mem_intercalate (newline_not_mem_compactItems items)
      simp only [compact, String.toList_append, List.mem_append, not_or]
      exact ⟨⟨by decide, hitems⟩, by decide⟩
  | .map entries => by
      have hentries := newline_not_mem_intercalate (newline_not_mem_compactEntries entries)
      simp only [compact, String.toList_append, List.mem_append, not_or]
      exact ⟨⟨by decide, hentries⟩, by decide⟩

/-- The same for the items of a list. -/
theorem newline_not_mem_compactItems :
    ∀ items : List Value, ∀ text ∈ compactItems items, '\n' ∉ text.toList
  | [], _, h => by simp [compactItems] at h
  | v :: vs, text, h => by
      rw [compactItems, List.mem_cons] at h
      rcases h with rfl | h
      · exact newline_not_mem_compact v
      · exact newline_not_mem_compactItems vs text h

/-- The same for the entries of a map. -/
theorem newline_not_mem_compactEntries :
    ∀ entries : List (String × Value), ∀ text ∈ compactEntries entries, '\n' ∉ text.toList
  | [], _, h => by simp [compactEntries] at h
  | (k, v) :: es, text, h => by
      rw [compactEntries, List.mem_cons] at h
      rcases h with rfl | h
      · simp [newline_not_mem_quote, newline_not_mem_compact v]
      · exact newline_not_mem_compactEntries es text h

end

end Portfolio.Json
