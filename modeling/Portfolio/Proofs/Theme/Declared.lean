/-
Module: Portfolio.Proofs.Theme.Declared
Purpose: The custom properties that the text of the tokens' sheet declares: those of its sections,
  then those of the palette, each on a line of its own.
Main exports: Theme.Declares, Theme.Declares.exists_eq_append, Theme.declared,
  Theme.declares_themeCss
-/
import Portfolio.Theme.Tokens

namespace Portfolio.Theme

/-! ### Texts that declare -/

/-- A text declares properties with their values, one on each of its lines. What stands between
these lines opens a rule for the whole document, or holds no colon and so declares nothing. -/
inductive Declares : String → List Declaration → Prop where
  | nil : Declares "" []
  | aside {text rest : String} {ds : List Declaration} :
      ':' ∉ text.toList → Declares rest ds → Declares (text ++ rest) ds
  | root {rest : String} {ds : List Declaration} :
      Declares rest ds → Declares (":root \x7b\n" ++ rest) ds
  | line {property value rest : String} {ds : List Declaration} :
      Declares rest ds →
        Declares ("  " ++ property ++ ": " ++ value ++ ";\n" ++ rest) (⟨property, value⟩ :: ds)

namespace Declares

variable {text more : String} {ds es : List Declaration}

theorem of_not_mem (h : ':' ∉ text.toList) : Declares text [] := by
  have haside := aside h nil
  rwa [String.append_empty] at haside

theorem append (h : Declares text ds) (h' : Declares more es) :
    Declares (text ++ more) (ds ++ es) := by
  induction h with
  | nil => rwa [String.empty_append, List.nil_append]
  | aside hnone _ ih =>
      rw [String.append_assoc]
      exact aside hnone ih
  | root _ ih =>
      rw [String.append_assoc]
      exact root ih
  | line _ ih =>
      rw [String.append_assoc, List.cons_append]
      exact line ih

/-- The line of a declared property is found in the text. -/
theorem exists_eq_append {d : Declaration} (h : Declares text ds) (hd : d ∈ ds) :
    ∃ before after, text = before ++ ("  " ++ d.property ++ ": " ++ d.value ++ ";\n") ++ after := by
  induction h with
  | nil => exact absurd hd List.not_mem_nil
  | @aside first rest _ _ _ ih =>
      obtain ⟨before, after, hrest⟩ := ih hd
      exact ⟨first ++ before, after, by simp only [hrest, String.append_assoc]⟩
  | @root rest _ _ ih =>
      obtain ⟨before, after, hrest⟩ := ih hd
      exact ⟨":root \x7b\n" ++ before, after, by simp only [hrest, String.append_assoc]⟩
  | @line property value rest _ _ ih =>
      rcases List.mem_cons.1 hd with rfl | hd
      · exact ⟨"", rest, by rw [String.empty_append]⟩
      · obtain ⟨before, after, hrest⟩ := ih hd
        exact ⟨"  " ++ property ++ ": " ++ value ++ ";\n" ++ before, after,
          by simp only [hrest, String.append_assoc]⟩

end Declares

/-! ### The parts of the sheet -/

theorem declares_lines : ∀ ds : List Declaration,
    Declares (String.join (ds.map declarationLine)) ds
  | [] => .nil
  | d :: ds => by
      have hline : declarationLine d = "  " ++ d.property ++ ": " ++ d.value ++ ";\n" := by
        simp [declarationLine, Declaration.render, String.append_assoc]
      rw [List.map_cons, String.join_cons, hline]
      exact .line (declares_lines ds)

theorem colon_not_mem_comment {title : String} (h : ':' ∉ title.toList) :
    ':' ∉ (comment title).toList := by
  simp only [comment, String.toList_append, List.mem_append, not_or]
  exact ⟨⟨by decide, h⟩, by decide⟩

theorem declares_section {s : Section} (h : ':' ∉ s.title.toList) :
    Declares s.render s.declarations := by
  have htitle : ':' ∉ ("  " ++ comment s.title).toList := by
    rw [String.toList_append, List.mem_append, not_or]
    exact ⟨by decide, colon_not_mem_comment h⟩
  exact .aside htitle (declares_lines s.declarations)

theorem declares_sections : ∀ {ss : List Section}, (∀ s ∈ ss, ':' ∉ s.title.toList) →
    Declares (String.join (ss.map Section.render)) (ss.flatMap (·.declarations))
  | [], _ => .nil
  | s :: ss, h => by
      rw [List.forall_mem_cons] at h
      rw [List.map_cons, String.join_cons, List.flatMap_cons]
      exact (declares_section h.1).append (declares_sections h.2)

theorem declares_rootRule {lines : String} {ds : List Declaration} (h : Declares lines ds) :
    Declares (rootRule lines) ds := by
  have hbrace : ':' ∉ "\x7d\n".toList := by decide
  have hclose := h.append (.of_not_mem hbrace)
  rw [List.append_nil] at hclose
  rw [rootRule, String.append_assoc]
  exact .root hclose

/-! ### The sheet -/

/-- The declarations of the tokens' sheet: those of the root block, then those of the palette. -/
def declared (design : Design) : List Declaration :=
  (filledSections design).flatMap (·.declarations) ++ paletteDeclarations design.colors

theorem paletteDeclarations_eq_nil {p : Palette} (h : p.isExtended = false) :
    paletteDeclarations p = [] := by
  rw [Palette.isExtended, Bool.or_eq_false_iff, List.any_eq_false] at h
  have hramps : p.ramps.flatMap (fun ramp => ramp.2.entries.map fun shade =>
      customProperty ("color-" ++ ramp.1 ++ "-" ++ Naming.cssIdent shade.1) shade.2) = [] := by
    rw [List.flatMap_eq_nil_iff]
    intro ramp hramp
    rw [List.map_eq_nil_iff]
    simpa [SortedMap.isEmpty] using h.1 ramp hramp
  rw [paletteDeclarations, hramps, List.nil_append, List.map_eq_nil_iff]
  simpa [SortedMap.isEmpty] using h.2

theorem colon_not_mem_title (design : Design) :
    ∀ s ∈ filledSections design, ':' ∉ s.title.toList := by
  have htitles : (sections design).map (·.title) =
      ["Colors", "Typography", "Spacing", "Shadows", "Borders", "Radii", "Z-index",
        "Transitions", "Breakpoints"] := rfl
  intro s hs
  have hmem : s.title ∈ (sections design).map (·.title) :=
    List.mem_map_of_mem (List.mem_filter.1 hs).1
  rw [htitles] at hmem
  exact (by decide : ∀ title ∈ ["Colors", "Typography", "Spacing", "Shadows", "Borders", "Radii",
    "Z-index", "Transitions", "Breakpoints"], ':' ∉ title.toList) s.title hmem

/-- The text of the tokens' sheet declares these properties, in this order and nothing else. The
rule of the palette is there if the palette declares something. -/
theorem declares_themeCss (design : Design) : Declares (themeCss design) (declared design) := by
  have hroot := declares_rootRule (declares_sections (colon_not_mem_title design))
  rw [themeCss, String.append_assoc]
  apply Declares.aside (colon_not_mem_comment (by decide))
  apply hroot.append
  split
  · rw [String.append_assoc]
    apply Declares.aside (by decide)
    apply Declares.aside (colon_not_mem_comment (by decide))
    exact declares_rootRule (declares_lines _)
  · next hplain =>
      rw [paletteDeclarations_eq_nil (by simpa using hplain)]
      exact .nil

end Portfolio.Theme
