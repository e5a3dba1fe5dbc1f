/-
Module: Portfolio.Proofs.Template.Shared
Purpose: The templates and snippets of every site are clean markup, and call no other
  snippets than those that every site has.
Main exports: Template.mem_siteSnippets_of_mem_sharedFiles, Template.mem_calls_header
-/
import Portfolio.Proofs.Template.Call
import Portfolio.Template.Shared

namespace Portfolio.Template

/-! ### Markup -/

@[simp] theorem clean_fixed (html : String) : (Markup.fixed html).Clean ↔ Reads html [] := Iff.rfl

/-- The header is clean if the language has no tag in it. -/
theorem cleanAll_headerMarkup {language : String} (h : '<' ∉ language.toList) :
    CleanAll (headerMarkup language) := by
  have hdoctype : Reads "<!DOCTYPE html>\n<html lang=\"" [] := reads_of_opensNone rfl
  have hhead : Reads "\">\n<head>\n" [] := reads_of_opensNone rfl
  have hcharset : Reads "  <meta charset=\"utf-8\">\n" [] := reads_of_opensNone rfl
  have hviewport : Reads
      "  <meta name=\"viewport\" content=\"width=device-width, initial-scale=1\">\n  <title>" [] :=
    reads_of_opensNone rfl
  have hbody : Reads
      "\n</head>\n<body>\n  <header class=\"site-header\">\n    <div class=\"container\">\n" [] :=
    reads_of_opensNone rfl
  have htitle : Reads "      <a class=\"site-title\" href=\"" [] :=
    reads_of_opensNone rfl
  have hstart := hdoctype.append (reads_of_not_mem h)
  have hcurrent : (Control.call "e($item->isOpen(), ' aria-current=\"page\"')").Clean :=
    ⟨quiet_literal rfl, by decide⟩
  simp only [headerMarkup, cleanAll_cons, cleanAll_nil, clean_fixed, clean_echo, clean_php]
  exact ⟨((hstart.append hhead).append hcharset).append hviewport, quiet_literal rfl,
    reads_of_opensNone rfl, quiet_literal rfl, reads_of_opensNone rfl,
    quiet_literal rfl, hbody.append htitle, quiet_literal rfl,
    reads_of_opensNone rfl, quiet_literal rfl, reads_of_opensNone rfl,
    quiet_literal rfl, reads_of_opensNone rfl, quiet_literal rfl,
    reads_of_opensNone rfl, hcurrent, reads_of_opensNone rfl,
    quiet_literal rfl, reads_of_opensNone rfl, trivial,
    reads_of_opensNone rfl, trivial⟩

theorem cleanAll_footerMarkup : CleanAll footerMarkup := by
  simp only [footerMarkup, cleanAll_cons, cleanAll_nil, clean_fixed, clean_echo]
  exact ⟨reads_of_opensNone rfl, quiet_literal rfl,
    reads_of_opensNone rfl, quiet_literal rfl, reads_of_opensNone rfl,
    trivial⟩

theorem cleanAll_pageHeaderMarkup : CleanAll pageHeaderMarkup := by
  simp only [pageHeaderMarkup, cleanAll_cons, clean_box, clean_element, List.not_mem_nil,
    IsEmpty.forall_iff, implies_true, clean_echo, cleanAll_nil, and_true, true_and,
    cleanAll_ifTrue, List.mem_cons, or_false, forall_eq, clean_echoed, clean_newline, and_self]
  and_intros <;> first | exact isName_literal rfl | exact quiet_literal rfl

theorem cleanAll_cardMarkup : CleanAll cardMarkup := by
  simp only [cardMarkup, cleanAll_cons, clean_box, clean_element, List.mem_cons,
    List.not_mem_nil, or_false, forall_eq, clean_echoed, cleanAll_append, cleanAll_ifTrue,
    clean_void, forall_eq_or_imp, clean_attribute_text, cleanAll_nil, and_true, clean_echo,
    clean_newline, and_self]
  and_intros <;> first | exact isName_literal rfl | exact quiet_literal rfl

theorem clean_cards {head card : String} (hhead : Quiet head) (hcard : Quiet card) :
    (cards head card).Clean := by
  have hdiv : IsName "div" := isName_literal rfl
  have hname : IsSnippetName "card" := isSnippetName_literal rfl
  have hkey : Quiet "card" := hname.quiet
  simp [cards, Control.Clean, hdiv, hname, hkey, hhead, hcard]

theorem cleanAll_defaultMarkup : CleanAll defaultMarkup := by
  have hheader : IsSnippetName "page-header" := isSnippetName_literal rfl
  have hcards : (cards "$page->children() as $child" "$child").Clean :=
    clean_cards (quiet_literal rfl) (quiet_literal rfl)
  apply cleanAll_wrapPage
  simp only [clean_box, cleanAll_cons, clean_newline, clean_php, Control.Clean, hheader,
    cleanAll_append, cleanAll_ifTrue, clean_echo, cleanAll_nil, and_true, hcards, and_self,
    true_and]
  and_intros <;> first | exact isName_literal rfl | exact quiet_literal rfl

theorem cleanAll_homeMarkup : CleanAll homeMarkup := by
  have hcards : (cards "$collection->children()->listed()->limit(6) as $child" "$child").Clean :=
    clean_cards (quiet_literal rfl) (quiet_literal rfl)
  apply cleanAll_wrapPage
  simp only [List.cons_append, List.nil_append, clean_box, cleanAll_cons, clean_element,
    List.not_mem_nil, IsEmpty.forall_iff, implies_true, clean_echo, cleanAll_nil, and_true,
    true_and, cleanAll_ifTrue, clean_newline, cleanAll_append, cleanAll_forEach, List.mem_cons,
    or_false, forall_eq, clean_echoed, hcards, and_self]
  and_intros <;> first | exact isName_literal rfl | exact quiet_literal rfl

/-! ### Calls -/

/-- The files of every site call none but the snippets of every site. The language is written
into the header as it is, so it must not hold a tag. -/
theorem mem_siteSnippets_of_mem_sharedFiles {language : String} (hlanguage : '<' ∉ language.toList)
    {file : File} (hfile : file ∈ sharedFiles language) :
    ∀ name ∈ calls file, name ∈ siteSnippets := by
  simp only [sharedFiles, List.mem_cons, List.not_mem_nil, or_false] at hfile
  rcases hfile with rfl | rfl | rfl | rfl | rfl | rfl
  · have hnone : (islandsOfAll (headerMarkup language)).filterMap Island.called? = [] := rfl
    rw [calls_ofText (cleanAll_headerMarkup hlanguage), hnone]
    exact List.forall_mem_nil _
  · rw [calls_ofText cleanAll_footerMarkup]
    decide
  · rw [calls_ofText cleanAll_pageHeaderMarkup]
    decide
  · rw [calls_ofText cleanAll_cardMarkup]
    decide
  · rw [calls_ofText cleanAll_defaultMarkup]
    decide
  · rw [calls_ofText cleanAll_homeMarkup]
    decide

/-- The islands of the language are islands of the header, and so are their calls. -/
theorem mem_calls_header {language : String} {found : List String} (h : Reads language found)
    {name : String} (hname : name ∈ found.filterMap calledName?) :
    name ∈ calls (.ofText (snippetPath "header") (renderAll (headerMarkup language))) := by
  have hdoctype : Reads "<!DOCTYPE html>\n<html lang=\"" [] := reads_of_opensNone rfl
  obtain ⟨rest, hrest⟩ : ∃ rest, renderAll (headerMarkup language) =
      "<!DOCTYPE html>\n<html lang=\"" ++ language ++ rest := by
    simp only [headerMarkup, renderAll, Markup.render, String.append_assoc]
    exact ⟨_, rfl⟩
  have hislands := hdoctype.append h rest.toList
  rw [← String.toList_append, ← hrest] at hislands
  change name ∈ (islandsOutside (renderAll (headerMarkup language)).toList).filterMap calledName?
  rw [hislands, List.filterMap_append]
  exact List.mem_append_left _ hname

end Portfolio.Template
