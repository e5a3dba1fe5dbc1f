/-
Module: Portfolio.Proofs.Template.Markup
Purpose: The templates and snippets of an entity are clean markup, whatever its fields say.
Main exports: Template.cleanAll_fragments, Template.cleanAll_pageMarkup,
  Template.cleanAll_of_mem_entitySnippets, Template.islandsOfAll_pageMarkup
-/
import Portfolio.Proofs.Naming.Spelling
import Portfolio.Proofs.Template.Island
import Portfolio.Proofs.Template.Nesting

namespace Portfolio.Template

open Naming (Spelled)

/-! ### Parts -/

@[simp] theorem clean_text (s : String) : (Markup.text s).Clean := trivial

@[simp] theorem clean_newline : newline.Clean := reads_of_not_mem (by simp)

@[simp] theorem clean_php (c : Control) : (php c).Clean ↔ c.Clean := Iff.rfl

@[simp] theorem clean_echo (expression : String) : (echo expression).Clean ↔ Quiet expression :=
  Iff.rfl

@[simp] theorem cleanAll_nil : CleanAll [] := trivial

@[simp] theorem cleanAll_cons (m : Markup) (ms : List Markup) :
    CleanAll (m :: ms) ↔ m.Clean ∧ CleanAll ms := Iff.rfl

@[simp] theorem clean_element (tag : String) (attributes : List Attribute)
    (children : List Markup) :
    (Markup.element tag attributes children).Clean ↔
      IsName tag ∧ (∀ a ∈ attributes, a.Clean) ∧ CleanAll children := Iff.rfl

@[simp] theorem clean_void (tag : String) (attributes : List Attribute) :
    (Markup.void tag attributes).Clean ↔ IsName tag ∧ ∀ a ∈ attributes, a.Clean := Iff.rfl

@[simp] theorem clean_cssClass (names : String) : (cssClass names).Clean :=
  ⟨isName_literal rfl, by simp [cssClass]⟩

@[simp] theorem clean_echoed (name expression : String) :
    (echoed name expression).Clean ↔ IsName name ∧ Quiet expression := by
  constructor
  · rintro ⟨hname, hvalue⟩
    exact ⟨hname, hvalue expression rfl⟩
  · rintro ⟨hname, hexpression⟩
    refine ⟨hname, ?_⟩
    rintro _ ⟨⟩
    exact hexpression

/-- Free text in an attribute needs no care. -/
@[simp] theorem clean_attribute_text (name s : String) :
    (Attribute.mk name (.text s)).Clean ↔ IsName name :=
  ⟨Attribute.Clean.name, fun h => ⟨h, by simp⟩⟩

@[simp] theorem clean_attribute_absent (name : String) :
    (Attribute.mk name .absent).Clean ↔ IsName name :=
  ⟨Attribute.Clean.name, fun h => ⟨h, by simp⟩⟩

@[simp] theorem clean_box (tag classes : String) (children : List Markup) :
    (box tag classes children).Clean ↔ IsName tag ∧ CleanAll children := by
  simp [box]

@[simp] theorem cleanAll_forEach (head : String) (body : List Markup) :
    CleanAll (forEach head body) ↔ Quiet head ∧ CleanAll body := by
  simp [forEach, Control.Clean]

@[simp] theorem cleanAll_ifTrue (test : String) (body : List Markup) :
    CleanAll (ifTrue test body) ↔ Quiet test ∧ CleanAll body := by
  simp [ifTrue, Control.Clean]

theorem cleanAll_flatMap {α : Type} {xs : List α} {part : α → List Markup}
    (h : ∀ x ∈ xs, CleanAll (part x)) : CleanAll (xs.flatMap part) := by
  induction xs with
  | nil => exact cleanAll_nil
  | cons x xs ih =>
      rw [List.forall_mem_cons] at h
      rw [List.flatMap_cons, cleanAll_append]
      exact ⟨h.1, ih h.2⟩

/-! ### Islands of parts -/

@[simp] theorem islands_text (s : String) : (Markup.text s).islands = [] := rfl

@[simp] theorem islands_newline : newline.islands = [] := rfl

@[simp] theorem islands_php (c : Control) : (php c).islands = [.control c] := rfl

@[simp] theorem islands_echo (expression : String) :
    (echo expression).islands = [.echo expression] := rfl

@[simp] theorem islands_box (tag classes : String) (children : List Markup) :
    (box tag classes children).islands = islandsOfAll children := by
  rw [box, Markup.islands]
  rfl

@[simp] theorem islandsOfAll_nil : islandsOfAll [] = [] := rfl

@[simp] theorem islandsOfAll_cons (m : Markup) (ms : List Markup) :
    islandsOfAll (m :: ms) = m.islands ++ islandsOfAll ms := rfl

@[simp] theorem islandsOfAll_append (ms ns : List Markup) :
    islandsOfAll (ms ++ ns) = islandsOfAll ms ++ islandsOfAll ns := by
  induction ms with
  | nil => rfl
  | cons m ms ih =>
      rw [List.cons_append, islandsOfAll_cons, islandsOfAll_cons, ih, List.append_assoc]

@[simp] theorem islandsOfAll_ifTrue (test : String) (body : List Markup) :
    islandsOfAll (ifTrue test body) =
      .control (.condition test) :: (islandsOfAll body ++ [.control .endCondition]) := by
  simp [ifTrue]

theorem islandsOfAll_flatMap {α : Type} (xs : List α) (part : α → List Markup) :
    islandsOfAll (xs.flatMap part) = xs.flatMap fun x => islandsOfAll (part x) := by
  induction xs with
  | nil => rfl
  | cons x xs ih => rw [List.flatMap_cons, islandsOfAll_append, ih, List.flatMap_cons]

/-! ### Fragments -/

/-- A scope whose names are harmless in an island. -/
structure Scope.Clean (scope : Scope) : Prop where
  subject : Quiet scope.subject
  path : IsSnippetName scope.path

/-- A spelled name has no mark that ends an island or a quote. -/
theorem isSnippetName_of_spelled {separator : Char} {name : String}
    (h : Spelled separator name.toList) (hmark : separator ≠ '?') (hquote : separator ≠ '\'') :
    IsSnippetName name := by
  constructor
  · intro hmem
    rcases h _ hmem with hsmall | heq
    · exact absurd hsmall (by decide)
    · exact hmark heq.symm
  · intro hmem
    rcases h _ hmem with hsmall | heq
    · exact absurd hsmall (by decide)
    · exact hquote heq.symm

theorem isSnippetName_key (name : String) : IsSnippetName (Naming.key name) :=
  isSnippetName_of_spelled (Naming.spelled_key name) (by decide) (by decide)

theorem Scope.Clean.accessor {scope : Scope} (h : scope.Clean) (f : FieldSpec) :
    Quiet (scope.accessor f) := by
  rw [Scope.accessor, quiet_append, quiet_append, quiet_append]
  exact ⟨⟨⟨h.subject, quiet_literal rfl⟩, (isSnippetName_key f.name).quiet⟩,
    quiet_literal rfl⟩

theorem isSnippetName_append {s t : String} (hs : IsSnippetName s) (ht : IsSnippetName t) :
    IsSnippetName (s ++ t) := by
  refine ⟨quiet_append.2 ⟨hs.quiet, ht.quiet⟩, ?_⟩
  rw [String.toList_append, List.mem_append, not_or]
  exact ⟨hs.no_quote, ht.no_quote⟩

theorem Scope.Clean.inside {scope : Scope} (h : scope.Clean) (f : FieldSpec) :
    (scope.inside f).Clean where
  subject := quiet_literal rfl
  path := isSnippetName_append (isSnippetName_append h.path (isSnippetName_literal rfl))
    (isSnippetName_key f.name)

/-- What a field shows is clean, of whatever kind it is. -/
theorem clean_display {scope : Scope} (h : scope.Clean) (f : FieldSpec) :
    Quiet (display scope f).guard ∧ CleanAll (display scope f).content := by
  have hvalue := h.accessor f
  have hpath := (h.inside f).path
  cases hkind : f.kind with
  | structured =>
      simp only [display, hkind]
      split
      · simp only [quiet_append, hvalue, true_and, cleanAll_cons, clean_box, cleanAll_forEach,
          clean_php, Control.Clean, hpath, cleanAll_nil, and_true]
        and_intros <;> first | exact isName_literal rfl | exact quiet_literal rfl
      · simp only [quiet_append, hvalue, true_and, cleanAll_cons, clean_box, clean_echo,
          cleanAll_nil, and_true]
        and_intros <;> first | exact isName_literal rfl | exact quiet_literal rfl
  | _ =>
      simp only [display, hkind, link, itemList, download, quiet_append, hvalue, cleanAll_cons,
        cleanAll_nil, clean_box, clean_element, clean_void, clean_text, clean_echo, clean_php,
        clean_cssClass, clean_echoed, clean_attribute_text, clean_attribute_absent,
        cleanAll_forEach, cleanAll_ifTrue, Control.Clean, List.cons_append, List.nil_append,
        List.append_nil, List.forall_mem_cons, List.not_mem_nil, IsEmpty.forall_iff,
        implies_true, true_and, and_true]
      and_intros <;>
        first
        | exact isName_literal rfl
        | exact quiet_literal rfl
        | exact isSnippetName_literal rfl

theorem cleanAll_fragment {scope : Scope} (h : scope.Clean) (f : FieldSpec) :
    CleanAll (fragment scope f) := by
  obtain ⟨hguard, hcontent⟩ := clean_display h f
  have hdiv : IsName "div" := isName_literal rfl
  have hspan : IsName "span" := isName_literal rfl
  have hlabel : CleanAll (if (display scope f).showLabel then [labelMarkup f] else []) := by
    split
    · simp [labelMarkup, hspan]
    · exact cleanAll_nil
  simp [fragment, hguard, hcontent, hdiv, hlabel]

theorem cleanAll_fragments {scope : Scope} (h : scope.Clean) (fields : List Field) :
    CleanAll (fragments scope fields) := by
  rw [fragments, cleanAll_append]
  refine ⟨cleanAll_flatMap ?_, by simp⟩
  intro f _
  rw [cleanAll_cons]
  exact ⟨clean_newline, cleanAll_fragment h f.toFieldSpec⟩

/-- A fragment has the islands of its content between a test and its end. -/
theorem islandsOfAll_fragment (scope : Scope) (f : FieldSpec) :
    islandsOfAll (fragment scope f) =
      .control (.condition (display scope f).guard) ::
        (islandsOfAll (display scope f).content ++ [.control .endCondition]) := by
  have hlabel : islandsOfAll (if (display scope f).showLabel then [labelMarkup f] else []) =
      [] := by
    split
    · simp [labelMarkup]
    · rfl
  simp [fragment, hlabel]

/-- The islands of fields are those of their fragments. -/
theorem islandsOfAll_fragments (scope : Scope) (fields : List Field) :
    islandsOfAll (fragments scope fields) =
      fields.flatMap fun f => islandsOfAll (fragment scope f.toFieldSpec) := by
  simp [fragments, islandsOfAll_flatMap]

/-! ### Pages and rows -/

theorem clean_pageScope (entity : Entity) : (pageScope entity).Clean where
  subject := quiet_literal rfl
  path := isSnippetName_of_spelled (Naming.spelled_template entity.id) (by decide) (by decide)

theorem clean_foldl_inside {scope : Scope} (h : scope.Clean) (specs : List FieldSpec) :
    (specs.foldl Scope.inside scope).Clean := by
  induction specs generalizing scope with
  | nil => exact h
  | cons spec specs ih => exact ih (h.inside spec)

theorem clean_nodeScope (entity : Entity) (n : Node) : (nodeScope entity n).Clean := by
  rw [← scopeAt_path, scopeAt]
  exact clean_foldl_inside (clean_pageScope entity) n.path

theorem cleanAll_wrapPage {body : Markup} (h : body.Clean) : CleanAll (wrapPage body) := by
  have hheader : IsSnippetName "header" := isSnippetName_literal rfl
  have hfooter : IsSnippetName "footer" := isSnippetName_literal rfl
  simp [wrapPage, Control.Clean, h, hheader, hfooter]

theorem cleanAll_pageMarkup (entity : Entity) : CleanAll (pageMarkup entity) := by
  have hmain : IsName "main" := isName_literal rfl
  have harticle : IsName "article" := isName_literal rfl
  have hheader : IsSnippetName "page-header" := isSnippetName_literal rfl
  apply cleanAll_wrapPage
  simp [Control.Clean, hmain, harticle, hheader, cleanAll_fragments (clean_pageScope entity)]

theorem cleanAll_rowMarkup {scope : Scope} (h : scope.Clean) (f : Field) :
    CleanAll (rowMarkup scope f) := by
  have hdiv : IsName "div" := isName_literal rfl
  simp [rowMarkup, hdiv, cleanAll_fragments h]

theorem cleanAll_of_mem_entitySnippets {entity : Entity} {s : Snippet}
    (hs : s ∈ entitySnippets entity) : CleanAll s.markup := by
  rw [entitySnippets_eq, List.mem_map] at hs
  obtain ⟨n, -, rfl⟩ := hs
  exact cleanAll_rowMarkup (clean_nodeScope entity n) n.field

/-- The islands of a snippet are those of the fields in a row. -/
theorem islandsOfAll_rowMarkup (scope : Scope) (f : Field) :
    islandsOfAll (rowMarkup scope f) = islandsOfAll (fragments scope f.nested) := by
  simp [rowMarkup]

/-- The islands of a page are those of its fields, between those of the site. -/
theorem islandsOfAll_pageMarkup (entity : Entity) :
    islandsOfAll (pageMarkup entity) =
      .control (.snippet "header" none) :: .control (.snippet "page-header" none) ::
        (islandsOfAll (fragments (pageScope entity) entity.fields) ++
          [.control (.snippet "footer" none)]) := by
  simp [pageMarkup, wrapPage]

end Portfolio.Template
