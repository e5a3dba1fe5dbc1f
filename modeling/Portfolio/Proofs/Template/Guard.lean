/-
Module: Portfolio.Proofs.Template.Guard
Purpose: The blocks in the files of an entity. Outermost stands one test for each field that
  the file shows, on that field and no other, and all blocks inside are closed.
Main exports: Template.presenceTest, Template.Listing, Template.nested_fragments,
  Template.files_well_nested
-/
import Mathlib.Data.List.Forall2
import Portfolio.Proofs.Template.Block
import Portfolio.Proofs.Template.Call
import Portfolio.Proofs.Validation.Findings

namespace Portfolio.Template

open Portfolio.Field (nodesBelow nodesBelowAll nodesBelow_of_structured nodesBelow_of_plain)
open Validation (Callable Holds)

/-! ### Fields -/

/-- The test that a field of a subject has a value: a flag is set, a single file is there, and
anything else is not empty. -/
def presenceTest (subject : String) (f : FieldSpec) : String :=
  let accessor := subject ++ "->" ++ Naming.key f.name ++ "()"
  match f.kind with
  | .boolean => accessor ++ "->toBool()"
  | .image | .file => "$file = " ++ accessor ++ "->toFile()"
  | _ => accessor ++ "->isNotEmpty()"

/-- The head of the block around a field. -/
def guardHead (subject : String) (f : FieldSpec) : BlockHead :=
  ⟨.condition, presenceTest subject f⟩

theorem guard_display (scope : Scope) (f : FieldSpec) :
    (display scope f).guard = presenceTest scope.subject f := by
  unfold display presenceTest
  cases f.kind with
  | structured =>
      dsimp only
      split
      · rfl
      · rfl
  | _ => rfl

/-- The block inside the guard of a field: a list goes through its members, and an image may
have a caption. -/
def innerHead? (scope : Scope) (f : FieldSpec) : Option BlockHead :=
  let value := scope.accessor f
  match f.kind with
  | .multiselect | .checkbox | .tags => some ⟨.loop, value ++ "->split() as $entry"⟩
  | .image => some ⟨.condition, "$file->caption()->isNotEmpty()"⟩
  | .gallery | .files => some ⟨.loop, value ++ "->toFiles() as $file"⟩
  | .list => some ⟨.loop, value ++ "->yaml() as $entry"⟩
  | .structured =>
      if scope.enclosing < maxStructureDepth then
        some ⟨.loop, value ++ "->toStructure() as $row"⟩
      else none
  | .relation | .relations => some ⟨.loop, value ++ "->toPages() as $related"⟩
  | _ => none

/-- A block with none inside it. -/
def BlockHead.marks (head : BlockHead) : List Mark := [.opens head, .closes head.kind]

theorem marks_display (scope : Scope) (f : FieldSpec) :
    marksOfAll (display scope f).content = (innerHead? scope f).elim [] BlockHead.marks := by
  unfold display innerHead?
  cases f.kind with
  | structured =>
      dsimp only
      by_cases hshown : scope.enclosing < maxStructureDepth
      · rw [if_pos hshown, if_pos hshown]
        rfl
      · rw [if_neg hshown, if_neg hshown]
        rfl
  | _ => rfl

theorem nested_display (scope : Scope) (f : FieldSpec) :
    Nested (marksOfAll (display scope f).content) (innerHead? scope f).toList := by
  rw [marks_display]
  cases innerHead? scope f with
  | none => exact .nil
  | some head => exact .block head .nil .nil

/-- The marks of a field are those of its content between its test and the end of that. -/
theorem marks_fragment (scope : Scope) (f : FieldSpec) :
    marksOfAll (fragment scope f) =
      .opens (guardHead scope.subject f) ::
        (marksOfAll (display scope f).content ++ [.closes .condition]) := by
  have hfirst : (Island.control (.condition (presenceTest scope.subject f))).mark? =
      some (.opens (guardHead scope.subject f)) := rfl
  rw [marksOfAll, islandsOfAll_fragment, guard_display, List.filterMap_cons_some hfirst,
    List.filterMap_append]
  rfl

/-! ### Field lists -/

/-- Of the fields of a list the outermost blocks are their tests, in order. -/
theorem nested_fragments (scope : Scope) (fields : List Field) :
    Nested (marksOfAll (fragments scope fields))
      (fields.map fun f => guardHead scope.subject f.toFieldSpec) := by
  rw [marksOfAll, islandsOfAll_fragments, List.filterMap_flatMap]
  change Nested (fields.flatMap fun f => marksOfAll (fragment scope f.toFieldSpec)) _
  induction fields with
  | nil => exact .nil
  | cons f fs ih =>
      have hinside := nested_display scope f.toFieldSpec
      rw [List.flatMap_cons, List.map_cons, marks_fragment, List.cons_append, List.append_assoc,
        List.singleton_append]
      exact .block (guardHead scope.subject f.toFieldSpec) hinside ih

/-- The tests of fields are the outermost blocks of a file that has the marks of the fields. -/
theorem nested_iff {file : File} {scope : Scope} {fields : List Field}
    (h : marks file = marksOfAll (fragments scope fields)) (heads : List BlockHead) :
    Nested (marks file) heads ↔
      heads = fields.map fun f => guardHead scope.subject f.toFieldSpec := by
  rw [h]
  constructor
  · exact (nested_fragments scope fields).heads_eq
  · rintro rfl
    exact nested_fragments scope fields

/-! ### Files -/

/-- A field list as a file shows it: the path of the file, and the variable that holds the
fields. -/
structure Listing where
  path : String
  subject : String
  fields : List Field
  deriving Repr, Inhabited

/-- What the files of an entity show: its template the fields of a page, and the snippet of
each structure the fields of a row. -/
def listings (entity : Entity) : List Listing :=
  ⟨templatePath (Naming.template entity.id), "$page", entity.fields⟩ ::
    entity.shownNodes.map fun n =>
      ⟨snippetPath (snippetName entity n), "$item", n.field.nested⟩

/-- The tests of the fields of a listing. -/
def Listing.guards (listing : Listing) : List BlockHead :=
  listing.fields.map fun f => guardHead listing.subject f.toFieldSpec

theorem path_pageFile (entity : Entity) :
    (pageFile entity).path = templatePath (Naming.template entity.id) := rfl

/-- The calls of snippets around the fields of a page set no marks. -/
theorem marks_pageFile (entity : Entity) :
    marks (pageFile entity) = marksOfAll (fragments (pageScope entity) entity.fields) := by
  rw [pageFile, marks_ofText (cleanAll_pageMarkup entity), marksOfAll, islandsOfAll_pageMarkup,
    List.filterMap_cons_none rfl, List.filterMap_cons_none rfl, List.filterMap_append]
  exact List.append_nil _

theorem marks_nodeFile (entity : Entity) (n : Node) :
    marks (nodeFile entity n) = marksOfAll (fragments (nodeScope entity n) n.field.nested) := by
  rw [nodeFile, marks_ofText (cleanAll_rowMarkup (clean_nodeScope entity n) n.field), marksOfAll,
    islandsOfAll_rowMarkup]
  rfl

/-! ### Names of methods -/

/-- A name that is called as a method: a small letter, and then small letters, digits and
underscores. -/
def IsMethodName (name : String) : Prop :=
  ∃ c cs, name.toList = c :: cs ∧ c.isLower = true ∧
    ∀ d ∈ cs, d.isLower = true ∨ d.isDigit = true ∨ d = '_'

/-- A letter that is a small letter, a digit or an underscore is a small letter. -/
theorem isLower_of_isAlpha {c : Char} (halpha : c.isAlpha = true)
    (hsmall : Naming.isSmall c = true ∨ c = '_') : c.isLower = true := by
  have hkept : Naming.isKept c = true := by
    rw [Naming.isKept, Char.isAlphanum, halpha, Bool.true_or]
  have hascii : c.isAlpha = true → (Naming.isSmall c = true ∨ c = '_') → c.isLower = true :=
    Naming.of_isKept (P := fun c => c.isAlpha = true → (Naming.isSmall c = true ∨ c = '_') →
      c.isLower = true) (by decide) hkept
  exact hascii halpha hsmall

/-- A key that can be called is the name of a method. -/
theorem isMethodName_key {name : String} (h : Callable (Naming.key name)) :
    IsMethodName (Naming.key name) := by
  obtain ⟨c, hhead, halpha⟩ := h
  obtain ⟨cs, hkey⟩ := List.head?_eq_some_iff.1 hhead
  have hspelled := Naming.spelled_key name
  rw [hkey] at hspelled
  refine ⟨c, cs, hkey, isLower_of_isAlpha halpha (hspelled c List.mem_cons_self), ?_⟩
  intro d hd
  rcases hspelled d (List.mem_cons_of_mem _ hd) with hsmall | hunderscore
  · rw [Naming.isSmall, Bool.or_eq_true] at hsmall
    exact hsmall.elim Or.inl fun hdigit => Or.inr (Or.inl hdigit)
  · exact Or.inr (Or.inr hunderscore)

mutual

/-- Only structures have structures in them, and the rows of one are among their lists. -/
theorem holds_of_mem_nodesBelow : ∀ (enclosing : List FieldSpec) (f : Field),
    ∀ n ∈ nodesBelow enclosing f, f.kind = .structured ∧ Holds f.nested n.field.nested
  | enclosing, ⟨spec, nested⟩ => by
      intro n hn
      by_cases hkind : spec.kind = .structured
      · rw [nodesBelow_of_structured hkind, List.mem_cons] at hn
        rcases hn with rfl | hn
        · exact ⟨hkind, .self⟩
        · obtain ⟨f, hf, hstructured, hholds⟩ :=
            holds_of_mem_nodesBelowAll (enclosing ++ [spec]) nested n hn
          exact ⟨hkind, Holds.trans (.nested .self hf hstructured) hholds⟩
      · simp [nodesBelow_of_plain hkind] at hn

/-- The rows of a structure in a list of fields are one of the lists in one of the fields. -/
theorem holds_of_mem_nodesBelowAll : ∀ (enclosing : List FieldSpec) (fields : List Field),
    ∀ n ∈ nodesBelowAll enclosing fields,
      ∃ f ∈ fields, f.kind = .structured ∧ Holds f.nested n.field.nested
  | _, [] => by
      intro n hn
      simp [nodesBelowAll] at hn
  | enclosing, f :: fs => by
      intro n hn
      rw [nodesBelowAll, List.mem_append] at hn
      rcases hn with hn | hn
      · exact ⟨f, List.mem_cons_self, holds_of_mem_nodesBelow enclosing f n hn⟩
      · obtain ⟨g, hg, hholds⟩ := holds_of_mem_nodesBelowAll enclosing fs n hn
        exact ⟨g, List.mem_cons_of_mem f hg, hholds⟩

end

/-- The fields in a file of an entity are one of the lists in its fields. -/
theorem holds_of_mem_listings {entity : Entity} {listing : Listing}
    (h : listing ∈ listings entity) : Holds entity.fields listing.fields := by
  rcases List.mem_cons.1 h with rfl | h
  · exact .self
  · obtain ⟨n, hn, rfl⟩ := List.mem_map.1 h
    have hnode : n ∈ nodesBelowAll [] entity.fields :=
      entity.nodes_eq ▸ (List.mem_filter.1 hn).1
    obtain ⟨f, hf, hkind, hholds⟩ := holds_of_mem_nodesBelowAll [] entity.fields n hnode
    exact Holds.trans (.nested .self hf hkind) hholds

/-- In every file of an entity each `if` and each `foreach` is closed by an end of its own, and
outermost stand the tests of the fields that the file shows, in their order. The fields of an
accepted schema are called by names of methods. -/
theorem files_well_nested (entity : Entity) :
    List.Forall₂
        (fun file listing => file.path = listing.path ∧
          ∀ heads, Nested (marks file) heads ↔ heads = listing.guards)
        (entityFiles entity) (listings entity) ∧
      ∀ schema, (Validation.report schema).valid = true → entity ∈ schema.entities →
        ∀ listing ∈ listings entity, ∀ f ∈ listing.fields, IsMethodName (Naming.key f.name) := by
  constructor
  · have hpage := nested_iff (marks_pageFile entity)
    have hnode := fun n => nested_iff (marks_nodeFile entity n)
    rw [entityFiles_eq, listings, List.forall₂_cons, List.forall₂_map_left_iff,
      List.forall₂_map_right_iff, List.forall₂_same]
    exact ⟨⟨path_pageFile entity, hpage⟩, fun n _ => ⟨path_nodeFile entity n, hnode n⟩⟩
  · intro schema hvalid hentity listing hlisting f hf
    have hacceptable := (Validation.report_valid_iff schema).1 hvalid
    have hsound := hacceptable.fields_sound entity hentity listing.fields
      (holds_of_mem_listings hlisting)
    exact isMethodName_key (hsound.callable f hf)

/-- A page with a structure: the template tests the fields of the page, and the snippet those
of a row. -/
theorem files_well_nested_sampleGig :
    List.Forall₂ (fun file expected => file.path = expected.1 ∧ Nested (marks file) expected.2)
        (entityFiles Validation.sampleGig)
        [("site/templates/live-gig.php",
            [⟨.condition, "$page->title()->isNotEmpty()"⟩,
              ⟨.condition, "$page->set_list()->isNotEmpty()"⟩]),
          ("site/snippets/live-gig/set_list.php",
            [⟨.condition, "$item->song()->isNotEmpty()"⟩,
              ⟨.condition, "$item->encore()->toBool()"⟩])] ∧
      (Validation.report Validation.sampleSchema).valid = true ∧
      Validation.sampleGig ∈ Validation.sampleSchema.entities ∧
      ∀ listing ∈ listings Validation.sampleGig, ∀ f ∈ listing.fields,
        IsMethodName (Naming.key f.name) := by
  have hvalid : (Validation.report Validation.sampleSchema).valid = true := by decide +kernel
  have hmem : Validation.sampleGig ∈ Validation.sampleSchema.entities := List.mem_cons_self
  have hexpected : (listings Validation.sampleGig).map
      (fun listing => (listing.path, listing.guards)) =
        [("site/templates/live-gig.php",
            [⟨.condition, "$page->title()->isNotEmpty()"⟩,
              ⟨.condition, "$page->set_list()->isNotEmpty()"⟩]),
          ("site/snippets/live-gig/set_list.php",
            [⟨.condition, "$item->song()->isNotEmpty()"⟩,
              ⟨.condition, "$item->encore()->toBool()"⟩])] := by
    decide +kernel
  obtain ⟨hfiles, hnames⟩ := files_well_nested Validation.sampleGig
  refine ⟨?_, hvalid, hmem, hnames Validation.sampleSchema hvalid hmem⟩
  rw [← hexpected, List.forall₂_map_right_iff]
  exact hfiles.imp fun file listing h => ⟨h.1, (h.2 listing.guards).2 rfl⟩

end Portfolio.Template
