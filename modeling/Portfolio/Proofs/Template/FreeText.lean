/-
Module: Portfolio.Proofs.Template.FreeText
Purpose: The code of an entity's templates depends on nothing but its id and the names,
  kinds and nesting of its fields: no other text of a schema gets into an island.
Main exports: Template.SameShapes, Template.islands_eq_of_sameShapes
-/
import Portfolio.Proofs.Template.Markup

namespace Portfolio.Template

mutual

/-- Fields of the same name and kind, and with the same shapes inside if they are structures. -/
inductive SameShape : Field → Field → Prop where
  | plain {f g : Field} (name : f.name = g.name) (kind : f.kind = g.kind)
      (plain : f.kind ≠ .structured) : SameShape f g
  | structured {f g : Field} (name : f.name = g.name) (kind : f.kind = g.kind)
      (nested : SameShapes f.nested g.nested) : SameShape f g

/-- Lists of fields that have the same shapes one by one. -/
inductive SameShapes : List Field → List Field → Prop where
  | nil : SameShapes [] []
  | cons {f g : Field} {fs gs : List Field} (head : SameShape f g) (tail : SameShapes fs gs) :
      SameShapes (f :: fs) (g :: gs)

end

theorem SameShape.name_eq {f g : Field} (h : SameShape f g) : f.name = g.name := by
  cases h with
  | plain name _ _ => exact name
  | structured name _ _ => exact name

theorem SameShape.kind_eq {f g : Field} (h : SameShape f g) : f.kind = g.kind := by
  cases h with
  | plain _ kind _ => exact kind
  | structured _ kind _ => exact kind

/-! ### Islands -/

theorem inside_congr (scope : Scope) {f g : FieldSpec} (hname : f.name = g.name) :
    scope.inside f = scope.inside g := by
  rw [Scope.inside, Scope.inside, hname]

/-- What a field shows depends on its name and its kind, apart from free text. -/
theorem display_congr (scope : Scope) {f g : FieldSpec} (hname : f.name = g.name)
    (hkind : f.kind = g.kind) :
    (display scope f).guard = (display scope g).guard ∧
      islandsOfAll (display scope f).content = islandsOfAll (display scope g).content := by
  have haccessor : scope.accessor f = scope.accessor g := by
    rw [Scope.accessor, Scope.accessor, hname]
  unfold display
  rw [haccessor, inside_congr scope hname, hkind]
  cases g.kind <;> exact ⟨rfl, rfl⟩

theorem islands_fragment_congr (scope : Scope) {f g : Field} (h : SameShape f g) :
    islandsOfAll (fragment scope f.toFieldSpec) = islandsOfAll (fragment scope g.toFieldSpec) := by
  obtain ⟨hguard, hcontent⟩ := display_congr scope h.name_eq h.kind_eq
  rw [islandsOfAll_fragment, islandsOfAll_fragment, hguard, hcontent]

theorem islands_fragments_congr (scope : Scope) : ∀ {fs gs : List Field}, SameShapes fs gs →
    islandsOfAll (fragments scope fs) = islandsOfAll (fragments scope gs)
  | _, _, .nil => rfl
  | _, _, .cons head tail => by
      have htail := islands_fragments_congr scope tail
      simp only [islandsOfAll_fragments] at htail
      rw [islandsOfAll_fragments, islandsOfAll_fragments, List.flatMap_cons, List.flatMap_cons,
        islands_fragment_congr scope head, htail]

/-! ### Snippets -/

/-- The name of a snippet and the islands in it. -/
def Snippet.code (s : Snippet) : String × List Island := (s.name, islandsOfAll s.markup)

mutual

/-- Fields of the same shape have snippets of the same names and islands. -/
theorem snippets_congr : ∀ (scope : Scope) {f g : Field}, SameShape f g →
    (snippets scope f).map Snippet.code = (snippets scope g).map Snippet.code
  | scope, ⟨spec, nested⟩, ⟨spec', nested'⟩, .plain _ kind plain => by
      have hf : ¬ (spec.kind = .structured ∧ scope.enclosing < maxStructureDepth) :=
        fun h => plain h.1
      have hg : ¬ (spec'.kind = .structured ∧ scope.enclosing < maxStructureDepth) :=
        fun h => plain (kind.trans h.1)
      rw [snippets, snippets, if_neg hf, if_neg hg]
  | scope, ⟨spec, nested⟩, ⟨spec', nested'⟩, .structured name kind inner => by
      have hinside : scope.inside spec = scope.inside spec' := inside_congr scope name
      have hkind : spec.kind = spec'.kind := kind
      have hinner := snippetsOfAll_congr (scope.inside spec') inner
      have hrow : islandsOfAll (rowMarkup (scope.inside spec') ⟨spec, nested⟩) =
          islandsOfAll (rowMarkup (scope.inside spec') ⟨spec', nested'⟩) := by
        rw [islandsOfAll_rowMarkup, islandsOfAll_rowMarkup]
        exact islands_fragments_congr _ inner
      rw [snippets, snippets, hinside, hkind]
      split
      · rw [List.map_cons, List.map_cons, hinner, Snippet.code, Snippet.code, hrow]
      · rfl

/-- The same for lists of fields. -/
theorem snippetsOfAll_congr : ∀ (scope : Scope) {fs gs : List Field}, SameShapes fs gs →
    (snippetsOfAll scope fs).map Snippet.code = (snippetsOfAll scope gs).map Snippet.code
  | _, _, _, .nil => rfl
  | scope, _, _, .cons head tail => by
      rw [snippetsOfAll, snippetsOfAll, List.map_append, List.map_append,
        snippets_congr scope head, snippetsOfAll_congr scope tail]

end

/-! ### Files -/

/-- The path of a file and its islands. -/
def fileCode (file : File) : String × List String := (file.path, islandsOfFile file)

theorem fileCode_pageFile (entity : Entity) :
    fileCode (pageFile entity) =
      (templatePath (Naming.template entity.id),
        (islandsOfAll (pageMarkup entity)).map Island.render) := by
  rw [fileCode, pageFile, islandsOfFile_ofText (cleanAll_pageMarkup entity)]
  rfl

/-- The codes of snippets give those of their files. -/
theorem fileCode_entitySnippets (entity : Entity) :
    ((entitySnippets entity).map Snippet.file).map fileCode =
      ((entitySnippets entity).map Snippet.code).map fun code =>
        (snippetPath code.1, code.2.map Island.render) := by
  rw [List.map_map, List.map_map]
  apply List.map_congr_left
  intro s hs
  rw [Function.comp_apply, Function.comp_apply, fileCode, Snippet.file,
    islandsOfFile_ofText (cleanAll_of_mem_entitySnippets hs)]
  rfl

/-- Entities of one id whose fields have the same shapes have the same files with the same
islands in the same order, whatever the rest of them says. -/
theorem islands_eq_of_sameShapes {a b : Entity} (hid : a.id = b.id)
    (hfields : SameShapes a.fields b.fields) :
    (entityFiles a).map (fun file => (file.path, islandsOfFile file)) =
      (entityFiles b).map (fun file => (file.path, islandsOfFile file)) := by
  have hscope : pageScope a = pageScope b := by rw [pageScope, pageScope, hid]
  have hpage : islandsOfAll (pageMarkup a) = islandsOfAll (pageMarkup b) := by
    rw [islandsOfAll_pageMarkup, islandsOfAll_pageMarkup, hscope,
      islands_fragments_congr (pageScope b) hfields]
  have hsnippets : (entitySnippets a).map Snippet.code = (entitySnippets b).map Snippet.code := by
    rw [entitySnippets, entitySnippets, hscope]
    exact snippetsOfAll_congr (pageScope b) hfields
  change (entityFiles a).map fileCode = (entityFiles b).map fileCode
  rw [entityFiles, entityFiles, List.map_cons, List.map_cons, fileCode_pageFile,
    fileCode_pageFile, fileCode_entitySnippets, fileCode_entitySnippets, hid, hpage, hsnippets]

/-- An entity with a flag in a structure. Its labels, its name and a help text are free. -/
def setEntity (text : String) : Entity :=
  let encore : Field := { Field.named "encore" .boolean [] with label := text }
  { id := "set", name := text
    fields := [{ Field.named "Songs" .structured [encore] with
      label := text, helpText := some text }] }

/-- A text that looks like an island adds none. -/
theorem islands_eq_setEntity :
    SameShapes (setEntity "<?php phpinfo() ?>").fields (setEntity "Set List").fields ∧
      (entityFiles (setEntity "<?php phpinfo() ?>")).map
          (fun file => (file.path, islandsOfFile file)) =
        (entityFiles (setEntity "Set List")).map
          (fun file => (file.path, islandsOfFile file)) := by
  have hencore : SameShapes
      [{ Field.named "encore" .boolean [] with label := "<?php phpinfo() ?>" }]
      [{ Field.named "encore" .boolean [] with label := "Set List" }] :=
    .cons (.plain rfl rfl (by decide)) .nil
  have hfields : SameShapes (setEntity "<?php phpinfo() ?>").fields (setEntity "Set List").fields :=
    .cons (.structured rfl rfl hencore) .nil
  exact ⟨hfields, islands_eq_of_sameShapes rfl hfields⟩

end Portfolio.Template
