/-
Module: Portfolio.Proofs.Template.Call
Purpose: The snippets that the templates of an entity call: each structure's snippet once,
  where the structure is listed, and besides only snippets that every site has.
Main exports: Template.fieldCalls, Template.structureCalls, Template.perm_structureCalls
-/
import Portfolio.Proofs.Template.Markup

namespace Portfolio.Template

open Portfolio.Field (structuresIn)

/-! ### Fields -/

/-- The snippets that the fragment of a field calls: that of a structure that is shown, and
cards for the pages of a relation. -/
def fieldCalls (scope : Scope) (f : FieldSpec) : List String :=
  match f.kind with
  | .structured =>
      if scope.enclosing < maxStructureDepth then [(scope.inside f).path] else []
  | .relation | .relations => ["card"]
  | _ => []

theorem called_display (scope : Scope) (f : FieldSpec) :
    (islandsOfAll (display scope f).content).filterMap Island.called? = fieldCalls scope f := by
  unfold display fieldCalls
  cases f.kind with
  | structured =>
      dsimp only
      by_cases hshown : scope.enclosing < maxStructureDepth
      · rw [if_pos hshown, if_pos hshown]
        rfl
      · rw [if_neg hshown, if_neg hshown]
        rfl
  | _ => rfl

theorem called_fragments (scope : Scope) (fields : List Field) :
    (islandsOfAll (fragments scope fields)).filterMap Island.called? =
      fields.flatMap fun f => fieldCalls scope f.toFieldSpec := by
  rw [islandsOfAll_fragments, List.filterMap_flatMap]
  apply List.flatMap_congr
  intro f _
  rw [islandsOfAll_fragment, List.filterMap_cons_none rfl, List.filterMap_append, called_display]
  exact List.append_nil _

/-! ### Files -/

theorem calls_pageFile (entity : Entity) :
    calls (pageFile entity) = "header" :: "page-header" ::
      ((entity.fields.flatMap fun f => fieldCalls (pageScope entity) f.toFieldSpec) ++
        ["footer"]) := by
  rw [pageFile, calls_ofText (cleanAll_pageMarkup entity), islandsOfAll_pageMarkup]
  simp [called_fragments, Island.called?]

theorem calls_nodeFile (entity : Entity) (n : Node) :
    calls (nodeFile entity n) =
      n.field.nested.flatMap fun f => fieldCalls (nodeScope entity n) f.toFieldSpec := by
  rw [nodeFile, calls_ofText (cleanAll_rowMarkup (clean_nodeScope entity n) n.field),
    islandsOfAll_rowMarkup, called_fragments]

/-! ### Structures -/

/-- The path of the file that lists a structure: the template of the entity, or the snippet of
the structure around it. -/
def holderPath (entity : Entity) (n : Node) : String :=
  match n.enclosing with
  | [] => templatePath (Naming.template entity.id)
  | specs => snippetPath (String.intercalate "/"
      (Naming.template entity.id :: specs.map fun spec => Naming.key spec.name))

/-- A name made of a template and keys. Snippets of the site have no such name. -/
def isPathName (name : String) : Bool := name.toList.contains '/'

theorem isPathName_snippetName (entity : Entity) (n : Node) :
    isPathName (snippetName entity n) = true := by
  have hkeys : n.keys ≠ [] := by simp [Node.keys, Node.path]
  have hslash : "/".toList = ['/'] := rfl
  rw [isPathName, snippetName, String.intercalate_cons_of_ne_nil hkeys]
  simp [hslash]

theorem path_inside (entity : Entity) (enclosing : List FieldSpec) (f : Field) :
    ((scopeAt entity enclosing).inside f.toFieldSpec).path =
      snippetName entity ⟨enclosing, f⟩ := by
  rw [← scopeAt_append]
  exact congrArg Scope.path (scopeAt_path entity ⟨enclosing, f⟩)

/-- Of a field in structures only the snippet of a structure that is shown has such a name. -/
theorem filter_fieldCalls (entity : Entity) (enclosing : List FieldSpec) (f : Field) :
    (fieldCalls (scopeAt entity enclosing) f.toFieldSpec).filter isPathName =
      ((structuresIn enclosing [f]).filter Node.shown).map (snippetName entity) := by
  by_cases hkind : f.kind = .structured
  · have hself : structuresIn enclosing [f] = [⟨enclosing, f⟩] := by
      simp [structuresIn, hkind]
    have hpath : isPathName (snippetName entity ⟨enclosing, f⟩) = true :=
      isPathName_snippetName entity ⟨enclosing, f⟩
    rw [hself, fieldCalls, hkind]
    dsimp only
    rw [enclosing_scopeAt, path_inside]
    by_cases hlt : enclosing.length < maxStructureDepth
    · have hshown := (Node.shown_iff enclosing f).2 hlt
      simp [hlt, hpath, hshown]
    · have hhidden := (Node.shown_iff enclosing f).not.2 hlt
      simp [hlt, hhidden]
  · have hnone : structuresIn enclosing [f] = [] := by
      simp [structuresIn, hkind]
    have hcard : ["card"].filter isPathName = [] := by decide
    rw [hnone, fieldCalls]
    cases hother : f.kind with
    | structured => exact absurd hother hkind
    | relation | relations => exact hcard
    | _ => rfl

/-- The calls of structures in a list of fields. -/
theorem filter_calls (entity : Entity) (enclosing : List FieldSpec) (fields : List Field) :
    (fields.flatMap fun f =>
        fieldCalls (scopeAt entity enclosing) f.toFieldSpec).filter isPathName =
      ((structuresIn enclosing fields).filter Node.shown).map (snippetName entity) := by
  induction fields with
  | nil => rfl
  | cons f fs ih =>
      rw [Field.structuresIn_cons, List.flatMap_cons, List.filter_append, List.filter_append,
        List.map_append, filter_fieldCalls, ih]

/-! ### Calls by file -/

/-- The calls in files, each with the path of its file. -/
def callsByFile (files : List File) : List (String × String) :=
  files.flatMap fun file => (calls file).map fun name => (file.path, name)

/-- A structure as it should be called: from the file that lists it, by its name. -/
def nodeCall (entity : Entity) (n : Node) : String × String :=
  (holderPath entity n, snippetName entity n)

/-- Of the calls in a file those of structures. -/
def structureCalls (files : List File) : List (String × String) :=
  (callsByFile files).filter fun call => isPathName call.2

/-- The calls of structures in one file. -/
theorem structureCalls_singleton (file : File) :
    structureCalls [file] = ((calls file).filter isPathName).map fun name => (file.path, name) := by
  rw [structureCalls, callsByFile, List.flatMap_singleton, List.filter_map]
  rfl

theorem structureCalls_append (files more : List File) :
    structureCalls (files ++ more) = structureCalls files ++ structureCalls more := by
  rw [structureCalls, callsByFile, List.flatMap_append, List.filter_append]
  rfl

theorem structureCalls_flatMap {α : Type} (xs : List α) (files : α → List File) :
    structureCalls (xs.flatMap files) = xs.flatMap fun x => structureCalls (files x) := by
  rw [structureCalls, callsByFile, List.flatMap_assoc, List.filter_flatMap]
  rfl

theorem structureCalls_eq_flatMap (files : List File) :
    structureCalls files = files.flatMap fun file => structureCalls [file] := by
  rw [structureCalls, callsByFile, List.filter_flatMap]
  apply List.flatMap_congr
  intro file _
  rw [structureCalls, callsByFile, List.flatMap_singleton]

theorem path_nodeFile (entity : Entity) (n : Node) :
    (nodeFile entity n).path = snippetPath (snippetName entity n) := by
  rw [nodeFile_eq]
  rfl

/-- The structures in the rows of a structure are listed in its snippet. -/
theorem holderPath_inside (entity : Entity) (n : Node) (f : Field) :
    holderPath entity ⟨n.path, f⟩ = (nodeFile entity n).path := by
  have hpath : n.path ≠ [] := by simp [Node.path]
  rw [path_nodeFile, holderPath]
  cases hspecs : n.path with
  | nil => exact absurd hspecs hpath
  | cons spec specs => rw [snippetName, Node.keys, hspecs]

/-- The page template calls the structures among the fields of the entity. -/
theorem structureCalls_pageFile (entity : Entity) :
    structureCalls [pageFile entity] =
      ((structuresIn [] entity.fields).filter Node.shown).map (nodeCall entity) := by
  have hfooter : ["footer"].filter isPathName = [] := by decide
  have hcalls : (calls (pageFile entity)).filter isPathName =
      ((structuresIn [] entity.fields).filter Node.shown).map (snippetName entity) := by
    rw [calls_pageFile, List.filter_cons_of_neg (by decide), List.filter_cons_of_neg (by decide),
      List.filter_append, hfooter, List.append_nil]
    exact filter_calls entity [] entity.fields
  rw [structureCalls_singleton, hcalls, List.map_map]
  apply List.map_congr_left
  intro n hn
  obtain ⟨f, -, rfl⟩ := List.mem_map.1 (List.mem_filter.1 hn).1
  rfl

/-- The snippet of a structure calls those in its rows. -/
theorem structureCalls_nodeFile (entity : Entity) (n : Node) :
    structureCalls [nodeFile entity n] = n.shownChildren.map (nodeCall entity) := by
  have hcalls : (calls (nodeFile entity n)).filter isPathName =
      n.shownChildren.map (snippetName entity) := by
    rw [calls_nodeFile, ← scopeAt_path]
    exact filter_calls entity n.path n.field.nested
  rw [structureCalls_singleton, hcalls, List.map_map]
  apply List.map_congr_left
  intro c hc
  obtain ⟨f, -, rfl⟩ := List.mem_map.1 (List.mem_filter.1 hc).1
  rw [Function.comp_apply, nodeCall, holderPath_inside]

/-- The files of an entity call each of its structures that is shown, once and where it is
listed. -/
theorem perm_structureCalls (entity : Entity) :
    (structureCalls (entityFiles entity)).Perm (entity.shownNodes.map (nodeCall entity)) := by
  have hcalls : structureCalls (entityFiles entity) =
      ((structuresIn [] entity.fields).filter Node.shown ++
        entity.shownNodes.flatMap Node.shownChildren).map (nodeCall entity) := by
    rw [structureCalls_eq_flatMap, entityFiles_eq, List.flatMap_cons, List.flatMap_map,
      structureCalls_pageFile, List.map_append, List.map_flatMap]
    simp only [structureCalls_nodeFile]
  rw [hcalls]
  exact entity.perm_shownNodes.symm.map _

/-! ### Calls of other snippets -/

/-- The snippets of every site that its templates call. -/
def siteSnippets : List String := ["header", "footer", "page-header", "card"]

theorem mem_siteSnippets_of_mem_fieldCalls {entity : Entity} {enclosing : List FieldSpec}
    {f : Field} {name : String} (h : name ∈ fieldCalls (scopeAt entity enclosing) f.toFieldSpec)
    (hname : isPathName name = false) : name ∈ siteSnippets := by
  have hcard : name ∈ ["card"] → name ∈ siteSnippets := by
    intro hmem
    rw [List.mem_singleton.1 hmem]
    decide
  rw [fieldCalls, path_inside] at h
  cases hkind : f.kind with
  | structured =>
      simp only [hkind] at h
      split at h
      · rw [List.mem_singleton.1 h, isPathName_snippetName] at hname
        contradiction
      · simp at h
  | relation | relations =>
      simp only [hkind] at h
      exact hcard h
  | _ => simp [hkind] at h

theorem mem_siteSnippets_of_mem_flatMap {entity : Entity} {enclosing : List FieldSpec}
    {fields : List Field} {name : String}
    (h : name ∈ fields.flatMap fun f => fieldCalls (scopeAt entity enclosing) f.toFieldSpec)
    (hname : isPathName name = false) : name ∈ siteSnippets := by
  obtain ⟨f, -, hf⟩ := List.mem_flatMap.1 h
  exact mem_siteSnippets_of_mem_fieldCalls hf hname

/-- An entity's files call no other snippets than those of structures and of every site. -/
theorem mem_siteSnippets_of_mem_calls {entity : Entity} {file : File}
    (hfile : file ∈ entityFiles entity) {name : String} (h : name ∈ calls file)
    (hname : isPathName name = false) : name ∈ siteSnippets := by
  rw [entityFiles_eq, List.mem_cons] at hfile
  rcases hfile with rfl | hfile
  · rw [calls_pageFile, List.mem_cons, List.mem_cons, List.mem_append, List.mem_singleton] at h
    rcases h with rfl | rfl | h | rfl
    · decide
    · decide
    · exact @mem_siteSnippets_of_mem_flatMap entity [] _ _ h hname
    · decide
  · obtain ⟨n, -, rfl⟩ := List.mem_map.1 hfile
    rw [calls_nodeFile, ← scopeAt_path] at h
    exact mem_siteSnippets_of_mem_flatMap h hname

end Portfolio.Template
