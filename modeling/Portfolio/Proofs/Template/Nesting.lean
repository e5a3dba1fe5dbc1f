/-
Module: Portfolio.Proofs.Template.Nesting
Purpose: The snippets of an entity: one for each structure down to the depth limit, named by
  the template and the keys that lead to it, in the order of the structures.
Main exports: Template.snippetName, Template.nodeSnippet, Template.entitySnippets_eq,
  Template.nodeFile, Template.entityFiles_eq
-/
import Portfolio.Proofs.Schema.Nesting
import Portfolio.Template.Page

namespace Portfolio.Template

open Portfolio.Field (nodesBelow nodesBelowAll nodesBelow_of_structured nodesBelow_of_plain)

/-! ### Scopes -/

/-- The name of a structure's snippet: the template and the keys that lead to it. -/
def snippetName (entity : Entity) (n : Node) : String :=
  String.intercalate "/" (Naming.template entity.id :: n.keys)

/-- The scope of the fields of a structure. -/
def nodeScope (entity : Entity) (n : Node) : Scope := ⟨"$item", snippetName entity n, n.level⟩

/-- The scope inside structures of an entity. -/
def scopeAt (entity : Entity) (enclosing : List FieldSpec) : Scope :=
  enclosing.foldl Scope.inside (pageScope entity)

theorem enclosing_foldl_inside (specs : List FieldSpec) (scope : Scope) :
    (specs.foldl Scope.inside scope).enclosing = scope.enclosing + specs.length := by
  induction specs generalizing scope with
  | nil => rfl
  | cons spec specs ih =>
      have hinside : (scope.inside spec).enclosing = scope.enclosing + 1 := rfl
      rw [List.foldl_cons, ih, hinside, List.length_cons]
      omega

theorem path_foldl_inside (specs : List FieldSpec) (scope : Scope) :
    (specs.foldl Scope.inside scope).path =
      String.intercalate "/" (scope.path :: specs.map fun spec => Naming.key spec.name) := by
  induction specs generalizing scope with
  | nil => rw [List.foldl_nil, List.map_nil, String.intercalate_singleton]
  | cons spec specs ih =>
      rw [List.foldl_cons, ih, Scope.inside, List.map_cons, String.intercalate_cons_cons,
        String.intercalate_cons_append]

theorem enclosing_scopeAt (entity : Entity) (enclosing : List FieldSpec) :
    (scopeAt entity enclosing).enclosing = enclosing.length := by
  rw [scopeAt, enclosing_foldl_inside, pageScope, Nat.zero_add]

theorem scopeAt_append (entity : Entity) (enclosing : List FieldSpec) (spec : FieldSpec) :
    scopeAt entity (enclosing ++ [spec]) = (scopeAt entity enclosing).inside spec := by
  rw [scopeAt, List.foldl_append, List.foldl_cons, List.foldl_nil]
  rfl

/-- Inside the structures that lead to a structure is the scope of its fields. -/
theorem scopeAt_path (entity : Entity) (n : Node) :
    scopeAt entity n.path = nodeScope entity n := by
  have henclosing : (scopeAt entity n.path).enclosing = n.level := by
    rw [enclosing_scopeAt, n.length_path]
  have hpath : (scopeAt entity n.path).path = snippetName entity n := by
    rw [scopeAt, path_foldl_inside]
    rfl
  have hsubject : (scopeAt entity n.path).subject = "$item" := by
    rw [Node.path, scopeAt_append, Scope.inside]
  rw [nodeScope, ← henclosing, ← hpath, ← hsubject]

/-! ### Snippets -/

/-- The snippet of a structure. -/
def nodeSnippet (entity : Entity) (n : Node) : Snippet :=
  ⟨snippetName entity n, rowMarkup (nodeScope entity n) n.field⟩

mutual

/-- The snippets of a field inside structures. -/
theorem snippets_eq (entity : Entity) : ∀ (enclosing : List FieldSpec) (f : Field),
    snippets (scopeAt entity enclosing) f =
      ((nodesBelow enclosing f).filter Node.shown).map (nodeSnippet entity)
  | enclosing, ⟨spec, nested⟩ => by
      have hinner : (scopeAt entity enclosing).inside spec =
          nodeScope entity ⟨enclosing, ⟨spec, nested⟩⟩ := by
        rw [← scopeAt_append]
        exact scopeAt_path entity ⟨enclosing, ⟨spec, nested⟩⟩
      rw [snippets, enclosing_scopeAt]
      by_cases hkind : spec.kind = .structured
      · rw [nodesBelow_of_structured hkind]
        by_cases hlt : enclosing.length < maxStructureDepth
        · rw [if_pos ⟨hkind, hlt⟩, List.filter_cons_of_pos ((Node.shown_iff _ _).2 hlt),
            List.map_cons, ← snippetsOfAll_eq entity (enclosing ++ [spec]) nested, scopeAt_append, hinner]
          rfl
        · have hnotShown : ¬ (⟨enclosing, ⟨spec, nested⟩⟩ : Node).shown = true := by
            rwa [Node.shown_iff]
          -- What is below a structure that is not shown is not shown either.
          have hbelow : (nodesBelowAll (enclosing ++ [spec]) nested).filter Node.shown = [] :=
            Field.filter_nodesBelowAll_eq_nil (Nat.not_lt.1 hlt) fun _ => Node.level_le_of_shown
          rw [if_neg fun h => hlt h.2, List.filter_cons_of_neg hnotShown, hbelow, List.map_nil]
      · rw [if_neg fun h => hkind h.1, nodesBelow_of_plain hkind]
        rfl

/-- The same for a list of fields. -/
theorem snippetsOfAll_eq (entity : Entity) :
    ∀ (enclosing : List FieldSpec) (fields : List Field),
      snippetsOfAll (scopeAt entity enclosing) fields =
        ((nodesBelowAll enclosing fields).filter Node.shown).map (nodeSnippet entity)
  | enclosing, [] => by
      rw [snippetsOfAll, nodesBelowAll]
      rfl
  | enclosing, f :: fs => by
      rw [snippetsOfAll, nodesBelowAll, List.filter_append, List.map_append,
        snippets_eq entity enclosing f, snippetsOfAll_eq entity enclosing fs]

end

/-- An entity has one snippet for each structure down to the depth limit. -/
theorem entitySnippets_eq (entity : Entity) :
    entitySnippets entity = entity.shownNodes.map (nodeSnippet entity) := by
  rw [Entity.shownNodes, Entity.nodes_eq]
  exact snippetsOfAll_eq entity [] entity.fields

/-- The file of a structure's snippet. -/
def nodeFile (entity : Entity) (n : Node) : File :=
  .ofText ("site/snippets/" ++ snippetName entity n ++ ".php")
    (renderAll (rowMarkup (nodeScope entity n) n.field))

theorem nodeFile_eq (entity : Entity) (n : Node) :
    nodeFile entity n = (nodeSnippet entity n).file := by
  have hfolder : "site/snippets/" = snippetFolder ++ "/" := rfl
  rw [nodeFile, hfolder]
  rfl

/-- The files of an entity are its template and those of its structures. -/
theorem entityFiles_eq (entity : Entity) :
    entityFiles entity = pageFile entity :: entity.shownNodes.map (nodeFile entity) := by
  rw [entityFiles, entitySnippets_eq, List.map_map, List.cons.injEq]
  refine ⟨rfl, List.map_congr_left ?_⟩
  intro n _
  exact (nodeFile_eq entity n).symm

end Portfolio.Template
