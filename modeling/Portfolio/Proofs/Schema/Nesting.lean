/-
Module: Portfolio.Proofs.Schema.Nesting
Purpose: The structures in a field, each with the structures around it. All passes over
  nested fields are described by this one list.
Main exports: Node, Field.nodes, Entity.nodes, Field.lt_structureDepth_iff,
  Entity.perm_shownNodes
-/
import Mathlib.Data.List.Basic
import Portfolio.Naming
import Portfolio.Schema.Basic

namespace Portfolio

/-- A field, in most lists a structure, and the structures around it from the outermost to the
innermost. -/
structure Node where
  enclosing : List FieldSpec
  field : Field
  deriving Inhabited

namespace Node

/-- How many structures lead to a structure, itself included. -/
def level (n : Node) : Nat := n.enclosing.length + 1

/-- The structures that lead to a structure, itself included. -/
def path (n : Node) : List FieldSpec := n.enclosing ++ [n.field.toFieldSpec]

/-- The keys that lead to a structure. -/
def keys (n : Node) : List String := n.path.map fun spec => Naming.key spec.name

theorem length_path (n : Node) : n.path.length = n.level := by
  rw [path, List.length_append, List.length_singleton, level]

/-- The levels at which a structure keeps its fields. -/
def shown (n : Node) : Bool := decide (n.level ≤ maxStructureDepth)

/-- The first level at which a structure loses its fields. -/
def cut (n : Node) : Bool := decide (n.level = maxStructureDepth + 1)

theorem shown_iff (enclosing : List FieldSpec) (f : Field) :
    (Node.mk enclosing f).shown = true ↔ enclosing.length < maxStructureDepth :=
  decide_eq_true_iff

theorem cut_iff (enclosing : List FieldSpec) (f : Field) :
    (Node.mk enclosing f).cut = true ↔ enclosing.length = maxStructureDepth := by
  rw [cut, decide_eq_true_iff, level, Nat.add_right_cancel_iff]

theorem level_le_of_shown {n : Node} (h : n.shown = true) : n.level ≤ maxStructureDepth + 1 :=
  Nat.le_succ_of_le (decide_eq_true_iff.1 h)

theorem level_le_of_cut {n : Node} (h : n.cut = true) : n.level ≤ maxStructureDepth + 1 :=
  Nat.le_of_eq (decide_eq_true_iff.1 h)

end Node

namespace Field

mutual

/-- The structures in a field inside other structures, outer ones first. Only structures
lead to structures: lists nested in fields of other kinds mean nothing. -/
def nodesBelow (enclosing : List FieldSpec) : Field → List Node
  | ⟨spec, nested⟩ =>
      if spec.kind = .structured then
        ⟨enclosing, ⟨spec, nested⟩⟩ :: nodesBelowAll (enclosing ++ [spec]) nested
      else []

/-- The structures in the fields of a list, field by field. -/
def nodesBelowAll (enclosing : List FieldSpec) : List Field → List Node
  | [] => []
  | f :: fs => nodesBelow enclosing f ++ nodesBelowAll enclosing fs

end

/-- The structures in a field. -/
def nodes (f : Field) : List Node := nodesBelow [] f

theorem nodesBelow_of_structured {enclosing : List FieldSpec} {spec : FieldSpec}
    {nested : List Field} (h : spec.kind = .structured) :
    nodesBelow enclosing ⟨spec, nested⟩ =
      ⟨enclosing, ⟨spec, nested⟩⟩ :: nodesBelowAll (enclosing ++ [spec]) nested := by
  rw [nodesBelow, if_pos h]

theorem nodesBelow_of_plain {enclosing : List FieldSpec} {spec : FieldSpec}
    {nested : List Field} (h : ¬ spec.kind = .structured) :
    nodesBelow enclosing ⟨spec, nested⟩ = [] := by
  rw [nodesBelow, if_neg h]

theorem nodesBelowAll_eq_flatMap (enclosing : List FieldSpec) (fields : List Field) :
    nodesBelowAll enclosing fields = fields.flatMap (nodesBelow enclosing) := by
  induction fields with
  | nil => rw [nodesBelowAll, List.flatMap_nil]
  | cons f fs ih => rw [nodesBelowAll, List.flatMap_cons, ih]

/-! ### Levels -/

mutual

/-- A structure lies deeper than all structures around it. -/
theorem length_lt_level : ∀ (enclosing : List FieldSpec) (f : Field),
    ∀ n ∈ nodesBelow enclosing f, enclosing.length < n.level
  | enclosing, ⟨spec, nested⟩ => by
      intro n hn
      by_cases hkind : spec.kind = .structured
      · rw [nodesBelow_of_structured hkind, List.mem_cons] at hn
        rcases hn with rfl | hn
        · exact Nat.lt_succ_self _
        · have hlt := length_lt_levelAll (enclosing ++ [spec]) nested n hn
          rw [List.length_append, List.length_singleton] at hlt
          exact Nat.lt_of_succ_lt hlt
      · simp [nodesBelow_of_plain hkind] at hn

/-- The same for the structures in a list. -/
theorem length_lt_levelAll : ∀ (enclosing : List FieldSpec) (fields : List Field),
    ∀ n ∈ nodesBelowAll enclosing fields, enclosing.length < n.level
  | _, [] => by
      intro n hn
      simp [nodesBelowAll] at hn
  | enclosing, f :: fs => by
      intro n hn
      rw [nodesBelowAll, List.mem_append] at hn
      rcases hn with hn | hn
      · exact length_lt_level enclosing f n hn
      · exact length_lt_levelAll enclosing fs n hn

end

/-- In the rows of a structure below the depth limit no structure is shown or cut. -/
theorem filter_nodesBelowAll_eq_nil {enclosing : List FieldSpec} {spec : FieldSpec}
    {fields : List Field} {wanted : Node → Bool}
    (hdeep : maxStructureDepth ≤ enclosing.length)
    (hwanted : ∀ n : Node, wanted n = true → n.level ≤ maxStructureDepth + 1) :
    (nodesBelowAll (enclosing ++ [spec]) fields).filter wanted = [] := by
  rw [List.filter_eq_nil_iff]
  intro n hn hwantedn
  have hlevel := length_lt_levelAll (enclosing ++ [spec]) fields n hn
  have hle := hwanted n hwantedn
  rw [List.length_append, List.length_singleton] at hlevel
  omega

/-! ### Depth -/

mutual

/-- A field nests deeper than `k` levels if it has a structure one level further down. -/
theorem lt_structureDepth_iff_below : ∀ (enclosing : List FieldSpec) (k : Nat) (f : Field),
    k < f.structureDepth ↔
      ∃ n ∈ nodesBelow enclosing f, n.level = enclosing.length + k + 1
  | enclosing, k, ⟨spec, nested⟩ => by
      rw [structureDepth]
      by_cases hkind : spec.kind = .structured
      · rw [if_pos hkind, nodesBelow_of_structured hkind]
        simp only [List.mem_cons, exists_eq_or_imp]
        cases k with
        | zero =>
            have hfirst : (⟨enclosing, ⟨spec, nested⟩⟩ : Node).level = enclosing.length + 0 + 1 :=
              rfl
            exact iff_of_true (by omega) (Or.inl hfirst)
        | succ k =>
            have hnested := lt_maxStructureDepthOf_iff_below (enclosing ++ [spec]) k nested
            have hfirst : ¬ (⟨enclosing, ⟨spec, nested⟩⟩ : Node).level =
                enclosing.length + (k + 1) + 1 := by
              simp only [Node.level]
              omega
            have hlength : (enclosing ++ [spec]).length + k + 1 =
                enclosing.length + (k + 1) + 1 := by
              rw [List.length_append, List.length_singleton]
              omega
            rw [hlength] at hnested
            rw [or_iff_right hfirst, ← hnested, Nat.add_comm 1, Nat.succ_lt_succ_iff]
      · rw [if_neg hkind, nodesBelow_of_plain hkind]
        simp

/-- The same for a list of fields. -/
theorem lt_maxStructureDepthOf_iff_below :
    ∀ (enclosing : List FieldSpec) (k : Nat) (fields : List Field),
      k < maxStructureDepthOf fields ↔
        ∃ n ∈ nodesBelowAll enclosing fields, n.level = enclosing.length + k + 1
  | _, _, [] => by simp [maxStructureDepthOf, nodesBelowAll]
  | enclosing, k, f :: fs => by
      have hmax : k < max f.structureDepth (maxStructureDepthOf fs) ↔
          k < f.structureDepth ∨ k < maxStructureDepthOf fs := by omega
      rw [maxStructureDepthOf, nodesBelowAll, hmax, lt_structureDepth_iff_below enclosing k f,
        lt_maxStructureDepthOf_iff_below enclosing k fs]
      simp only [List.mem_append, or_and_right, exists_or]

end

theorem lt_structureDepth_iff (f : Field) (k : Nat) :
    k < f.structureDepth ↔ ∃ n ∈ f.nodes, n.level = k + 1 := by
  have h := lt_structureDepth_iff_below [] k f
  rwa [List.length_nil, Nat.zero_add] at h

end Field

/-! ### Lists of structures -/

namespace Field

/-- The structures among the fields of a list inside other structures. -/
def structuresIn (enclosing : List FieldSpec) (fields : List Field) : List Node :=
  (fields.filter fun f => f.kind = .structured).map (Node.mk enclosing)

end Field

/-- The structures in the rows of a structure. -/
def Node.children (n : Node) : List Node := Field.structuresIn n.path n.field.nested

namespace Field

theorem structuresIn_cons (enclosing : List FieldSpec) (f : Field) (fs : List Field) :
    structuresIn enclosing (f :: fs) =
      structuresIn enclosing [f] ++ structuresIn enclosing fs := by
  rw [structuresIn, ← List.singleton_append, List.filter_append, List.map_append]
  rfl

mutual

/-- The structures in a field are the field itself, if it is one, and those in the rows of
each of them. -/
theorem perm_nodesBelow : ∀ (enclosing : List FieldSpec) (f : Field),
    (nodesBelow enclosing f).Perm
      (structuresIn enclosing [f] ++ (nodesBelow enclosing f).flatMap Node.children)
  | enclosing, ⟨spec, nested⟩ => by
      by_cases hkind : spec.kind = .structured
      · have hself : structuresIn enclosing [⟨spec, nested⟩] = [⟨enclosing, ⟨spec, nested⟩⟩] := by
          simp [structuresIn, hkind]
        rw [hself, nodesBelow_of_structured hkind, List.flatMap_cons, List.singleton_append]
        exact (perm_nodesBelowAll (enclosing ++ [spec]) nested).cons _
      · have hself : structuresIn enclosing [⟨spec, nested⟩] = [] := by
          simp [structuresIn, hkind]
        rw [hself, nodesBelow_of_plain hkind]
        exact .refl _

/-- The same for a list of fields. -/
theorem perm_nodesBelowAll : ∀ (enclosing : List FieldSpec) (fields : List Field),
    (nodesBelowAll enclosing fields).Perm
      (structuresIn enclosing fields ++ (nodesBelowAll enclosing fields).flatMap Node.children)
  | enclosing, [] => by
      rw [nodesBelowAll]
      exact .refl _
  | enclosing, f :: fs => by
      rw [nodesBelowAll, structuresIn_cons, List.flatMap_append, List.append_assoc]
      refine ((perm_nodesBelow enclosing f).append (perm_nodesBelowAll enclosing fs)).trans ?_
      rw [List.append_assoc]
      exact (List.perm_append_comm_assoc _ _ _).append_left _

end

end Field

/-- Members that contribute nothing can be left out. -/
theorem flatMap_eq_flatMap_filter {α β : Type} {xs : List α} {wanted : α → Bool}
    {part : α → List β} (h : ∀ x ∈ xs, wanted x = false → part x = []) :
    xs.flatMap part = (xs.filter wanted).flatMap part := by
  induction xs with
  | nil => rfl
  | cons x xs ih =>
      rw [List.forall_mem_cons] at h
      cases hx : wanted x with
      | true => rw [List.filter_cons_of_pos hx, List.flatMap_cons, List.flatMap_cons, ih h.2]
      | false =>
          rw [List.filter_cons_of_neg (by simp [hx]), List.flatMap_cons, h.1 hx, ih h.2,
            List.nil_append]

/-- The structures in the fields of an entity. -/
def Entity.nodes (entity : Entity) : List Node := entity.fields.flatMap Field.nodes

theorem Entity.nodes_eq (entity : Entity) :
    entity.nodes = Field.nodesBelowAll [] entity.fields := by
  rw [Field.nodesBelowAll_eq_flatMap]
  rfl

/-- The structures of an entity that are shown. -/
def Entity.shownNodes (entity : Entity) : List Node := entity.nodes.filter Node.shown

/-- The structures in the rows of a structure that are shown. -/
def Node.shownChildren (n : Node) : List Node := n.children.filter Node.shown

/-- A structure that is not shown has none in its rows that is. -/
theorem Node.shownChildren_eq_nil {n : Node} (h : n.shown = false) : n.shownChildren = [] := by
  rw [Node.shownChildren, List.filter_eq_nil_iff]
  intro c hc
  obtain ⟨f, -, rfl⟩ := List.mem_map.1 hc
  rw [Node.shown, decide_eq_false_iff_not] at h
  rw [Node.shown, decide_eq_true_iff, Node.level, n.length_path]
  omega

/-- The shown structures of an entity are those among its fields and those in the rows of
each of them. -/
theorem Entity.perm_shownNodes (entity : Entity) :
    entity.shownNodes.Perm
      ((Field.structuresIn [] entity.fields).filter Node.shown ++
        entity.shownNodes.flatMap Node.shownChildren) := by
  have hinner : entity.nodes.flatMap (fun n => n.children.filter Node.shown) =
      entity.shownNodes.flatMap Node.shownChildren :=
    flatMap_eq_flatMap_filter fun _ _ => Node.shownChildren_eq_nil
  have hall := (Field.perm_nodesBelowAll [] entity.fields).filter Node.shown
  rw [List.filter_append, List.filter_flatMap, ← Entity.nodes_eq, hinner] at hall
  exact hall

end Portfolio
