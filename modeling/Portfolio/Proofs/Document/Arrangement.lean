/-
Module: Portfolio.Proofs.Document.Arrangement
Purpose: The order of a map's entries carries no meaning. Values may be rearranged on their way
  from a writer to a reader, as the normal form of values does.
Main exports: Value.sorted_sorted, Value.Rearranges, Value.rearranges_id,
  Value.rearranges_sorted
-/
import Portfolio.Proofs.SortedMap
import Portfolio.Value

namespace Portfolio.Value

/-! ### The normal form -/

theorem sortedItems_eq_map (items : List Value) : sortedItems items = items.map sorted := by
  induction items with
  | nil => rfl
  | cons v vs ih => rw [sortedItems, List.map_cons, ih]

theorem sortedEntries_eq_map (entries : List (String × Value)) :
    sortedEntries entries = entries.map fun e => (e.1, e.2.sorted) := by
  induction entries with
  | nil => rfl
  | cons e es ih => rw [sortedEntries, List.map_cons, ih]

theorem sortedEntries_eq_self {entries : List (String × Value)}
    (h : ∀ e ∈ entries, e.2.sorted = e.2) : sortedEntries entries = entries := by
  have hid : ∀ e ∈ entries, (e.1, e.2.sorted) = id e := fun e he => by rw [h e he, id_eq]
  rw [sortedEntries_eq_map, List.map_congr_left hid, List.map_id]

mutual

/-- The normal form of a normal form is itself. -/
theorem sorted_sorted : ∀ v : Value, v.sorted.sorted = v.sorted
  | .list items => by
      rw [sorted, sorted, sortedItems_sortedItems items]
  | .map entries => by
      have hvalues : ∀ e ∈ sortEntries (sortedEntries entries), e.2.sorted = e.2 :=
        fun e he => sorted_of_mem_sortedEntries entries e (mem_of_mem_sortEntries he)
      rw [sorted, sorted, sortedEntries_eq_self hvalues,
        sortEntries_eq_self (keysSorted_sortEntries _)]
  | .null | .bool _ | .number _ | .text _ => by simp only [sorted]

theorem sortedItems_sortedItems : ∀ items : List Value,
    sortedItems (sortedItems items) = sortedItems items
  | [] => rfl
  | v :: vs => by
      rw [sortedItems, sortedItems, sorted_sorted v, sortedItems_sortedItems vs]

theorem sorted_of_mem_sortedEntries : ∀ entries : List (String × Value),
    ∀ e ∈ sortedEntries entries, e.2.sorted = e.2
  | [] => fun _ he => absurd he List.not_mem_nil
  | (k, v) :: es => by
      intro e he
      rw [sortedEntries, List.mem_cons] at he
      rcases he with rfl | he
      · exact sorted_sorted v
      · exact sorted_of_mem_sortedEntries es e he

end

theorem isNull_sorted (v : Value) : v.sorted.isNull = v.isNull := by
  cases v with
  | null | bool _ | number _ | text _ | list _ | map _ => simp only [sorted, isNull]

/-! ### Rearrangements -/

/-- A function that moves the entries of maps, at any depth, and changes nothing else. -/
structure Rearranges (f : Value → Value) : Prop where
  null : f .null = .null
  bool : ∀ b, f (.bool b) = .bool b
  number : ∀ n, f (.number n) = .number n
  text : ∀ s, f (.text s) = .text s
  list : ∀ items, f (.list items) = .list (items.map f)
  map : ∀ entries, ∃ entries', f (.map entries) = .map entries' ∧
    ((entries.map (·.1)).Nodup → entries'.Perm (entries.map fun e => (e.1, f e.2)))
  sorted : ∀ v, (f v).sorted = v.sorted

theorem rearranges_id : Rearranges id where
  null := rfl
  bool _ := rfl
  number _ := rfl
  text _ := rfl
  list items := by rw [id_eq, List.map_id]
  map entries := ⟨entries, rfl, fun _ => by simp⟩
  sorted _ := rfl

theorem rearranges_sorted : Rearranges Value.sorted where
  null := by rw [Value.sorted]
  bool _ := by rw [Value.sorted]
  number _ := by rw [Value.sorted]
  text _ := by rw [Value.sorted]
  list items := by rw [Value.sorted, sortedItems_eq_map]
  map entries := by
    refine ⟨_, by rw [Value.sorted], ?_⟩
    intro hkeys
    rw [sortedEntries_eq_map]
    apply sortEntries_perm
    rw [List.map_map]
    exact hkeys
  sorted := sorted_sorted

/-! ### Depth -/

theorem depth_lt_of_mem_list {items : List Value} {v : Value} (h : v ∈ items) :
    v.depth < (Value.list items).depth := by
  rw [depth]
  induction items with
  | nil => exact absurd h List.not_mem_nil
  | cons w ws ih =>
      rw [depthOfItems]
      rcases List.mem_cons.1 h with rfl | h
      · omega
      · have hrest := ih h
        omega

theorem depth_lt_of_mem_map {entries : List (String × Value)} {e : String × Value}
    (h : e ∈ entries) : e.2.depth < (Value.map entries).depth := by
  rw [depth]
  induction entries with
  | nil => exact absurd h List.not_mem_nil
  | cons x xs ih =>
      rw [depthOfEntries]
      rcases List.mem_cons.1 h with rfl | h
      · omega
      · have hrest := ih h
        omega

namespace Rearranges

variable {f : Value → Value}

theorem isNull_eq (h : Rearranges f) (v : Value) : (f v).isNull = v.isNull := by
  rw [← isNull_sorted (f v), h.sorted, isNull_sorted]

/-- An item of a list is nested less deep than the list, also when rearranged. -/
theorem depth_item (h : Rearranges f) {items : List Value} {v : Value} (hv : v ∈ items) :
    (f v).depth < (f (.list items)).depth := by
  rw [h.list]
  exact depth_lt_of_mem_list (List.mem_map_of_mem hv)

/-- The same for the value of an entry, if no key of the map stands twice. -/
theorem depth_entry (h : Rearranges f) {entries : List (String × Value)}
    (hkeys : (entries.map (·.1)).Nodup) {e : String × Value} (he : e ∈ entries) :
    (f e.2).depth < (f (.map entries)).depth := by
  obtain ⟨entries', heq, hperm⟩ := h.map entries
  have hmem : (e.1, f e.2) ∈ entries' :=
    (hperm hkeys).mem_iff.2 (List.mem_map.2 ⟨e, he, rfl⟩)
  rw [heq]
  exact depth_lt_of_mem_map hmem

end Rearranges

end Portfolio.Value
