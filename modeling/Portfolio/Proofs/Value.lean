/-
Module: Portfolio.Proofs.Value
Purpose: When no map of a value holds a key twice, said entry by entry, and decided.
Main exports: Value.distinctKeys_map_iff, Value.distinctKeys_mapOf_iff,
  Value.distinctKeys_list_iff, Value.decideDistinctKeys
-/
import Mathlib.Data.List.Nodup
import Portfolio.Value

namespace Portfolio.Value

/-! ### Part by part -/

theorem distinctKeysInItems_iff {items : List Value} :
    DistinctKeysInItems items ↔ ∀ v ∈ items, v.DistinctKeys := by
  induction items with
  | nil => simp [DistinctKeysInItems]
  | cons v vs ih => rw [DistinctKeysInItems, List.forall_mem_cons, ih]

theorem distinctKeysInEntries_iff {entries : List (String × Value)} :
    DistinctKeysInEntries entries ↔ ∀ e ∈ entries, e.2.DistinctKeys := by
  induction entries with
  | nil => simp [DistinctKeysInEntries]
  | cons e es ih => rw [DistinctKeysInEntries, List.forall_mem_cons, ih]

/-- A map is fine if its own keys differ and every value in it is fine. -/
theorem distinctKeys_map_iff {entries : List (String × Value)} :
    (Value.map entries).DistinctKeys ↔
      (entries.map (·.1)).Nodup ∧ ∀ e ∈ entries, e.2.DistinctKeys := by
  rw [DistinctKeys, distinctKeysInEntries_iff]

/-- The same for a map made of parts under their keys. -/
theorem distinctKeys_mapOf_iff {α : Type} {parts : List (String × α)} {toValue : α → Value} :
    (Value.map (parts.map fun part => (part.1, toValue part.2))).DistinctKeys ↔
      (parts.map (·.1)).Nodup ∧ ∀ part ∈ parts, (toValue part.2).DistinctKeys := by
  have hkeys : (parts.map fun part => (part.1, toValue part.2)).map (·.1) =
      parts.map (·.1) := by
    rw [List.map_map]
    rfl
  rw [distinctKeys_map_iff, hkeys, List.forall_mem_map]

theorem distinctKeys_list_iff {items : List Value} :
    (Value.list items).DistinctKeys ↔ ∀ v ∈ items, v.DistinctKeys := by
  rw [DistinctKeys, distinctKeysInItems_iff]

@[simp] theorem distinctKeys_text (s : String) : (Value.text s).DistinctKeys := by
  simp [DistinctKeys]

@[simp] theorem distinctKeys_bool (b : Bool) : (Value.bool b).DistinctKeys := by
  simp [DistinctKeys]

@[simp] theorem distinctKeys_number (n : Number) : (Value.number n).DistinctKeys := by
  simp [DistinctKeys]

/-! ### Decision -/

mutual

/-- Decides whether no map of a value holds a key twice. -/
def decideDistinctKeys : (v : Value) → Decidable v.DistinctKeys
  | .list items => decideDistinctKeysInItems items
  | .map entries =>
      let _ := decideDistinctKeysInEntries entries
      inferInstanceAs (Decidable ((entries.map (·.1)).Nodup ∧ DistinctKeysInEntries entries))
  | .null | .bool _ | .number _ | .text _ => isTrue trivial

/-- The same for the items of a list. -/
def decideDistinctKeysInItems : (items : List Value) → Decidable (DistinctKeysInItems items)
  | [] => isTrue trivial
  | v :: vs =>
      let _ := decideDistinctKeys v
      let _ := decideDistinctKeysInItems vs
      inferInstanceAs (Decidable (v.DistinctKeys ∧ DistinctKeysInItems vs))

/-- The same for the values of a map. -/
def decideDistinctKeysInEntries :
    (entries : List (String × Value)) → Decidable (DistinctKeysInEntries entries)
  | [] => isTrue trivial
  | (_, v) :: es =>
      let _ := decideDistinctKeys v
      let _ := decideDistinctKeysInEntries es
      inferInstanceAs (Decidable (v.DistinctKeys ∧ DistinctKeysInEntries es))

end

instance (v : Value) : Decidable v.DistinctKeys := decideDistinctKeys v

end Portfolio.Value
