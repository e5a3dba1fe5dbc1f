/-
Module: Portfolio.Proofs.SortedMap
Purpose: Reading sorted maps: what an insertion changes, when sorting changes nothing, or
  only the order, and that a map is known by what stands under its keys.
Main exports: SortedMap.get?_insert, SortedMap.ext_get?, sortEntries_eq_self,
  sortEntries_perm, sortEntries_eq_of_perm
-/
import Mathlib.Data.List.Nodup
import Portfolio.SortedMap

namespace Portfolio

/-! ### Insertion -/

theorem lookup_cons_eq_ite {α : Type} (key other : String) (value : α)
    (entries : List (String × α)) :
    ((key, value) :: entries).lookup other =
      if other = key then some value else entries.lookup other := by
  by_cases h : other = key
  · simp [h]
  · have hbeq : (other == key) = false := by simpa using h
    rw [List.lookup_cons, hbeq, if_neg h]

theorem lookup_insertSorted {α : Type} (key other : String) (value : α) :
    ∀ entries : List (String × α),
      (insertSorted key value entries).lookup other =
        if other = key then some value else entries.lookup other
  | [] => lookup_cons_eq_ite key other value []
  | (k, v) :: rest => by
      rw [insertSorted]
      split
      · exact lookup_cons_eq_ite key other value _
      · split
        · next heq =>
            rw [lookup_cons_eq_ite, lookup_cons_eq_ite, heq]
            split
            · rfl
            · rfl
        · next hne =>
            rw [lookup_cons_eq_ite, lookup_cons_eq_ite, lookup_insertSorted key other value rest]
            by_cases h : other = k
            · have hkey : ¬ other = key := fun hkey => hne (hkey.symm.trans h)
              rw [if_pos h, if_pos h, if_neg hkey]
            · rw [if_neg h, if_neg h]

theorem mem_keys_insertSorted {α : Type} {key other : String} {value : α} :
    ∀ {entries : List (String × α)},
      other ∈ (insertSorted key value entries).map (·.1) ↔
        other = key ∨ other ∈ entries.map (·.1)
  | [] => by simp [insertSorted]
  | (k, v) :: rest => by
      rw [insertSorted]
      split
      · simp
      · split
        · next heq => simp [heq]
        · rw [List.map_cons, List.mem_cons, mem_keys_insertSorted, List.map_cons, List.mem_cons,
            or_left_comm]

/-- An insertion sets its key, and leaves all others alone. -/
theorem SortedMap.get?_insert {α : Type} (m : SortedMap α) (key other : String) (value : α) :
    (m.insert key value).get? other = if other = key then some value else m.get? other :=
  lookup_insertSorted key other value m.entries

/-! ### Distinct keys -/

/-- A member of a list is the only one with its key, if the keys are distinct. -/
theorem filter_key_eq_singleton {α β : Type} [DecidableEq β] {key : α → β} {xs : List α}
    (h : (xs.map key).Nodup) {x : α} (hx : x ∈ xs) :
    xs.filter (fun y => key y = key x) = [x] := by
  induction xs with
  | nil => exact absurd hx List.not_mem_nil
  | cons z zs ih =>
      rw [List.map_cons, List.nodup_cons] at h
      rcases List.mem_cons.1 hx with rfl | hx
      · have hrest : zs.filter (fun y => key y = key x) = [] := by
          rw [List.filter_eq_nil_iff]
          intro y hy heq
          exact h.1 (List.mem_map.2 ⟨y, hy, of_decide_eq_true heq⟩)
        rw [List.filter_cons_of_pos (by simp), hrest]
      · have hne : key z ≠ key x := fun heq => h.1 (List.mem_map.2 ⟨x, hx, heq.symm⟩)
        rw [List.filter_cons_of_neg (by simpa using hne), ih h.2 hx]

/-! ### Sorting -/

/-- No key of sorted entries stands twice. -/
theorem KeysSorted.nodup {α : Type} {entries : List (String × α)} (h : KeysSorted entries) :
    (entries.map (·.1)).Nodup := by
  rw [List.Nodup, List.pairwise_map]
  exact h.imp String.ne_of_lt

/-- A key above all others is inserted at the end. -/
theorem insertSorted_of_forall_lt {α : Type} {key : String} (value : α) :
    ∀ {entries : List (String × α)}, (∀ e ∈ entries, e.1 < key) →
      insertSorted key value entries = entries ++ [(key, value)]
  | [], _ => rfl
  | (k, v) :: rest, h => by
      have hk : k < key := h (k, v) List.mem_cons_self
      have hne : ¬ key = k := by
        rintro rfl
        exact String.lt_irrefl _ hk
      rw [insertSorted, if_neg (String.lt_asymm hk), if_neg hne,
        insertSorted_of_forall_lt value fun e he => h e (List.mem_cons_of_mem _ he)]
      rfl

/-- Sorted entries stay as they are. -/
theorem sortEntries_eq_self {α : Type} {entries : List (String × α)}
    (h : KeysSorted entries) : sortEntries entries = entries := by
  suffices hfold : ∀ (es acc : List (String × α)), KeysSorted (acc ++ es) →
      es.foldl (fun sorted e => insertSorted e.1 e.2 sorted) acc = acc ++ es from
    hfold entries [] h
  intro es
  induction es with
  | nil => intro acc _; simp
  | cons e es ih =>
      intro acc hsorted
      have hlast : ∀ a ∈ acc, a.1 < e.1 :=
        fun a ha => (List.pairwise_append.1 hsorted).2.2 a ha e List.mem_cons_self
      rw [List.append_cons] at hsorted
      rw [List.foldl_cons, insertSorted_of_forall_lt e.2 hlast, ih (acc ++ [e]) hsorted,
        List.append_assoc, List.singleton_append]

/-- Sorting invents no entries. -/
theorem mem_of_mem_sortEntries {α : Type} {entries : List (String × α)} {e : String × α}
    (h : e ∈ sortEntries entries) : e ∈ entries := by
  suffices hfold : ∀ (es acc : List (String × α)),
      e ∈ es.foldl (fun sorted x => insertSorted x.1 x.2 sorted) acc → e ∈ acc ∨ e ∈ es from
    (hfold entries [] h).resolve_left List.not_mem_nil
  intro es
  induction es with
  | nil => exact fun _ hmem => .inl hmem
  | cons x es ih =>
      intro acc hmem
      rcases ih _ hmem with hmem | hmem
      · rcases mem_insertSorted hmem with rfl | hmem
        · exact .inr List.mem_cons_self
        · exact .inl hmem
      · exact .inr (List.mem_cons_of_mem _ hmem)

/-- Sorting loses no key. -/
theorem mem_keys_sortEntries {α : Type} {entries : List (String × α)} {key : String} :
    key ∈ (sortEntries entries).map (·.1) ↔ key ∈ entries.map (·.1) := by
  suffices hfold : ∀ (es acc : List (String × α)),
      key ∈ (es.foldl (fun sorted e => insertSorted e.1 e.2 sorted) acc).map (·.1) ↔
        key ∈ acc.map (·.1) ∨ key ∈ es.map (·.1) from
    (hfold entries []).trans (or_iff_right List.not_mem_nil)
  intro es
  induction es with
  | nil => simp
  | cons e es ih =>
      intro acc
      rw [List.foldl_cons, ih, mem_keys_insertSorted, List.map_cons, List.mem_cons,
        or_comm (a := key = e.1), or_assoc]

theorem insertSorted_perm {α : Type} {key : String} (value : α) :
    ∀ {entries : List (String × α)}, key ∉ entries.map (·.1) →
      (insertSorted key value entries).Perm ((key, value) :: entries)
  | [], _ => List.Perm.refl _
  | (k, v) :: rest, h => by
      rw [List.map_cons, List.mem_cons, not_or] at h
      rw [insertSorted]
      split
      · exact List.Perm.refl _
      · rw [if_neg h.1]
        exact ((insertSorted_perm value h.2).cons _).trans (List.Perm.swap _ _ _)

/-- Sorting entries of distinct keys only moves them. -/
theorem sortEntries_perm {α : Type} {entries : List (String × α)}
    (h : (entries.map (·.1)).Nodup) : (sortEntries entries).Perm entries := by
  suffices hfold : ∀ (es acc : List (String × α)), ((acc ++ es).map (·.1)).Nodup →
      (es.foldl (fun sorted e => insertSorted e.1 e.2 sorted) acc).Perm (acc ++ es) from
    hfold entries [] h
  intro es
  induction es with
  | nil => intro acc _; simp
  | cons e es ih =>
      intro acc hdistinct
      have hmoved : ((e :: acc) ++ es).Perm (acc ++ e :: es) := List.perm_middle.symm
      have hkeys : e.1 ∉ acc.map (·.1) := by
        have hnodup := (hmoved.map (·.1)).nodup_iff.2 hdistinct
        rw [List.cons_append, List.map_cons, List.nodup_cons, List.map_append] at hnodup
        exact fun hmem => hnodup.1 (List.mem_append_left _ hmem)
      have hinsert := (insertSorted_perm e.2 hkeys).append_right es
      refine (ih _ ?_).trans (hinsert.trans hmoved)
      exact ((hinsert.trans hmoved).map (·.1)).nodup_iff.2 hdistinct

/-- Sorted entries come back from any order. -/
theorem sortEntries_eq_of_perm {α : Type} {entries entries' : List (String × α)}
    (h : KeysSorted entries) (hperm : entries'.Perm entries) : sortEntries entries' = entries := by
  have hsort := sortEntries_perm ((hperm.map (·.1)).nodup_iff.2 h.nodup)
  apply (hsort.trans hperm).eq_of_pairwise _ (keysSorted_sortEntries entries') h
  intro a b _ _ hab hba
  exact absurd hba (String.lt_asymm hab)

/-! ### Maps by their keys -/

theorem lookup_eq_none_iff_keys {α : Type} {key : String} {entries : List (String × α)} :
    entries.lookup key = none ↔ key ∉ entries.map (·.1) := by
  rw [List.lookup_eq_none_iff, List.mem_map, not_exists]
  refine forall_congr' fun e => ?_
  rw [not_and, bne_iff_ne, ne_comm]

theorem lookup_eq_some_iff_mem {α : Type} {key : String} {value : α} :
    ∀ {entries : List (String × α)}, (entries.map (·.1)).Nodup →
      (entries.lookup key = some value ↔ (key, value) ∈ entries)
  | [], _ => by simp
  | (k, v) :: rest, h => by
      rw [List.map_cons, List.nodup_cons] at h
      rw [lookup_cons_eq_ite, List.mem_cons, Prod.mk.injEq]
      split
      · next hkey =>
          subst hkey
          have hrest : (key, value) ∉ rest :=
            fun hmem => h.1 (List.mem_map.2 ⟨_, hmem, rfl⟩)
          simp [hrest, eq_comm]
      · next hkey => rw [lookup_eq_some_iff_mem h.2, or_iff_right fun heq => hkey heq.1]

/-- Maps that hold the same under every key are the same. -/
theorem SortedMap.ext_get? {α : Type} {m n : SortedMap α} (h : ∀ key, m.get? key = n.get? key) :
    m = n := by
  have hmem : ∀ e : String × α, e ∈ m.entries ↔ e ∈ n.entries := by
    rintro ⟨key, value⟩
    rw [← lookup_eq_some_iff_mem m.sorted.nodup, ← lookup_eq_some_iff_mem n.sorted.nodup]
    exact iff_of_eq (congrArg (· = some value) (h key))
  have hperm : m.entries.Perm n.entries :=
    (List.perm_ext_iff_of_nodup m.sorted.nodup.of_map n.sorted.nodup.of_map).2 hmem
  apply SortedMap.ext
  apply hperm.eq_of_pairwise _ m.sorted n.sorted
  intro a b _ _ hab hba
  exact absurd hba (String.lt_asymm hab)

end Portfolio
