/-
Module: Portfolio.Proofs.Toml.Layering
Purpose: What lies under each key when one table is laid over another, and which trees are
  tables at all: their keys are in order, at every depth.
Main exports: Toml.Ordered, Toml.ordered_of_ofValue?, Toml.layer_eq_overlay,
  Toml.lookup_layerEntries, Toml.layerEntries_perm
-/
import Portfolio.Proofs.SortedMap
import Portfolio.Toml.Basic

namespace Portfolio.Toml

/-! ### Tables in order -/

/-- The keys of every table strictly increase, so none stands twice. -/
inductive Ordered : Toml → Prop where
  | text (s : String) : Ordered (.text s)
  | integer (n : Int) : Ordered (.integer n)
  | float (x : Double) : Ordered (.float x)
  | boolean (b : Bool) : Ordered (.boolean b)
  | moment (s : String) : Ordered (.moment s)
  | array {items : List Toml} : (∀ t ∈ items, Ordered t) → Ordered (.array items)
  | table {entries : List (String × Toml)} : KeysSorted entries →
      (∀ e ∈ entries, Ordered e.2) → Ordered (.table entries)

attribute [simp] Ordered.text Ordered.integer Ordered.float Ordered.boolean Ordered.moment

@[simp] theorem ordered_array_iff {items : List Toml} :
    Ordered (.array items) ↔ ∀ t ∈ items, Ordered t :=
  ⟨fun | .array hitems => hitems, .array⟩

@[simp] theorem ordered_table_iff {entries : List (String × Toml)} :
    Ordered (.table entries) ↔ KeysSorted entries ∧ ∀ e ∈ entries, Ordered e.2 :=
  ⟨fun | .table hkeys hentries => ⟨hkeys, hentries⟩, fun h => .table h.1 h.2⟩

theorem ordered_sortEntries {entries : List (String × Toml)} (h : ∀ e ∈ entries, Ordered e.2) :
    Ordered (.table (sortEntries entries)) :=
  .table (keysSorted_sortEntries entries) fun e he => h e (mem_of_mem_sortEntries he)

mutual

/-- A value of another format is a tree in order. -/
theorem ordered_of_ofValue? : ∀ {v : Value} {t : Toml}, ofValue? v = some t → Ordered t
  | .null, _, h => by cases h
  | .bool _, _, h => by
      cases h
      exact .boolean _
  | .number (.int n), _, h => by
      rw [ofValue?] at h
      split at h
      · cases h
        exact .integer n
      · cases h
  | .number (.double _), _, h => by
      cases h
      exact .float _
  | .text _, _, h => by
      cases h
      exact .text _
  | .list items, _, h => by
      rw [ofValue?, Option.map_eq_some_iff] at h
      obtain ⟨ts, hts, rfl⟩ := h
      exact .array (ordered_of_ofItems? hts)
  | .map entries, _, h => by
      rw [ofValue?, Option.map_eq_some_iff] at h
      obtain ⟨es, hes, rfl⟩ := h
      exact ordered_sortEntries (ordered_of_ofEntries? hes)

theorem ordered_of_ofItems? : ∀ {vs : List Value} {ts : List Toml},
    ofItems? vs = some ts → ∀ t ∈ ts, Ordered t
  | [], _, h => by
      cases h
      exact List.forall_mem_nil _
  | v :: vs, _, h => by
      simp only [ofItems?, Option.bind_eq_bind, Option.bind_eq_some_iff, Option.pure_def] at h
      obtain ⟨t, ht, ts, hts, heq⟩ := h
      cases heq
      exact List.forall_mem_cons.2 ⟨ordered_of_ofValue? ht, ordered_of_ofItems? hts⟩

theorem ordered_of_ofEntries? : ∀ {vs : List (String × Value)} {ts : List (String × Toml)},
    ofEntries? vs = some ts → ∀ e ∈ ts, Ordered e.2
  | [], _, h => by
      cases h
      exact List.forall_mem_nil _
  | (key, v) :: vs, _, h => by
      simp only [ofEntries?, Option.bind_eq_bind, Option.bind_eq_some_iff, Option.pure_def] at h
      obtain ⟨t, ht, ts, hts, heq⟩ := h
      cases heq
      exact List.forall_mem_cons.2 ⟨ordered_of_ofValue? ht, ordered_of_ofEntries? hts⟩

end

/-! ### One table over another -/

/-- What is no table is replaced. -/
theorem layer_eq_overlay {base : Toml} (h : ∀ entries, base ≠ .table entries) (t : Toml) :
    base.layer t = t := by
  cases t with
  | table entries =>
      rw [layer]
      exact fun under heq => h under heq
  | text _ | integer _ | float _ | boolean _ | moment _ | array _ => rw [layer]

/-- A value over what lies under its key, if anything does. -/
def layerOver (under : List (String × Toml)) (e : String × Toml) : Toml :=
  (under.lookup e.1).elim e.2 fun base => base.layer e.2

theorem layerEntries_cons (under : List (String × Toml)) (e : String × Toml)
    (entries : List (String × Toml)) : layerEntries under (e :: entries) =
      layerEntries (insertSorted e.1 (layerOver under e) under) entries := by
  rw [layerEntries, layerOver]
  cases under.lookup e.1 with
  | none => rfl
  | some base => rfl

theorem keysSorted_layerEntries {under : List (String × Toml)} (h : KeysSorted under)
    (entries : List (String × Toml)) : KeysSorted (layerEntries under entries) := by
  induction entries generalizing under with
  | nil => exact h
  | cons e entries ih =>
      rw [layerEntries_cons]
      exact ih h.insertSorted

/-- The upper table decides, and where it has no key the lower one does. -/
theorem lookup_layerEntries {under entries : List (String × Toml)}
    (h : (entries.map (·.1)).Nodup) (key : String) :
    (layerEntries under entries).lookup key =
      ((entries.lookup key).map fun v => layerOver under (key, v)).or (under.lookup key) := by
  induction entries generalizing under with
  | nil => rfl
  | cons e entries ih =>
      obtain ⟨k, v⟩ := e
      rw [List.map_cons, List.nodup_cons] at h
      rw [layerEntries_cons, ih h.2, lookup_cons_eq_ite, lookup_insertSorted]
      by_cases hkey : key = k
      · subst hkey
        rw [lookup_eq_none_iff_keys.2 h.1, if_pos rfl, if_pos rfl]
        rfl
      · -- What lies under the other keys has not changed.
        rw [if_neg hkey, if_neg hkey]
        simp only [layerOver, lookup_insertSorted, if_neg hkey]

/-- The entries of the lower table whose keys the upper one does not have. -/
def untouched (under entries : List (String × Toml)) : List (String × Toml) :=
  under.filter fun e => e.1 ∉ entries.map (·.1)

theorem mem_untouched {under entries : List (String × Toml)} {e : String × Toml} :
    e ∈ untouched under entries ↔ e ∈ under ∧ e.1 ∉ entries.map (·.1) := by
  rw [untouched, List.mem_filter, decide_eq_true_iff]

/-- The entries of the upper table over those of the lower one. -/
def overlaid (under entries : List (String × Toml)) : List (String × Toml) :=
  entries.map fun e => (e.1, layerOver under e)

theorem keys_overlaid (under entries : List (String × Toml)) :
    (overlaid under entries).map (·.1) = entries.map (·.1) := by
  rw [overlaid, List.map_map]
  rfl

/-- The keys of both parts are distinct. -/
theorem nodup_keys_append {under entries : List (String × Toml)}
    (hunder : (under.map (·.1)).Nodup) (hentries : (entries.map (·.1)).Nodup) :
    ((untouched under entries ++ overlaid under entries).map (·.1)).Nodup := by
  rw [List.map_append, keys_overlaid]
  refine List.Nodup.append ?_ hentries ?_
  · exact hunder.sublist (List.filter_sublist.map _)
  · intro key hkey
    obtain ⟨e, he, rfl⟩ := List.mem_map.1 hkey
    exact (mem_untouched.1 he).2

/-- The layered table holds the entries that only the lower table has, and those of the upper
table over what they cover. -/
theorem layerEntries_perm {under entries : List (String × Toml)} (hunder : KeysSorted under)
    (hentries : KeysSorted entries) :
    (layerEntries under entries).Perm (untouched under entries ++ overlaid under entries) := by
  have hlayered := (keysSorted_layerEntries hunder entries).nodup
  have hboth := nodup_keys_append hunder.nodup hentries.nodup
  rw [List.perm_ext_iff_of_nodup hlayered.of_map hboth.of_map]
  rintro ⟨key, v⟩
  rw [← lookup_eq_some_iff_mem hlayered, lookup_layerEntries hentries.nodup, List.mem_append,
    mem_untouched, ← lookup_eq_some_iff_mem hunder.nodup]
  cases hlookup : entries.lookup key with
  | none =>
      have hkey : key ∉ entries.map (·.1) := lookup_eq_none_iff_keys.1 hlookup
      have hover : (key, v) ∉ overlaid under entries := fun hmem =>
        hkey (keys_overlaid under entries ▸ List.mem_map_of_mem hmem)
      simp [hkey, hover]
  | some w =>
      have hmem : (key, w) ∈ entries := (lookup_eq_some_iff_mem hentries.nodup).1 hlookup
      have hkey : key ∈ entries.map (·.1) := List.mem_map_of_mem hmem
      have hover : (key, layerOver under (key, w)) ∈ overlaid under entries :=
        List.mem_map.2 ⟨(key, w), hmem, rfl⟩
      have hnodup : ((overlaid under entries).map (·.1)).Nodup := by
        rw [keys_overlaid]
        exact hentries.nodup
      rw [← lookup_eq_some_iff_mem hnodup, (lookup_eq_some_iff_mem hnodup).2 hover]
      simp [hkey]

end Portfolio.Toml
