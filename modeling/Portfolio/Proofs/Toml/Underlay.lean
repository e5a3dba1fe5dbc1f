/-
Module: Portfolio.Proofs.Toml.Underlay
Purpose: Documents whose members all have a default, as TOML tables. Laying a table over the
  default before it is read, and leaving the rest to the defaults while it is read, come to the
  same.
Main exports: Document.Codec.Underlies, Document.Codec.underlies_of_leaf,
  Document.Shape.Lenient.underlies, Document.Shape.Lenient.roundTrips
-/
import Portfolio.Proofs.Document.Defaults
import Portfolio.Proofs.Toml.Layering

namespace Portfolio.Document

open Codec (bind_eq_ok_iff map_eq_ok_iff)
open Toml (Ordered layerOver untouched overlaid)

variable {α β : Type}

/-! ### Single values -/

/-- What is written of `x` reads as `x`, and makes no difference under other trees: they read
as they do alone. -/
structure Codec.Underlies (c : Codec Toml α) (x : α) : Prop where
  restores : c.read (c.write x) = .ok x
  layers : ∀ t, Ordered t → ∀ y, c.read ((c.write x).layer t) = .ok y ↔ c.read t = .ok y

/-- What is written as no table is covered by every other tree. -/
theorem Codec.underlies_of_leaf {c : Codec Toml α} {x : α} (hread : c.read (c.write x) = .ok x)
    (hleaf : ∀ entries, c.write x ≠ .table entries) : c.Underlies x where
  restores := hread
  layers t _ y := by rw [Toml.layer_eq_overlay hleaf]

@[simp] theorem Codec.text_ordered (s : String) :
    Ordered ((Codec.text : Codec Toml String).write s) := .text s

@[simp] theorem Codec.bool_ordered (b : Bool) :
    Ordered ((Codec.bool : Codec Toml Bool).write b) := .boolean b

@[simp] theorem Codec.text_roundTrips : (Codec.text : Codec Toml String).RoundTrips :=
  fun _ => rfl

@[simp] theorem Codec.bool_roundTrips : (Codec.bool : Codec Toml Bool).RoundTrips :=
  fun _ => rfl

@[simp] theorem Codec.text_underlies (s : String) : (Codec.text : Codec Toml String).Underlies s :=
  underlies_of_leaf rfl fun entries h => by cases h

@[simp] theorem Codec.bool_underlies (b : Bool) : (Codec.bool : Codec Toml Bool).Underlies b :=
  underlies_of_leaf rfl fun entries h => by cases h

/-! ### Members -/

/-- The same for a member: it is written of `x`, which makes no difference to `x`, nor under
what another document has for the member. -/
def Member.Underlies (m : Member Toml α) (x : α) : Prop :=
  ∃ tree, m.write x = some tree ∧ m.read tree x = .ok x ∧
    ∀ t, Ordered t → ∀ y z, m.read (tree.layer t) y = .ok z ↔ m.read t y = .ok z

@[simp] theorem Member.defaulted_underlies {name : String} {codec : Codec Toml β} {get : α → β}
    {set : β → α → α} {x : α} (h : codec.Underlies (get x)) (hset : set (get x) x = x) :
    (defaulted name codec get set).Underlies x := by
  refine ⟨codec.write (get x), rfl, ?_, fun t ht y z => ?_⟩
  · rw [read_defaulted, assign, h.restores, Except.map, hset]
  · rw [read_defaulted, assign, assign, map_eq_ok_iff, map_eq_ok_iff]
    simp only [h.layers t ht]

@[simp] theorem Member.write_defaulted {name : String} {codec : Codec Toml β} {get : α → β}
    {set : β → α → α} (x : α) :
    (defaulted name codec get set).write x = some (codec.write (get x)) := rfl

namespace Shape

/-! ### Tables -/

/-- A document is written as a table in order if its members are. -/
theorem ordered_write {shape : Shape Toml α} {x : α}
    (h : ∀ m ∈ shape.members, ∀ tree, m.write x = some tree → Ordered tree) :
    Ordered (shape.codec.write x) := by
  apply Toml.ordered_sortEntries
  intro e he
  obtain ⟨m, hm, -, hwrite⟩ := exists_member_of_mem_entries he
  exact h m hm e.2 hwrite

/-- The entries of a document, as they stand in a table. -/
def table (shape : Shape Toml α) (x : α) : List (String × Toml) := sortEntries (shape.entries x)

theorem keysSorted_table (shape : Shape Toml α) (x : α) : KeysSorted (shape.table x) :=
  keysSorted_sortEntries _

theorem Sound.table_perm {shape : Shape Toml α} (h : shape.Sound) (x : α) :
    (shape.table x).Perm (shape.entries x) :=
  sortEntries_perm (h.nodup_keys x)

/-- A document of a table is read back. -/
theorem Lenient.roundTrips {shape : Shape Toml α} (h : shape.Lenient)
    (hcopy : ∀ x, Member.copyAll x shape.members shape.blank = .ok x) :
    shape.codec.RoundTrips := by
  intro x
  have hentries := h.readEntries_entries (hcopy x)
  exact (h.readEntries_eq_ok_iff_of_perm (h.table_perm x).symm (h.nodup_keys x)).1 hentries

section Default

variable {shape : Shape Toml α} (h : shape.Lenient)
  (hmembers : ∀ m ∈ shape.members, m.Underlies shape.blank)

include h hmembers

/-- Entries of the default make no difference to the default. -/
theorem Lenient.foldlM_default {entries : List (String × Toml)}
    (hdefault : ∀ e ∈ entries, e ∈ shape.entries shape.blank) :
    entries.foldlM shape.applyEntry shape.blank = .ok shape.blank := by
  induction entries with
  | nil => rfl
  | cons e entries ih =>
      rw [List.forall_mem_cons] at hdefault
      obtain ⟨m, hm, hname, hwrite⟩ := exists_member_of_mem_entries hdefault.1
      obtain ⟨tree, hwrite', hread, -⟩ := hmembers m hm
      have htree : e.2 = tree := Option.some.inj (hwrite.symm.trans hwrite')
      have hstep : shape.applyEntry shape.blank e = .ok shape.blank := by
        rw [applyEntry, ← hname, h.find?_name hm, htree]
        exact hread
      rw [List.foldlM_cons, hstep]
      exact ih hdefault.2

/-- An entry reads the same over the default. -/
theorem Lenient.applyEntry_layerOver {e : String × Toml} (he : Ordered e.2) {x y : α} :
    shape.applyEntry x (e.1, layerOver (shape.table shape.blank) e) = .ok y ↔
      shape.applyEntry x e = .ok y := by
  rw [applyEntry, applyEntry]
  cases hfind : shape.members.find? (·.answersTo e.1) with
  | none => rfl
  | some m =>
      have hm : m ∈ shape.members := List.mem_of_find?_eq_some hfind
      obtain ⟨tree, hwrite, -, hlayer⟩ := hmembers m hm
      have hentry : (e.1, tree) ∈ shape.table shape.blank := by
        rw [(h.table_perm _).mem_iff]
        exact List.mem_filterMap.2 ⟨m, hm, by rw [hwrite, Option.map_some, h.proper e.1 m hfind]⟩
      have hlookup := (lookup_eq_some_iff_mem (shape.keysSorted_table _).nodup).2 hentry
      rw [layerOver, hlookup]
      exact hlayer e.2 he x y

theorem Lenient.foldlM_overlaid {entries : List (String × Toml)}
    (hentries : ∀ e ∈ entries, Ordered e.2) {x z : α} :
    (overlaid (shape.table shape.blank) entries).foldlM shape.applyEntry x = .ok z ↔
      entries.foldlM shape.applyEntry x = .ok z := by
  induction entries generalizing x with
  | nil => rfl
  | cons e entries ih =>
      rw [List.forall_mem_cons] at hentries
      rw [overlaid, List.map_cons, List.foldlM_cons, List.foldlM_cons, bind_eq_ok_iff,
        bind_eq_ok_iff]
      refine exists_congr fun y => and_congr ?_ (ih hentries.2)
      exact h.applyEntry_layerOver hmembers hentries.1

/-- A table reads the same over the entries of the default. -/
theorem Lenient.readEntries_layerEntries {entries : List (String × Toml)}
    (hkeys : KeysSorted entries) (hentries : ∀ e ∈ entries, Ordered e.2) {z : α} :
    shape.readEntries (Toml.layerEntries (shape.table shape.blank) entries) = .ok z ↔
      shape.readEntries entries = .ok z := by
  have hunder := shape.keysSorted_table shape.blank
  have hdefault : ∀ e ∈ untouched (shape.table shape.blank) entries,
      e ∈ shape.entries shape.blank :=
    fun e he => (h.table_perm _).mem_iff.1 (Toml.mem_untouched.1 he).1
  have hallows : (∀ e ∈ overlaid (shape.table shape.blank) entries, shape.Allows e.1) ↔
      ∀ e ∈ entries, shape.Allows e.1 := List.forall_mem_map
  rw [h.readEntries_eq_ok_iff_of_perm (Toml.layerEntries_perm hunder hkeys)
      (Toml.keysSorted_layerEntries hunder entries).nodup,
    h.readEntries_eq_ok_iff (Toml.nodup_keys_append hunder.nodup hkeys.nodup),
    h.readEntries_eq_ok_iff hkeys.nodup, List.foldlM_append,
    h.foldlM_default hmembers hdefault, List.forall_mem_append, hallows]
  refine and_congr ?_ ?_
  · exact and_iff_right fun e he => h.allows_entries shape.blank e (hdefault e he)
  · exact h.foldlM_overlaid hmembers hentries

/-- The default of a document makes no difference under another one. -/
theorem Lenient.underlies (hround : shape.codec.RoundTrips) :
    shape.codec.Underlies shape.blank where
  restores := hround shape.blank
  layers t ht y := by
    cases t with
    | table entries =>
        obtain ⟨hkeys, hentries⟩ := Toml.ordered_table_iff.1 ht
        exact h.readEntries_layerEntries hmembers hkeys hentries
    | text _ | integer _ | float _ | boolean _ | moment _ | array _ => rw [Toml.layer]

end Default

end Shape

end Portfolio.Document
